import Feel.Proofs.DurationTexts
import Feel.Proofs.HeldNumbers
import Feel.Proofs.Sessions

/-!
# Bounds of the values that sessions reach

Every value that a session reaches keeps the bounds of its kind, whichever functions were called and
however deep it stands. Functions that do not round to the working precision take numbers that keep the
bounds, or count what fits in memory.
-/

namespace Feel.Proofs

/-! ### Durations and their components -/

lemma isWord_of_natAbs_le {k : ℤ} (h : k.natAbs ≤ Word.max64) : IsWord k := by
  unfold IsWord
  omega

lemma natAbs_tmod_le (n k : ℤ) : (n.tmod k).natAbs ≤ n.natAbs := by
  rw [Int.natAbs_tmod]
  exact Nat.mod_le _ _

lemma natAbs_wholeSeconds_le {n : ℤ} (h : n.natAbs ≤ Duration.maxNanos) :
    (n.tdiv nanosPerSecond).natAbs ≤ Word.max64 := by
  rw [Int.natAbs_tdiv, Int.natAbs_natCast]
  apply Nat.div_le_of_le_mul
  exact h.trans (by decide)

/-- The components of a duration are not larger than its months or its whole seconds. -/
lemma isWord_of_component {d : Duration} {k : ℤ} (h : d.InRange)
    (hk : some k ∈ [d.yearPart?, d.monthPart?, d.dayPart?, d.hourPart?, d.minutePart?]) : IsWord k := by
  apply isWord_of_natAbs_le
  cases d with
  | months n =>
    have hn : n.natAbs ≤ Word.max64 := h
    simp only [Duration.yearPart?, Duration.monthPart?, Duration.dayPart?, Duration.hourPart?,
      Duration.minutePart?, Duration.wholeSeconds?, Option.map_none, List.mem_cons, reduceCtorEq,
      Option.some.injEq, List.not_mem_nil, or_false] at hk
    obtain rfl | rfl := hk
    · exact (Int.natAbs_tdiv_le_natAbs _ _).trans hn
    · exact (natAbs_tmod_le _ _).trans hn
  | nanos n =>
    have hseconds := natAbs_wholeSeconds_le h
    simp only [Duration.yearPart?, Duration.monthPart?, Duration.dayPart?, Duration.hourPart?,
      Duration.minutePart?, Duration.wholeSeconds?, Option.map_some, List.mem_cons, reduceCtorEq,
      Option.some.injEq, List.not_mem_nil, or_false, false_or] at hk
    obtain rfl | rfl | rfl := hk
    · exact (Int.natAbs_tdiv_le_natAbs _ _).trans hseconds
    · exact ((natAbs_tmod_le _ _).trans (Int.natAbs_tdiv_le_natAbs _ _)).trans hseconds
    · exact ((natAbs_tmod_le _ _).trans (Int.natAbs_tdiv_le_natAbs _ _)).trans hseconds

/-! ### Numbers -/

lemma natAbs_le_of_isWord {k : ℤ} (h : IsWord k) : k.natAbs ≤ 10 ^ 64 := by
  have hle : k.natAbs ≤ Word.max64 + 1 := by
    unfold IsWord at h
    omega
  exact hle.trans (by decide)

lemma isHeld_ofInt {k : ℤ} (h : k.natAbs ≤ 10 ^ 64) : IsHeld (.ofInt k) := isHeld_of_whole (value_ofInt k) h

lemma isHeld_normalize {n : Decimal} : IsHeld n.normalize ↔ IsHeld n := isHeld_congr (value_normalize n)

lemma isHeld_secondPart {d : Duration} {n : Decimal} (h : d.secondPart? = some n) : IsHeld n := by
  cases d with
  | months k => exact absurd h (by simp [Duration.secondPart?])
  | nanos k =>
    obtain rfl := Option.some.inj h
    refine isHeld_of_digits (value_normalize _) ?_ (by decide)
    have hlt : (k.tmod (60 * nanosPerSecond)).natAbs < 60 * nanosPerSecond := by
      rw [Int.natAbs_tmod]
      exact Nat.mod_lt _ (by decide)
    exact hlt.le.trans (by decide)

/-- A number that is made anew is held, if the numbers and durations among the arguments keep their
bounds and no argument is longer than memory. -/
lemma FreshNumber.isHeld {args : List Value} {n : Decimal} (h : FreshNumber args n)
    (hnumbers : ∀ m, .number m ∈ args → IsHeld m) (hdurations : ∀ d, .duration d ∈ args → d.InRange)
    (hextent : ∀ a ∈ args, extent a < Word.count64) : IsHeld n := by
  cases h with
  | working h => exact isHeld_normalize.mpr (isHeld_of_toWorking? h)
  | floor h => exact isHeld_normalize.mpr (hnumbers _ h).floor
  | ceiling h => exact isHeld_normalize.mpr (hnumbers _ h).ceiling
  | abs h => exact isHeld_normalize.mpr (hnumbers _ h).abs
  | position ha hk =>
    have hlt := hk.trans_lt (hextent _ ha)
    exact isHeld_normalize.mpr (isHeld_ofInt (hlt.le.trans (by decide)))
  | word h => exact isHeld_ofInt (natAbs_le_of_isWord h)
  | component hd hk => exact isHeld_ofInt (natAbs_le_of_isWord (isWord_of_component (hdurations _ hd) hk))
  | seconds hd hn => exact isHeld_normalize.mpr (isHeld_secondPart hn)

/-! ### All values -/

/-- The bounds of a value's kind, in numbers: 64 significant digits and a decimal exponent of at most
6144, `2 ^ 63 - 1` months or milliseconds, nanoseconds within a second, offsets below a day, and names
that are bound once. -/
def WithinBounds : Value → Prop
  | .number n => IsHeld n
  | .duration (.months n) => |n| ≤ 2 ^ 63 - 1
  | .duration (.nanos n) => |n| ≤ (2 ^ 63 - 1) * 10 ^ 6
  | .time t => t.clock.nano < 10 ^ 9 ∧ |t.offset.seconds| < 24 * 60 * 60
  | .dateTime t => t.utc.clock.nano < 10 ^ 9 ∧ (∀ shown, t.shown = .ok shown → shown.clock.nano < 10 ^ 9) ∧
    |t.offset.seconds| < 24 * 60 * 60
  | .context entries => (Entries.keys entries).Nodup
  | .null | .boolean _ | .string _ | .date _ | .list _ | .function _ => True

lemma withinBounds_duration {d : Duration} : WithinBounds (.duration d) ↔ d.InRange := by
  cases d with
  | months n =>
    have hbound : |n| ≤ 2 ^ 63 - 1 ↔ n.natAbs ≤ Word.max64 := by
      rw [Int.abs_eq_natAbs]
      unfold Word.max64
      omega
    exact hbound
  | nanos n =>
    have hbound : |n| ≤ (2 ^ 63 - 1) * 10 ^ 6 ↔ n.natAbs ≤ Word.max64 * 1000000 := by
      rw [Int.abs_eq_natAbs]
      unfold Word.max64
      omega
    exact hbound

lemma nano_lt (c : Clock) : c.nano < 10 ^ 9 := Nat.mod_lt _ (by decide)

lemma abs_offset_lt (o : Offset) : |o.seconds| < 24 * 60 * 60 := by
  have hbounded : o.seconds.natAbs < 86400 := o.bounded
  rw [Int.abs_eq_natAbs]
  omega

lemma withinBounds_of_isGroup {v : Value} (h : IsGroup v) : WithinBounds v := by
  cases v with
  | list items => trivial
  | context entries => exact h
  | _ => exact h.elim

/-- One call keeps the bounds. -/
lemma Fresh.withinBounds [Zones] {args : List Value} {v : Value} (h : Fresh args v)
    (hextent : ∀ a ∈ args, extent a < Word.count64)
    (hargs : ∀ a ∈ args, ∀ p, IsPart p a → WithinBounds p) : WithinBounds v := by
  cases v with
  | number n =>
    cases h with
    | number h =>
      have hdurations : ∀ d, .duration d ∈ args → d.InRange := fun d hd =>
        withinBounds_duration.mp (hargs _ hd _ .self)
      exact h.isHeld (fun m hm => hargs _ hm _ .self) hdurations hextent
  | duration d => exact withinBounds_duration.mpr h.inRange
  | time t => exact ⟨nano_lt _, abs_offset_lt _⟩
  | dateTime t => exact ⟨nano_lt _, fun _ _ => nano_lt _, abs_offset_lt _⟩
  | context entries => exact nomatch h
  | _ => trivial

/-- Every value that a session reaches keeps its bounds, at any depth. That texts and lists are shorter
than a machine's memory is all that has to be known of the arguments. -/
theorem Session.forall_withinBounds [Zones] {past : List Exchange} {library : Library}
    (h : Session past library) (hextent : ∀ e ∈ past, ∀ a ∈ e.args, extent a < Word.count64) :
    ∀ v, Reached past v → WithinBounds v := by
  apply h.forall_reached (fun v => withinBounds_of_isGroup) _ hextent
  exact fun args v hextent hargs hfresh => hfresh.withinBounds hextent hargs

/-- The longest duration toward the past. -/
def mostMonthsBack : Duration := .months (-9223372036854775807)

theorem Session.forall_withinBounds_mostMonthsBack :
    let past : List Exchange :=
      [⟨"duration", [.string (String.ofList mostMonthsBack.text)], .duration mostMonthsBack⟩]
    Session past (.ofSink .memory) ∧ (∀ e ∈ past, ∀ a ∈ e.args, extent a < Word.count64) ∧
      Reached past (.duration mostMonthsBack) ∧ WithinBounds (.duration mostMonthsBack) := by
  intro past
  have hsession : Session past (.ofSink .memory) := by
    have hread := duration_string_text (d := mostMonthsBack) (by decide)
    have hdocument := isDocument_string (String.ofList mostMonthsBack.text)
    exact (Session.start .memory).run (f := .duration)
      (List.forall_mem_singleton.mpr (Or.inl hdocument)) rfl hread
  have hextent : ∀ e ∈ past, ∀ a ∈ e.args, extent a < Word.count64 := by
    rintro e he a ha
    obtain rfl := List.mem_singleton.mp he
    obtain rfl := List.mem_singleton.mp ha
    decide +kernel
  have hreached : Reached past (.duration mostMonthsBack) := reached_answer .self
  exact ⟨hsession, hextent, hreached, hsession.forall_withinBounds hextent _ hreached⟩

end Feel.Proofs
