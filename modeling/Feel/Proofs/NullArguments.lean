import Feel.Proofs.FaultOrigins
import Feel.Proofs.Positions
import Feel.Proofs.Provenance.Functions

/-!
# Arguments replaced by null

Null stands for what is unknown, and a call that succeeds goes on to succeed when its arguments become
null: most functions then answer null, and most of the others take an unknown list as an empty one. The
calls with null that fail are listed in `NullFault`. There is a lemma about each function that looks at
null in its own way, and `tolerates_of_not_isAggregate` about all functions but the aggregates, which
take null as an item.
-/

namespace Feel.Proofs
open Operation

/-! ### Computations that succeed -/

def Succeeds {ε α : Type} (x : Except ε α) : Prop := ∃ a, x = .ok a

section Succeeds

variable {ε α β : Type}

@[simp] lemma succeeds_ok (a : α) : Succeeds (.ok a : Except ε α) := ⟨a, rfl⟩

@[simp] lemma succeeds_pure (a : α) : Succeeds (pure a : Except ε α) := ⟨a, rfl⟩

@[simp] lemma not_succeeds_error (e : ε) : ¬Succeeds (.error e : Except ε α) := by simp [Succeeds]

@[simp] lemma succeeds_bind {x : Except ε β} {f : β → Except ε α} :
    Succeeds (x >>= f) ↔ ∃ b, x = .ok b ∧ Succeeds (f b) := by
  cases x <;> simp [bind, Except.bind]

@[simp] lemma succeeds_functorMap {x : Except ε β} {f : β → α} :
    Succeeds (f <$> x) ↔ Succeeds x := by
  cases x <;> simp [Functor.map, Except.map]

@[simp] lemma succeeds_ite {c : Prop} [Decidable c] {x y : Except ε α} :
    Succeeds (if c then x else y) ↔ (c → Succeeds x) ∧ (¬c → Succeeds y) := by
  split_ifs with h <;> simp [h]

end Succeeds

/-! ### Null in place of arguments -/

def NullsTo (a a' : Value) : Prop := a = a' ∨ a' = .null

/-- Any of the arguments, or none, are replaced by null. -/
def Nulled (args nulled : List Value) : Prop := List.Forall₂ NullsTo args nulled

lemma isNull_iff {v : Value} : v.isNull = true ↔ v = .null := by cases v <;> simp [Value.isNull]

lemma anyNull_iff {args : List Value} : anyNull args = true ↔ Value.null ∈ args := by
  simp [anyNull, isNull_iff]

lemma Nulled.eq_or_anyNull {args nulled : List Value} (h : Nulled args nulled) :
    nulled = args ∨ anyNull nulled = true := by
  rw [anyNull_iff]
  induction h with
  | nil => exact .inl rfl
  | cons ha _ ih =>
    obtain rfl | rfl := ha
    · obtain rfl | ih := ih
      · exact .inl rfl
      · exact .inr (List.mem_cons_of_mem _ ih)
    · exact .inr List.mem_cons_self

/-- The aggregates, which take null for an item like any other. -/
def IsAggregate (f : Builtin) : Prop := f ∈ [Builtin.min, .max, .sum, .mean, .product]

instance (f : Builtin) : Decidable (IsAggregate f) :=
  inferInstanceAs (Decidable (f ∈ [Builtin.min, .max, .sum, .mean, .product]))

/-- How calls with null fail. An unknown list has no item to remove, null is neither a function to sort by
nor a truth value to open or close a range with, and a pattern is read without flags if they are null. -/
inductive NullFault : Builtin → List Value → Fault → Prop
  | remove {n : Decimal} {position : ℤ} (h : n.word = .ok position) :
      NullFault .remove [.null, .number n] (.indexOutOfBounds position 0)
  | sort (items : List Value) : NullFault .sort [.list items, .null] (.wrongKind (.kind .function) .null)
  | openStart (start openEnd stop : Value) :
      NullFault .rangeToList [.null, start, openEnd, stop] (.wrongKind (.kind .boolean) .null)
  | openEnd (openStart : Bool) (start stop : Value) :
      NullFault .rangeToList [.boolean openStart, start, .null, stop] (.wrongKind (.kind .boolean) .null)
  | matching (text : String) {pattern : String} {why : Pattern.Fault}
      (h : Pattern.compile pattern "" = .error why) :
      NullFault .matching [.string text, .string pattern, .null] (.badPattern why)
  | replace {text pattern replacement : String} {why : Pattern.Fault}
      (h : Pattern.substitute text pattern replacement "" = .error why) :
      NullFault .replace [.string text, .string pattern, .string replacement, .null] (.badPattern why)

lemma matching_string (text pattern : String) {v : Value} {flags : String} (h : flagsOf v = .ok flags) :
    matching (.string text) (.string pattern) v =
      ((Pattern.compile pattern flags).mapError .badPattern).map fun compiled =>
        .boolean (compiled.1.occursIn text.toList) := by
  show (do let flags ← flagsOf v; _) = _
  rw [h]
  rfl

lemma replacing_string (text pattern replacement : String) {v : Value} {flags : String}
    (h : flagsOf v = .ok flags) :
    replacing (.string text) (.string pattern) (.string replacement) v =
      ((Pattern.substitute text pattern replacement flags).mapError .badPattern).map .string := by
  show (do let flags ← flagsOf v; _) = _
  rw [h]
  rfl

lemma remove_null {n : Decimal} {position : ℤ} (h : n.word = .ok position) :
    remove [.null, .number n] = .error (.indexOutOfBounds position 0) := by
  have houtside : ¬(1 ≤ position ∧ position ≤ ([] : List Value).length) := by simp; omega
  rw [remove_eq rfl h, if_neg houtside]
  rfl

/-- The calls that are listed fail, and not for the count of their arguments. -/
lemma run_of_nullFault [Zones] {f : Builtin} {args : List Value} {fault : Fault} (h : NullFault f args fault) :
    f.arity.accepts args.length = true ∧ f.run args = .error fault := by
  refine ⟨by cases h <;> rfl, ?_⟩
  cases h with
  | remove h => exact remove_null h
  | sort items => rfl
  | openStart start openEnd stop => rfl
  | openEnd openStart start stop => rfl
  | matching text h =>
    rw [Builtin.run, isMatch, matching_string text _ rfl, h]
    rfl
  | replace h =>
    rw [Builtin.run, Operation.replace, replacing_string _ _ _ rfl, h]
    rfl

lemma length_of_accepts {m n k : ℕ} (h : (Arity.oneOf [m, n]).accepts k = true) : k = m ∨ k = n := by
  simpa [Arity.accepts] using h

/-! ### Functions of which null makes null -/

/-- A function succeeds whenever some argument is null. -/
def Absorbs [Zones] (f : Builtin) : Prop :=
  ∀ args, f.arity.accepts args.length = true → anyNull args = true → Succeeds (f.run args)

section Absorbs

variable [Zones] {f : Builtin}

lemma absorbs_one {v : Value} (hf : f.arity = .exactly 1) (h : f.run [.null] = .ok v) : Absorbs f := by
  intro args hcount hnull
  rw [hf, Arity.accepts, beq_iff_eq] at hcount
  obtain ⟨a, rfl⟩ := List.length_eq_one_iff.mp hcount
  obtain rfl : Value.null = a := by simpa [anyNull_iff] using hnull
  exact ⟨v, h⟩

lemma absorbs_two (hf : f.arity = .exactly 2)
    (h : ∀ a b, anyNull [a, b] = true → f.run [a, b] = .ok .null) : Absorbs f := by
  intro args hcount hnull
  rw [hf, Arity.accepts, beq_iff_eq] at hcount
  obtain ⟨a, b, rfl⟩ := List.length_eq_two.mp hcount
  exact ⟨.null, h a b hnull⟩

lemma absorbs_date : Absorbs .date := by
  intro args _ hnull
  show Succeeds (Operation.date args)
  unfold Operation.date
  split <;> simp_all [anyNull, Value.isNull]

lemma absorbs_dateAndTime : Absorbs .dateAndTime := by
  intro args _ hnull
  show Succeeds (dateAndTime args)
  unfold dateAndTime
  split <;> simp_all [anyNull, Value.isNull]

lemma absorbs_time : Absorbs .time := by
  intro args _ hnull
  show Succeeds (Operation.time args)
  unfold Operation.time
  split <;> simp_all [anyNull, Value.isNull]

lemma absorbs_substring : Absorbs .substring := by
  intro args hcount hnull
  obtain hcount | hcount := length_of_accepts hcount
  · obtain ⟨v, start, rfl⟩ := List.length_eq_two.mp hcount
    exact ⟨.null, if_pos hnull⟩
  · obtain ⟨v, start, length, rfl⟩ := List.length_eq_three.mp hcount
    exact ⟨.null, if_pos hnull⟩

lemma absorbs_concatenate : Absorbs .concatenate :=
  fun _ _ hnull => ⟨.null, if_pos hnull⟩

lemma absorbs_union : Absorbs .union := fun _ _ hnull => ⟨.null, if_pos hnull⟩

end Absorbs

/-! ### Functions that look at null more closely -/

/-- A function that succeeds goes on to succeed, or fails as listed, when null takes the place of
arguments. -/
def Tolerates [Zones] (f : Builtin) : Prop :=
  ∀ args nulled, f.arity.accepts args.length = true → Nulled args nulled → Succeeds (f.run args) →
    Succeeds (f.run nulled) ∨ ∃ fault, NullFault f nulled fault

section Tolerates

variable {f : Builtin} {a b c d a' b' c' d' : Value}

lemma Absorbs.tolerates [Zones] (h : Absorbs f) : Tolerates f := by
  intro args nulled hcount hnulled hrun
  obtain rfl | hnull := hnulled.eq_or_anyNull
  · exact .inl hrun
  · rw [List.Forall₂.length_eq hnulled] at hcount
    exact .inl (h nulled hcount hnull)

lemma tolerates_of_total [Zones] (h : ∀ args, Succeeds (f.run args)) : Tolerates f :=
  fun _ nulled _ _ _ => .inl (h nulled)

lemma succeeds_conjunction (args : List Value) : Succeeds (conjunction args) := by
  unfold conjunction
  split <;> simp

lemma succeeds_disjunction (args : List Value) : Succeeds (disjunction args) := by
  unfold disjunction
  split <;> simp

lemma tolerates_two [Zones] (hf : f.arity = .exactly 2)
    (h : ∀ {a b a' b'}, NullsTo a a' → NullsTo b b' → Succeeds (f.run [a, b]) →
      Succeeds (f.run [a', b']) ∨ ∃ fault, NullFault f [a', b'] fault) : Tolerates f := by
  intro args nulled hcount hnulled hrun
  rw [hf, Arity.accepts, beq_iff_eq] at hcount
  obtain ⟨a, b, rfl⟩ := List.length_eq_two.mp hcount
  obtain _ | ⟨ha, _ | ⟨hb, ⟨⟩⟩⟩ := hnulled
  exact h ha hb hrun

lemma NullsTo.anyNull_or_eq (ha : NullsTo a a') (hb : NullsTo b b') :
    anyNull [a', b'] = true ∨ (a = a' ∧ b = b') := by
  have hnulled : Nulled [a, b] [a', b'] := .cons ha (.cons hb .nil)
  obtain heq | hnull := hnulled.eq_or_anyNull
  · obtain ⟨rfl, rfl⟩ : a' = a ∧ b' = b := by simpa using heq
    exact .inr ⟨rfl, rfl⟩
  · exact .inl hnull

lemma number_unknown {text : String} (h : anyNull [a, b] = true) :
    number [.string text, a, b] = .ok .null := by
  simp only [anyNull, List.any_cons, List.any_nil, Bool.or_false] at h
  have hunknown : (isBlankText text || a.isNull || b.isNull) = true := by
    rw [Bool.or_assoc, h, Bool.or_true]
  show (if (isBlankText text || a.isNull || b.isNull) = true then pure .null else _ :
    Except Fault Value) = _
  exact if_pos hunknown

lemma tolerates_number [Zones] : Tolerates .number := by
  intro args nulled hcount hnulled hrun
  left
  obtain hcount | hcount := length_of_accepts hcount
  · obtain ⟨source, rfl⟩ := List.length_eq_one_iff.mp hcount
    obtain _ | ⟨rfl | rfl, ⟨⟩⟩ := hnulled
    · exact hrun
    · exact ⟨.null, rfl⟩
  · obtain ⟨source, grouping, point, rfl⟩ := List.length_eq_three.mp hcount
    obtain _ | ⟨rfl | rfl, _ | ⟨hgrouping, _ | ⟨hpoint, ⟨⟩⟩⟩⟩ := hnulled
    · obtain hnull | ⟨rfl, rfl⟩ := hgrouping.anyNull_or_eq hpoint
      · cases source with
        | null => exact ⟨.null, rfl⟩
        | string text => exact ⟨.null, number_unknown hnull⟩
        | _ => exact absurd hrun (not_succeeds_error _)
      · exact hrun
    · exact ⟨.null, rfl⟩

/-! ### Lists -/

lemma tolerates_listContains [Zones] : Tolerates .listContains := by
  refine tolerates_two rfl fun {a b a' b'} ha _ hrun => .inl ?_
  obtain rfl | rfl := ha
  · cases a with
    | null => exact ⟨.null, rfl⟩
    | list items => exact ⟨.boolean (items.contains b'), rfl⟩
    | _ => exact absurd hrun (not_succeeds_error _)
  · exact ⟨.null, rfl⟩

lemma itemsOrNone_nulled {items : List Value} (ha : NullsTo a a') (h : itemsOrNone a = .ok items) :
    itemsOrNone a' = .ok items ∨ itemsOrNone a' = .ok [] := by
  obtain rfl | rfl := ha
  · exact .inl h
  · exact .inr rfl

lemma succeeds_itemsOrNone (ha : NullsTo a a') (h : Succeeds (itemsOrNone a)) :
    Succeeds (itemsOrNone a') := by
  obtain ⟨items, h⟩ := h
  obtain h | h := itemsOrNone_nulled ha h <;> exact ⟨_, h⟩

lemma tolerates_append [Zones] : Tolerates .append := by
  intro args nulled hcount hnulled hrun
  obtain _ | ⟨ha, hmore⟩ := hnulled
  · exact absurd hrun (not_succeeds_error _)
  obtain ⟨items, hitems, -⟩ := succeeds_bind.mp hrun
  obtain ⟨items', hitems'⟩ := succeeds_itemsOrNone ha ⟨items, hitems⟩
  exact .inl (succeeds_bind.mpr ⟨items', hitems', succeeds_pure _⟩)

lemma tolerates_indexOf [Zones] : Tolerates .indexOf := by
  refine tolerates_two rfl fun ha _ hrun => .inl ?_
  obtain ⟨items, hitems, -⟩ := succeeds_bind.mp hrun
  obtain ⟨items', hitems'⟩ := succeeds_itemsOrNone ha ⟨items, hitems⟩
  exact succeeds_bind.mpr ⟨items', hitems', succeeds_pure _⟩

lemma tolerates_insertBefore [Zones] : Tolerates .insertBefore := by
  intro args nulled hcount hnulled hrun
  obtain ⟨v, position, item, rfl⟩ := List.length_eq_three.mp (beq_iff_eq.mp hcount)
  obtain _ | ⟨hv, _ | ⟨hposition, _ | ⟨-, ⟨⟩⟩⟩⟩ := hnulled
  left
  obtain ⟨items, hitems, hrun⟩ := succeeds_bind.mp hrun
  obtain ⟨items', hitems'⟩ := succeeds_itemsOrNone hv ⟨items, hitems⟩
  refine succeeds_bind.mpr ⟨items', hitems', ?_⟩
  obtain rfl | rfl := hposition
  · rw [succeeds_ite] at hrun ⊢
    refine ⟨fun _ => succeeds_pure _, fun hnull => ?_⟩
    obtain ⟨k, hk, -⟩ := succeeds_bind.mp (hrun.2 hnull)
    refine succeeds_bind.mpr ⟨k, hk, ?_⟩
    split <;> exact succeeds_pure _
  · exact succeeds_pure _

lemma index?_zero (position : ℤ) : Sequence.index? position 0 = none := by
  unfold Sequence.index?
  rw [if_neg (by omega), if_neg (by omega)]

lemma sublistFrom_nil (start : ℤ) (length : Option Value) :
    sublistFrom [] start length = .ok (.list []) := by
  simp only [sublistFrom, List.length_nil, index?_zero]
  rfl

/-- The body of `sublist`, for either count of arguments. -/
lemma succeeds_sublist {others others' : List Value} {start start' : Value}
    {length length' : Option Value} (ha : NullsTo a a')
    (hothers : anyNull others' = true ∨ (others = others' ∧ start = start' ∧ length = length'))
    (h : Succeeds (do
      let items ← itemsOrNone a
      if anyNull others then return .null
      sublistFrom items (← wholeOf start) length)) :
    Succeeds (do
      let items ← itemsOrNone a'
      if anyNull others' then return .null
      sublistFrom items (← wholeOf start') length') := by
  obtain ⟨items, hitems, h⟩ := succeeds_bind.mp h
  rw [succeeds_bind]
  obtain hnull | ⟨rfl, rfl, rfl⟩ := hothers
  · obtain ⟨items', hitems'⟩ := succeeds_itemsOrNone ha ⟨items, hitems⟩
    refine ⟨items', hitems', ?_⟩
    rw [if_pos hnull]
    exact succeeds_pure _
  · obtain hitems' | hitems' := itemsOrNone_nulled ha hitems
    · exact ⟨items, hitems', h⟩
    · refine ⟨[], hitems', ?_⟩
      rw [succeeds_ite] at h ⊢
      refine ⟨fun _ => succeeds_pure _, fun hnull => ?_⟩
      obtain ⟨k, hk, -⟩ := succeeds_bind.mp (h.2 hnull)
      exact succeeds_bind.mpr ⟨k, hk, _, sublistFrom_nil k _⟩

lemma tolerates_sublist [Zones] : Tolerates .sublist := by
  intro args nulled hcount hnulled hrun
  left
  obtain hcount | hcount := length_of_accepts hcount
  · obtain ⟨v, start, rfl⟩ := List.length_eq_two.mp hcount
    obtain _ | ⟨hv, _ | ⟨rfl | rfl, ⟨⟩⟩⟩ := hnulled
    · exact succeeds_sublist hv (.inr ⟨rfl, rfl, rfl⟩) hrun
    · exact succeeds_sublist hv (.inl rfl) hrun
  · obtain ⟨v, start, length, rfl⟩ := List.length_eq_three.mp hcount
    obtain _ | ⟨hv, _ | ⟨hstart, _ | ⟨hlength, ⟨⟩⟩⟩⟩ := hnulled
    obtain hnull | ⟨rfl, rfl⟩ := hstart.anyNull_or_eq hlength
    · exact succeeds_sublist hv (.inl hnull) hrun
    · exact succeeds_sublist hv (.inr ⟨rfl, rfl, rfl⟩) hrun

lemma exists_number_of_wholeOf {v : Value} {k : ℤ} (h : wholeOf v = .ok k) :
    ∃ n : Decimal, v = .number n ∧ n.word = .ok k := by
  cases hv : v.toNumber with
  | ok n =>
    obtain rfl := eq_of_toNumber hv
    exact ⟨n, rfl, h⟩
  | error fault =>
    rw [wholeOf, hv] at h
    cases h

lemma tolerates_remove [Zones] : Tolerates .remove := by
  refine tolerates_two rfl fun {v position v' position'} hv hposition hrun => ?_
  obtain rfl | rfl := hposition
  · obtain rfl | rfl := hv
    · exact .inl hrun
    · obtain ⟨items, -, hrun⟩ := succeeds_bind.mp hrun
      rw [succeeds_ite] at hrun
      by_cases hnull : position.isNull = true
      · left
        exact ⟨.null, if_pos hnull⟩
      · obtain ⟨k, hk, -⟩ := succeeds_bind.mp (hrun.2 hnull)
        obtain ⟨n, rfl, hn⟩ := exists_number_of_wholeOf hk
        exact .inr ⟨_, .remove hn⟩
  · obtain ⟨items, hitems, -⟩ := succeeds_bind.mp hrun
    obtain ⟨items', hitems'⟩ := succeeds_itemsOrNone hv ⟨items, hitems⟩
    exact .inl (succeeds_bind.mpr ⟨items', hitems', succeeds_pure _⟩)

lemma tolerates_sort [Zones] : Tolerates .sort := by
  refine tolerates_two rfl fun {v f v' f'} hv hf hrun => ?_
  obtain rfl | rfl := hv
  · cases v with
    | null => exact .inl ⟨.null, rfl⟩
    | list items =>
      obtain rfl | rfl := hf
      · exact .inl hrun
      · exact .inr ⟨_, .sort items⟩
    | _ => exact absurd hrun (not_succeeds_error _)
  · exact .inl ⟨.null, rfl⟩

lemma eq_of_toBool {v : Value} {p : Bool} (h : v.toBool = .ok p) : v = .boolean p := by
  unfold Value.toBool at h
  split at h
  · rw [Except.ok.inj h]
  · exact absurd h (by simp [Value.fault])

lemma rangeToList_unknown {p q : Bool} (h : anyNull [a, b] = true) :
    rangeToList [.boolean p, a, .boolean q, b] = .ok (.list []) := if_pos h

lemma tolerates_rangeToList [Zones] : Tolerates .rangeToList := by
  intro args nulled hcount hnulled hrun
  obtain ⟨openStart, start, openEnd, stop, rfl⟩ := length_eq_four.mp (beq_iff_eq.mp hcount)
  obtain _ | ⟨hopenStart, _ | ⟨hstart, _ | ⟨hopenEnd, _ | ⟨hstop, ⟨⟩⟩⟩⟩⟩ := hnulled
  obtain ⟨p, hp, hrest⟩ := succeeds_bind.mp hrun
  obtain ⟨q, hq, -⟩ := succeeds_bind.mp hrest
  obtain rfl := eq_of_toBool hp
  obtain rfl := eq_of_toBool hq
  obtain rfl | rfl := hopenStart
  · obtain rfl | rfl := hopenEnd
    · obtain hnull | ⟨rfl, rfl⟩ := hstart.anyNull_or_eq hstop
      · exact .inl ⟨.list [], rangeToList_unknown hnull⟩
      · exact .inl hrun
    · exact .inr ⟨_, .openEnd p _ _⟩
  · exact .inr ⟨_, .openStart _ _ _⟩

/-! ### Texts -/

lemma succeeds_matching (h : Succeeds (matching a b c)) (ha : NullsTo a a') (hb : NullsTo b b') :
    Succeeds (matching a' b' c) := by
  obtain rfl | rfl := ha
  · obtain rfl | rfl := hb
    · exact h
    · exact ⟨.boolean false, if_pos (Bool.or_true _)⟩
  · exact ⟨.boolean false, if_pos rfl⟩

lemma exists_string_of_matching (h : Succeeds (matching a b c)) (ha : a ≠ .null) (hb : b ≠ .null) :
    (∃ text, a = .string text) ∧ ∃ pattern, b = .string pattern := by
  unfold matching at h
  rw [succeeds_ite] at h
  have hknown : ¬(a.isNull || b.isNull) = true := by
    rw [Bool.or_eq_true, isNull_iff, isNull_iff]
    exact not_or.mpr ⟨ha, hb⟩
  obtain ⟨text, htext, h⟩ := succeeds_bind.mp (h.2 hknown)
  obtain ⟨pattern, hpattern, -⟩ := succeeds_bind.mp h
  exact ⟨⟨text, eq_of_toText htext⟩, pattern, eq_of_toText hpattern⟩

/-- Without flags the pattern has to be read anew. -/
lemma matching_null (h : Succeeds (matching a b c)) :
    Succeeds (matching a b .null) ∨ ∃ fault, NullFault .matching [a, b, .null] fault := by
  by_cases ha : a = .null
  · rw [ha]
    exact .inl ⟨.boolean false, if_pos rfl⟩
  by_cases hb : b = .null
  · rw [hb]
    exact .inl ⟨.boolean false, if_pos (Bool.or_true _)⟩
  obtain ⟨⟨text, rfl⟩, pattern, rfl⟩ := exists_string_of_matching h ha hb
  rw [matching_string text pattern rfl]
  cases hcompile : Pattern.compile pattern "" with
  | ok compiled => exact .inl (succeeds_ok _)
  | error why => exact .inr ⟨_, .matching text hcompile⟩

lemma tolerates_matching [Zones] : Tolerates .matching := by
  intro args nulled hcount hnulled hrun
  obtain hcount | hcount := length_of_accepts hcount
  · obtain ⟨text, pattern, rfl⟩ := List.length_eq_two.mp hcount
    obtain _ | ⟨htext, _ | ⟨hpattern, ⟨⟩⟩⟩ := hnulled
    exact .inl (succeeds_matching hrun htext hpattern)
  · obtain ⟨text, pattern, flags, rfl⟩ := List.length_eq_three.mp hcount
    obtain _ | ⟨htext, _ | ⟨hpattern, _ | ⟨hflags, ⟨⟩⟩⟩⟩ := hnulled
    have hmatching := succeeds_matching hrun htext hpattern
    obtain rfl | rfl := hflags
    · exact .inl hmatching
    · exact matching_null hmatching

lemma replacing_unknown (h : anyNull [a, b, c] = true) : replacing a b c d = .ok .null := if_pos h

lemma succeeds_replacing (h : Succeeds (replacing a b c d)) (ha : NullsTo a a') (hb : NullsTo b b')
    (hc : NullsTo c c') : Succeeds (replacing a' b' c' d) := by
  have hnulled : Nulled [a, b, c] [a', b', c'] := .cons ha (.cons hb (.cons hc .nil))
  obtain heq | hnull := hnulled.eq_or_anyNull
  · obtain ⟨rfl, rfl, rfl⟩ : a' = a ∧ b' = b ∧ c' = c := by simpa using heq
    exact h
  · exact ⟨.null, replacing_unknown hnull⟩

lemma exists_string_of_replacing (h : Succeeds (replacing a b c d))
    (hknown : ¬anyNull [a, b, c] = true) :
    (∃ text, a = .string text) ∧ (∃ pattern, b = .string pattern) ∧
      ∃ replacement, c = .string replacement := by
  unfold replacing at h
  rw [succeeds_ite] at h
  obtain ⟨text, htext, h⟩ := succeeds_bind.mp (h.2 hknown)
  obtain ⟨pattern, hpattern, h⟩ := succeeds_bind.mp h
  obtain ⟨replacement, hreplacement, -⟩ := succeeds_bind.mp h
  exact ⟨⟨text, eq_of_toText htext⟩, ⟨pattern, eq_of_toText hpattern⟩, replacement,
    eq_of_toText hreplacement⟩

lemma replacing_null (h : Succeeds (replacing a b c d)) :
    Succeeds (replacing a b c .null) ∨ ∃ fault, NullFault .replace [a, b, c, .null] fault := by
  by_cases hknown : anyNull [a, b, c] = true
  · exact .inl ⟨.null, replacing_unknown hknown⟩
  obtain ⟨⟨text, rfl⟩, ⟨pattern, rfl⟩, replacement, rfl⟩ := exists_string_of_replacing h hknown
  rw [replacing_string text pattern replacement rfl]
  cases hsubstitute : Pattern.substitute text pattern replacement "" with
  | ok result => exact .inl (succeeds_ok _)
  | error why => exact .inr ⟨_, .replace hsubstitute⟩

lemma tolerates_replace [Zones] : Tolerates .replace := by
  intro args nulled hcount hnulled hrun
  obtain hcount | hcount := length_of_accepts hcount
  · obtain ⟨text, pattern, replacement, rfl⟩ := List.length_eq_three.mp hcount
    obtain _ | ⟨htext, _ | ⟨hpattern, _ | ⟨hreplacement, ⟨⟩⟩⟩⟩ := hnulled
    exact .inl (succeeds_replacing hrun htext hpattern hreplacement)
  · obtain ⟨text, pattern, replacement, flags, rfl⟩ := length_eq_four.mp hcount
    obtain _ | ⟨htext, _ | ⟨hpattern, _ | ⟨hreplacement, _ | ⟨hflags, ⟨⟩⟩⟩⟩⟩ := hnulled
    have hreplacing := succeeds_replacing hrun htext hpattern hreplacement
    obtain rfl | rfl := hflags
    · exact .inl hreplacing
    · exact replacing_null hreplacing

/-! ### Contexts -/

/-- Contexts are compared with contexts and with null. -/
lemma succeeds_equalContexts_iff : Succeeds (equalContexts a b) ↔
    (a = .null ∨ Succeeds a.toEntries) ∧ (b = .null ∨ Succeeds b.toEntries) := by
  cases a <;> cases b <;> simp [equalContexts, Value.toEntries, Value.fault]

lemma succeeds_equalContexts (h : Succeeds (equalContexts a b)) (ha : NullsTo a a') (hb : NullsTo b b') :
    Succeeds (equalContexts a' b') := by
  rw [succeeds_equalContexts_iff] at h ⊢
  refine ⟨?_, ?_⟩
  · obtain rfl | rfl := ha
    · exact h.1
    · exact .inl rfl
  · obtain rfl | rfl := hb
    · exact h.2
    · exact .inl rfl

lemma tolerates_contextEqual [Zones] : Tolerates .contextEqual := by
  refine tolerates_two rfl fun ha hb hrun => .inl ?_
  have hequal : Succeeds (equalContexts _ _) := succeeds_functorMap.mp hrun
  exact succeeds_functorMap.mpr (succeeds_equalContexts hequal ha hb)

lemma tolerates_contextNotEqual [Zones] : Tolerates .contextNotEqual := by
  refine tolerates_two rfl fun ha hb hrun => .inl ?_
  have hequal : Succeeds (equalContexts _ _) := succeeds_functorMap.mp hrun
  exact succeeds_functorMap.mpr (succeeds_equalContexts hequal ha hb)

end Tolerates

/-! ### Every function -/

lemma tolerates_of_not_isAggregate [Zones] {f : Builtin} (hf : ¬IsAggregate f) : Tolerates f := by
  cases f with
  | min | max | sum | mean | product => exact absurd (by decide) hf
  | floor | ceiling | abs | odd | even | not | string | stringLength | upperCase | lowerCase | year
  | month | day | hour | minute | second | timezone | timeOffset | duration | years | months | days
  | hours | minutes | seconds | count | reverse | distinctValues | flatten | flattenFirstLevel
  | asElement | getEntries => exact (absorbs_one rfl rfl).tolerates
  | decimal | modulo | contains | startsWith | endsWith | substringBefore | substringAfter
  | yearsAndMonthsDuration | elementAt | getValue =>
    refine Absorbs.tolerates (absorbs_two rfl ?_)
    intro a b hnull
    exact if_pos hnull
  | date => exact absorbs_date.tolerates
  | dateAndTime => exact absorbs_dateAndTime.tolerates
  | time => exact absorbs_time.tolerates
  | substring => exact absorbs_substring.tolerates
  | concatenate => exact absorbs_concatenate.tolerates
  | union => exact absorbs_union.tolerates
  | and => exact tolerates_of_total succeeds_conjunction
  | or => exact tolerates_of_total succeeds_disjunction
  | asList => exact tolerates_of_total fun args => succeeds_ok _
  | number => exact tolerates_number
  | matching => exact tolerates_matching
  | replace => exact tolerates_replace
  | listContains => exact tolerates_listContains
  | append => exact tolerates_append
  | sublist => exact tolerates_sublist
  | insertBefore => exact tolerates_insertBefore
  | remove => exact tolerates_remove
  | indexOf => exact tolerates_indexOf
  | sort => exact tolerates_sort
  | rangeToList => exact tolerates_rangeToList
  | contextEqual => exact tolerates_contextEqual
  | contextNotEqual => exact tolerates_contextNotEqual

/-- A call of a function other than the aggregates that succeeds goes on to succeed when any of its
arguments become null, and nothing is recorded, unless it becomes one of the calls listed in `NullFault`:
these fail as they are listed. -/
theorem tryCall_nulled [Zones] {name : String} {f : Builtin} (hname : IsNameOf name f)
    (hf : ¬IsAggregate f) {args nulled : List Value} {v : Value} (hcall : tryCall name args = .ok v)
    (hnulled : Nulled args nulled) :
    ((∀ fault, ¬NullFault f nulled fault) →
      ∃ w, tryCall name nulled = .ok w ∧ ∀ library : Library, library.call name nulled = .ok (w, library)) ∧
    ∀ fault, NullFault f nulled fault → tryCall name nulled = .error fault := by
  refine ⟨fun hlisted => ?_, fun fault hfault => ?_⟩
  · by_cases hcount : f.arity.accepts args.length = true
    · rw [tryCall_of_accepts hname hcount] at hcall
      have hcount' : f.arity.accepts nulled.length = true := by
        rw [← List.Forall₂.length_eq hnulled]
        exact hcount
      obtain ⟨w, hw⟩ | ⟨fault, hfault⟩ :=
        tolerates_of_not_isAggregate hf args nulled hcount hnulled ⟨v, hcall⟩
      · rw [← tryCall_of_accepts hname hcount'] at hw
        refine ⟨w, hw, fun library => ?_⟩
        rw [Library.call, hw]
      · exact absurd hfault (hlisted fault)
    · rw [tryCall_of_not_accepts hname hcount] at hcall
      exact nomatch hcall
  · obtain ⟨hcount, hrun⟩ := run_of_nullFault hfault
    rw [tryCall_of_accepts hname hcount, hrun]

/-- The pattern is an open group that the flags take verbatim. Without a replacement the result is
unknown, without the flags the pattern is malformed. -/
theorem tryCall_nulled_verbatim :
    tryCall "replace" [.string "a(b", .string "(", .string "-", .string "q"] = .ok (.string "a-b") ∧
    (∃ w, tryCall "replace" [.string "a(b", .string "(", .null, .string "q"] = .ok w ∧
      ∀ library : Library,
        library.call "replace" [.string "a(b", .string "(", .null, .string "q"] = .ok (w, library)) ∧
    tryCall "replace" [.string "a(b", .string "(", .string "-", .null] =
      .error (.badPattern .malformed) := by
  have hname : IsNameOf "replace" .replace := by decide
  have hf : ¬IsAggregate .replace := by decide
  have hcall : tryCall "replace" [.string "a(b", .string "(", .string "-", .string "q"] =
      .ok (.string "a-b") := by
    have hsubstitute : Pattern.substitute "a(b" "(" "-" "q" = .ok "a-b" := by decide +kernel
    rw [tryCall_of_accepts hname rfl]
    show replacing (.string "a(b") (.string "(") (.string "-") (.string "q") = _
    rw [replacing_string "a(b" "(" "-" rfl, hsubstitute]
    rfl
  have hreplacement : Nulled [.string "a(b", .string "(", .string "-", .string "q"]
      [.string "a(b", .string "(", .null, .string "q"] :=
    .cons (.inl rfl) (.cons (.inl rfl) (.cons (.inr rfl) (.cons (.inl rfl) .nil)))
  have hflags : Nulled [.string "a(b", .string "(", .string "-", .string "q"]
      [.string "a(b", .string "(", .string "-", .null] :=
    .cons (.inl rfl) (.cons (.inl rfl) (.cons (.inl rfl) (.cons (.inr rfl) .nil)))
  refine ⟨hcall, ?_, ?_⟩
  · refine (tryCall_nulled hname hf hcall hreplacement).1 ?_
    rintro fault ⟨⟩
  · exact (tryCall_nulled hname hf hcall hflags).2 _ (.replace (by decide +kernel))

/-- The first item of a list can be removed, that of an unknown list can not: it is reported as out of
bounds. -/
theorem tryCall_remove_nulled :
    IsNameOf "remove" .remove ∧ ¬IsAggregate .remove ∧
    tryCall "remove" [.list [.ofInt 1], .ofInt 1] = .ok (.list []) ∧
    Nulled [.list [.ofInt 1], .ofInt 1] [.null, .ofInt 1] ∧
    tryCall "remove" [.null, .ofInt 1] = .error (.indexOutOfBounds 1 0) ∧
    ((Library.ofSink .memory).call "remove" [.null, .ofInt 1]).map (fun called => called.2.records) =
      .ok [⟨"remove", ["null", "1"], "Index '1' out of bounds [1, 0]."⟩] := by
  have hname : IsNameOf "remove" .remove := by decide
  have hword : (Decimal.ofInt 1).word = .ok 1 := (word_eq_ok_iff _ 1).mpr ⟨value_ofInt 1, by decide⟩
  refine ⟨hname, by decide, ?_, .cons (.inr rfl) (.cons (.inl rfl) .nil), ?_, by decide +kernel⟩
  · rw [tryCall_of_accepts hname rfl]
    exact remove_eq (v := .list [.ofInt 1]) rfl hword
  · rw [tryCall_of_accepts hname rfl]
    exact remove_null hword

end Feel.Proofs
