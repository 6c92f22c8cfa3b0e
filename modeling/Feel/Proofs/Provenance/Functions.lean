import Feel.Builtin
import Feel.Proofs.Provenance
import Feel.Proofs.StableSort
import Feel.Proofs.WholeDecimals

/-!
# What the functions make

Every built-in function gives back nothing but parts of its arguments, values that it makes anew, and
groups of these. There is a lemma about each function, or about the operation that it is an instance of,
and `run_makes` about all of them.
-/

namespace Feel.Proofs
open Operation

/-! ### Values of one kind -/

lemma eq_of_toNumber {v : Value} {n : Decimal} (h : v.toNumber = .ok n) : v = .number n := by
  unfold Value.toNumber at h
  split at h
  · rw [Except.ok.inj h]
  · exact absurd h (by simp [Value.fault])

lemma eq_of_toText {v : Value} {s : String} (h : v.toText = .ok s) : v = .string s := by
  unfold Value.toText at h
  split at h
  · rw [Except.ok.inj h]
  · exact absurd h (by simp [Value.fault])

lemma eq_of_toDuration {v : Value} {d : Duration} (h : v.toDuration = .ok d) : v = .duration d := by
  unfold Value.toDuration at h
  split at h
  · rw [Except.ok.inj h]
  · exact absurd h (by simp [Value.fault])

/-! ### Words -/

lemma isWord_natCast {k : ℕ} (h : k ≤ Word.max64) : IsWord k := ⟨by omega, by exact_mod_cast h⟩

lemma isWord_year (d : Date) : IsWord d.year := by
  obtain ⟨⟨hlo, hhi⟩, -⟩ := d.valid
  unfold Date.minYear at hlo
  unfold Date.maxYear at hhi
  unfold IsWord Word.max64
  omega

lemma isWord_month (d : Date) : IsWord d.month := by
  obtain ⟨-, ⟨-, hhi⟩, -⟩ := d.valid
  exact isWord_natCast (hhi.trans (by decide))

lemma isWord_day (d : Date) : IsWord d.day := by
  obtain ⟨-, -, -, hhi⟩ := d.valid
  exact isWord_natCast ((hhi.trans (monthLength_le _ _)).trans (by decide))

lemma hour_lt (c : Clock) : c.hour < 24 := by
  have hlt := c.lt
  unfold nanosPerDay secondsPerDay nanosPerSecond at hlt
  unfold Clock.hour Clock.seconds nanosPerSecond
  omega

lemma isWord_of_wholeOf {v : Value} {k : ℤ} (h : wholeOf v = .ok k) : IsWord k := by
  have hyields : Yields IsWord (wholeOf v) := by
    simp only [wholeOf, yields_bind]
    exact fun n _ k hk => ((word_eq_ok_iff n k).mp hk).2
  exact hyields k h

/-- A range starts at a word and ends at one, or is empty. -/
lemma isWord_of_mem_interval {start stop k : ℤ} (hstart : IsWord start) (hstop : IsWord stop)
    (openStart openEnd : Bool)
    (hk : k ∈ Sequence.interval (if openStart then start + 1 else start)
      (if openEnd then stop - 1 else stop)) : IsWord k := by
  unfold Sequence.interval at hk
  obtain ⟨i, hi, rfl⟩ := List.mem_map.mp hk
  rw [List.mem_range] at hi
  unfold IsWord at *
  split_ifs at hi ⊢ <;> omega

/-! ### Items and parts -/

/-- What each step of a fold keeps, the fold keeps. -/
lemma yields_foldlM {α : Type} {P : α → Prop} {f : α → Value → Except Fault α} {items : List Value}
    (hf : ∀ a, P a → ∀ item ∈ items, Yields P (f a item)) {start : α} (hstart : P start) :
    Yields P (items.foldlM f start) := by
  induction items generalizing start with
  | nil => simpa using hstart
  | cons item items ih =>
    rw [List.foldlM_cons, yields_bind]
    intro a ha
    have hkept := hf start hstart item List.mem_cons_self a ha
    exact ih (fun a ha v hv => hf a ha v (List.mem_cons_of_mem item hv)) hkept

lemma length_le_extent {v : Value} {items : List Value} (h : itemsOrNone v = .ok items) :
    items.length ≤ extent v := by
  unfold itemsOrNone at h
  split at h
  · rw [← Except.ok.inj h]
    exact Nat.zero_le _
  · unfold Value.toItems at h
    split at h
    · rw [← Except.ok.inj h]
      exact le_refl _
    · exact absurd h (by simp [Value.fault])

lemma mem_of_mem_distinctAfter {seen items : List Value} {x : Value}
    (h : x ∈ Sequence.distinctAfter seen items) : x ∈ items := by
  induction items generalizing seen with
  | nil => simp [Sequence.distinctAfter] at h
  | cons v items ih =>
    rw [Sequence.distinctAfter] at h
    split_ifs at h
    · exact List.mem_cons_of_mem v (ih h)
    · obtain rfl | h := List.mem_cons.mp h
      · exact List.mem_cons_self
      · exact List.mem_cons_of_mem v (ih h)

lemma lt_of_mem_positionsOf_go {wanted : Value} {items : List Value} {position p : ℕ}
    (h : p ∈ Sequence.positionsOf.go wanted position items) : p < position + items.length := by
  induction items generalizing position with
  | nil => simp [Sequence.positionsOf.go] at h
  | cons v items ih =>
    have hlater {h : p ∈ Sequence.positionsOf.go wanted (position + 1) items} :
        p < position + (v :: items).length := by
      have hlt := ih h
      rw [List.length_cons]
      omega
    rw [Sequence.positionsOf.go] at h
    split_ifs at h
    · obtain rfl | h := List.mem_cons.mp h
      · rw [List.length_cons]
        omega
      · exact hlater (h := h)
    · exact hlater (h := h)

mutual

lemma isPart_of_mem_leaves {x v : Value} (h : x ∈ Sequence.leaves v) : IsPart x v := by
  match v with
  | .list items =>
    rw [Sequence.leaves] at h
    obtain ⟨w, hw, hx⟩ := isPart_of_mem_leavesOf h
    exact .item hw hx
  | .null | .number _ | .boolean _ | .string _ | .date _ | .time _ | .dateTime _ | .duration _
  | .context _ | .function _ =>
    simp only [Sequence.leaves, List.mem_singleton] at h
    subst h
    exact .self

lemma isPart_of_mem_leavesOf {x : Value} {items : List Value} (h : x ∈ Sequence.leavesOf items) :
    ∃ v ∈ items, IsPart x v := by
  match items with
  | [] => simp [Sequence.leavesOf] at h
  | v :: items =>
    rw [Sequence.leavesOf, List.mem_append] at h
    obtain h | h := h
    · exact ⟨v, by simp, isPart_of_mem_leaves h⟩
    · obtain ⟨w, hw, hx⟩ := isPart_of_mem_leavesOf h
      exact ⟨w, by simp [hw], hx⟩

end

lemma mem_of_get? {α : Type} {key : String} {v : α} {entries : List (String × α)}
    (h : Entries.get? key entries = some v) : (key, v) ∈ entries := by
  induction entries with
  | nil => exact absurd h (by simp [Entries.get?])
  | cons e rest ih =>
    rw [Entries.get?] at h
    split_ifs at h with hkey
    · obtain rfl := Option.some.inj h
      rw [← hkey]
      exact List.mem_cons_self
    · exact List.mem_cons_of_mem e (ih h)

variable [Zones] {args : List Value}

/-! ### Numbers and truth values -/

lemma yields_onNumber {f : Decimal → Except Fault Value}
    (hf : ∀ n, .number n ∈ args → Yields (Makes args) (f n)) :
    Yields (Makes args) (onNumber f args) := by
  unfold onNumber
  split
  · simp only [yields_ite, yields_bind, yields_pure]
    exact ⟨fun _ => makes_null, fun _ n h => hf n (by simp [eq_of_toNumber h])⟩
  · simp

/-- Numbers of the working precision. -/
@[simp] lemma yields_working (n : Decimal) :
    Yields (fun r => Makes args (.ofDecimal r)) (working n) := by
  unfold working
  split
  · exact yields_ok.mpr (makes_working (by assumption))
  · exact yields_error _

lemma makes_parsed {cs : List Char} {n : Decimal} (h : Decimal.parse? cs = some n) :
    Makes args (.ofDecimal n) := by
  obtain ⟨x, -, h⟩ := Option.bind_eq_some_iff.mp h
  exact makes_working h

lemma yields_numberOf (source : String) (numeral : Option (List Char)) :
    Yields (Makes args) (numberOf source numeral) := by
  unfold numberOf
  split
  · rename_i n h
    obtain ⟨cs, -, h⟩ := Option.bind_eq_some_iff.mp h
    exact yields_ok.mpr (makes_parsed h)
  · exact yields_error _

lemma yields_number : Yields (Makes args) (number args) := by
  unfold number
  split <;> simp [yields_numberOf]

lemma yields_decimal : Yields (Makes args) (decimal args) := by
  unfold decimal
  split <;> simp

lemma yields_modulo : Yields (Makes args) (modulo args) := by
  unfold modulo
  split <;> simp

lemma makes_of_mem_spread {items : List Value} (h : spread? args = some items) {v : Value}
    (hv : v ∈ items) : Makes args v := by
  unfold spread? at h
  split at h
  · obtain rfl := Option.some.inj h
    exact .part (by simp) (.item hv .self)
  · exact absurd h (by simp)
  · exact absurd h (by simp)
  · obtain rfl := Option.some.inj h
    exact .arg hv

lemma yields_onItems {f : Value → List Value → Except Fault Value}
    (hf : ∀ first rest, (∀ v ∈ first :: rest, Makes args v) → Yields (Makes args) (f first rest)) :
    Yields (Makes args) (onItems f args) := by
  unfold onItems
  split
  · rename_i first rest hspread
    exact hf first rest fun v hv => makes_of_mem_spread hspread hv
  · simp

lemma yields_extreme (wanted : Ordering) : Yields (Makes args) (extreme wanted args) := by
  refine yields_onItems fun first rest hmakes => ?_
  rw [yields_bind]
  intro _ _
  refine yields_foldlM (fun best hbest item hitem => ?_) (hmakes first (by simp))
  rw [yields_bind]
  intro order _
  rw [yields_pure]
  split_ifs
  · exact hmakes item (List.mem_cons_of_mem first hitem)
  · exact hbest

/-- A sum or a product of one number at least is within the working precision. -/
lemma yields_accumulate {f : Decimal → Decimal → Decimal} {start : Decimal} {first : Value}
    {rest : List Value} :
    Yields (fun n => Makes args (.ofDecimal n)) (accumulate f start (first :: rest)) := by
  have hstep (sum : Decimal) (item : Value) : Yields (fun n => Makes args (.ofDecimal n))
      (do working (f sum (← item.toNumber))) := by
    simp
  rw [accumulate, List.foldlM_cons, yields_bind]
  intro sum h
  exact yields_foldlM (fun sum _ item _ => hstep sum item) (hstep start first sum h)

lemma makes_ofTruth (truth : Truth) : Makes args (ofTruth truth) := by
  cases truth <;> simp [ofTruth]

lemma yields_negation : Yields (Makes args) (negation args) := by
  unfold negation
  split <;> simp

lemma yields_conjunction : Yields (Makes args) (conjunction args) := by
  unfold conjunction
  split <;> simp [makes_ofTruth]

lemma yields_disjunction : Yields (Makes args) (disjunction args) := by
  unfold disjunction
  split <;> simp [makes_ofTruth]

/-! ### Texts -/

lemma yields_string : Yields (Makes args) (Operation.string args) := by
  unfold Operation.string
  split <;> simp

lemma yields_onTexts {f : List Char → List Char → Value} (hf : ∀ a b, Makes args (f a b)) :
    Yields (Makes args) (onTexts f args) := by
  unfold onTexts
  split <;> simp [hf]

lemma yields_onText {f : List Char → Value}
    (hf : ∀ s, .string s ∈ args → Makes args (f s.toList)) : Yields (Makes args) (onText f args) := by
  unfold onText
  split
  · simp
  · simp only [yields_bind, yields_pure]
    exact fun s h => hf s (by simp [eq_of_toText h])
  · simp

lemma yields_stringLength : Yields (Makes args) (stringLength args) := by
  refine yields_onText (f := fun text => .ofDecimal (.ofInt text.length)) fun s hs => ?_
  exact makes_position hs (le_refl _)

lemma yields_slice (text : List Char) (start : ℤ) (length : Option Value) :
    Yields (Makes args) (slice text start length) := by
  unfold slice
  split
  · split <;> simp
  · simp

lemma yields_substring : Yields (Makes args) (substring args) := by
  unfold substring
  split <;> simp [yields_slice]

lemma yields_isMatch : Yields (Makes args) (isMatch args) := by
  unfold isMatch matching
  split <;> simp

lemma yields_replace : Yields (Makes args) (replace args) := by
  unfold replace replacing
  split <;> simp

/-! ### Dates, times and durations -/

lemma yields_onKnown {f : Value → Except Fault Value} (hf : ∀ v ∈ args, Yields (Makes args) (f v)) :
    Yields (Makes args) (onKnown f args) := by
  unfold onKnown
  split
  · simp
  · exact hf _ (by simp)
  · simp

lemma yields_dateOfFields (year month day : Value) :
    Yields (Makes args) (dateOfFields year month day) := by
  simp only [dateOfFields, yields_bind]
  iterate 6 intro _ _
  split <;> simp

lemma yields_date : Yields (Makes args) (Operation.date args) := by
  unfold Operation.date
  split <;> simp [yields_dateOfFields]

lemma yields_dateTimeAtUtc (shown : LocalDateTime) : Yields (Makes args) (dateTimeAtUtc shown) := by
  simp only [dateTimeAtUtc, yields_mapError, yields_map]
  exact fun t ht => .fresh (.dateTimeAtUtc ht)

lemma yields_combine (day time : Value) : Yields (Makes args) (combine day time) := by
  unfold combine
  split <;> simp [yields_dateTimeAtUtc]

lemma yields_dateAndTime : Yields (Makes args) (dateAndTime args) := by
  unfold dateAndTime
  split
  case h_2 literal =>
    rw [yields_map]
    exact fun t ht => .fresh (.dateTimeOfText ht)
  case h_3 t => exact yields_ok.mpr (.arg (by simp))
  all_goals simp [yields_dateTimeAtUtc, yields_combine]

lemma yields_dateField {field : Date → ℤ} (hfield : ∀ d, IsWord (field d)) :
    Yields (Makes args) (dateField field args) :=
  yields_onKnown fun v _ => by
    simp only [yields_bind, yields_pure]
    exact fun d _ => makes_word (hfield d)

lemma yields_yearsAndMonthsDuration : Yields (Makes args) (yearsAndMonthsDuration args) := by
  unfold yearsAndMonthsDuration
  split
  · simp only [yields_ite, yields_bind, yields_pure]
    exact ⟨fun _ => makes_null, fun _ a _ b _ => .fresh (.monthsBetween a b)⟩
  · simp

lemma yields_time : Yields (Makes args) (Operation.time args) := by
  unfold Operation.time
  split
  case h_2 literal =>
    rw [yields_map]
    exact fun t ht => .fresh (.timeOfText ht)
  case h_3 t => exact yields_ok.mpr (.arg (by simp))
  case h_4 t =>
    rw [yields_mapError, yields_map]
    exact fun time htime => .fresh (.timeOfDateTime (by simp) htime)
  case h_6 hour minute second =>
    simp only [yields_ite, yields_bind, yields_pure]
    exact ⟨fun _ => makes_null, fun _ clock _ => .fresh (.timeOfClock clock)⟩
  case h_7 hour minute second offset =>
    simp only [yields_ite, yields_bind, yields_pure]
    exact ⟨fun _ => makes_null, fun _ _ _ _ ho clock _ => .fresh (.timeOfOffset clock ho)⟩
  all_goals simp

lemma yields_timeField {field : Clock → ℕ} (hfield : ∀ c, field c < 60) :
    Yields (Makes args) (timeField field args) :=
  yields_onKnown fun v _ => by
    simp only [yields_bind, yields_pure]
    exact fun t _ => makes_word (isWord_natCast ((hfield t.clock).le.trans (by decide)))

lemma yields_timezone : Yields (Makes args) (timezone args) :=
  yields_onKnown fun v _ => by
    simp only [yields_bind, yields_pure]
    exact fun t _ => .fresh (.offsetOf t.offset)

lemma yields_duration : Yields (Makes args) (Operation.duration args) := by
  refine yields_onKnown fun v hv => ?_
  split
  · exact yields_ok.mpr (.arg hv)
  · simp only [yields_ite, yields_ok, yields_map]
    exact ⟨fun _ => makes_null, fun _ d hd => .fresh (.durationOfText hd)⟩
  · simp

lemma yields_component {part : Duration → Option Value}
    (hpart : ∀ d, .duration d ∈ args → ∀ v ∈ part d, Makes args v) :
    Yields (Makes args) (component part args) :=
  yields_onKnown fun v hv => by
    simp only [yields_bind, yields_pure]
    intro d hd
    rw [eq_of_toDuration hd] at hv
    cases hpartd : part d with
    | none => exact makes_null
    | some v => exact hpart d hv v hpartd

/-- Components that are whole numbers. -/
lemma yields_wholeComponent {part : Duration → Option ℤ}
    (hpart : ∀ d k, part d = some k →
      some k ∈ [d.yearPart?, d.monthPart?, d.dayPart?, d.hourPart?, d.minutePart?]) :
    Yields (Makes args) (component (fun d => (part d).map .ofInt) args) :=
  yields_component fun d hd v hv => by
    obtain ⟨k, hk, rfl⟩ := Option.map_eq_some_iff.mp hv
    exact .fresh (.number (.component hd (hpart d k hk)))

lemma yields_seconds : Yields (Makes args) (seconds args) :=
  yields_component fun d hd v hv => by
    obtain ⟨n, hn, rfl⟩ := Option.map_eq_some_iff.mp hv
    exact .fresh (.number (.seconds hd hn))

/-! ### Lists -/

lemma makes_of_toItems {v : Value} {items : List Value} (hv : v ∈ args) (h : v.toItems = .ok items)
    {x : Value} (hx : x ∈ items) : Makes args x := by
  unfold Value.toItems at h
  split at h
  · obtain rfl := Except.ok.inj h
    exact .part hv (.item hx .self)
  · exact absurd h (by simp [Value.fault])

lemma makes_of_itemsOrNone {v : Value} {items : List Value} (hv : v ∈ args)
    (h : itemsOrNone v = .ok items) {x : Value} (hx : x ∈ items) : Makes args x := by
  unfold itemsOrNone at h
  split at h
  · obtain rfl := Except.ok.inj h
    simp at hx
  · exact makes_of_toItems hv h hx

lemma yields_onList {f : List Value → Value}
    (hf : ∀ items, (∀ x ∈ items, Makes args x) → Makes args (f items)) :
    Yields (Makes args) (onList f args) := by
  unfold onList
  split
  · simp only [yields_bind, yields_pure]
    exact fun items h => hf items fun x hx => makes_of_itemsOrNone (by simp) h hx
  · simp

lemma yields_count : Yields (Makes args) (count args) := by
  unfold count onList
  split
  · simp only [yields_bind, yields_pure]
    exact fun items h => makes_position (by simp) (length_le_extent h)
  · simp

lemma yields_onKnownList {f : List Value → Value}
    (hf : ∀ items, (∀ x ∈ items, Makes args x) → Makes args (f items)) :
    Yields (Makes args) (onKnownList f args) := by
  unfold onKnownList
  split
  · simp
  · simp only [yields_bind, yields_pure]
    exact fun items h => hf items fun x hx => makes_of_toItems (by simp) h hx
  · simp

lemma yields_listContains : Yields (Makes args) (listContains args) := by
  unfold listContains
  split <;> simp

lemma yields_append : Yields (Makes args) (append args) := by
  unfold append
  split
  · simp
  · rename_i v more
    simp only [yields_bind, yields_pure]
    intro items h
    refine .list fun x hx => ?_
    obtain hx | hx := List.mem_append.mp hx
    · exact makes_of_itemsOrNone (by simp) h hx
    · exact .arg (List.mem_cons_of_mem v hx)

lemma yields_sublistFrom {items : List Value} (hitems : ∀ x ∈ items, Makes args x) (start : ℤ)
    (length : Option Value) : Yields (Makes args) (sublistFrom items start length) := by
  have hdrop (n : ℕ) : Makes args (.list (items.drop n)) :=
    .list fun x hx => hitems x (List.mem_of_mem_drop hx)
  have htake (n k : ℕ) : Makes args (.list ((items.drop n).take k)) :=
    .list fun x hx => hitems x (List.mem_of_mem_drop (List.mem_of_mem_take hx))
  unfold sublistFrom
  split
  · split <;> simp [hdrop, htake]
  · simp

lemma yields_sublist : Yields (Makes args) (sublist args) := by
  unfold sublist
  split
  · simp only [yields_bind, yields_ite, yields_pure]
    exact fun items h => ⟨fun _ => makes_null, fun _ start _ =>
      yields_sublistFrom (fun x hx => makes_of_itemsOrNone (by simp) h hx) start none⟩
  · simp only [yields_bind, yields_ite, yields_pure]
    exact fun items h => ⟨fun _ => makes_null, fun _ start _ =>
      yields_sublistFrom (fun x hx => makes_of_itemsOrNone (by simp) h hx) start _⟩
  · simp

lemma yields_mapM_toItems {vs : List Value} (hvs : ∀ v ∈ vs, v ∈ args) :
    Yields (fun lists => ∀ x ∈ lists.flatten, Makes args x) (vs.mapM Value.toItems) := by
  induction vs with
  | nil => simp
  | cons v vs ih =>
    simp only [List.mapM_cons, yields_bind, yields_pure]
    intro items hitems lists hlists x hx
    rw [List.flatten_cons, List.mem_append] at hx
    obtain hx | hx := hx
    · exact makes_of_toItems (hvs v (by simp)) hitems hx
    · exact ih (fun w hw => hvs w (List.mem_cons_of_mem v hw)) lists hlists x hx

lemma yields_joined : Yields (fun items => ∀ x ∈ items, Makes args x) (joined args) := by
  simp only [joined, yields_bind, yields_pure]
  exact yields_mapM_toItems fun _ hv => hv

lemma yields_concatenate : Yields (Makes args) (concatenate args) := by
  simp only [concatenate, yields_ite, yields_bind, yields_pure]
  exact ⟨fun _ => makes_null, fun _ items h => .list (yields_joined items h)⟩

lemma yields_union : Yields (Makes args) (union args) := by
  simp only [union, yields_ite, yields_bind, yields_pure]
  exact ⟨fun _ => makes_null, fun _ items h => .list fun x hx =>
    yields_joined items h x (mem_of_mem_distinctAfter hx)⟩

lemma yields_insertBefore : Yields (Makes args) (insertBefore args) := by
  unfold insertBefore
  split
  · rename_i v position item
    simp only [yields_bind, yields_ite, yields_pure]
    refine fun items h => ⟨fun _ => makes_null, fun _ index _ => ?_⟩
    have hitems : ∀ x ∈ items, Makes [v, position, item] x :=
      fun x hx => makes_of_itemsOrNone (by simp) h hx
    dsimp only
    split
    · rw [yields_pure]
      refine .list fun x hx => ?_
      rw [List.mem_append, List.mem_cons] at hx
      obtain hx | rfl | hx := hx
      · exact hitems x (List.mem_of_mem_take hx)
      · exact .arg (by simp)
      · exact hitems x (List.mem_of_mem_drop hx)
    · exact yields_pure.mpr (.list hitems)
  · simp

lemma yields_remove : Yields (Makes args) (remove args) := by
  unfold remove
  split
  · simp only [yields_bind, yields_ite, yields_pure, yields_throw, implies_true, and_true]
    exact fun items h => ⟨fun _ => makes_null, fun _ position _ _ => .list fun x hx =>
      makes_of_itemsOrNone (by simp) h (List.mem_of_mem_eraseIdx hx)⟩
  · simp

lemma yields_reverse : Yields (Makes args) (reverse args) :=
  yields_onList fun _ h => .list fun x hx => h x (List.mem_reverse.mp hx)

lemma yields_indexOf : Yields (Makes args) (indexOf args) := by
  unfold indexOf
  split
  · rename_i v wanted
    simp only [yields_bind, yields_pure]
    refine fun items h => .list fun x hx => ?_
    obtain ⟨p, hp, rfl⟩ := List.mem_map.mp hx
    have hlt := lt_of_mem_positionsOf_go hp
    have hle := length_le_extent h
    exact makes_position (List.mem_cons_self : v ∈ [v, wanted]) (by omega)
  · simp

lemma yields_distinctValues : Yields (Makes args) (distinctValues args) :=
  yields_onList fun _ h => .list fun x hx => h x (mem_of_mem_distinctAfter hx)

lemma yields_flatten : Yields (Makes args) (flatten args) :=
  yields_onKnownList fun _ h => .list fun x hx => by
    obtain ⟨v, hv, hpart⟩ := isPart_of_mem_leavesOf hx
    exact (h v hv).of_isPart hpart

lemma yields_flattenFirstLevel : Yields (Makes args) (flattenFirstLevel args) :=
  yields_onKnownList fun _ h => .list fun x hx => by
    obtain ⟨v, hv, hx⟩ := List.mem_flatMap.mp hx
    split at hx
    · exact (h _ hv).of_isPart (.item hx .self)
    · rw [List.mem_singleton.mp hx]
      exact h _ hv

lemma yields_sort : Yields (Makes args) (sort args) := by
  unfold sort
  split
  · simp
  · simp only [yields_bind, yields_pure]
    exact fun items h f _ => .list fun x hx => makes_of_toItems (by simp) h (mem_sortBy.mp hx)
  · simp

lemma yields_asElement : Yields (Makes args) (asElement args) :=
  yields_onKnownList fun items h => by
    split
    · exact h _ (by simp)
    · exact makes_null

lemma yields_rangeToList : Yields (Makes args) (rangeToList args) := by
  unfold rangeToList
  split
  · simp only [yields_bind, yields_ite, yields_pure, yields_throw, implies_true, true_and]
    refine fun openStart _ openEnd _ => ⟨fun _ => makes_nil, fun _ start hstart stop hstop _ _ => ?_⟩
    refine .list fun x hx => ?_
    obtain ⟨k, hk, rfl⟩ := List.mem_map.mp hx
    exact makes_word (isWord_of_mem_interval (isWord_of_wholeOf hstart) (isWord_of_wholeOf hstop) _ _ hk)
  · simp

lemma yields_elementAt : Yields (Makes args) (elementAt args) := by
  unfold elementAt
  split
  · simp only [yields_ite, yields_bind, yields_pure]
    refine ⟨fun _ => makes_null, fun _ items h position _ => ?_⟩
    dsimp only
    split
    · rename_i item hitem
      obtain ⟨index, _, hindex⟩ := Option.bind_eq_some_iff.mp hitem
      exact yields_pure.mpr (makes_of_toItems (by simp) h (List.mem_of_getElem? hindex))
    · simp
  · simp

/-! ### Contexts -/

lemma makes_of_toEntries {v : Value} {entries : List (String × Value)} (hv : v ∈ args)
    (h : v.toEntries = .ok entries) {key : String} {x : Value} (hx : (key, x) ∈ entries) :
    Makes args x := by
  unfold Value.toEntries at h
  split at h
  · obtain rfl := Except.ok.inj h
    exact .part hv (.binding hx .self)
  · exact absurd h (by simp [Value.fault])

lemma yields_contextEqual : Yields (Makes args) (contextEqual args) := by
  unfold contextEqual
  split <;> simp

lemma yields_contextNotEqual : Yields (Makes args) (contextNotEqual args) := by
  unfold contextNotEqual
  split <;> simp

lemma yields_getValue : Yields (Makes args) (getValue args) := by
  unfold getValue
  split
  · simp only [yields_ite, yields_bind, yields_pure]
    refine ⟨fun _ => makes_null, fun _ entries h key _ => ?_⟩
    dsimp only
    cases hv : Entries.get? key entries with
    | none => exact makes_null
    | some v => exact makes_of_toEntries (by simp) h (mem_of_get? hv)
  · simp

lemma yields_getEntries : Yields (Makes args) (getEntries args) := by
  unfold getEntries
  split
  · simp
  · simp only [yields_bind, yields_pure]
    refine fun entries h => .list fun x hx => ?_
    obtain ⟨⟨key, v⟩, he, rfl⟩ := List.mem_map.mp hx
    refine .context (by simp [Entries.keys]) fun e he' => ?_
    simp only [List.mem_cons, List.not_mem_nil, or_false] at he'
    obtain rfl | rfl := he'
    · exact makes_string _
    · exact makes_of_toEntries (by simp) h he
  · simp

/-! ### All functions -/

/-- Whatever function is called: what it gives back are parts of its arguments, fresh values, and groups
of these. -/
theorem run_makes (f : Builtin) (args : List Value) : Yields (Makes args) (f.run args) := by
  cases f with
  | number => exact yields_number
  | decimal => exact yields_decimal
  | floor => exact yields_onNumber fun n hn => yields_ok.mpr (.fresh (.number (.floor hn)))
  | ceiling => exact yields_onNumber fun n hn => yields_ok.mpr (.fresh (.number (.ceiling hn)))
  | abs => exact yields_onNumber fun n hn => yields_ok.mpr (.fresh (.number (.abs hn)))
  | odd | even => exact yields_onNumber fun n _ => by simp
  | modulo => exact yields_modulo
  | min | max => exact yields_extreme _
  | sum | product => exact yields_onItems fun first rest _ => by simp [total, yields_accumulate]
  | mean => exact yields_onItems fun first rest _ => by simp
  | not => exact yields_negation
  | and => exact yields_conjunction
  | or => exact yields_disjunction
  | string => exact yields_string
  | contains => simp [Builtin.run, Operation.contains, yields_onTexts]
  | startsWith => simp [Builtin.run, Operation.startsWith, yields_onTexts]
  | endsWith => simp [Builtin.run, Operation.endsWith, yields_onTexts]
  | substringBefore => simp [Builtin.run, Operation.substringBefore, yields_onTexts]
  | substringAfter => simp [Builtin.run, Operation.substringAfter, yields_onTexts]
  | stringLength => exact yields_stringLength
  | upperCase => simp [Builtin.run, Operation.upperCase, yields_onText]
  | lowerCase => simp [Builtin.run, Operation.lowerCase, yields_onText]
  | substring => exact yields_substring
  | replace => exact yields_replace
  | matching => exact yields_isMatch
  | date => exact yields_date
  | dateAndTime => exact yields_dateAndTime
  | year => exact yields_dateField isWord_year
  | month => exact yields_dateField isWord_month
  | day => exact yields_dateField isWord_day
  | yearsAndMonthsDuration => exact yields_yearsAndMonthsDuration
  | time => exact yields_time
  | hour => exact yields_timeField fun c => (hour_lt c).trans (by decide)
  | minute | second => exact yields_timeField fun c => Nat.mod_lt _ (by decide)
  | timezone | timeOffset => exact yields_timezone
  | duration => exact yields_duration
  | years | months | days | hours | minutes =>
    exact yields_wholeComponent fun d k hk => by simp [hk]
  | seconds => exact yields_seconds
  | listContains => exact yields_listContains
  | append => exact yields_append
  | count => exact yields_count
  | sublist => exact yields_sublist
  | concatenate => exact yields_concatenate
  | insertBefore => exact yields_insertBefore
  | remove => exact yields_remove
  | reverse => exact yields_reverse
  | indexOf => exact yields_indexOf
  | union => exact yields_union
  | distinctValues => exact yields_distinctValues
  | flatten => exact yields_flatten
  | flattenFirstLevel => exact yields_flattenFirstLevel
  | sort => exact yields_sort
  | asList => exact yields_ok.mpr (.list fun _ hx => .arg hx)
  | asElement => exact yields_asElement
  | rangeToList => exact yields_rangeToList
  | elementAt => exact yields_elementAt
  | contextEqual => exact yields_contextEqual
  | contextNotEqual => exact yields_contextNotEqual
  | getValue => exact yields_getValue
  | getEntries => exact yields_getEntries

end Feel.Proofs
