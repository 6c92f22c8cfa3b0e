import Feel.Proofs.FunctionNames
import Feel.Proofs.Provenance

/-!
# Where faults come from

`Faults` says of a computation that it fails with no other faults than those with a property. Its rules
take the steps of a computation apart, as those of `Yields` do. No function blames its name, and a
function blames the count of its arguments only if it is not registered with that count. There is a lemma
about each function, or about the operation that it is an instance of, and `run_faults` about all of them.
-/

namespace Feel.Proofs
open Operation

/-! ### Faults of computations -/

/-- The fault of a computation has the property, if there is one. -/
def Faults {ε α : Type} (P : ε → Prop) (x : Except ε α) : Prop := ∀ e, x = .error e → P e

section Faults

variable {ε α β : Type} {P : ε → Prop}

@[simp] lemma faults_ok (a : α) : Faults P (.ok a : Except ε α) := by simp [Faults]

@[simp] lemma faults_pure (a : α) : Faults P (pure a : Except ε α) := faults_ok a

@[simp] lemma faults_error {e : ε} : Faults P (.error e : Except ε α) ↔ P e := by simp [Faults]

@[simp] lemma faults_throw {e : ε} : Faults P (throw e : Except ε α) ↔ P e := faults_error

@[simp] lemma faults_true (x : Except ε α) : Faults (fun _ => True) x := fun _ _ => trivial

@[simp] lemma faults_bind {x : Except ε β} {f : β → Except ε α} :
    Faults P (x >>= f) ↔ Faults P x ∧ Yields (fun b => Faults P (f b)) x := by
  cases x <;> simp [bind, Except.bind]

@[simp] lemma faults_map {x : Except ε β} {f : β → α} : Faults P (x.map f) ↔ Faults P x := by
  cases x <;> simp [Except.map]

@[simp] lemma faults_functorMap {x : Except ε β} {f : β → α} : Faults P (f <$> x) ↔ Faults P x :=
  faults_map

@[simp] lemma faults_mapError {ε' : Type} {x : Except ε' α} {f : ε' → ε} :
    Faults P (x.mapError f) ↔ Faults (fun e => P (f e)) x := by
  cases x <;> simp [Except.mapError]

@[simp] lemma faults_ite {c : Prop} [Decidable c] {x y : Except ε α} :
    Faults P (if c then x else y) ↔ (c → Faults P x) ∧ (¬c → Faults P y) := by
  split_ifs with h <;> simp [h]

lemma faults_foldlM {f : β → α → Except ε β} (h : ∀ b a, Faults P (f b a)) (items : List α)
    (start : β) : Faults P (items.foldlM f start) := by
  induction items generalizing start with
  | nil => simp
  | cons item items ih => simp [List.foldlM_cons, h, Yields, ih]

lemma faults_mapM {f : α → Except ε β} (h : ∀ a, Faults P (f a)) (items : List α) :
    Faults P (items.mapM f) := by
  induction items with
  | nil => simp
  | cons item items ih => simp [List.mapM_cons, h, ih]

end Faults

/-! ### Faults of functions -/

/-- The faults that a function with this arity may have with these arguments: any but that of its name,
and that of their count only if the arity does not accept it. -/
def IsFaultOf (arity : Arity) (args : List Value) : Fault → Prop
  | .unknownFunction _ => False
  | .argumentCount expected found =>
    expected = arity ∧ found = args.length ∧ arity.accepts args.length = false
  | _ => True

@[simp] lemma isFaultOf_panic (arity : Arity) (args : List Value) (why : Panic) :
    IsFaultOf arity args (.panic why) := trivial

section Arity

variable {args : List Value}

lemma length_eq_four {α : Type} {l : List α} : l.length = 4 ↔ ∃ a b c d, l = [a, b, c, d] := by
  match l with
  | [] | [_] | [_, _] | [_, _, _] | [_, _, _, _] | _ :: _ :: _ :: _ :: _ :: _ => simp

@[simp] lemma not_accepts_one : (Arity.exactly 1).accepts args.length = false ↔ ∀ a, args ≠ [a] := by
  simp [Arity.accepts, List.length_eq_one_iff]

@[simp] lemma not_accepts_two :
    (Arity.exactly 2).accepts args.length = false ↔ ∀ a b, args ≠ [a, b] := by
  simp [Arity.accepts, List.length_eq_two]

@[simp] lemma not_accepts_three :
    (Arity.exactly 3).accepts args.length = false ↔ ∀ a b c, args ≠ [a, b, c] := by
  simp [Arity.accepts, List.length_eq_three]

@[simp] lemma not_accepts_four :
    (Arity.exactly 4).accepts args.length = false ↔ ∀ a b c d, args ≠ [a, b, c, d] := by
  simp [Arity.accepts, length_eq_four]

@[simp] lemma not_accepts_oneOf {count : ℕ} {counts : List ℕ} {n : ℕ} :
    (Arity.oneOf (count :: counts)).accepts n = false ↔
      (Arity.exactly count).accepts n = false ∧ (Arity.oneOf counts).accepts n = false := by
  simp [Arity.accepts]

@[simp] lemma not_accepts_none {n : ℕ} : (Arity.oneOf []).accepts n = false := rfl

end Arity

section FaultOrigins

variable {arity : Arity} {args : List Value}

@[simp] lemma faults_miscount :
    Faults (IsFaultOf arity args) (arity.miscount args) ↔ arity.accepts args.length = false := by
  simp [Arity.miscount, IsFaultOf]

@[simp] lemma faults_fault {α : Type} (v : Value) (wanted : Wanted) :
    Faults (IsFaultOf arity args) (v.fault wanted : Except Fault α) := by
  simp [Value.fault, IsFaultOf]

/-! ### Arguments taken for what they are -/

@[simp] lemma faults_toNumber (v : Value) : Faults (IsFaultOf arity args) v.toNumber := by
  cases v <;> simp [Value.toNumber]

@[simp] lemma faults_toText (v : Value) : Faults (IsFaultOf arity args) v.toText := by
  cases v <;> simp [Value.toText]

@[simp] lemma faults_toBool (v : Value) : Faults (IsFaultOf arity args) v.toBool := by
  cases v <;> simp [Value.toBool]

@[simp] lemma faults_toItems (v : Value) : Faults (IsFaultOf arity args) v.toItems := by
  cases v <;> simp [Value.toItems]

@[simp] lemma faults_toEntries (v : Value) : Faults (IsFaultOf arity args) v.toEntries := by
  cases v <;> simp [Value.toEntries]

@[simp] lemma faults_toComparator (v : Value) : Faults (IsFaultOf arity args) v.toComparator := by
  cases v <;> simp [Value.toComparator]

@[simp] lemma faults_toDuration (v : Value) : Faults (IsFaultOf arity args) v.toDuration := by
  cases v <;> simp [Value.toDuration]

@[simp] lemma faults_itemsOrNone (v : Value) : Faults (IsFaultOf arity args) (itemsOrNone v) := by
  unfold itemsOrNone
  split <;> simp

@[simp] lemma faults_flagsOf (v : Value) : Faults (IsFaultOf arity args) (flagsOf v) := by
  unfold flagsOf
  split <;> simp

@[simp] lemma faults_whole (lo hi : ℤ) (n : Decimal) :
    Faults (IsFaultOf arity args) (n.whole lo hi) := by
  simp [Decimal.whole, IsFaultOf]

@[simp] lemma faults_word (n : Decimal) : Faults (IsFaultOf arity args) n.word := faults_whole _ _ n

@[simp] lemma faults_halfWord (n : Decimal) : Faults (IsFaultOf arity args) n.halfWord :=
  faults_whole _ _ n

@[simp] lemma faults_count (n : Decimal) : Faults (IsFaultOf arity args) n.count := by
  simp [Decimal.count]

@[simp] lemma faults_splitSeconds (n : Decimal) : Faults (IsFaultOf arity args) n.splitSeconds := by
  simp [Decimal.splitSeconds, IsFaultOf]

@[simp] lemma faults_wholeOf (v : Value) : Faults (IsFaultOf arity args) (wholeOf v) := by simp [wholeOf]

/-! ### Numbers and truth values -/

@[simp] lemma faults_working (n : Decimal) : Faults (IsFaultOf arity args) (working n) := by
  unfold working
  split <;> simp [IsFaultOf]

@[simp] lemma faults_numberOf (source : String) (numeral : Option (List Char)) :
    Faults (IsFaultOf arity args) (numberOf source numeral) := by
  unfold numberOf
  split <;> simp [IsFaultOf]

lemma faults_number : Faults (IsFaultOf (.oneOf [1, 3]) args) (number args) := by
  unfold number
  split <;> simp_all [IsFaultOf]

lemma faults_decimal : Faults (IsFaultOf (.exactly 2) args) (decimal args) := by
  unfold decimal
  split <;> simp_all

lemma faults_onNumber {f : Decimal → Except Fault Value}
    (hf : ∀ n, Faults (IsFaultOf (.exactly 1) args) (f n)) :
    Faults (IsFaultOf (.exactly 1) args) (onNumber f args) := by
  unfold onNumber
  split <;> simp_all

lemma faults_modulo : Faults (IsFaultOf (.exactly 2) args) (modulo args) := by
  unfold modulo
  split <;> simp_all [IsFaultOf]

lemma faults_parity (wantOdd : Bool) : Faults (IsFaultOf (.exactly 1) args) (parity wantOdd args) :=
  faults_onNumber fun n => by simp [IsFaultOf]

lemma faults_onItems {f : Value → List Value → Except Fault Value}
    (hf : ∀ first rest, Faults (IsFaultOf arity args) (f first rest)) :
    Faults (IsFaultOf arity args) (onItems f args) := by
  unfold onItems
  split <;> simp [hf]

@[simp] lemma faults_compare (a b : Value) : Faults (IsFaultOf arity args) (a.compare b) := by
  unfold Value.compare
  split
  case h_6 => split <;> simp
  all_goals simp

lemma faults_extreme (wanted : Ordering) : Faults (IsFaultOf arity args) (extreme wanted args) :=
  faults_onItems fun first rest => by simp [faults_foldlM]

@[simp] lemma faults_accumulate (f : Decimal → Decimal → Decimal) (start : Decimal)
    (items : List Value) : Faults (IsFaultOf arity args) (accumulate f start items) :=
  faults_foldlM (by simp) items start

lemma faults_negation : Faults (IsFaultOf (.exactly 1) args) (negation args) := by
  unfold negation
  split <;> simp_all

lemma faults_conjunction : Faults (IsFaultOf arity args) (conjunction args) := by
  unfold conjunction
  split <;> simp

lemma faults_disjunction : Faults (IsFaultOf arity args) (disjunction args) := by
  unfold disjunction
  split <;> simp

/-! ### Texts -/

lemma faults_string : Faults (IsFaultOf (.exactly 1) args) (Operation.string args) := by
  unfold Operation.string
  split <;> simp_all

lemma faults_onTexts (f : List Char → List Char → Value) :
    Faults (IsFaultOf (.exactly 2) args) (onTexts f args) := by
  unfold onTexts
  split <;> simp_all

lemma faults_onText (f : List Char → Value) :
    Faults (IsFaultOf (.exactly 1) args) (onText f args) := by
  unfold onText
  split <;> simp_all

@[simp] lemma faults_slice (text : List Char) (start : ℤ) (length : Option Value) :
    Faults (IsFaultOf arity args) (slice text start length) := by
  unfold slice
  split
  · split <;> simp [IsFaultOf]
  · simp [IsFaultOf]

lemma faults_substring : Faults (IsFaultOf (.oneOf [2, 3]) args) (substring args) := by
  unfold substring
  split <;> simp_all

@[simp] lemma faults_matching (text pattern flags : Value) :
    Faults (IsFaultOf arity args) (matching text pattern flags) := by
  simp [matching, IsFaultOf]

lemma faults_isMatch : Faults (IsFaultOf (.oneOf [2, 3]) args) (isMatch args) := by
  unfold isMatch
  split <;> simp_all

@[simp] lemma faults_replacing (text pattern replacement flags : Value) :
    Faults (IsFaultOf arity args) (replacing text pattern replacement flags) := by
  simp [replacing, IsFaultOf]

lemma faults_replace : Faults (IsFaultOf (.oneOf [3, 4]) args) (replace args) := by
  unfold replace
  split <;> simp_all

/-! ### Dates, times and durations -/

@[simp] lemma faults_dateParse (text : String) :
    Faults (IsFaultOf arity args) (Date.parse text) := by
  unfold Date.parse
  split <;> simp [IsFaultOf]

@[simp] lemma faults_timeParse (text : String) :
    Faults (IsFaultOf arity args) (OffsetTime.parse text) := by
  unfold OffsetTime.parse
  split <;> simp [IsFaultOf]

@[simp] lemma faults_dateTimeParse [Zones] (text : String) :
    Faults (IsFaultOf arity args) (DateTime.parse text) := by
  unfold DateTime.parse DateTime.parseIn
  split <;> simp [IsFaultOf]

@[simp] lemma faults_durationParse (text : String) :
    Faults (IsFaultOf arity args) (Duration.parse text) := by
  unfold Duration.parse
  split
  · simp [IsFaultOf]
  · simp [Duration.ofComponents, Duration.ofSeconds, IsFaultOf]

lemma faults_onKnown {f : Value → Except Fault Value}
    (hf : ∀ v, Faults (IsFaultOf (.exactly 1) args) (f v)) :
    Faults (IsFaultOf (.exactly 1) args) (onKnown f args) := by
  unfold onKnown
  split <;> simp_all

@[simp] lemma faults_dateOfFields (year month day : Value) :
    Faults (IsFaultOf arity args) (dateOfFields year month day) := by
  simp only [dateOfFields, faults_bind, faults_toNumber, faults_halfWord, faults_count, true_and]
  iterate 6 intro _ _
  split <;> simp [IsFaultOf]

lemma faults_date : Faults (IsFaultOf (.oneOf [1, 3]) args) (Operation.date args) := by
  unfold Operation.date
  split <;> simp_all

@[simp] lemma faults_localDate (v : Value) : Faults (IsFaultOf arity args) (localDate v) := by
  unfold localDate
  split <;> simp

@[simp] lemma faults_dateTimeAtUtc (shown : LocalDateTime) :
    Faults (IsFaultOf arity args) (dateTimeAtUtc shown) := by
  simp [dateTimeAtUtc, IsFaultOf]

@[simp] lemma faults_combine (day time : Value) :
    Faults (IsFaultOf arity args) (combine day time) := by
  unfold combine
  split <;> simp

lemma faults_dateAndTime [Zones] : Faults (IsFaultOf (.oneOf [1, 2]) args) (dateAndTime args) := by
  unfold dateAndTime
  split <;> simp_all

lemma faults_dateField (field : Date → ℤ) :
    Faults (IsFaultOf (.exactly 1) args) (dateField field args) :=
  faults_onKnown fun v => by simp

@[simp] lemma faults_localDateTime (v : Value) :
    Faults (IsFaultOf arity args) (localDateTime v) := by
  unfold localDateTime
  split <;> simp

lemma faults_yearsAndMonthsDuration :
    Faults (IsFaultOf (.exactly 2) args) (yearsAndMonthsDuration args) := by
  unfold yearsAndMonthsDuration
  split <;> simp_all

@[simp] lemma faults_clockOfFields (hour minute second : Value) :
    Faults (IsFaultOf arity args) (clockOfFields hour minute second) := by
  simp only [clockOfFields, faults_bind, faults_toNumber, faults_count, faults_splitSeconds, true_and]
  iterate 6 intro _ _
  split <;> simp [IsFaultOf]

@[simp] lemma faults_offsetOfDuration (d : Duration) :
    Faults (IsFaultOf arity args) (offsetOfDuration d) := by
  unfold offsetOfDuration
  split
  · simp [IsFaultOf]
  · rw [faults_ite, faults_ite]
    refine ⟨fun _ => faults_error.mpr trivial, fun _ => ⟨fun _ => faults_error.mpr trivial, fun _ => ?_⟩⟩
    split <;> simp [IsFaultOf]

lemma faults_time : Faults (IsFaultOf (.oneOf [1, 3, 4]) args) (Operation.time args) := by
  unfold Operation.time
  split <;> simp_all

@[simp] lemma faults_localTime (v : Value) : Faults (IsFaultOf arity args) (localTime v) := by
  unfold localTime
  split <;> simp

lemma faults_timeField (field : Clock → ℕ) :
    Faults (IsFaultOf (.exactly 1) args) (timeField field args) :=
  faults_onKnown fun v => by simp

lemma faults_timezone : Faults (IsFaultOf (.exactly 1) args) (timezone args) :=
  faults_onKnown fun v => by simp

lemma faults_duration : Faults (IsFaultOf (.exactly 1) args) (Operation.duration args) :=
  faults_onKnown fun v => by split <;> simp

lemma faults_component (part : Duration → Option Value) :
    Faults (IsFaultOf (.exactly 1) args) (component part args) :=
  faults_onKnown fun v => by simp

/-! ### Lists and contexts -/

lemma faults_onList (f : List Value → Value) :
    Faults (IsFaultOf (.exactly 1) args) (onList f args) := by
  unfold onList
  split <;> simp_all

lemma faults_onKnownList (f : List Value → Value) :
    Faults (IsFaultOf (.exactly 1) args) (onKnownList f args) := by
  unfold onKnownList
  split <;> simp_all

lemma faults_listContains : Faults (IsFaultOf (.exactly 2) args) (listContains args) := by
  unfold listContains
  split <;> simp_all

lemma faults_append : Faults (IsFaultOf (.atLeast 1) args) (append args) := by
  unfold append
  split
  · exact faults_miscount.mpr rfl
  · simp

@[simp] lemma faults_sublistFrom (items : List Value) (start : ℤ) (length : Option Value) :
    Faults (IsFaultOf arity args) (sublistFrom items start length) := by
  unfold sublistFrom
  split
  · split <;> simp [IsFaultOf]
  · simp

lemma faults_sublist : Faults (IsFaultOf (.oneOf [2, 3]) args) (sublist args) := by
  unfold sublist
  split <;> simp_all

@[simp] lemma faults_joined (lists : List Value) : Faults (IsFaultOf arity args) (joined lists) := by
  simp [joined, faults_mapM]

lemma faults_concatenate : Faults (IsFaultOf arity args) (concatenate args) := by simp [concatenate]

lemma faults_union : Faults (IsFaultOf arity args) (union args) := by simp [union]

lemma faults_insertBefore : Faults (IsFaultOf (.exactly 3) args) (insertBefore args) := by
  unfold insertBefore
  split
  · simp only [faults_bind, faults_ite, faults_itemsOrNone, faults_wholeOf, faults_pure, true_and]
    refine fun items _ => ⟨fun _ => trivial, fun _ index _ => ?_⟩
    dsimp only
    split <;> simp
  · simp_all

lemma faults_remove : Faults (IsFaultOf (.exactly 2) args) (remove args) := by
  unfold remove
  split <;> simp_all [IsFaultOf]

lemma faults_indexOf : Faults (IsFaultOf (.exactly 2) args) (indexOf args) := by
  unfold indexOf
  split <;> simp_all

lemma faults_sort : Faults (IsFaultOf (.exactly 2) args) (sort args) := by
  unfold sort
  split <;> simp_all

lemma faults_rangeToList : Faults (IsFaultOf (.exactly 4) args) (rangeToList args) := by
  unfold rangeToList
  split
  · simp [IsFaultOf]
  · simp_all

lemma faults_elementAt : Faults (IsFaultOf (.exactly 2) args) (elementAt args) := by
  unfold elementAt
  split
  · simp only [faults_ite, faults_bind, faults_toItems, faults_wholeOf, faults_pure, true_and]
    refine ⟨fun _ => trivial, fun _ items _ position _ => ?_⟩
    dsimp only
    split <;> simp [IsFaultOf]
  · simp_all

@[simp] lemma faults_equalContexts (a b : Value) :
    Faults (IsFaultOf arity args) (equalContexts a b) := by
  unfold equalContexts
  split <;> simp

lemma faults_contextEqual : Faults (IsFaultOf (.exactly 2) args) (contextEqual args) := by
  unfold contextEqual
  split <;> simp_all

lemma faults_contextNotEqual : Faults (IsFaultOf (.exactly 2) args) (contextNotEqual args) := by
  unfold contextNotEqual
  split <;> simp_all

lemma faults_getValue : Faults (IsFaultOf (.exactly 2) args) (getValue args) := by
  unfold getValue
  split <;> simp_all

lemma faults_getEntries : Faults (IsFaultOf (.exactly 1) args) (getEntries args) := by
  unfold getEntries
  split <;> simp_all

end FaultOrigins

/-! ### Every function -/

theorem run_faults [Zones] (f : Builtin) (args : List Value) :
    Faults (IsFaultOf f.arity args) (f.run args) := by
  cases f with
  | number => exact faults_number
  | decimal => exact faults_decimal
  | floor | ceiling | abs => exact faults_onNumber fun n => by simp
  | modulo => exact faults_modulo
  | odd | even => exact faults_parity _
  | min | max => exact faults_extreme _
  | sum | mean | product => exact faults_onItems fun first rest => by simp [total]
  | not => exact faults_negation
  | and => exact faults_conjunction
  | or => exact faults_disjunction
  | string => exact faults_string
  | contains | startsWith | endsWith | substringBefore | substringAfter =>
    simp only [Builtin.run, Builtin.arity, contains, startsWith, endsWith, substringBefore,
      substringAfter, faults_onTexts]
  | stringLength | upperCase | lowerCase =>
    simp only [Builtin.run, Builtin.arity, stringLength, upperCase, lowerCase, faults_onText]
  | substring => exact faults_substring
  | replace => exact faults_replace
  | matching => exact faults_isMatch
  | date => exact faults_date
  | dateAndTime => exact faults_dateAndTime
  | year | month | day => exact faults_dateField _
  | yearsAndMonthsDuration => exact faults_yearsAndMonthsDuration
  | time => exact faults_time
  | hour | minute | second => exact faults_timeField _
  | timezone | timeOffset => exact faults_timezone
  | duration => exact faults_duration
  | years | months | days | hours | minutes | seconds => exact faults_component _
  | listContains => exact faults_listContains
  | append => exact faults_append
  | count | reverse | distinctValues => exact faults_onList _
  | sublist => exact faults_sublist
  | concatenate => exact faults_concatenate
  | insertBefore => exact faults_insertBefore
  | remove => exact faults_remove
  | indexOf => exact faults_indexOf
  | union => exact faults_union
  | flatten | flattenFirstLevel | asElement => exact faults_onKnownList _
  | sort => exact faults_sort
  | asList => exact faults_ok _
  | rangeToList => exact faults_rangeToList
  | elementAt => exact faults_elementAt
  | contextEqual => exact faults_contextEqual
  | contextNotEqual => exact faults_contextNotEqual
  | getValue => exact faults_getValue
  | getEntries => exact faults_getEntries

lemma tryCall_faults [Zones] {name : String} {f : Builtin} (h : IsNameOf name f) (args : List Value) :
    Faults (IsFaultOf f.arity args) (tryCall name args) := by
  by_cases hcount : f.arity.accepts args.length = true
  · rw [tryCall_of_accepts h hcount]
    exact run_faults f args
  · rw [tryCall_of_not_accepts h hcount, faults_error]
    exact ⟨rfl, rfl, Bool.eq_false_iff.mpr hcount⟩

/-- A call is refused for its name exactly if no function has that name. Otherwise it is refused for the
count of its arguments exactly if the function is not registered with that count; with every other count
the function runs, and does not find fault with the count itself. -/
theorem tryCall_refusals [Zones] (name : String) (args : List Value) :
    ((∃ unknown, tryCall name args = .error (.unknownFunction unknown)) ↔ ∀ f, ¬IsNameOf name f) ∧
    ((∀ f, ¬IsNameOf name f) → tryCall name args = .error (.unknownFunction name)) ∧
    ∀ f, IsNameOf name f →
      ((∃ expected found, tryCall name args = .error (.argumentCount expected found)) ↔
        f.arity.accepts args.length = false) ∧
      (f.arity.accepts args.length = false →
        tryCall name args = .error (.argumentCount f.arity args.length)) ∧
      (f.arity.accepts args.length = true → tryCall name args = f.run args ∧
        ∀ expected found, f.run args ≠ .error (.argumentCount expected found)) := by
  refine ⟨⟨?_, fun h => ⟨name, tryCall_of_unknown h args⟩⟩, fun h => tryCall_of_unknown h args, ?_⟩
  · rintro ⟨unknown, hfault⟩ f hname
    exact tryCall_faults hname args _ hfault
  · intro f hname
    have hrefused (hcount : f.arity.accepts args.length = false) :
        tryCall name args = .error (.argumentCount f.arity args.length) :=
      tryCall_of_not_accepts hname (Bool.eq_false_iff.mp hcount)
    refine ⟨⟨?_, fun hcount => ⟨_, _, hrefused hcount⟩⟩, hrefused, fun hcount => ⟨?_, ?_⟩⟩
    · rintro ⟨expected, found, hfault⟩
      obtain ⟨-, -, hcount⟩ := tryCall_faults hname args _ hfault
      exact hcount
    · exact tryCall_of_accepts hname hcount
    · intro expected found hfault
      obtain ⟨-, -, hrefused⟩ := run_faults f args _ hfault
      exact absurd hcount (Bool.eq_false_iff.mp hrefused)

/-- Two arguments, one of them null, are refused for their count, although the function itself would answer
null. -/
theorem tryCall_refusals_timeOfTwo :
    IsNameOf "time" .time ∧ Builtin.arity .time = .oneOf [1, 3, 4] ∧
    Builtin.run .time [.null, .ofInt 2] = .ok .null ∧
    tryCall "time" [.null, .ofInt 2] = .error (.argumentCount (.oneOf [1, 3, 4]) 2) ∧
    (∀ f, ¬IsNameOf "Time" f) ∧
    tryCall "Time" [.null] = .error (.unknownFunction "Time") := by
  have hknown : IsNameOf "time" .time := by decide
  have hunknown : ∀ f, ¬IsNameOf "Time" f := fun f => by cases f <;> decide
  obtain ⟨-, -, hcount⟩ := tryCall_refusals "time" [.null, .ofInt 2]
  obtain ⟨-, hname, -⟩ := tryCall_refusals "Time" [.null]
  exact ⟨hknown, rfl, rfl, (hcount .time hknown).2.1 rfl, hunknown, hname hunknown⟩

end Feel.Proofs
