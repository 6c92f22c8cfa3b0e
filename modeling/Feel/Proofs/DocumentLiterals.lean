import Feel.Library
import Feel.Proofs.DurationOutcomes

/-!
# Literals of documents

A literal enters by two ways: a document holds it, or a conversion function is called on its text. For
dates, times, date-times and numbers both ways agree on every text. Only the function for durations
takes white space off the ends of the text, and makes null of a text without anything else.
-/

namespace Feel.Proofs
open Text

/-- The value of a document agrees with a call: it is the answer, where the call gives one other than
null, and its fault is the fault of the call. -/
structure Agrees [Zones] (tag : Tag) (json : Json) (call : Except Fault Value) : Prop where
  ok_iff : ∀ next v after,
    Value.decode next json = .ok (v, after) ↔ call = .ok v ∧ v ≠ .null ∧ after = next
  error_iff : ∀ next fault,
    Value.decode next json = .error fault ↔ ∃ cause, call = .error cause ∧ fault = ⟨tag, cause⟩

/-- A document whose value comes from a reader of texts. -/
def ReadsAs [Zones] (tag : Tag) (json : Json) (read : Except Fault Value) : Prop :=
  read ≠ .ok .null ∧
    ∀ next, Value.decode next json = (read.mapError fun e => ⟨tag, e⟩).map (·, next)

lemma answer_eq_ok_iff {tag : Tag} {read : Except Fault Value} {next after : ℕ} {v : Value} :
    (read.mapError fun e => (⟨tag, e⟩ : DecodeFault)).map (·, next) = .ok (v, after) ↔
      read = .ok v ∧ after = next := by
  cases read <;> simp [Except.map, Except.mapError, eq_comm]

lemma answer_eq_error_iff {tag : Tag} {read : Except Fault Value} {next : ℕ} {fault : DecodeFault} :
    (read.mapError fun e => (⟨tag, e⟩ : DecodeFault)).map (·, next) = .error fault ↔
      ∃ cause, read = .error cause ∧ fault = ⟨tag, cause⟩ := by
  cases read <;> simp [Except.map, Except.mapError, eq_comm]

/-- Agreement with a call is that the reader answers as the call does. -/
lemma ReadsAs.agrees_iff [Zones] {tag : Tag} {json : Json} {read call : Except Fault Value}
    (h : ReadsAs tag json read) : Agrees tag json call ↔ call = read := by
  obtain ⟨hnull, hdecode⟩ := h
  constructor
  · intro hagrees
    cases read with
    | ok v => exact ((hagrees.ok_iff 0 v 0).mp (hdecode 0)).1
    | error e =>
      obtain ⟨cause, hcall, hfault⟩ := (hagrees.error_iff 0 ⟨tag, e⟩).mp (hdecode 0)
      rw [hcall, (DecodeFault.mk.inj hfault).2]
  · rintro rfl
    refine ⟨fun next v after => ?_, fun next fault => ?_⟩
    · rw [hdecode, answer_eq_ok_iff]
      constructor
      · rintro ⟨hv, hafter⟩
        exact ⟨hv, fun hn => hnull (hv.trans (congrArg Except.ok hn)), hafter⟩
      · rintro ⟨hv, -, hafter⟩
        exact ⟨hv, hafter⟩
    · rw [hdecode, answer_eq_error_iff]

/-! ### Objects with a tag -/

/-- The object that stands for a literal. -/
def taggedLiteral (tag : Tag) (s : String) : Json := .object [(tag.name, .string s)]

lemma map_ne_ok_null {α : Type} {f : α → Value} (h : ∀ a, f a ≠ .null) (x : Except Fault α) :
    x.map f ≠ .ok .null := by
  cases x with
  | ok a => exact fun heq => h a (Except.ok.inj heq)
  | error e => simp [Except.map]

lemma readsAs_tagged [Zones] {α : Type} {tag : Tag} {s : String} {x : Except Fault α} {f : α → Value}
    (hread : Tag.readLiteral? tag.name s = some (tag, x.map f)) (hnull : ∀ a, f a ≠ .null) :
    ReadsAs tag (taggedLiteral tag s) (x.map f) := by
  refine ⟨map_ne_ok_null hnull x, fun next => ?_⟩
  have htag : Entries.get? Tag.comparator.name [(tag.name, Json.string s)] = none := by
    cases tag with
    | comparator =>
      have hnone : Tag.readLiteral? Tag.comparator.name s = none := rfl
      exact absurd (hnone.symm.trans hread) (by simp)
    | _ => rfl
  rw [taggedLiteral, Value.decode, htag]
  simp only [Value.readTagged?, hread]

/-! ### Durations -/

lemma readsAs_duration [Zones] (s : String) :
    ReadsAs .duration (taggedLiteral .duration s) ((Duration.parse s).map .duration) :=
  readsAs_tagged rfl (by simp)

lemma eq_of_durationParse_malformed {text other : String} {kind : LiteralKind}
    (h : Duration.parse text = .error (.malformed kind other)) : other = text := by
  by_cases hl : ∃ l : DurationLiteral, l.text = text.toList
  · obtain ⟨l, hl⟩ := hl
    obtain ⟨-, hp⟩ | ⟨-, -, e, hp, -⟩ | ⟨-, -, hp | ⟨n, hp⟩⟩ := durationParse_cases hl
    all_goals exact absurd (h.symm.trans hp) (by simp)
  · have heq := h.symm.trans (durationParse_of_no_literal hl)
    exact (Fault.malformed.inj (Except.error.inj heq)).2

/-- No literal of a duration has white space. -/
lemma durationParse_of_trim_ne {s : String} (h : trim s.toList ≠ s.toList) :
    Duration.parse s = .error (.malformed .duration s) := by
  refine durationParse_of_no_literal fun ⟨l, hl⟩ => h (trim_eq_self ?_)
  exact not_isBlank_of_readLiteral? (readLiteral?_eq_some_iff_literal.mpr ⟨l, hl, rfl, rfl⟩)

lemma duration_run [Zones] (s : String) :
    Builtin.duration.run [.string s] =
      if trim s.toList = [] then .ok .null
      else (Duration.parse (String.ofList (trim s.toList))).map .duration := by
  show (if (trim s.toList).isEmpty then _ else _) = _
  simp only [List.isEmpty_iff]

lemma trim_eq_of_durationParse_eq {s : String}
    (h : (Duration.parse (String.ofList (trim s.toList))).map Value.duration =
      (Duration.parse s).map .duration) :
    trim s.toList = s.toList := by
  by_contra hne
  -- Both report their own text, and these texts differ.
  rw [durationParse_of_trim_ne hne] at h
  cases hparse : Duration.parse (String.ofList (trim s.toList)) with
  | ok d =>
    rw [hparse] at h
    exact absurd h (by simp [Except.map])
  | error e =>
    rw [hparse] at h
    obtain rfl := Except.error.inj h
    have hs := congrArg String.toList (eq_of_durationParse_malformed hparse)
    exact hne (hs.trans String.toList_ofList).symm

/-- The function answers as the reader does exactly on the texts that it takes nothing from. -/
lemma duration_run_eq_iff [Zones] (s : String) :
    Builtin.duration.run [.string s] = (Duration.parse s).map .duration ↔
      s ≠ "" ∧ trim s.toList = s.toList := by
  rw [duration_run]
  constructor
  · intro h
    split_ifs at h with hempty
    · exact absurd h.symm (map_ne_ok_null (fun d => by simp) _)
    · refine ⟨?_, trim_eq_of_durationParse_eq h⟩
      rintro rfl
      exact hempty rfl
  · rintro ⟨hne, htrim⟩
    have hempty : s.toList ≠ [] := by
      intro hnil
      exact hne (String.toList_eq_nil_iff.mp hnil)
    rw [htrim, if_neg hempty, String.ofList_toList]

/-! ### Numbers -/

/-- The exponent as a document keeps it: with a small letter and a sign. -/
def Exponent.kept (e : Exponent) : Exponent :=
  { e with
    marker := 'e'
    signs := if e.signs = [] then [.plus] else e.signs
    marker_eq := Or.inl rfl }

/-- The numeral as a document keeps it. -/
def Numeral.kept (n : Numeral) : Numeral := { n with exponent := n.exponent.map Exponent.kept }

lemma readExponent?_kept (e : Exponent) :
    Decimal.readExponent? e.kept.tail = Decimal.readExponent? e.tail := by
  unfold Exponent.kept Exponent.tail
  split_ifs with hsigns
  · have hdigits := dropPlus_eq_self (head?_ne_of_allDigits e.allDigits .plus)
    rw [hsigns, List.map_nil, List.nil_append, Decimal.readExponent?, Decimal.readExponent?, hdigits]
    rfl
  · rfl

/-- What a numeral denotes does not depend on the letter of its exponent, nor on a plus sign there. -/
lemma ofNumeral?_kept (n : Numeral) : Decimal.ofNumeral? n.kept.text = Decimal.ofNumeral? n.text := by
  rw [Decimal.ofNumeral?, Decimal.ofNumeral?, splitSign_text, splitSign_text]
  simp only [splitOnce_body, splitOnce_mantissa]
  simp only [Numeral.kept]
  cases n.exponent with
  | none => rfl
  | some e =>
    simp only [Option.map_some, readExponent?_kept]
    rfl

lemma number_run [Zones] {s : String} (h : trim s.toList ≠ []) :
    Builtin.number.run [.string s] = Value.ofNumeral s := by
  have hblank : Operation.isBlankText s = false := by
    rw [Operation.isBlankText, List.isEmpty_eq_false_iff]
    exact h
  simp only [Builtin.run, Operation.number, Value.isNull, Value.toText, hblank, Bind.bind, Except.bind,
    Bool.false_eq_true, if_false]
  rfl

lemma readsAs_number [Zones] (s : String) : ReadsAs .number (.number s) (Value.ofNumeral s) := by
  refine ⟨?_, fun next => by rw [Value.decode]⟩
  unfold Value.ofNumeral
  split
  · simp [Value.ofDecimal]
  · simp

section Reading

variable {cs text rest : List Char}

lemma readDigits?_eq_some (h : Json.readDigits? cs = some (text, rest)) :
    cs = text ++ rest ∧ text ≠ [] ∧ AllDigits text := by
  unfold Json.readDigits? at h
  dsimp only at h
  split_ifs at h with hempty
  obtain ⟨rfl, rfl⟩ := Prod.mk.inj (Option.some.inj h)
  exact ⟨List.takeWhile_append_dropWhile.symm, List.isEmpty_iff.not.mp hempty,
    fun c hc => List.mem_takeWhile_imp hc⟩

lemma readFraction?_eq_some (h : Json.readFraction? cs = some (text, rest)) :
    ∃ fraction : Option (List Char), AllDigits (fraction.getD []) ∧
      text = Numeral.fractionText fraction ∧ cs = text ++ rest := by
  unfold Json.readFraction? at h
  split at h
  · obtain ⟨⟨digits, rest'⟩, hdigits, heq⟩ := Option.map_eq_some_iff.mp h
    obtain ⟨rfl, rfl⟩ := Prod.mk.inj heq
    obtain ⟨rfl, -, hall⟩ := readDigits?_eq_some hdigits
    exact ⟨some digits, hall, rfl, rfl⟩
  · obtain ⟨rfl, rfl⟩ := Prod.mk.inj (Option.some.inj h)
    exact ⟨none, fun c hc => absurd hc List.not_mem_nil, rfl, rfl⟩

section Exponents

variable {marker : Char} (hmarker : marker = 'e' ∨ marker = 'E')
include hmarker

/-- The text before the digits is the one that is kept, with a plus sign where there is none. -/
lemma exists_exponent_of_readDigits? {front : List Char} (signs : List Sign)
    (h : (Json.readDigits? cs).map (fun (digits, rest) => (front ++ digits, rest)) = some (text, rest))
    (hfront : front = (if signs = [] then [.plus] else signs).map Sign.char) :
    ∃ e : Exponent, e.marker = marker ∧ signs.map Sign.char ++ cs = e.tail ++ rest ∧
      text = e.kept.tail := by
  obtain ⟨⟨digits, rest'⟩, hdigits, heq⟩ := Option.map_eq_some_iff.mp h
  obtain ⟨rfl, rfl⟩ := Prod.mk.inj heq
  obtain ⟨rfl, hne, hall⟩ := readDigits?_eq_some hdigits
  refine ⟨⟨marker, signs, digits, hmarker, hne, hall⟩, rfl, ?_, ?_⟩
  · rw [Exponent.tail, List.append_assoc]
  · rw [hfront]
    rfl

lemma readSignedDigits?_eq_some (h : Json.readSignedDigits? cs = some (text, rest)) :
    ∃ e : Exponent, e.marker = marker ∧ cs = e.tail ++ rest ∧ text = e.kept.tail := by
  unfold Json.readSignedDigits? at h
  split at h
  · exact exists_exponent_of_readDigits? hmarker [.minus] h rfl
  · exact exists_exponent_of_readDigits? hmarker [.plus] h rfl
  · exact exists_exponent_of_readDigits? hmarker [] h rfl

end Exponents

lemma readExponent?_eq_some (h : Json.readExponent? cs = some (text, rest)) :
    ∃ exponent : Option Exponent, cs = Numeral.exponentText exponent ++ rest ∧
      text = Numeral.exponentText (exponent.map Exponent.kept) := by
  unfold Json.readExponent? at h
  split at h
  · rename_i c cs
    split_ifs at h with hmarker
    · obtain ⟨⟨tail, rest'⟩, htail, heq⟩ := Option.map_eq_some_iff.mp h
      obtain ⟨rfl, rfl⟩ := Prod.mk.inj heq
      rw [Bool.or_eq_true, beq_iff_eq, beq_iff_eq] at hmarker
      obtain ⟨e, rfl, rfl, rfl⟩ := readSignedDigits?_eq_some hmarker htail
      exact ⟨some e, rfl, rfl⟩
    · obtain ⟨rfl, rfl⟩ := Prod.mk.inj (Option.some.inj h)
      exact ⟨none, rfl, rfl⟩
  · obtain ⟨rfl, rfl⟩ := Prod.mk.inj (Option.some.inj h)
    exact ⟨none, rfl, rfl⟩

lemma readMagnitude?_eq_some (h : Json.readMagnitude? cs = some (text, rest)) :
    ∃ n : Numeral, n.sign = none ∧ cs = n.body ++ rest ∧ text = n.kept.body := by
  unfold Json.readMagnitude? at h
  simp only [Option.bind_eq_bind, Option.bind_eq_some_iff] at h
  obtain ⟨⟨whole, afterWhole⟩, hwhole, h⟩ := h
  split_ifs at h
  · exact absurd h (by simp)
  · simp only [Option.bind_eq_some_iff] at h
    obtain ⟨⟨fraction, afterFraction⟩, hfraction, ⟨exponent, rest'⟩, hexponent, h⟩ := h
    obtain ⟨rfl, rfl⟩ := Prod.mk.inj (Option.some.inj h)
    obtain ⟨rfl, hne, hallWhole⟩ := readDigits?_eq_some hwhole
    obtain ⟨fraction, hallFraction, rfl, rfl⟩ := readFraction?_eq_some hfraction
    obtain ⟨exponent, rfl, rfl⟩ := readExponent?_eq_some hexponent
    let n : Numeral :=
      { sign := none, whole, fraction, exponent, mantissa_ne_nil := Or.inl hne,
        allDigits_whole := hallWhole, allDigits_fraction := hallFraction }
    refine ⟨n, rfl, ?_, rfl⟩
    rw [Numeral.body, Numeral.mantissa, List.append_assoc, List.append_assoc]

/-- A document keeps a number as the numeral that stands there, but for the spelling of its exponent. -/
lemma readNumber?_eq_some (h : Json.readNumber? cs = some (text, rest)) :
    ∃ n : Numeral, cs = n.text ++ rest ∧ text = n.kept.text := by
  unfold Json.readNumber? at h
  split at h
  · obtain ⟨⟨body, rest'⟩, hbody, heq⟩ := Option.map_eq_some_iff.mp h
    obtain ⟨rfl, rfl⟩ := Prod.mk.inj heq
    obtain ⟨n, -, rfl, rfl⟩ := readMagnitude?_eq_some hbody
    exact ⟨{ n with sign := some .minus }, rfl, rfl⟩
  · obtain ⟨n, hsign, rfl, rfl⟩ := readMagnitude?_eq_some h
    refine ⟨n, ?_, ?_⟩
    · rw [Numeral.text, hsign]
      rfl
    · show n.kept.body = (n.sign.map Sign.char).toList ++ n.kept.body
      rw [hsign]
      rfl

end Reading

lemma number_run_text [Zones] (n : Numeral) :
    Builtin.number.run [.string (String.ofList n.text)] = Value.ofNumeral (String.ofList n.text) := by
  apply number_run
  rw [String.toList_ofList]
  exact n.trim_text_ne_nil

/-- The number that a document holds is the number of the text that stands there. -/
lemma number_run_kept [Zones] (n : Numeral) (v : Value) :
    Builtin.number.run [.string (String.ofList n.text)] = .ok v ↔
      Builtin.number.run [.string (String.ofList n.kept.text)] = .ok v := by
  rw [number_run_text, number_run_text, Value.ofNumeral, Value.ofNumeral, String.toList_ofList,
    String.toList_ofList, Decimal.parse?, Decimal.parse?, ofNumeral?_kept]
  cases (Decimal.ofNumeral? n.text).bind Decimal.toWorking? with
  | none => simp
  | some d => exact Iff.rfl

/-! ### Agreement -/

/-- For every text: an object with the tag of dates, of times or of date-times agrees with the function
on the text. One with the tag of durations agrees with the function exactly if the text has something
and no white space at its ends; on the other texts it is no value. A number agrees with the function on
the text that the document keeps of it, and the function gives the same number on the text that stands
there. -/
theorem decode_agrees [Zones] (s : String) (cs kept rest : List Char) :
    Agrees .date (taggedLiteral .date s) (Builtin.date.run [.string s]) ∧
    Agrees .time (taggedLiteral .time s) (Builtin.time.run [.string s]) ∧
    Agrees .dateTime (taggedLiteral .dateTime s) (Builtin.dateAndTime.run [.string s]) ∧
    (Agrees .duration (taggedLiteral .duration s) (Builtin.duration.run [.string s]) ↔
      s ≠ "" ∧ trim s.toList = s.toList) ∧
    (s = "" ∨ trim s.toList ≠ s.toList →
      ∀ next, Value.decode next (taggedLiteral .duration s) =
        .error ⟨.duration, .malformed .duration s⟩) ∧
    (Json.readNumber? cs = some (kept, rest) →
      Agrees .number (.number (String.ofList kept))
        (Builtin.number.run [.string (String.ofList kept)]) ∧
      ∃ written, cs = written ++ rest ∧ ∀ v,
        Builtin.number.run [.string (String.ofList written)] = .ok v ↔
          Builtin.number.run [.string (String.ofList kept)] = .ok v) := by
  refine ⟨?_, ?_, ?_, ?_, fun h next => ?_, fun h => ⟨?_, ?_⟩⟩
  · have hreads : ReadsAs .date (taggedLiteral .date s) ((Date.parse s).map .date) :=
      readsAs_tagged rfl (by simp)
    exact hreads.agrees_iff.mpr rfl
  · have hreads : ReadsAs .time (taggedLiteral .time s) ((OffsetTime.parse s).map .time) :=
      readsAs_tagged rfl (by simp)
    exact hreads.agrees_iff.mpr rfl
  · have hreads : ReadsAs .dateTime (taggedLiteral .dateTime s) ((DateTime.parse s).map .dateTime) :=
      readsAs_tagged rfl (by simp)
    exact hreads.agrees_iff.mpr rfl
  · rw [(readsAs_duration s).agrees_iff, duration_run_eq_iff]
  · rw [(readsAs_duration s).2]
    obtain rfl | hne := h
    · rfl
    · rw [durationParse_of_trim_ne hne]
      rfl
  · obtain ⟨n, -, rfl⟩ := readNumber?_eq_some h
    exact (readsAs_number _).agrees_iff.mpr (number_run_text n.kept)
  · obtain ⟨n, hcs, rfl⟩ := readNumber?_eq_some h
    exact ⟨n.text, hcs, number_run_kept n⟩

/-- A number with an exponent, as it stands in an array, and a tag with an empty text. -/
theorem decode_agrees_exponent :
    Json.readNumber? ['1', 'E', '5', ']'] = some (['1', 'e', '+', '5'], [']']) ∧
      Agrees .number (.number (String.ofList ['1', 'e', '+', '5']))
        (Builtin.number.run [.string (String.ofList ['1', 'e', '+', '5'])]) ∧
      Value.decode 0 (taggedLiteral .duration "") = .error ⟨.duration, .malformed .duration ""⟩ := by
  have hread : Json.readNumber? ['1', 'E', '5', ']'] = some (['1', 'e', '+', '5'], [']']) := by decide
  obtain ⟨-, -, -, -, hduration, hnumber⟩ := decode_agrees "" _ _ _
  exact ⟨hread, (hnumber hread).1, hduration (Or.inl rfl) 0⟩

/-- After a space the function reads the literal of a year, and the document has no value. -/
theorem decode_duration_leadingSpace :
    Value.decode 0 (taggedLiteral .duration " P1Y") = .error ⟨.duration, .malformed .duration " P1Y"⟩ ∧
      Builtin.duration.run [.string " P1Y"] = .ok (.duration (.months 12)) ∧
      ¬Agrees .duration (taggedLiteral .duration " P1Y") (Builtin.duration.run [.string " P1Y"]) := by
  have hdecode : Value.decode 0 (taggedLiteral .duration " P1Y") =
      .error ⟨.duration, .malformed .duration " P1Y"⟩ := rfl
  have hparse : Duration.parse (String.ofList (trim " P1Y".toList)) = .ok (.months 12) := by
    decide +kernel
  have hrun : Builtin.duration.run [.string " P1Y"] = .ok (.duration (.months 12)) := by
    rw [duration_run, if_neg (by decide), hparse]
    rfl
  refine ⟨hdecode, hrun, fun h => ?_⟩
  have hok := (h.ok_iff 0 _ 0).mpr ⟨hrun, by simp, rfl⟩
  exact absurd (hdecode.symm.trans hok) (by simp)

end Feel.Proofs
