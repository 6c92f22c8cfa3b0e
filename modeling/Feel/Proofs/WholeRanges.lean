import Feel.Operation.Lists
import Feel.Proofs.Provenance
import Feel.Proofs.WholeDecimals
import Mathlib

/-!
# Ranges of whole numbers

A range lists the whole numbers between its ends, either of which may be excluded, and is refused if there
are more than ten million of them. Some ranges without any number are refused as well: those that would
start after the last word of 64 bits or end before the first one, and those that are reversed so far that
the difference of their ends is no word.
-/

namespace Feel.Proofs

instance (k : ℤ) : Decidable (IsWord k) := inferInstanceAs (Decidable (_ ∧ _))

/-- All whole numbers with a property, each once and in ascending order. -/
structure Enumerates (items : List ℤ) (P : ℤ → Prop) : Prop where
  mem_iff : ∀ k, k ∈ items ↔ P k
  ascending : items.Pairwise (· < ·)

/-- The ends of a range, which are words, and whether they are excluded. -/
structure WordRange where
  openStart : Bool
  start : ℤ
  openEnd : Bool
  stop : ℤ
  isWord_start : IsWord start
  isWord_stop : IsWord stop

namespace WordRange

/-- A whole number between the ends. -/
def Holds (r : WordRange) (k : ℤ) : Prop :=
  (if r.openStart then r.start < k else r.start ≤ k) ∧ (if r.openEnd then k < r.stop else k ≤ r.stop)

/-- The number that a range starts with, unless it is empty. -/
def first (r : WordRange) : ℤ := if r.openStart then r.start + 1 else r.start

/-- The number that a range ends with, unless it is empty. -/
def last (r : WordRange) : ℤ := if r.openEnd then r.stop - 1 else r.stop

/-- The call for a range, whatever form its ends are held in. -/
def call (r : WordRange) (start stop : Decimal) : Except Fault Value :=
  Operation.rangeToList [.boolean r.openStart, .number start, .boolean r.openEnd, .number stop]

/-- The outcome is the list of these numbers if they are at most ten million, and a refusal else. -/
structure Materializes (r : WordRange) (outcome : Except Fault Value) (items : List ℤ) : Prop where
  ok_of_length_le : items.length ≤ 10000000 → outcome = .ok (.list (items.map .ofInt))
  error_of_lt_length :
    10000000 < items.length → outcome = .error (.badArgument (.rangeTooLong r.first r.last))

/-- The first number would be after the last word, or the last one before the first word. -/
def IsBeyond (r : WordRange) : Prop := 2 ^ 63 ≤ r.first ∨ r.last < -2 ^ 63

instance (r : WordRange) : Decidable r.IsBeyond := inferInstanceAs (Decidable (_ ∨ _))

/-- An empty range that is refused: one that is beyond the words, or reversed too far. -/
def IsRefusedEmpty (r : WordRange) : Prop := r.IsBeyond ∨ r.last - r.first < -2 ^ 63

instance (r : WordRange) : Decidable r.IsRefusedEmpty := inferInstanceAs (Decidable (_ ∨ _))

end WordRange

/-! ### Intervals -/

lemma Enumerates.unique {items others : List ℤ} {P : ℤ → Prop} (h : Enumerates items P)
    (ho : Enumerates others P) : items = others :=
  h.ascending.eq_of_mem_iff ho.ascending fun k => (h.mem_iff k).trans (ho.mem_iff k).symm

lemma length_interval (first last : ℤ) :
    (Sequence.interval first last).length = (last - first + 1).toNat := by
  rw [Sequence.interval, List.length_map, List.length_range]

lemma mem_interval {first last k : ℤ} : k ∈ Sequence.interval first last ↔ first ≤ k ∧ k ≤ last := by
  simp only [Sequence.interval, List.mem_map, List.mem_range]
  constructor
  · rintro ⟨i, hi, rfl⟩
    omega
  · rintro ⟨hlo, hhi⟩
    exact ⟨(k - first).toNat, by omega, by omega⟩

lemma interval_ascending (first last : ℤ) : (Sequence.interval first last).Pairwise (· < ·) := by
  rw [Sequence.interval, List.pairwise_map]
  refine List.pairwise_lt_range.imp fun {i j} hij => ?_
  omega

namespace WordRange

lemma holds_iff (r : WordRange) (k : ℤ) : r.Holds k ↔ r.first ≤ k ∧ k ≤ r.last := by
  unfold Holds first last
  split_ifs <;> omega

lemma enumerates_interval (r : WordRange) : Enumerates (Sequence.interval r.first r.last) r.Holds where
  mem_iff k := mem_interval.trans (r.holds_iff k).symm
  ascending := interval_ascending _ _

/-- Only an empty range has an end beyond the words, since its ends are words or next to one. -/
lemma IsRefusedEmpty.lt {r : WordRange} (h : r.IsRefusedEmpty) : r.last < r.first := by
  have hstart := r.isWord_start
  have hstop := r.isWord_stop
  unfold IsRefusedEmpty IsBeyond first last at *
  unfold IsWord Word.max64 at hstart hstop
  split_ifs at h ⊢ <;> omega

lemma IsRefusedEmpty.interval_eq_nil {r : WordRange} (h : r.IsRefusedEmpty) :
    Sequence.interval r.first r.last = [] := by
  have hlt := h.lt
  rw [← List.length_eq_zero_iff, length_interval]
  omega

lemma IsRefusedEmpty.enumerates_nil {r : WordRange} (h : r.IsRefusedEmpty) : Enumerates [] r.Holds := by
  rw [← h.interval_eq_nil]
  exact r.enumerates_interval

/-! ### Outcomes -/

section Call

variable (r : WordRange) {start stop : Decimal} (hstart : value start = r.start) (hstop : value stop = r.stop)

include hstart hstop

lemma call_eq : r.call start stop =
    if r.IsBeyond then .error .overflow
    else if r.last - r.first < -2 ^ 63 ∨ 10000000 ≤ r.last - r.first then
      .error (.badArgument (.rangeTooLong r.first r.last))
    else .ok (.list ((Sequence.interval r.first r.last).map .ofInt)) := by
  have hfrom : Operation.wholeOf (.number start) = .ok r.start :=
    (word_eq_ok_iff start r.start).mpr ⟨hstart, r.isWord_start⟩
  have hto : Operation.wholeOf (.number stop) = .ok r.stop :=
    (word_eq_ok_iff stop r.stop).mpr ⟨hstop, r.isWord_stop⟩
  have hbeyond : (Word.max64 < r.first ∨ r.last < -(Word.max64 : ℤ) - 1) ↔ r.IsBeyond := by
    unfold IsBeyond Word.max64
    omega
  have hlong (d : ℤ) :
      (d < -(Word.max64 : ℤ) - 1 ∨ Operation.maxRangeLength ≤ d) ↔ (d < -2 ^ 63 ∨ 10000000 ≤ d) := by
    unfold Operation.maxRangeLength Word.max64
    omega
  simp only [call, Operation.rangeToList, Value.toBool, anyNull, List.any_cons, List.any_nil, Value.isNull,
    hfrom, hto, Bind.bind, Except.bind, Bool.or_false, Bool.false_eq_true, if_false]
  change (if _ < r.first ∨ r.last < _ then _ else if _ ∨ _ ≤ r.last - r.first then _ else _) = _
  simp only [hbeyond, hlong]
  rfl

lemma call_of_isRefusedEmpty (h : r.IsRefusedEmpty) : r.call start stop =
    .error (if r.IsBeyond then .overflow else .badArgument (.rangeTooLong r.first r.last)) := by
  rw [r.call_eq hstart hstop]
  split_ifs with hbeyond hlong
  · rfl
  · rfl
  · exact absurd (Or.inl (h.resolve_left hbeyond)) hlong

/-- The whole numbers of a range are listed if they are at most ten million, and refused if they are more,
exactly if the range is not an empty one that is refused. -/
theorem call_materializes_iff :
    (∃! items, Enumerates items r.Holds) ∧
      (∀ items, Enumerates items r.Holds →
        (r.Materializes (r.call start stop) items ↔ ¬r.IsRefusedEmpty)) ∧
      (r.IsRefusedEmpty → Enumerates [] r.Holds ∧ r.call start stop =
        .error (if r.IsBeyond then .overflow else .badArgument (.rangeTooLong r.first r.last))) := by
  have hitems := r.enumerates_interval
  refine ⟨⟨_, hitems, fun items h => h.unique hitems⟩, fun items h => ?_,
    fun h => ⟨h.enumerates_nil, r.call_of_isRefusedEmpty hstart hstop h⟩⟩
  obtain rfl := h.unique hitems
  constructor
  · intro hgives hrefused
    have hok := hgives.ok_of_length_le (by rw [hrefused.interval_eq_nil]; decide)
    rw [r.call_of_isRefusedEmpty hstart hstop hrefused] at hok
    exact absurd hok (by simp)
  · intro hkept
    have hwithin : ¬r.IsBeyond := fun hbeyond => hkept (Or.inl hbeyond)
    have hnear : ¬r.last - r.first < -2 ^ 63 := fun hfar => hkept (Or.inr hfar)
    have hlength := length_interval r.first r.last
    rw [r.call_eq hstart hstop, if_neg hwithin]
    constructor
    · intro hfew
      exact if_neg (by omega)
    · intro hmany
      exact if_pos (by omega)

end Call

/-- The last three words, the first of them excluded. -/
def lastWords : WordRange where
  openStart := true
  start := 2 ^ 63 - 3
  openEnd := false
  stop := 2 ^ 63 - 1
  isWord_start := by decide
  isWord_stop := by decide

theorem call_materializes_lastWords :
    value (.ofInt (2 ^ 63 - 3)) = lastWords.start ∧ value (.ofInt (2 ^ 63 - 1)) = lastWords.stop ∧
      Enumerates [2 ^ 63 - 2, 2 ^ 63 - 1] lastWords.Holds ∧
      lastWords.Materializes (Operation.rangeToList [.boolean true, .number (.ofInt (2 ^ 63 - 3)),
        .boolean false, .number (.ofInt (2 ^ 63 - 1))]) [2 ^ 63 - 2, 2 ^ 63 - 1] := by
  have hstart : value (.ofInt (2 ^ 63 - 3)) = lastWords.start := value_ofInt _
  have hstop : value (.ofInt (2 ^ 63 - 1)) = lastWords.stop := value_ofInt _
  obtain ⟨-, hgives, -⟩ := lastWords.call_materializes_iff hstart hstop
  have hitems := lastWords.enumerates_interval
  exact ⟨hstart, hstop, hitems, (hgives _ hitems).mpr (by decide)⟩

/-- From the last word back to the first one. -/
def reversedWords : WordRange where
  openStart := false
  start := 2 ^ 63 - 1
  openEnd := false
  stop := -2 ^ 63
  isWord_start := by decide
  isWord_stop := by decide

/-- What follows the last word. -/
def afterWords : WordRange where
  openStart := true
  start := 2 ^ 63 - 1
  openEnd := false
  stop := 2 ^ 63 - 1
  isWord_start := by decide
  isWord_stop := by decide

/-- Neither range holds a number, but both are refused. -/
theorem call_refused_empty :
    Enumerates [] reversedWords.Holds ∧
      Operation.rangeToList [.boolean false, .number (.ofInt (2 ^ 63 - 1)), .boolean false,
        .number (.ofInt (-2 ^ 63))] = .error (.badArgument (.rangeTooLong (2 ^ 63 - 1) (-2 ^ 63))) ∧
      Enumerates [] afterWords.Holds ∧
      Operation.rangeToList [.boolean true, .number (.ofInt (2 ^ 63 - 1)), .boolean false,
        .number (.ofInt (2 ^ 63 - 1))] = .error .overflow := by
  have hreversed : reversedWords.IsRefusedEmpty := by decide
  have hafter : afterWords.IsRefusedEmpty := by decide
  exact ⟨hreversed.enumerates_nil,
    reversedWords.call_of_isRefusedEmpty (value_ofInt _) (value_ofInt _) hreversed,
    hafter.enumerates_nil, afterWords.call_of_isRefusedEmpty (value_ofInt _) (value_ofInt _) hafter⟩

end WordRange

end Feel.Proofs
