import Feel.Proofs.PatternSearches

/-!
# Successive matches

The matches of a text are found from left to right and do not overlap, and none of them is empty where the one
before it ends. Replacing them keeps all of the text that is between them.
-/

namespace Feel.Proofs
open Pattern

/-- The matches that are found in turn from a place on. -/
inductive FindsInTurn (prog : Program) : Option ℕ → Place → List Match → Prop
  | done {lastEnd : Option ℕ} {p : Place} (h : prog.searchAfter lastEnd p = none) : FindsInTurn prog lastEnd p []
  | found {lastEnd : Option ℕ} {p : Place} {m : Match} {ms : List Match} (h : prog.searchAfter lastEnd p = some m)
      (hms : FindsInTurn prog (some m.whole.last) (p.skip (m.whole.last - p.position)) ms) :
      FindsInTurn prog lastEnd p (m :: ms)

/-- Matches that follow one another from a position of the text on. -/
inductive InOrder (limit : ℕ) : ℕ → List Match → Prop
  | nil {start : ℕ} (h : start ≤ limit) : InOrder limit start []
  | cons {start : ℕ} {m : Match} {ms : List Match} (hm : LiesBetween start limit m)
      (hms : InOrder limit m.whole.last ms) : InOrder limit start (m :: ms)

/-- The part of a text that a span covers. -/
def covered (text : List Char) (span : Span) : List Char := (text.drop span.first).take (span.last - span.first)

/-- The text of a group, if it took part in the match. -/
def groupText (text : List Char) (m : Match) (i : ℕ) : Option (List Char) := (m.groups.getD i none).map (covered text)

/-- The text from a position on, with new texts in place of spans of it. -/
def splice (text : List Char) (start : ℕ) : List (Span × List Char) → List Char
  | [] => text.drop start
  | (span, new) :: rest => covered text ⟨start, span.first⟩ ++ new ++ splice text span.last rest

/-! ### Places -/

/-- The rest at the place is that of the text. -/
structure IsPlaceOf (text : List Char) (p : Place) : Prop where
  rest_eq : p.rest = text.drop p.position
  position_le : p.position ≤ text.length

section Places

variable {text : List Char} {p : Place}

lemma isPlaceOf_start (text : List Char) : IsPlaceOf text (Place.start text) := ⟨rfl, Nat.zero_le _⟩

lemma IsPlaceOf.length_rest (h : IsPlaceOf text p) : p.position + p.rest.length = text.length := by
  have hle := h.position_le
  rw [h.rest_eq, List.length_drop]
  omega

lemma IsPlaceOf.next (h : IsPlaceOf text p) (hlt : p.position < text.length) :
    IsPlaceOf text p.next ∧ p.next.position = p.position + 1 := by
  have hlength := h.length_rest
  cases hrest : p.rest with
  | nil =>
    rw [hrest, List.length_nil] at hlength
    omega
  | cons c cs =>
    rw [Place.next, hrest]
    refine ⟨⟨?_, hlt⟩, rfl⟩
    rw [← List.drop_drop, ← h.rest_eq, hrest, List.drop_one, List.tail_cons]

lemma IsPlaceOf.skip (h : IsPlaceOf text p) {n : ℕ} (hn : p.position + n ≤ text.length) :
    IsPlaceOf text (p.skip n) ∧ (p.skip n).position = p.position + n := by
  induction n generalizing p with
  | zero => exact ⟨h, rfl⟩
  | succ n ih =>
    obtain ⟨hnext, hposition⟩ := h.next (by omega)
    obtain ⟨hskip, hskipped⟩ := ih hnext (by omega)
    exact ⟨hskip, by rw [Place.skip, hskipped]; omega⟩

lemma IsPlaceOf.slice (h : IsPlaceOf text p) {span : Span} (hle : p.position ≤ span.first) :
    p.slice span = covered text span := by
  rw [Place.slice, covered, h.rest_eq, List.drop_drop, Nat.add_sub_cancel' hle]

/-- The texts of groups can be taken from the place where the search started. -/
lemma IsPlaceOf.map_slice (h : IsPlaceOf text p) {m : Match} {limit : ℕ} (hm : LiesBetween p.position limit m) :
    (fun i => (m.groups.getD i none).map p.slice) = groupText text m := by
  funext i
  rw [groupText]
  cases hgroup : m.groups.getD i none with
  | none => rfl
  | some span =>
    have hspan : some span ∈ m.groups := by
      rw [List.getD_eq_getElem?_getD] at hgroup
      cases hi : m.groups[i]? with
      | none => rw [hi] at hgroup; exact nomatch hgroup
      | some group =>
        rw [hi, Option.getD_some] at hgroup
        exact List.mem_of_getElem? (hgroup ▸ hi)
    exact congrArg some (h.slice (hm.groups span hspan).1)

end Places

/-! ### The next match -/

section Matches

variable {prog : Program} (hprog : IsCompiled prog) {text : List Char} {p : Place} {lastEnd : Option ℕ} {m : Match}

include hprog

/-- The next match lies behind the place, and it is not empty there if another match ends there. -/
lemma liesBetween_of_searchAfter (hp : IsPlaceOf text p) (h : prog.searchAfter lastEnd p = some m) :
    LiesBetween p.position text.length m ∧ (lastEnd = some p.position → p.position < m.whole.last) := by
  rw [Program.searchAfter] at h
  cases hsearch : prog.search p with
  | none =>
    rw [hsearch] at h
    exact nomatch h
  | some found =>
    rw [hsearch] at h
    dsimp only at h
    have hfound := liesBetween_of_search hprog hsearch
    rw [hp.length_rest] at hfound
    split_ifs at h with hempty hend
    · -- The search goes on behind the next character.
      have hlt : p.position < text.length := by
        have hlength := hp.length_rest
        have hpos := List.length_pos_iff.mpr (by simpa using hend)
        omega
      obtain ⟨hnext, hposition⟩ := hp.next hlt
      have hlater := liesBetween_of_search hprog h
      rw [hnext.length_rest, hposition] at hlater
      have hfirst := hlater.first_le
      have hlast := hlater.first_le_last
      exact ⟨hlater.mono (Nat.le_succ _), fun _ => by omega⟩
    · obtain rfl := Option.some.inj h
      refine ⟨hfound, ?_⟩
      rintro rfl
      have hfirst := hfound.first_le
      have hlast := hfound.first_le_last
      simp only [Bool.and_eq_true, beq_iff_eq, Option.some.injEq] at hempty
      omega

/-- Every match is found and replaced, and all else is kept. -/
lemma exists_replaceFrom_eq_splice (new : (ℕ → Option (List Char)) → List Char) {fuel : ℕ} (hp : IsPlaceOf text p)
    (hlast : lastEnd = none ∨ lastEnd = some p.position)
    (hfuel : p.rest.length + (if lastEnd.isNone then 1 else 0) < fuel) :
    ∃ ms, FindsInTurn prog lastEnd p ms ∧ InOrder text.length p.position ms ∧
      prog.replaceFrom new fuel lastEnd p =
        splice text p.position (ms.map fun m => (m.whole, new (groupText text m))) := by
  induction fuel generalizing p lastEnd with
  | zero => exact absurd hfuel (Nat.not_lt_zero _)
  | succ fuel ih =>
    rw [Program.replaceFrom]
    cases hsearch : prog.searchAfter lastEnd p with
    | none => exact ⟨[], .done hsearch, .nil hp.position_le, hp.rest_eq⟩
    | some m =>
      obtain ⟨hm, hprogress⟩ := liesBetween_of_searchAfter hprog hp hsearch
      have hfirst := hm.first_le
      have hordered := hm.first_le_last
      have hlimit := hm.last_le
      obtain ⟨hskip, hposition⟩ := hp.skip (n := m.whole.last - p.position) (by omega)
      have hthere : (p.skip (m.whole.last - p.position)).position = m.whole.last := by omega
      have hlength := hp.length_rest
      have hlength' := hskip.length_rest
      have hfuel' : (p.skip (m.whole.last - p.position)).rest.length + 0 < fuel := by
        obtain rfl | rfl := hlast
        · simp only [Option.isNone_none, if_true] at hfuel
          omega
        · have hlt := hprogress rfl
          omega
      obtain ⟨ms, hms, horder, hreplaced⟩ := ih hskip (.inr (congrArg some hthere.symm)) hfuel'
      rw [hthere] at horder hreplaced
      refine ⟨m :: ms, .found hsearch hms, .cons hm horder, ?_⟩
      dsimp only
      rw [hreplaced, hp.map_slice hm, hp.slice le_rfl]
      rfl

/-- The matches of the text are found in turn, and each is replaced. -/
theorem exists_replace_eq_splice (new : (ℕ → Option (List Char)) → List Char) (text : List Char) :
    ∃ ms, FindsInTurn prog none (Place.start text) ms ∧ InOrder text.length 0 ms ∧
      prog.replace new text = splice text 0 (ms.map fun m => (m.whole, new (groupText text m))) := by
  refine exists_replaceFrom_eq_splice hprog new (isPlaceOf_start text) (.inl rfl) ?_
  show text.length + 1 < 2 * text.length + 2
  omega

end Matches

end Feel.Proofs
