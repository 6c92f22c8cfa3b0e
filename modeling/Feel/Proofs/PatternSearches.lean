import Feel.Pattern
import Feel.Proofs.PatternPrograms

/-!
# Searches with patterns

A thread records positions of the text in order, and the last one that it records before it accepts is the end
of the whole match. So a match lies behind the place where the search starts, and none of its groups ends behind
it.
-/

namespace Feel.Proofs
open Pattern

/-! ### Threads -/

/-- The positions recorded by a thread lie between the start of the search and the current one. In front of the
accepting instruction the end of the whole match has just been recorded. -/
structure IsRecorded (first position : ℕ) (t : Thread) : Prop where
  two_le_size : 2 ≤ t.slots.size
  between : ∀ i v : ℕ, t.slots[i]? = some (some v) → first ≤ v ∧ v ≤ position
  close_eq : t.pc = 0 → t.slots[1]? = some (some position)

/-- The slots of a match that ends at a position of the text: all others lie before it. -/
structure IsAccepted (first limit : ℕ) (slots : Slots) (last : ℕ) : Prop where
  le_limit : last ≤ limit
  close_eq : slots[1]? = some (some last)
  between : ∀ i v : ℕ, slots[i]? = some (some v) → first ≤ v ∧ v ≤ last

section Threads

variable {code : Array Inst} {first position limit pc : ℕ} {t : Thread} {inst : Inst}

lemma IsRecorded.moveTo (h : IsRecorded first position t) (hpc : 0 < pc) :
    IsRecorded first position ⟨pc, t.slots⟩ :=
  ⟨h.two_le_size, h.between, fun hzero => absurd hzero hpc.ne'⟩

lemma IsRecorded.advance (h : IsRecorded first position t) (hpc : 0 < pc) :
    IsRecorded first (position + 1) ⟨pc, t.slots⟩ where
  two_le_size := h.two_le_size
  between i v hv := ⟨(h.between i v hv).1, (h.between i v hv).2.trans (Nat.le_succ position)⟩
  close_eq hzero := absurd hzero hpc.ne'

lemma IsRecorded.save {slot : ℕ} (h : IsRecorded first position t) (hfirst : first ≤ position)
    (hnext : pc = 0 → slot = 1) :
    IsRecorded first position ⟨pc, t.slots.setIfInBounds slot (some position)⟩ where
  two_le_size := by
    rw [Array.size_setIfInBounds]
    exact h.two_le_size
  between i v hv := by
    rw [Array.getElem?_setIfInBounds] at hv
    split_ifs at hv
    · obtain rfl := Option.some.inj (Option.some.inj hv)
      exact ⟨hfirst, le_rfl⟩
    · exact h.between i v hv
  close_eq hzero := by
    have hsize : 1 < t.slots.size := h.two_le_size
    rw [hnext hzero, Array.getElem?_setIfInBounds, if_pos rfl, if_pos hsize]

lemma EndsOnce.eq_zero_of_accept (hcode : EndsOnce code) (h : code[pc]? = some .accept) : pc = 0 := by
  match pc with
  | 0 => rfl
  | 1 => exact nomatch hcode.close.symm.trans h
  | pc + 2 => exact (hcode.isInner (pc + 2) _ (by omega) h).elim

/-- An instruction is inner, it accepts, or it records the end of the whole match. -/
lemma EndsOnce.isInner_or (hcode : EndsOnce code) (h : code[pc]? = some inst) :
    IsInner inst ∨ inst = .accept ∨ inst = .save 1 0 := by
  match pc with
  | 0 => exact .inr (.inl (Option.some.inj (h.symm.trans hcode.accept)))
  | 1 => exact .inr (.inr (Option.some.inj (h.symm.trans hcode.close)))
  | pc + 2 => exact .inl (hcode.isInner (pc + 2) _ (by omega) h)

variable (hcode : EndsOnce code)

include hcode

lemma EndsOnce.isInner_choice {nexts : List ℕ} (h : code[pc]? = some (.choice nexts)) : ∀ next ∈ nexts, 0 < next := by
  simpa [IsInner] using hcode.isInner_or h

lemma EndsOnce.pos_look {condition : Look} {next : ℕ} (h : code[pc]? = some (.look condition next)) : 0 < next := by
  simpa [IsInner] using hcode.isInner_or h

lemma EndsOnce.pos_chars {set : CharSet} {next : ℕ} (h : code[pc]? = some (.chars set next)) : 0 < next := by
  simpa [IsInner] using hcode.isInner_or h

lemma EndsOnce.eq_one_of_save {slot next : ℕ} (h : code[pc]? = some (.save slot next)) (hnext : next = 0) :
    slot = 1 := by
  have hinner := hcode.isInner_or h
  simp only [IsInner, reduceCtorEq, Inst.save.injEq, false_or] at hinner
  omega

/-- Instructions that take no character keep what a thread has recorded. -/
lemma forall_follow {p : Place} {fuel : ℕ} {todo ready : List Thread} {seen : Array Bool} (hfirst : first ≤ p.position)
    (htodo : ∀ t ∈ todo, IsRecorded first p.position t) (hready : ∀ t ∈ ready, IsRecorded first p.position t) :
    ∀ t ∈ follow code p fuel todo seen ready, IsRecorded first p.position t := by
  fun_induction follow code p fuel todo seen ready with
  | case1 => exact hready
  | case2 => exact hready
  | case3 fuel t todo seen ready _ ih => exact ih (List.forall_mem_cons.mp htodo).2 hready
  | case4 fuel t todo seen ready _ _ nexts hinst ih =>
    obtain ⟨ht, htodo⟩ := List.forall_mem_cons.mp htodo
    refine ih (List.forall_mem_append.mpr ⟨?_, htodo⟩) hready
    exact List.forall_mem_map.mpr fun next hnext => ht.moveTo (hcode.isInner_choice hinst next hnext)
  | case5 fuel t todo seen ready _ _ condition next hinst _ ih =>
    obtain ⟨ht, htodo⟩ := List.forall_mem_cons.mp htodo
    exact ih (List.forall_mem_cons.mpr ⟨ht.moveTo (hcode.pos_look hinst), htodo⟩) hready
  | case6 fuel t todo seen ready _ _ condition next hinst _ ih => exact ih (List.forall_mem_cons.mp htodo).2 hready
  | case7 fuel t todo seen ready _ _ slot next hinst ih =>
    obtain ⟨ht, htodo⟩ := List.forall_mem_cons.mp htodo
    exact ih (List.forall_mem_cons.mpr ⟨ht.save hfirst (hcode.eq_one_of_save hinst), htodo⟩) hready
  | case8 fuel t todo seen ready _ _ set next hinst ih =>
    obtain ⟨ht, htodo⟩ := List.forall_mem_cons.mp htodo
    exact ih htodo (List.forall_mem_cons.mpr ⟨ht, hready⟩)
  | case9 fuel t todo seen ready _ _ hinst ih =>
    obtain ⟨ht, htodo⟩ := List.forall_mem_cons.mp htodo
    exact ih htodo (List.forall_mem_cons.mpr ⟨ht, hready⟩)
  | case10 fuel t todo seen ready _ _ hinst ih => exact ih (List.forall_mem_cons.mp htodo).2 hready

/-- A character moves threads on, and a thread that accepts has ended the match here. -/
lemma forall_advance {c : Option Char} {ts : List Thread} (hlimit : position ≤ limit)
    (hts : ∀ t ∈ ts, IsRecorded first position t) :
    (∀ t ∈ (advance code c ts).1, IsRecorded first (position + 1) t) ∧
      ∀ slots ∈ (advance code c ts).2, IsAccepted first limit slots position := by
  fun_induction advance code c ts with
  | case1 => simp
  | case2 t ts hinst =>
    have ht := hts t List.mem_cons_self
    refine ⟨by simp, ?_⟩
    rintro slots ⟨⟩
    exact ⟨hlimit, ht.close_eq (hcode.eq_zero_of_accept hinst), ht.between⟩
  | case3 t ts set next hinst moved hit heq _ ih =>
    obtain ⟨ht, hts⟩ := List.forall_mem_cons.mp hts
    obtain ⟨hmoved, hhit⟩ := heq ▸ ih hts
    exact ⟨List.forall_mem_cons.mpr ⟨ht.advance (hcode.pos_chars hinst), hmoved⟩, hhit⟩
  | case4 t ts set next _ moved hit heq _ ih => exact heq ▸ ih (List.forall_mem_cons.mp hts).2
  | case5 t ts _ _ ih => exact ih (List.forall_mem_cons.mp hts).2

end Threads

/-! ### Searches -/

/-- The threads at a place: those that wait there and, while nothing has been accepted, one that starts there. -/
def threadsAt (prog : Program) (waiting : List Thread) (best : Option Slots) : List Thread :=
  if best.isNone then waiting ++ [⟨prog.start, Array.replicate (2 * prog.groups) none⟩] else waiting

/-- The threads behind the next character, and what is accepted in front of it. -/
def stepAt (prog : Program) (edges : ℕ) (threads : List Thread) (p : Place) : List Thread × Option Slots :=
  advance prog.code p.rest.head?
    (follow prog.code p (edges + threads.length) threads (Array.replicate prog.code.size false) []).reverse

section Search

variable {prog : Program} {first limit edges position : ℕ} {waiting threads : List Thread} {best : Option Slots}
  {before : Option Char} {rest : List Char} {p : Place}

lemma run_nil : prog.run edges waiting best before position [] =
    if (threadsAt prog waiting best).isEmpty then best
    else (stepAt prog edges (threadsAt prog waiting best) ⟨before, position, []⟩).2 <|> best := by
  rw [Program.run]
  rfl

lemma run_cons {c : Char} : prog.run edges waiting best before position (c :: rest) =
    if (threadsAt prog waiting best).isEmpty then best
    else
      let stepped := stepAt prog edges (threadsAt prog waiting best) ⟨before, position, c :: rest⟩
      prog.run edges stepped.1 (stepped.2 <|> best) (some c) (position + 1) rest := by
  rw [Program.run]
  rfl

variable (hprog : IsCompiled prog)

include hprog

lemma isRecorded_start (first position : ℕ) :
    IsRecorded first position ⟨prog.start, Array.replicate (2 * prog.groups) none⟩ where
  two_le_size := by
    have hgroups := hprog.groups_pos
    rw [Array.size_replicate]
    omega
  between i v hv := by
    rw [Array.getElem?_replicate] at hv
    split_ifs at hv
    exact nomatch Option.some.inj hv
  close_eq hzero := absurd hzero hprog.start_pos.ne'

lemma forall_threadsAt (hwaiting : ∀ t ∈ waiting, IsRecorded first position t) :
    ∀ t ∈ threadsAt prog waiting best, IsRecorded first position t := by
  unfold threadsAt
  split_ifs
  · exact List.forall_mem_append.mpr
      ⟨hwaiting, List.forall_mem_singleton.mpr (isRecorded_start hprog first position)⟩
  · exact hwaiting

lemma forall_stepAt (hfirst : first ≤ p.position) (hlimit : p.position ≤ limit)
    (hthreads : ∀ t ∈ threads, IsRecorded first p.position t)
    (hbest : ∀ slots ∈ best, ∃ last, IsAccepted first limit slots last) :
    (∀ t ∈ (stepAt prog edges threads p).1, IsRecorded first (p.position + 1) t) ∧
      ∀ slots ∈ ((stepAt prog edges threads p).2 <|> best), ∃ last, IsAccepted first limit slots last := by
  have hready (fuel : ℕ) (seen : Array Bool) :
      ∀ t ∈ (follow prog.code p fuel threads seen []).reverse, IsRecorded first p.position t := fun t ht =>
    forall_follow hprog.endsOnce hfirst hthreads (List.forall_mem_nil _) t (List.mem_reverse.mp ht)
  obtain ⟨hmoved, hhit⟩ := forall_advance (c := p.rest.head?) hprog.endsOnce hlimit (hready _ _)
  refine ⟨hmoved, fun slots hslots => ?_⟩
  obtain hslots | ⟨-, hslots⟩ := (Option.orElse_eq_some _ _ _).mp hslots
  · exact ⟨p.position, hhit slots hslots⟩
  · exact hbest slots hslots

/-- What a run accepts lies between the start of the search and the end of the text. -/
lemma exists_isAccepted_run (hfirst : first ≤ position) (hlimit : position + rest.length = limit)
    (hwaiting : ∀ t ∈ waiting, IsRecorded first position t)
    (hbest : ∀ slots ∈ best, ∃ last, IsAccepted first limit slots last) :
    ∀ slots ∈ prog.run edges waiting best before position rest, ∃ last, IsAccepted first limit slots last := by
  induction rest generalizing waiting best before position with
  | nil =>
    rw [run_nil]
    split_ifs
    · exact hbest
    · exact (forall_stepAt hprog (p := ⟨before, position, []⟩) hfirst hlimit.le
        (forall_threadsAt hprog hwaiting) hbest).2
  | cons c rest ih =>
    rw [run_cons]
    split_ifs
    · exact hbest
    · rw [List.length_cons] at hlimit
      have hle : position ≤ limit := by omega
      obtain ⟨hmoved, hbetter⟩ := forall_stepAt hprog (p := ⟨before, position, c :: rest⟩) hfirst hle
        (forall_threadsAt hprog hwaiting) hbest
      exact ih (hfirst.trans (Nat.le_succ position)) (by omega) hmoved hbetter

end Search

/-! ### Matches -/

/-- The match is behind a place of the text, and its groups are within it. -/
structure LiesBetween (first limit : ℕ) (m : Match) : Prop where
  first_le : first ≤ m.whole.first
  first_le_last : m.whole.first ≤ m.whole.last
  last_le : m.whole.last ≤ limit
  groups : ∀ span, some span ∈ m.groups → first ≤ span.first ∧ span.last ≤ m.whole.last

lemma LiesBetween.mono {first later limit : ℕ} {m : Match} (h : LiesBetween later limit m) (hle : first ≤ later) :
    LiesBetween first limit m where
  first_le := hle.trans h.first_le
  first_le_last := h.first_le_last
  last_le := h.last_le
  groups span hspan := ⟨hle.trans (h.groups span hspan).1, (h.groups span hspan).2⟩

section Matches

variable {prog : Program} {first limit last : ℕ} {slots : Slots} {m : Match} {p : Place}

lemma IsAccepted.between_of_getD (h : IsAccepted first limit slots last) {i v : ℕ} (hv : slots.getD i none = some v) :
    first ≤ v ∧ v ≤ last := by
  rw [Array.getD_eq_getD_getElem?] at hv
  refine h.between i v ?_
  cases hslot : slots[i]? with
  | none => rw [hslot] at hv; exact nomatch hv
  | some slot => rw [hslot, Option.getD_some] at hv; rw [hv]

/-- The span that a pair of slots records. -/
def spanOf? (slots : Slots) (i : ℕ) : Option Span := do
  let first ← slots.getD (2 * i) none
  let last ← slots.getD (2 * i + 1) none
  some ⟨first, last⟩

lemma ofSlots?_eq (groups : ℕ) (slots : Slots) : Match.ofSlots? groups slots =
    (spanOf? slots 0).map fun whole => ⟨whole, (List.range groups).map (spanOf? slots)⟩ := rfl

lemma getD_of_spanOf? {i : ℕ} {span : Span} (h : spanOf? slots i = some span) :
    slots.getD (2 * i) none = some span.first ∧ slots.getD (2 * i + 1) none = some span.last := by
  obtain ⟨a, ha, hrest⟩ := Option.bind_eq_some_iff.mp h
  obtain ⟨b, hb, hspan⟩ := Option.bind_eq_some_iff.mp hrest
  obtain rfl := Option.some.inj hspan
  exact ⟨ha, hb⟩

lemma IsAccepted.liesBetween {groups : ℕ} (h : IsAccepted first limit slots last)
    (hm : Match.ofSlots? groups slots = some m) : LiesBetween first limit m := by
  rw [ofSlots?_eq] at hm
  obtain ⟨whole, hwhole, rfl⟩ := Option.map_eq_some_iff.mp hm
  obtain ⟨hopen, hclose⟩ := getD_of_spanOf? hwhole
  obtain rfl : last = whole.last := by
    rw [Array.getD_eq_getD_getElem?, h.close_eq] at hclose
    exact Option.some.inj hclose
  refine ⟨(h.between_of_getD hopen).1, (h.between_of_getD hopen).2, h.le_limit, fun span hspan => ?_⟩
  obtain ⟨i, -, hi⟩ := List.mem_map.mp hspan
  obtain ⟨hopen, hclose⟩ := getD_of_spanOf? hi
  exact ⟨(h.between_of_getD hopen).1, (h.between_of_getD hclose).2⟩

/-- A match that is found lies between the place where the search starts and the end of the text. -/
lemma liesBetween_of_search (hprog : IsCompiled prog) (h : prog.search p = some m) :
    LiesBetween p.position (p.position + p.rest.length) m := by
  obtain ⟨slots, hslots, hm⟩ := Option.bind_eq_some_iff.mp h
  obtain ⟨last, haccepted⟩ :=
    exists_isAccepted_run hprog le_rfl rfl (List.forall_mem_nil _) (by simp) slots hslots
  exact haccepted.liesBetween hm

end Matches

end Feel.Proofs
