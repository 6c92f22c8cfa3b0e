import Feel.Proofs.Produced
import Feel.Proofs.ValueOrder

/-!
# Equality of values

Equality of values is an equivalence that does not see in which order contexts bind their names. It looks
up the names of one context in the other and compares their numbers. This suffices because no context binds
a name twice: as many names that all stand in the other context are all the names of the other context.
-/

namespace Feel.Proofs

/-! ### Values without lists and contexts -/

/-- Neither a list nor a context. -/
def IsAtom : Value → Prop
  | .list _ | .context _ => False
  | _ => True

/-- Induction over the items of lists and the bindings of contexts. -/
theorem value_induction {P : Value → Prop} (atom : ∀ v, IsAtom v → P v)
    (list : ∀ items, (∀ v ∈ items, P v) → P (.list items))
    (context : ∀ entries, (∀ e ∈ entries, P e.2) → P (.context entries)) (v : Value) : P v := by
  match v with
  | .null | .number _ | .boolean _ | .string _ | .date _ | .time _ | .dateTime _ | .duration _
  | .function _ => exact atom _ trivial
  | .list items => exact list items fun v hv => value_induction atom list context v
  | .context entries => exact context entries fun e he => value_induction atom list context e.2
termination_by sizeOf v
decreasing_by
  -- Items and bindings are smaller than the list that holds them.
  · have hlt := List.sizeOf_lt_of_mem hv
    simp only [Value.list.sizeOf_spec]
    omega
  · have hlt := List.sizeOf_lt_of_mem he
    have hvalue : sizeOf e.2 < sizeOf e := by
      cases e
      simp only [Prod.mk.sizeOf_spec]
      omega
    simp only [Value.context.sizeOf_spec]
    omega

/-! ### Equality of atoms -/

@[simp] lemma boolean_beq {a b : Bool} : (Value.boolean a == Value.boolean b) = true ↔ a = b :=
  show (a == b) = true ↔ a = b from beq_iff_eq

@[simp] lemma function_beq {f g : Comparator} :
    (Value.function f == Value.function g) = true ↔ f.identity = g.identity :=
  show (f.identity == g.identity) = true ↔ _ from beq_iff_eq

/-- What decides whether two atoms of one kind are equal. -/
def atomKey : Value → ℚ ×ₗ String ×ₗ ℤ
  | .boolean b => toLex (0, toLex ("", b.toInt))
  | .function f => toLex (0, toLex ("", f.identity))
  | v => orderKey v

lemma atomKey_eq_orderKey {v : Value} (h : IsOrdered v.kind) : atomKey v = orderKey v := by
  cases v with
  | boolean b => exact h.elim
  | function f => exact h.elim
  | _ => rfl

/-- The form that values of a kind without an order have. -/
def UnorderedFormOf : Kind → Value → Prop
  | .null, v => v = .null
  | .boolean, v => ∃ b, v = .boolean b
  | .list, v => ∃ items, v = .list items
  | .context, v => ∃ entries, v = .context entries
  | .function, v => ∃ f, v = .function f
  | .number, _ | .string, _ | .date, _ | .time, _ | .dateTime, _ | .monthsDuration, _
  | .timeDuration, _ => True

lemma unorderedFormOf_kind (v : Value) : UnorderedFormOf v.kind v := by
  cases v with
  | null => rfl
  | boolean b => exact ⟨b, rfl⟩
  | list items => exact ⟨items, rfl⟩
  | context entries => exact ⟨entries, rfl⟩
  | function f => exact ⟨f, rfl⟩
  | duration d => cases d <;> trivial
  | _ => trivial

lemma atom_beq_iff {a b : Value} (ha : IsAtom a) : a == b ↔ b.kind = a.kind ∧ atomKey a = atomKey b := by
  by_cases hkind : b.kind = a.kind
  · rw [and_iff_right hkind]
    by_cases hordered : IsOrdered a.kind
    · rw [beq_iff_orderKey_eq hordered hkind, atomKey_eq_orderKey hordered,
        atomKey_eq_orderKey (hkind ▸ hordered)]
    · have hform := unorderedFormOf_kind b
      rw [hkind] at hform
      cases a with
      | null =>
        obtain rfl := hform
        exact iff_of_true rfl rfl
      | boolean x =>
        obtain ⟨y, rfl⟩ := hform
        cases x <;> cases y <;> simp [atomKey]
      | function f =>
        obtain ⟨g, rfl⟩ := hform
        simp [atomKey]
      | duration d => cases d <;> exact absurd trivial hordered
      | list items => exact ha.elim
      | context entries => exact ha.elim
      | _ => exact absurd trivial hordered
  · exact iff_of_false (fun h => hkind (kind_eq_of_beq h).symm) fun h => hkind h.1

lemma isAtom_iff {v : Value} : IsAtom v ↔ v.kind ≠ .list ∧ v.kind ≠ .context := by
  rcases v with _ | _ | _ | _ | _ | _ | _ | (_ | _) | _ | _ | _ <;> simp [IsAtom, Value.kind]

lemma IsAtom.of_beq {a b : Value} (ha : IsAtom a) (h : a == b) : IsAtom b := by
  rw [isAtom_iff] at *
  rwa [← kind_eq_of_beq h]

/-! ### Equality of lists and contexts -/

lemma list_beq {xs ys : List Value} :
    (Value.list xs == Value.list ys) = true ↔ List.Forall₂ (fun a b => a == b) xs ys := by
  show Value.sameItems xs ys = true ↔ _
  induction xs generalizing ys with
  | nil => cases ys <;> simp [Value.sameItems]
  | cons x xs ih =>
    cases ys with
    | nil => simp [Value.sameItems]
    | cons y ys =>
      rw [Value.sameItems, Bool.and_eq_true, ih, List.forall₂_cons]
      rfl

lemma exists_list_of_beq {xs : List Value} {b : Value} (h : Value.list xs == b) :
    ∃ ys, b = .list ys ∧ List.Forall₂ (fun x y => x == y) xs ys := by
  have hform := unorderedFormOf_kind b
  rw [← kind_eq_of_beq h] at hform
  obtain ⟨ys, rfl⟩ := hform
  exact ⟨ys, rfl, list_beq.mp h⟩

lemma sameEntries_iff {xs ys : List (String × Value)} :
    Value.sameEntries xs ys = true ↔ ∀ e ∈ xs, ∃ b, Entries.get? e.1 ys = some b ∧ e.2 == b := by
  induction xs with
  | nil => simp [Value.sameEntries]
  | cons e xs ih =>
    rw [Value.sameEntries, Bool.and_eq_true, ih, List.forall_mem_cons]
    refine and_congr_left fun _ => ?_
    cases Entries.get? e.1 ys with
    | none => simp
    | some b =>
      simp only [Option.some.injEq, exists_eq_left']
      rfl

lemma context_beq {xs ys : List (String × Value)} :
    (Value.context xs == Value.context ys) = true ↔
      xs.length = ys.length ∧ ∀ e ∈ xs, ∃ b, Entries.get? e.1 ys = some b ∧ e.2 == b := by
  show (xs.length == ys.length && Value.sameEntries xs ys) = true ↔ _
  rw [Bool.and_eq_true, beq_iff_eq, sameEntries_iff]

lemma exists_context_of_beq {xs : List (String × Value)} {b : Value} (h : Value.context xs == b) :
    ∃ ys, b = .context ys ∧ xs.length = ys.length ∧
      ∀ e ∈ xs, ∃ y, Entries.get? e.1 ys = some y ∧ e.2 == y := by
  have hform := unorderedFormOf_kind b
  rw [← kind_eq_of_beq h] at hform
  obtain ⟨ys, rfl⟩ := hform
  exact ⟨ys, rfl, context_beq.mp h⟩

/-! ### Names -/

/-- Each context, at any depth, binds no name twice. -/
def HasUniqueNames (v : Value) : Prop := ∀ entries, IsPart (.context entries) v → (Entries.keys entries).Nodup

lemma IsAtom.hasUniqueNames {v : Value} (h : IsAtom v) : HasUniqueNames v := by
  intro entries hpart
  cases hpart with
  | self => exact h.elim
  | item => exact h.elim
  | binding => exact h.elim

lemma hasUniqueNames_list {items : List Value} :
    HasUniqueNames (.list items) ↔ ∀ v ∈ items, HasUniqueNames v := by
  constructor
  · exact fun h v hv entries hpart => h entries (.item hv hpart)
  · intro h entries hpart
    cases hpart with
    | item hv hpart => exact h _ hv entries hpart

lemma hasUniqueNames_context {entries : List (String × Value)} :
    HasUniqueNames (.context entries) ↔
      (Entries.keys entries).Nodup ∧ ∀ e ∈ entries, HasUniqueNames e.2 := by
  constructor
  · exact fun h => ⟨h entries .self, fun e he inner hpart => h inner (.binding he hpart)⟩
  · rintro ⟨hkeys, h⟩ inner hpart
    cases hpart with
    | self => exact hkeys
    | binding he hpart => exact h _ he inner hpart

/-- The values that the library can produce bind no name twice. -/
lemma Produced.hasUniqueNames [Zones] {v : Value} (h : Produced v) : HasUniqueNames v := by
  intro entries hpart
  refine h.forall_part (P := fun v => ∀ entries, v = .context entries → (Entries.keys entries).Nodup)
    ?_ ?_ _ hpart entries rfl
  · rintro v hgroup entries rfl
    exact hgroup
  · rintro args v - hfresh entries rfl
    cases hfresh

lemma mem_keys {entries : List (String × Value)} {key : String} {v : Value} (h : (key, v) ∈ entries) :
    key ∈ Entries.keys entries :=
  List.mem_map.mpr ⟨(key, v), h, rfl⟩

lemma get?_eq_some_iff {entries : List (String × Value)} (h : (Entries.keys entries).Nodup) {key : String}
    {v : Value} : Entries.get? key entries = some v ↔ (key, v) ∈ entries := by
  refine ⟨mem_of_get?, fun hmem => ?_⟩
  induction entries with
  | nil => exact absurd hmem List.not_mem_nil
  | cons e rest ih =>
    obtain ⟨hnew, hrest⟩ := List.nodup_cons.mp h
    rw [Entries.get?]
    obtain rfl | hmem := List.mem_cons.mp hmem
    · rw [if_pos rfl]
    · rw [if_neg, ih hrest hmem]
      rintro rfl
      exact hnew (mem_keys hmem)

/-- Two contexts of one length have the same names if all names of one stand in the other. -/
lemma keys_perm {xs ys : List (String × Value)} (hxs : (Entries.keys xs).Nodup)
    (hlength : xs.length = ys.length) (hsub : ∀ e ∈ xs, ∃ b, (e.1, b) ∈ ys) :
    (Entries.keys xs).Perm (Entries.keys ys) := by
  have hsubset : Entries.keys xs ⊆ Entries.keys ys := by
    intro key hkey
    obtain ⟨e, he, rfl⟩ := List.mem_map.mp hkey
    obtain ⟨b, hb⟩ := hsub e he
    exact mem_keys hb
  refine (hxs.subperm hsubset).perm_of_length_le ?_
  simp [Entries.keys, hlength]

/-! ### An equivalence -/

section Forall₂

variable {R S T : Value → Value → Prop} {xs ys zs : List Value}

lemma forall₂_flip_of_mem (h : List.Forall₂ R xs ys) (himp : ∀ x ∈ xs, ∀ y ∈ ys, R x y → S y x) :
    List.Forall₂ S ys xs := by
  induction h with
  | nil => exact .nil
  | @cons x y xs ys hxy _ ih =>
    refine .cons (himp x (by simp) y (by simp) hxy) (ih fun x hx y hy => ?_)
    exact himp x (List.mem_cons_of_mem _ hx) y (List.mem_cons_of_mem _ hy)

lemma forall₂_comp_of_mem (hxy : List.Forall₂ R xs ys) (hyz : List.Forall₂ S ys zs)
    (himp : ∀ x ∈ xs, ∀ y z, R x y → S y z → T x z) : List.Forall₂ T xs zs := by
  induction hxy generalizing zs with
  | nil =>
    cases hyz
    exact .nil
  | @cons x y xs ys hx _ ih =>
    cases hyz with
    | cons hy hys =>
      refine .cons (himp x List.mem_cons_self _ _ hx hy) (ih hys fun x hx => ?_)
      exact himp x (List.mem_cons_of_mem _ hx)

end Forall₂

theorem value_beq_refl {v : Value} (h : HasUniqueNames v) : v == v := by
  induction v using value_induction with
  | atom v hv => exact (atom_beq_iff hv).mpr ⟨rfl, rfl⟩
  | list items ih =>
    rw [hasUniqueNames_list] at h
    exact list_beq.mpr (List.forall₂_same.mpr fun v hv => ih v hv (h v hv))
  | context entries ih =>
    obtain ⟨hkeys, hvalues⟩ := hasUniqueNames_context.mp h
    refine context_beq.mpr ⟨rfl, fun e he => ⟨e.2, (get?_eq_some_iff hkeys).mpr he, ?_⟩⟩
    exact ih e he (hvalues e he)

theorem value_beq_symm {a b : Value} (ha : HasUniqueNames a) (hb : HasUniqueNames b)
    (h : a == b) : b == a := by
  induction a using value_induction generalizing b with
  | atom a hatom =>
    obtain ⟨hkind, hkey⟩ := (atom_beq_iff hatom).mp h
    exact (atom_beq_iff (hatom.of_beq h)).mpr ⟨hkind.symm, hkey.symm⟩
  | list xs ih =>
    obtain ⟨ys, rfl, hitems⟩ := exists_list_of_beq h
    rw [hasUniqueNames_list] at ha hb
    exact list_beq.mpr (forall₂_flip_of_mem hitems fun x hx y hy => ih x hx (ha x hx) (hb y hy))
  | context xs ih =>
    obtain ⟨ys, rfl, hlength, hfound⟩ := exists_context_of_beq h
    obtain ⟨hkeysX, hvaluesX⟩ := hasUniqueNames_context.mp ha
    obtain ⟨hkeysY, hvaluesY⟩ := hasUniqueNames_context.mp hb
    have hperm : (Entries.keys xs).Perm (Entries.keys ys) :=
      keys_perm hkeysX hlength fun e he => (hfound e he).imp fun _ hy => mem_of_get? hy.1
    refine context_beq.mpr ⟨hlength.symm, fun e he => ?_⟩
    -- The name of `e` is one of the first context, which looked it up and found the value of `e`.
    obtain ⟨⟨key, x⟩, hx, rfl⟩ := List.mem_map.mp (hperm.mem_iff.mpr (mem_keys he))
    obtain ⟨y, hy, hequal⟩ := hfound _ hx
    rw [(get?_eq_some_iff hkeysY).mpr he] at hy
    obtain rfl := Option.some.inj hy
    exact ⟨x, (get?_eq_some_iff hkeysX).mpr hx, ih _ hx (hvaluesX _ hx) (hvaluesY e he) hequal⟩

theorem value_beq_trans {a b c : Value} (hab : a == b) (hbc : b == c) : a == c := by
  induction a using value_induction generalizing b c with
  | atom a hatom =>
    obtain ⟨hkind, hkey⟩ := (atom_beq_iff hatom).mp hab
    obtain ⟨hkind', hkey'⟩ := (atom_beq_iff (hatom.of_beq hab)).mp hbc
    exact (atom_beq_iff hatom).mpr ⟨hkind'.trans hkind, hkey.trans hkey'⟩
  | list xs ih =>
    obtain ⟨ys, rfl, hxy⟩ := exists_list_of_beq hab
    obtain ⟨zs, rfl, hyz⟩ := exists_list_of_beq hbc
    exact list_beq.mpr (forall₂_comp_of_mem hxy hyz fun x hx _ _ => ih x hx)
  | context xs ih =>
    obtain ⟨ys, rfl, hlengthY, hfoundY⟩ := exists_context_of_beq hab
    obtain ⟨zs, rfl, hlengthZ, hfoundZ⟩ := exists_context_of_beq hbc
    refine context_beq.mpr ⟨hlengthY.trans hlengthZ, fun e he => ?_⟩
    obtain ⟨y, hy, hxy⟩ := hfoundY e he
    obtain ⟨z, hz, hyz⟩ := hfoundZ _ (mem_of_get? hy)
    exact ⟨z, hz, ih e he hxy hyz⟩

/-! ### Order of names -/

/-- A step in which the bindings of one context, at some depth, are put in another order. -/
inductive Reorders : Value → Value → Prop
  | entries {xs ys : List (String × Value)} (h : xs.Perm ys) : Reorders (.context xs) (.context ys)
  | item {front back : List Value} {v w : Value} (h : Reorders v w) :
      Reorders (.list (front ++ v :: back)) (.list (front ++ w :: back))
  | binding {front back : List (String × Value)} {key : String} {v w : Value} (h : Reorders v w) :
      Reorders (.context (front ++ (key, v) :: back)) (.context (front ++ (key, w) :: back))

lemma Reorders.hasUniqueNames {v w : Value} (h : Reorders v w) (hv : HasUniqueNames v) :
    HasUniqueNames w := by
  induction h with
  | entries h =>
    rw [hasUniqueNames_context] at *
    exact ⟨((h.map Prod.fst).nodup_iff).mp hv.1, fun e he => hv.2 e (h.mem_iff.mpr he)⟩
  | item h ih =>
    simp only [hasUniqueNames_list, List.forall_mem_append, List.forall_mem_cons] at *
    exact ⟨hv.1, ih hv.2.1, hv.2.2⟩
  | binding h ih =>
    simp only [hasUniqueNames_context, List.forall_mem_append, List.forall_mem_cons] at *
    refine ⟨?_, hv.2.1, ih hv.2.2.1, hv.2.2.2⟩
    simpa [Entries.keys] using hv.1

lemma Reorders.beq {v w : Value} (h : Reorders v w) (hv : HasUniqueNames v) : v == w := by
  induction h with
  | @entries xs ys h =>
    have hys := hasUniqueNames_context.mp ((Reorders.entries h).hasUniqueNames hv)
    refine context_beq.mpr ⟨h.length_eq, fun e he => ⟨e.2, ?_, ?_⟩⟩
    · exact (get?_eq_some_iff hys.1).mpr (h.mem_iff.mp he)
    · exact value_beq_refl ((hasUniqueNames_context.mp hv).2 e he)
  | item h ih =>
    simp only [hasUniqueNames_list, List.forall_mem_append, List.forall_mem_cons] at hv
    have hsame {items : List Value} (hitems : ∀ v ∈ items, HasUniqueNames v) :
        List.Forall₂ (fun x y => x == y) items items :=
      List.forall₂_same.mpr fun v hv => value_beq_refl (hitems v hv)
    exact list_beq.mpr (List.rel_append (hsame hv.1) (.cons (ih hv.2.1) (hsame hv.2.2)))
  | @binding front back key v w h ih =>
    have hkeys := (hasUniqueNames_context.mp ((Reorders.binding h).hasUniqueNames hv)).1
    simp only [hasUniqueNames_context, List.forall_mem_append, List.forall_mem_cons] at hv
    have hkept {e : String × Value} (he : e ∈ front ++ (key, w) :: back) (hunique : HasUniqueNames e.2) :
        ∃ b, Entries.get? e.1 (front ++ (key, w) :: back) = some b ∧ e.2 == b :=
      ⟨e.2, (get?_eq_some_iff hkeys).mpr he, value_beq_refl hunique⟩
    refine context_beq.mpr ⟨by simp, List.forall_mem_append.mpr ⟨fun e he => ?_,
      List.forall_mem_cons.mpr ⟨⟨w, (get?_eq_some_iff hkeys).mpr (by simp), ih hv.2.2.1⟩, fun e he => ?_⟩⟩⟩
    · exact hkept (by simp [he]) (hv.2.1 e he)
    · exact hkept (by simp [he]) (hv.2.2.2 e he)

/-- Any number of steps. -/
lemma beq_of_reorders {v w : Value} (h : Relation.ReflTransGen Reorders v w) (hv : HasUniqueNames v) :
    HasUniqueNames w ∧ v == w := by
  induction h with
  | refl => exact ⟨hv, value_beq_refl hv⟩
  | tail _ hstep ih =>
    exact ⟨hstep.hasUniqueNames ih.1, value_beq_trans ih.2 (hstep.beq ih.1)⟩

/-- On the values whose contexts bind no name twice, as all do that the library can produce, equality is an
equivalence. Values are equal to what they become when bindings are put in another order, and contexts with
different names are not equal. -/
theorem beq_isEquivalence [Zones] :
    Equivalence (fun a b : {v : Value // HasUniqueNames v} => a.1 == b.1) ∧
    (∀ v w, HasUniqueNames v → Relation.ReflTransGen Reorders v w → v == w) ∧
    (∀ xs ys, HasUniqueNames (.context xs) →
      (∃ key, ¬(key ∈ Entries.keys xs ↔ key ∈ Entries.keys ys)) →
      (Value.context xs == Value.context ys) = false) ∧
    ∀ v, Produced v → HasUniqueNames v := by
  refine ⟨⟨fun v => value_beq_refl v.2, fun {a b} => value_beq_symm a.2 b.2, fun {a b c} => value_beq_trans⟩,
    fun v w hv h => (beq_of_reorders h hv).2, fun xs ys hxs hkeys => ?_,
    fun v h => h.hasUniqueNames⟩
  obtain ⟨key, hkey⟩ := hkeys
  refine Bool.eq_false_iff.mpr fun h => hkey ?_
  obtain ⟨hlength, hfound⟩ := context_beq.mp h
  have hsub : ∀ e ∈ xs, ∃ b, (e.1, b) ∈ ys := fun e he => (hfound e he).imp fun _ hb => mem_of_get? hb.1
  exact (keys_perm (hasUniqueNames_context.mp hxs).1 hlength hsub).mem_iff

/-- A list with a context in which another one stands. -/
def nested : Value :=
  .list [.context [("a", .number ⟨150, 2⟩), ("b", .context [("x", .null), ("y", .boolean true)])]]

/-- The same bindings with the names of both contexts the other way round. -/
def nestedBackward : Value :=
  .list [.context [("b", .context [("y", .boolean true), ("x", .null)]), ("a", .number ⟨150, 2⟩)]]

theorem beq_isEquivalence_nested :
    HasUniqueNames nested ∧ Relation.ReflTransGen Reorders nested nestedBackward ∧ nested == nestedBackward ∧
      nested == nested ∧ (Value.context [("a", .null)] == Value.context [("b", .null)]) = false := by
  obtain ⟨hequivalence, hreorders, hkeys, -⟩ := beq_isEquivalence
  have hatom {v : Value} (h : IsAtom v) : HasUniqueNames v := h.hasUniqueNames
  have hunique : HasUniqueNames nested := by
    simp only [nested, hasUniqueNames_list, hasUniqueNames_context, List.forall_mem_singleton,
      List.forall_mem_cons]
    exact ⟨by decide, hatom trivial, by decide, hatom trivial, hatom trivial⟩
  have hname : HasUniqueNames (.context [("a", .null)]) :=
    hasUniqueNames_context.mpr ⟨by decide, List.forall_mem_singleton.mpr (hatom trivial)⟩
  have hsteps : Relation.ReflTransGen Reorders nested nestedBackward := by
    have hinner : Reorders nested (.list [.context
        [("a", .number ⟨150, 2⟩), ("b", .context [("y", .boolean true), ("x", .null)])]]) :=
      @Reorders.item [] [] _ _ (@Reorders.binding [_] [] "b" _ _ (.entries (.swap _ _ _)))
    exact .tail (.single hinner) (@Reorders.item [] [] _ _ (.entries (.swap _ _ _)))
  exact ⟨hunique, hsteps, hreorders _ _ hunique hsteps, hequivalence.refl ⟨nested, hunique⟩,
    hkeys _ _ hname ⟨"a", by decide⟩⟩

end Feel.Proofs
