import Feel.Operation.Contexts
import Feel.Proofs.ValueEquality

/-!
# Contexts built by binding names

Binding a name either replaces what the name is bound to, in its place, or adds the name at the end. So a
sequence of bindings leaves the names in the order in which they were first bound, each with what it was
bound to last. The order can be seen in the entries of a context, but equality does not see it.
-/

namespace Feel.Proofs

variable {α : Type}

/-! ### One binding -/

/-- A name that is bound keeps its place, and one that is not comes last. -/
lemma keys_insert (key : String) (v : α) (entries : List (String × α)) :
    Entries.keys (Entries.insert key v entries) =
      if key ∈ Entries.keys entries then Entries.keys entries else Entries.keys entries ++ [key] := by
  induction entries with
  | nil => rfl
  | cons first rest ih =>
    have hkeys (e : String × α) (es : List (String × α)) :
        Entries.keys (e :: es) = e.1 :: Entries.keys es := rfl
    rw [Entries.insert]
    by_cases hkey : first.1 = key
    · rw [if_pos hkey, hkeys, hkeys, if_pos (by simp [hkey]), hkey]
    · rw [if_neg hkey, hkeys, hkeys, ih]
      by_cases hmem : key ∈ Entries.keys rest
      · rw [if_pos hmem, if_pos (List.mem_cons_of_mem _ hmem)]
      · rw [if_neg hmem, if_neg (List.not_mem_cons_of_ne_of_not_mem (Ne.symm hkey) hmem)]
        rfl

lemma get?_insert (key name : String) (v : α) (entries : List (String × α)) :
    Entries.get? name (Entries.insert key v entries) =
      if name = key then some v else Entries.get? name entries := by
  induction entries with
  | nil => simp [Entries.insert, Entries.get?, eq_comm]
  | cons first rest ih =>
    rw [Entries.insert]
    split_ifs with hkey <;> grind [Entries.get?]

/-- A name that is not bound is bound at the end. -/
lemma insert_of_notMem {key : String} {entries : List (String × α)} (h : key ∉ Entries.keys entries)
    (v : α) :
    Entries.insert key v entries = entries ++ [(key, v)] := by
  induction entries with
  | nil => rfl
  | cons first rest ih =>
    obtain ⟨hne, hrest⟩ := List.ne_and_not_mem_of_not_mem_cons h
    rw [Entries.insert, if_neg (Ne.symm hne), ih hrest]
    rfl

/-! ### Sequences of bindings -/

lemma ofList_concat (bindings : List (String × α)) (e : String × α) :
    Entries.ofList (bindings ++ [e]) = Entries.insert e.1 e.2 (Entries.ofList bindings) :=
  List.foldl_append

/-- The value that a name was bound to last. -/
def lastBound? (name : String) (bindings : List (String × α)) : Option α := bindings.reverse.lookup name

lemma lastBound?_concat (name : String) (bindings : List (String × α)) (e : String × α) :
    lastBound? name (bindings ++ [e]) = if name = e.1 then some e.2 else lastBound? name bindings := by
  rw [lastBound?, List.reverse_append, List.reverse_singleton, List.singleton_append, List.lookup_cons]
  by_cases h : name = e.1
  · simp [h]
  · rw [beq_eq_false_iff_ne.mpr h, if_neg h]
    rfl

lemma eraseDups_concat (names : List String) (name : String) :
    (names ++ [name]).eraseDups = if name ∈ names then names.eraseDups else names.eraseDups ++ [name] := by
  rw [List.eraseDups_append]
  by_cases h : name ∈ names <;> simp [List.cons_removeAll, List.eraseDups_cons, h]

/-- The names come in the order in which they were first bound. -/
lemma keys_ofList (bindings : List (String × α)) :
    Entries.keys (Entries.ofList bindings) = (bindings.map Prod.fst).eraseDups := by
  induction bindings using List.reverseRecOn with
  | nil => rfl
  | append_singleton bindings e ih =>
    rw [ofList_concat, keys_insert, ih, List.map_append, List.map_singleton, eraseDups_concat]
    simp only [List.mem_eraseDups]

/-- Each name has the value that it was bound to last. -/
lemma get?_ofList (name : String) (bindings : List (String × α)) :
    Entries.get? name (Entries.ofList bindings) = lastBound? name bindings := by
  induction bindings using List.reverseRecOn with
  | nil => rfl
  | append_singleton bindings e ih => rw [ofList_concat, get?_insert, lastBound?_concat, ih]

lemma mem_keys_ofList {name : String} {bindings : List (String × α)} :
    name ∈ Entries.keys (Entries.ofList bindings) ↔ name ∈ bindings.map Prod.fst := by
  rw [keys_ofList, List.mem_eraseDups]

/-- Bindings of different names are kept as they are. -/
lemma ofList_eq_self {bindings : List (String × α)} (h : (Entries.keys bindings).Nodup) :
    Entries.ofList bindings = bindings := by
  induction bindings using List.reverseRecOn with
  | nil => rfl
  | append_singleton bindings e ih =>
    have hkeys : Entries.keys (bindings ++ [e]) = (Entries.keys bindings).concat e.1 := by
      rw [List.concat_eq_append, Entries.keys, List.map_append]
      rfl
    rw [hkeys, List.nodup_concat] at h
    rw [ofList_concat, ih h.2, insert_of_notMem h.1]

/-! ### Equality -/

/-- The names are the bound ones. -/
lemma mem_keys_iff {name : String} {entries : List (String × Value)} :
    name ∈ Entries.keys entries ↔ ∃ v, Entries.get? name entries = some v := by
  refine ⟨fun h => ?_, fun ⟨v, hv⟩ => mem_keys (mem_of_get? hv)⟩
  induction entries with
  | nil => exact absurd h List.not_mem_nil
  | cons first rest ih =>
    rw [Entries.get?]
    by_cases hname : first.1 = name
    · exact ⟨first.2, if_pos hname⟩
    · obtain h | h := List.mem_cons.mp h
      · exact absurd h.symm hname
      · rw [if_neg hname]
        exact ih h

/-- Two contexts of bindings are equal exactly if the same names were bound, to equal values at last. -/
lemma context_ofList_beq {xs ys : List (String × Value)} :
    (Value.context (Entries.ofList xs) == Value.context (Entries.ofList ys)) = true ↔
      (∀ name, name ∈ xs.map Prod.fst ↔ name ∈ ys.map Prod.fst) ∧
        ∀ name a b, lastBound? name xs = some a → lastBound? name ys = some b → a == b := by
  simp only [← mem_keys_ofList, ← get?_ofList]
  have hxs := nodup_keys_ofList xs
  have hys := nodup_keys_ofList ys
  rw [context_beq]
  constructor
  · rintro ⟨hlength, hfound⟩
    have hperm := keys_perm hxs hlength fun e he => (hfound e he).imp fun _ hb => mem_of_get? hb.1
    refine ⟨fun name => hperm.mem_iff, fun name a b ha hb => ?_⟩
    obtain ⟨b', hb', hequal⟩ := hfound _ (mem_of_get? ha)
    obtain rfl := Option.some.inj (hb.symm.trans hb')
    exact hequal
  · rintro ⟨hnames, hvalues⟩
    have hperm := (List.perm_ext_iff_of_nodup hxs hys).mpr hnames
    refine ⟨by simpa [Entries.keys] using hperm.length_eq, fun e he => ?_⟩
    obtain ⟨b, hb⟩ := mem_keys_iff.mp ((hnames e.1).mp (mem_keys he))
    exact ⟨b, hb, hvalues e.1 e.2 b ((get?_eq_some_iff hxs).mpr he) hb⟩

/-! ### Entries -/

lemma getValue_eq {entries : List (String × Value)} {name : String} {v : Value}
    (h : Entries.get? name entries = some v) :
    Operation.getValue [.context entries, .string name] = .ok v := by
  simp only [Operation.getValue, anyNull, List.any_cons, List.any_nil, Value.isNull, Value.toEntries,
    Value.toText, bind, Except.bind, h]
  rfl

/-- The context that stands for a binding gives its name and its value. -/
def StandsFor (item : Value) (e : String × Value) : Prop :=
  Operation.getValue [item, .string "key"] = .ok (.string e.1) ∧
    Operation.getValue [item, .string "value"] = .ok e.2

lemma standsFor_entry (e : String × Value) :
    StandsFor (.context [("key", .string e.1), ("value", e.2)]) e :=
  ⟨getValue_eq rfl, getValue_eq rfl⟩

/-- A sequence of bindings leaves the names in the order in which they were first bound, each with its last
value. Two sequences give equal contexts exactly if they bind the same names and leave them equal values.
The entries of a context say what its names are bound to, and binding them one after the other gives the
context again, in its order. -/
theorem contexts_of_bindings :
    (∀ bindings : List (String × Value),
        Entries.keys (Entries.ofList bindings) = (bindings.map Prod.fst).eraseDups ∧
        (Entries.keys (Entries.ofList bindings)).Nodup ∧
        ∀ name, Entries.get? name (Entries.ofList bindings) = lastBound? name bindings) ∧
      (∀ xs ys : List (String × Value), ∃ equal : Bool,
        (Value.context (Entries.ofList xs) == Value.context (Entries.ofList ys)) = equal ∧
        Operation.contextEqual [.context (Entries.ofList xs), .context (Entries.ofList ys)] =
          .ok (.boolean equal) ∧
        (equal = true ↔ (∀ name, name ∈ xs.map Prod.fst ↔ name ∈ ys.map Prod.fst) ∧
          ∀ name a b, lastBound? name xs = some a → lastBound? name ys = some b → a == b)) ∧
      ∀ entries : List (String × Value), (Entries.keys entries).Nodup → ∃ items listed,
        Operation.getEntries [.context entries] = .ok (.list items) ∧
        List.Forall₂ StandsFor items listed ∧
        (∀ e ∈ listed, Operation.getValue [.context entries, .string e.1] = .ok e.2) ∧
        Entries.ofList listed = entries := by
  refine ⟨fun bindings =>
      ⟨keys_ofList bindings, nodup_keys_ofList bindings, fun name => get?_ofList name bindings⟩,
    fun xs ys => ⟨_, rfl, rfl, context_ofList_beq⟩,
    fun entries hkeys => ⟨_, entries, rfl, ?_, fun e he => ?_, ?_⟩⟩
  · rw [List.forall₂_map_left_iff, List.forall₂_same]
    exact fun e _ => standsFor_entry e
  · exact getValue_eq ((get?_eq_some_iff hkeys).mpr he)
  · exact ofList_eq_self hkeys

/-- A name that is bound again keeps the first place, with its new value. -/
theorem contexts_of_bindings_again :
    let bindings : List (String × Value) := [("b", .null), ("a", .boolean true), ("b", .boolean false)]
    let entries : List (String × Value) := [("b", .boolean false), ("a", .boolean true)]
    Entries.ofList bindings = entries ∧ (Entries.keys entries).Nodup ∧
      Entries.get? "b" (Entries.ofList bindings) = some (.boolean false) ∧
      ∃ items listed, Operation.getEntries [.context entries] = .ok (.list items) ∧
        List.Forall₂ StandsFor items listed ∧ Entries.ofList listed = entries := by
  intro bindings entries
  have hkeys : (Entries.keys entries).Nodup := by decide
  have hlast := (contexts_of_bindings.1 bindings).2.2 "b"
  obtain ⟨items, listed, hitems, hstand, -, hrebuilt⟩ := contexts_of_bindings.2.2 entries hkeys
  exact ⟨rfl, hkeys, hlast, items, listed, hitems, hstand, hrebuilt⟩

end Feel.Proofs
