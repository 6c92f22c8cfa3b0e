import Feel.Proofs.Provenance.Functions

/-!
# Values that the library can produce

Values come from documents and from calls whose arguments were produced before. What holds of every
value that a document or a call makes anew, and of lists and contexts, holds of every part of every
value that is produced.
-/

namespace Feel.Proofs

/-! ### Documents -/

lemma mem_insert {α : Type} {key : String} {v : α} {entries : List (String × α)} {e : String × α}
    (h : e ∈ Entries.insert key v entries) : e = (key, v) ∨ e ∈ entries := by
  induction entries with
  | nil => exact Or.inl (List.mem_singleton.mp h)
  | cons first rest ih =>
    rw [Entries.insert] at h
    split_ifs at h
    · obtain h | h := List.mem_cons.mp h
      · exact Or.inl h
      · exact Or.inr (List.mem_cons_of_mem first h)
    · obtain rfl | h := List.mem_cons.mp h
      · exact Or.inr List.mem_cons_self
      · exact (ih h).imp_right (List.mem_cons_of_mem first)

lemma mem_ofList {α : Type} {bindings : List (String × α)} {e : String × α}
    (h : e ∈ Entries.ofList bindings) : e ∈ bindings := by
  unfold Entries.ofList at h
  induction bindings using List.reverseRecOn with
  | nil => exact h
  | append_singleton bindings binding ih =>
    rw [List.foldl_append] at h
    obtain rfl | h := mem_insert h
    · simp
    · exact List.mem_append_left _ (ih h)

lemma nodup_keys_insert {α : Type} (key : String) (v : α) {entries : List (String × α)}
    (h : (Entries.keys entries).Nodup) : (Entries.keys (Entries.insert key v entries)).Nodup := by
  induction entries with
  | nil => exact List.nodup_singleton key
  | cons first rest ih =>
    obtain ⟨hnew, hrest⟩ := List.nodup_cons.mp h
    rw [Entries.insert]
    split_ifs with hkey
    · subst hkey
      exact h
    · refine List.nodup_cons.mpr ⟨fun hmem => ?_, ih hrest⟩
      obtain ⟨e, he, hname⟩ := List.mem_map.mp hmem
      obtain rfl | he := mem_insert he
      · exact hkey hname.symm
      · exact hnew (List.mem_map.mpr ⟨e, he, hname⟩)

lemma nodup_keys_ofList {α : Type} (bindings : List (String × α)) :
    (Entries.keys (Entries.ofList bindings)).Nodup := by
  unfold Entries.ofList
  induction bindings using List.reverseRecOn with
  | nil => exact List.nodup_nil
  | append_singleton bindings binding ih =>
    rw [List.foldl_append]
    exact nodup_keys_insert _ _ ih

variable [Zones]

lemma yields_readLiteral? {name literal : String} {tag : Tag} {x : Except Fault Value}
    (h : Tag.readLiteral? name literal = some (tag, x)) : Yields (Fresh []) x := by
  unfold Tag.readLiteral? at h
  split_ifs at h <;> obtain ⟨-, rfl⟩ := Prod.mk.inj (Option.some.inj h) <;> rw [yields_map]
  · exact fun d _ => .date d
  · exact fun t ht => .timeOfText ht
  · exact fun t ht => .dateTimeOfText ht
  · exact fun d hd => .durationOfText hd

lemma yields_readTagged? {fields : List (String × Json)} {tag : Tag} {x : Except Fault Value}
    (h : Value.readTagged? fields = some (tag, x)) : Yields (Fresh []) x := by
  unfold Value.readTagged? at h
  split at h
  · exact yields_readLiteral? h
  · exact absurd h (by simp)

mutual

/-- The value of a document is fresh or a group of such values. -/
lemma yields_decode (next : ℕ) (json : Json) :
    Yields (fun result => Makes [] result.1) (Value.decode next json) := by
  match json with
  | .null => simp [Value.decode]
  | .bool b => simp [Value.decode]
  | .number text =>
    simp only [Value.decode, Value.ofNumeral, yields_map, yields_mapError]
    split
    · rename_i n hn
      exact yields_ok.mpr (makes_parsed hn)
    · simp
  | .string s => simp [Value.decode]
  | .array items =>
    simp only [Value.decode, yields_map]
    exact fun result h => .list (yields_decodeItems next items result h)
  | .object fields =>
    rw [Value.decode]
    split
    · simp only [yields_map, yields_mapError]
      exact fun f _ => .fresh (.function f)
    · rename_i tag x _ htagged
      simp only [yields_map, yields_mapError]
      exact fun v hv => .fresh (yields_readTagged? htagged v hv)
    · simp only [yields_map]
      intro result h
      exact .context (nodup_keys_ofList _) fun e he =>
        yields_decodeFields next fields result h e (mem_ofList he)

lemma yields_decodeItems (next : ℕ) (items : List Json) :
    Yields (fun result => ∀ v ∈ result.1, Makes [] v) (Value.decodeItems next items) := by
  match items with
  | [] => simp [Value.decodeItems]
  | item :: items =>
    simp only [Value.decodeItems, yields_bind, yields_pure]
    intro first hfirst rest hrest v hv
    obtain rfl | hv := List.mem_cons.mp hv
    · exact yields_decode next item first hfirst
    · exact yields_decodeItems first.2 items rest hrest v hv

lemma yields_decodeFields (next : ℕ) (fields : List (String × Json)) :
    Yields (fun result => ∀ e ∈ result.1, Makes [] e.2) (Value.decodeFields next fields) := by
  match fields with
  | [] => simp [Value.decodeFields]
  | (name, item) :: fields =>
    simp only [Value.decodeFields, yields_bind, yields_pure]
    intro first hfirst rest hrest e he
    obtain rfl | he := List.mem_cons.mp he
    · exact yields_decode next item first hfirst
    · exact yields_decodeFields first.2 fields rest hrest e he

end

/-! ### Calls after calls -/

/-- Values of documents, results of calls with arguments that were produced before, and the parts of
these. -/
inductive Produced : Value → Prop
  | decoded {next after : ℕ} {json : Json} {v : Value} (h : Value.decode next json = .ok (v, after)) :
      Produced v
  | called {f : Builtin} {args : List Value} {v : Value} (hargs : ∀ a ∈ args, Produced a)
      (h : f.run args = .ok v) : Produced v
  | part {p v : Value} (hv : Produced v) (h : IsPart p v) : Produced p

/-- What holds of groups, and of fresh values if it holds of all parts of the arguments, holds of every
part of every value that is produced. -/
theorem Produced.forall_part {P : Value → Prop} (hgroup : ∀ v, IsGroup v → P v)
    (hfresh : ∀ args v, (∀ a ∈ args, ∀ p, IsPart p a → P p) → Fresh args v → P v) {v : Value}
    (h : Produced v) : ∀ p, IsPart p v → P p := by
  induction h with
  | decoded h =>
    intro p hp
    have hmakes := (yields_decode _ _ _ h).of_isPart hp
    exact hmakes.forall hgroup (fun v => hfresh [] v (by simp)) (by simp)
  | called hargs h ih =>
    intro p hp
    have hmakes := (run_makes _ _ _ h).of_isPart hp
    exact hmakes.forall hgroup (fun v => hfresh _ v ih) ih
  | part hv h ih => exact fun p hp => ih p (hp.trans h)

lemma produced_string (s : String) : Produced (.string s) :=
  .decoded (by rw [Value.decode] : Value.decode 0 (.string s) = .ok (.string s, 0))

/-- What a function of one text gives is produced. -/
lemma produced_of_run_string {f : Builtin} {s : String} {v : Value} (h : f.run [.string s] = .ok v) :
    Produced v :=
  .called (by simpa using produced_string s) h

end Feel.Proofs
