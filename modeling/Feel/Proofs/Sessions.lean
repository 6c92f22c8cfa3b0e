import Feel.Proofs.FunctionNames
import Feel.Proofs.Produced

/-!
# Sessions

A session is a sequence of calls of one library. Every argument is the value of a document or the answer
of an earlier call. `Session.forall_reached` is the induction over sessions: what holds of groups, and of
fresh values if it holds of all parts of the arguments, holds of every value that a session reaches, at
any depth.
-/

namespace Feel.Proofs

/-- A call by name with its arguments and its answer. -/
structure Exchange where
  name : String
  args : List Value
  answer : Value

/-- A value that stands in an argument or in an answer, at some depth. -/
def Reached (past : List Exchange) (v : Value) : Prop :=
  ∃ e ∈ past, IsPart v e.answer ∨ ∃ a ∈ e.args, IsPart v a

section Sessions

variable [Zones]

/-- The value of a document, whatever identities are free for its comparators. -/
def IsDocument (v : Value) : Prop := ∃ next json after, Value.decode next json = .ok (v, after)

/-- A value that a call after these exchanges can take: that of a document, or an earlier answer. -/
def IsAvailable (past : List Exchange) (a : Value) : Prop := IsDocument a ∨ ∃ e ∈ past, e.answer = a

/-- The exchanges of a session so far, of which the latest comes first, and the state of its library. -/
inductive Session : List Exchange → Library → Prop
  | start (sink : Sink) : Session [] (.ofSink sink)
  | call {past : List Exchange} {library after : Library} (h : Session past library) {name : String}
      {args : List Value} {answer : Value} (hargs : ∀ a ∈ args, IsAvailable past a)
      (hcall : library.call name args = .ok (answer, after)) :
      Session (⟨name, args, answer⟩ :: past) after

lemma yields_tryCall (name : String) (args : List Value) : Yields (Makes args) (tryCall name args) := by
  unfold tryCall
  split
  · exact yields_error _
  · rw [yields_ite]
    exact ⟨fun _ => run_makes _ _, fun _ => yields_miscount _ _ _⟩

/-- A call that faults answers null, which is fresh. -/
lemma yields_call (library : Library) (name : String) (args : List Value) :
    Yields (fun called => Makes args called.1) (library.call name args) := by
  unfold Library.call
  cases hcall : tryCall name args with
  | ok v => exact yields_ok.mpr (yields_tryCall name args v hcall)
  | error fault =>
    rw [yields_map]
    exact fun _ _ => makes_null

section Reached

variable {P Q : Value → Prop} (hgroup : ∀ v, IsGroup v → P v)
  (hfresh : ∀ args v, (∀ a ∈ args, Q a) → (∀ a ∈ args, ∀ p, IsPart p a → P p) → Fresh args v → P v)

include hgroup hfresh in
lemma IsDocument.forall_part {v : Value} (h : IsDocument v) : ∀ p, IsPart p v → P p := by
  obtain ⟨next, json, after, hdecode⟩ := h
  intro p hp
  have hmakes := (yields_decode next json _ hdecode).of_isPart hp
  exact hmakes.forall hgroup (fun v => hfresh [] v (by simp) (by simp)) (by simp)

include hgroup hfresh in
/-- Every value that a session reaches has a property that groups have, and that fresh values have if
all parts of the arguments have it. The arguments may be known to have another property. -/
theorem Session.forall_reached {past : List Exchange} {library : Library} (h : Session past library)
    (hargs : ∀ e ∈ past, ∀ a ∈ e.args, Q a) : ∀ v, Reached past v → P v := by
  induction h with
  | start sink =>
    rintro v ⟨e, he, -⟩
    exact absurd he List.not_mem_nil
  | @call past library after h name args answer hsources hcall ih =>
    have hearlier := ih fun e he => hargs e (List.mem_cons_of_mem _ he)
    have hparts : ∀ a ∈ args, ∀ p, IsPart p a → P p := by
      intro a ha p hp
      obtain hdocument | ⟨e, he, rfl⟩ := hsources a ha
      · exact hdocument.forall_part hgroup hfresh p hp
      · exact hearlier p ⟨e, he, Or.inl hp⟩
    rintro v ⟨e, he, hv⟩
    obtain rfl | he := List.mem_cons.mp he
    · obtain hv | ⟨a, ha, hv⟩ := hv
      · have hmakes := (yields_call library name args _ hcall).of_isPart hv
        exact hmakes.forall hgroup (fun v => hfresh args v (hargs _ List.mem_cons_self) hparts) hparts
      · exact hparts a ha v hv
    · exact hearlier v ⟨e, he, hv⟩

end Reached

/-! ### Sessions step by step -/

lemma isDocument_boolean (b : Bool) : IsDocument (.boolean b) :=
  ⟨0, .bool b, 0, by rw [Value.decode]⟩

lemma isDocument_string (s : String) : IsDocument (.string s) :=
  ⟨0, .string s, 0, by rw [Value.decode]⟩

lemma Session.run {past : List Exchange} {library : Library} (h : Session past library) {f : Builtin}
    {args : List Value} {v : Value} (hargs : ∀ a ∈ args, IsAvailable past a)
    (harity : f.arity.accepts args.length = true) (hrun : f.run args = .ok v) :
    Session (⟨f.name, args, v⟩ :: past) library := by
  refine h.call hargs ?_
  rw [Library.call, tryCall_of_accepts (isNameOf_name f) harity, hrun]

lemma Session.fault {past : List Exchange} {library : Library} (h : Session past library) {name : String}
    {args : List Value} {fault : Fault} {record : Diagnostic} (hargs : ∀ a ∈ args, IsAvailable past a)
    (hfault : tryCall name args = .error fault) (hrecord : Diagnostic.ofFault name args fault = .ok record) :
    Session (⟨name, args, .null⟩ :: past) (library.record record) := by
  refine h.call hargs ?_
  rw [Library.call, hfault]
  exact congrArg (Except.map fun d => (Value.null, library.record d)) hrecord

end Sessions

lemma reached_answer {name : String} {args : List Value} {v p : Value} {past : List Exchange}
    (hp : IsPart p v) : Reached (⟨name, args, v⟩ :: past) p :=
  ⟨_, List.mem_cons_self, Or.inl hp⟩

lemma Reached.later {past : List Exchange} {e : Exchange} {v : Value} (h : Reached past v) :
    Reached (e :: past) v := by
  obtain ⟨f, hf, hv⟩ := h
  exact ⟨f, List.mem_cons_of_mem e hf, hv⟩

end Feel.Proofs
