import Feel.Library
import Feel.Proofs.Provenance
import Feel.Proofs.ZonedInstants

/-!
# Sequences of calls

A client makes one call after the other. The name and the arguments of a call may depend on what the calls
before it answered. Whatever sink a library has, its answers are the outcomes of the calls with null for
every fault, and the sink gets one record for each fault, in the order of the calls. A record shows the
arguments, and the program stops where an argument holds a date-time that shows nothing.
-/

namespace Feel.Proofs

/-! ### Display forms -/

lemma exists_map_eq_ok_iff {ε α β : Type} {f : α → β} {x : Except ε α} :
    (∃ b, x.map f = .ok b) ↔ ∃ a, x = .ok a := by
  cases x <;> simp [Except.map]

lemma bind_eq_ok_iff {ε α β : Type} {x : Except ε α} {f : α → Except ε β} {b : β} :
    x >>= f = .ok b ↔ ∃ a, x = .ok a ∧ f a = .ok b := by
  cases x <;> simp [bind, Except.bind]

lemma exists_bind_eq_ok_iff {ε α β : Type} {x : Except ε α} {f : α → Except ε β} :
    (∃ b, x >>= f = .ok b) ↔ ∃ a, x = .ok a ∧ ∃ b, f a = .ok b := by
  cases x <;> simp [bind, Except.bind]

/-- All date-times in a value show a local date and time. -/
def AllShown (v : Value) : Prop := ∀ t, IsPart (.dateTime t) v → IsShown t

lemma allShown_list {items : List Value} : AllShown (.list items) ↔ ∀ v ∈ items, AllShown v := by
  constructor
  · exact fun h v hv t ht => h t (.item hv ht)
  · rintro h t (_ | ⟨hv, ht⟩)
    exact h _ hv t ht

lemma allShown_context {entries : List (String × Value)} :
    AllShown (.context entries) ↔ ∀ e ∈ entries, AllShown e.2 := by
  constructor
  · exact fun h e he t ht => h t (.binding he ht)
  · rintro h t (_ | _ | ⟨he, ht⟩)
    exact h _ he t ht

lemma exists_dateTime_text_iff {t : DateTime} : (∃ cs, t.text = .ok cs) ↔ IsShown t :=
  exists_map_eq_ok_iff.trans isShown_iff.symm

mutual

/-- A value has a display form exactly if all date-times in it show something. -/
lemma exists_display_iff (v : Value) : (∃ text, v.display = .ok text) ↔ AllShown v := by
  match v with
  | .null | .number _ | .boolean _ | .string _ | .date _ | .time _ | .duration _ | .function _ =>
    simp only [Value.display, Except.ok.injEq, exists_eq', true_iff]
    rintro t ⟨⟩
  | .dateTime t =>
    rw [Value.display, exists_map_eq_ok_iff, exists_dateTime_text_iff]
    refine ⟨?_, fun h => h t .self⟩
    rintro h _ ⟨⟩
    exact h
  | .list items =>
    rw [Value.display, exists_map_eq_ok_iff, exists_displayItems_iff, allShown_list]
  | .context entries =>
    rw [Value.display, exists_map_eq_ok_iff, exists_displayEntries_iff, allShown_context]

lemma exists_displayItems_iff (items : List Value) :
    (∃ texts, Value.displayItems items = .ok texts) ↔ ∀ v ∈ items, AllShown v := by
  match items with
  | [] => simp [Value.displayItems]
  | v :: rest =>
    simp only [Value.displayItems, exists_bind_eq_ok_iff, List.forall_mem_cons, ← exists_display_iff v,
      ← exists_displayItems_iff rest]
    simp [pure, Except.pure]

lemma exists_displayEntries_iff (entries : List (String × Value)) :
    (∃ texts, Value.displayEntries entries = .ok texts) ↔ ∀ e ∈ entries, AllShown e.2 := by
  match entries with
  | [] => simp [Value.displayEntries]
  | (key, v) :: rest =>
    simp only [Value.displayEntries, exists_bind_eq_ok_iff, List.forall_mem_cons, ← exists_display_iff v,
      ← exists_displayEntries_iff rest]
    simp [pure, Except.pure]

end

/-- Each of the texts is the display form of the value at its place. -/
abbrev AreDisplayed : List Value → List String → Prop :=
  List.Forall₂ fun v text => v.display = .ok text

lemma areDisplayed_of_displayItems {vs : List Value} {texts : List String}
    (h : Value.displayItems vs = .ok texts) : AreDisplayed vs texts := by
  induction vs generalizing texts with
  | nil =>
    obtain rfl := Except.ok.inj h
    exact .nil
  | cons v vs ih =>
    rw [Value.displayItems, bind_eq_ok_iff] at h
    obtain ⟨text, hv, h⟩ := h
    obtain ⟨rest, hvs, h⟩ := bind_eq_ok_iff.mp h
    obtain rfl := Except.ok.inj h
    exact .cons hv (ih hvs)

/-! ### Requests -/

/-- A name, which need not be that of a function, and arguments. -/
structure Request where
  name : String
  args : List Value

/-- The requests of a client, each made from the answers so far. -/
abbrev Client := List (List Value → Request)

/-- A request and how it ends. -/
structure Attempt extends Request where
  outcome : Except Fault Value

namespace Attempt

/-- What the client gets: null in place of a fault. -/
def answer (a : Attempt) : Value :=
  match a.outcome with
  | .ok v => v
  | .error _ => .null

def fails (a : Attempt) : Bool :=
  match a.outcome with
  | .ok _ => false
  | .error _ => true

/-- The record of a request that fails: the name as it was called, the arguments in display form and the
wording of the fault. -/
def IsRecordedAs (a : Attempt) (d : Diagnostic) : Prop :=
  ∃ fault texts, a.outcome = .error fault ∧ AreDisplayed a.args texts ∧ d = ⟨a.name, texts, fault.message⟩

/-- The request does not stop the program: if it fails, that is no panic, and its arguments can be shown. -/
def Returns (a : Attempt) : Prop :=
  ∀ fault, a.outcome = .error fault → (∀ why, fault ≠ .panic why) ∧ ∀ v ∈ a.args, AllShown v

/-- The record of a request that fails, and none of one that succeeds. -/
def record (a : Attempt) : Except Panic (List Diagnostic) :=
  match a.outcome with
  | .ok _ => .ok []
  | .error fault => (Diagnostic.ofFault a.name a.args fault).map fun d => [d]

end Attempt

lemma panic_eq (why : Panic) : why = .localOutOfRange := by cases why; rfl

/-- A record that cannot be made stops the program. -/
lemma ofFault_cases (name : String) (args : List Value) (fault : Fault) :
    (∃ texts, AreDisplayed args texts ∧
        Diagnostic.ofFault name args fault = .ok ⟨name, texts, fault.message⟩ ∧
        (∀ why, fault ≠ .panic why) ∧ ∀ v ∈ args, AllShown v) ∨
      Diagnostic.ofFault name args fault = .error .localOutOfRange ∧
        ¬((∀ why, fault ≠ .panic why) ∧ ∀ v ∈ args, AllShown v) := by
  by_cases hpanic : ∃ why, fault = .panic why
  · obtain ⟨why, rfl⟩ := hpanic
    exact .inr ⟨congrArg _ (panic_eq why), fun h => h.1 why rfl⟩
  · have hne : ∀ why, fault ≠ .panic why := not_exists.mp hpanic
    have hrecord : Diagnostic.ofFault name args fault =
        (Value.displayItems args).map fun texts => ⟨name, texts, fault.message⟩ := by
      -- All faults but a panic are recorded alike.
      cases fault <;> first | rfl | exact absurd rfl (hne _)
    have hshown := exists_displayItems_iff args
    rw [hrecord]
    cases htexts : Value.displayItems args with
    | ok texts =>
      exact .inl ⟨texts, areDisplayed_of_displayItems htexts, rfl, hne, hshown.mp ⟨texts, htexts⟩⟩
    | error why =>
      refine .inr ⟨congrArg _ (panic_eq why), fun h => ?_⟩
      obtain ⟨texts, hok⟩ := hshown.mpr h.2
      exact absurd (htexts.symm.trans hok) (by simp)

/-- A library after some records. -/
def recordAll (library : Library) (records : List Diagnostic) : Library :=
  records.foldl Library.record library

lemma recordAll_append (library : Library) (records more : List Diagnostic) :
    recordAll library (records ++ more) = recordAll (recordAll library records) more :=
  List.foldl_append

lemma recordAll_silent (kept : List Diagnostic) (logged : List String) (records : List Diagnostic) :
    recordAll ⟨.silent, kept, logged⟩ records = ⟨.silent, kept, logged⟩ := by
  induction records with
  | nil => rfl
  | cons d records ih => exact ih

lemma recordAll_log (kept : List Diagnostic) (logged : List String) (records : List Diagnostic) :
    recordAll ⟨.log, kept, logged⟩ records = ⟨.log, kept, logged ++ records.map Diagnostic.logLine⟩ := by
  induction records generalizing logged with
  | nil => simp [recordAll]
  | cons d records ih =>
    rw [List.map_cons, List.append_cons]
    exact ih (logged ++ [d.logLine])

lemma recordAll_memory (kept : List Diagnostic) (logged : List String) (records : List Diagnostic) :
    recordAll ⟨.memory, kept, logged⟩ records = ⟨.memory, kept ++ records, logged⟩ := by
  induction records generalizing kept with
  | nil => simp [recordAll]
  | cons d records ih =>
    rw [List.append_cons]
    exact ih (kept ++ [d])

/-! ### Calls after calls -/

section Calls

variable [Zones]

def Request.attempt (r : Request) : Attempt := ⟨r, tryCall r.name r.args⟩

/-- The answers of a library to a client that has got answers before, and the library afterwards. -/
def answerAll (library : Library) (past : List Value) : Client → Except Panic (List Value × Library)
  | [] => .ok ([], library)
  | next :: rest => do
    let first ← library.call (next past).name (next past).args
    let later ← answerAll first.2 (past ++ [first.1]) rest
    return (first.1 :: later.1, later.2)

/-- How the requests of a client end without any library to record them. -/
def attempts (past : List Value) : Client → List Attempt
  | [] => []
  | next :: rest =>
    let first := (next past).attempt
    first :: attempts (past ++ [first.answer]) rest

/-- One call answers what its attempt answers, and records the attempt's record if there is one. -/
lemma call_eq (library : Library) (r : Request) :
    library.call r.name r.args =
      r.attempt.record.map fun records => (r.attempt.answer, recordAll library records) := by
  unfold Library.call Request.attempt Attempt.answer Attempt.record
  cases tryCall r.name r.args with
  | ok v => rfl
  | error fault =>
    dsimp only
    cases Diagnostic.ofFault r.name r.args fault <;> rfl

end Calls

/-- The records of attempts, in their order. -/
def recordsOf : List Attempt → Except Panic (List Diagnostic)
  | [] => .ok []
  | a :: rest => do return (← a.record) ++ (← recordsOf rest)

/-- All calls of a client answer what their attempts answer, and record the records of these. -/
lemma answerAll_eq [Zones] (library : Library) (past : List Value) (client : Client) :
    answerAll library past client = (recordsOf (attempts past client)).map fun records =>
      ((attempts past client).map Attempt.answer, recordAll library records) := by
  -- The attempts never see the library, so the induction is over all libraries that the first call can leave.
  induction client generalizing library past with
  | nil => rfl
  | cons next rest ih =>
    rw [answerAll, call_eq, attempts, recordsOf]
    cases (next past).attempt.record with
    | error why => rfl
    | ok records =>
      simp only [Except.map, bind, Except.bind, ih]
      cases recordsOf (attempts (past ++ [(next past).attempt.answer]) rest) with
      | error why => rfl
      | ok more => simp only [pure, Except.pure, List.map_cons, recordAll_append]

/-- An attempt has its record, unless it stops the program. -/
lemma attempt_record_cases (a : Attempt) :
    (∃ records, a.record = .ok records ∧ a.Returns ∧
        List.Forall₂ Attempt.IsRecordedAs ([a].filter Attempt.fails) records) ∨
      a.record = .error .localOutOfRange ∧ ¬a.Returns := by
  obtain ⟨request, outcome⟩ := a
  cases outcome with
  | ok v => exact .inl ⟨[], rfl, (fun fault h => nomatch h), .nil⟩
  | error fault =>
    obtain ⟨texts, hshown, hrecord, hreturns⟩ | ⟨hrecord, hstops⟩ :=
      ofFault_cases request.name request.args fault
    · refine .inl ⟨[⟨request.name, texts, fault.message⟩], ?_, ?_,
        .cons ⟨fault, texts, rfl, hshown, rfl⟩ .nil⟩
      · exact congrArg (Except.map fun d => [d]) hrecord
      · rintro _ ⟨⟩
        exact hreturns
    · exact .inr ⟨congrArg (Except.map fun d => [d]) hrecord, fun h => hstops (h fault rfl)⟩

lemma recordsOf_cases (as : List Attempt) :
    (∃ records, recordsOf as = .ok records ∧ (∀ a ∈ as, a.Returns) ∧
        List.Forall₂ Attempt.IsRecordedAs (as.filter Attempt.fails) records) ∨
      recordsOf as = .error .localOutOfRange ∧ ¬∀ a ∈ as, a.Returns := by
  induction as with
  | nil => exact .inl ⟨[], rfl, List.forall_mem_nil _, .nil⟩
  | cons a as ih =>
    rw [recordsOf, List.forall_mem_cons]
    obtain ⟨records, hrecord, hreturns, hrecorded⟩ | ⟨hrecord, hstops⟩ := attempt_record_cases a
    · rw [hrecord]
      obtain ⟨more, hmore, hrest, hall⟩ | ⟨hmore, hrest⟩ := ih
      · have hfilter : (a :: as).filter Attempt.fails =
            [a].filter Attempt.fails ++ as.filter Attempt.fails :=
          List.filter_append [a] as
        rw [hmore, hfilter]
        exact .inl ⟨records ++ more, rfl, ⟨hreturns, hrest⟩, List.rel_append hrecorded hall⟩
      · rw [hmore]
        exact .inr ⟨rfl, fun h => hrest h.2⟩
    · rw [hrecord]
      exact .inr ⟨rfl, fun h => hstops h.1⟩

section Sinks

variable [Zones] {client : Client} {past : List Value}

lemma answerAll_eq_ok (h : ∀ a ∈ attempts past client, a.Returns) : ∃ records,
    List.Forall₂ Attempt.IsRecordedAs ((attempts past client).filter Attempt.fails) records ∧
      ∀ library, answerAll library past client =
        .ok ((attempts past client).map Attempt.answer, recordAll library records) := by
  obtain ⟨records, hrecords, -, hrecorded⟩ | ⟨-, hstops⟩ := recordsOf_cases (attempts past client)
  · refine ⟨records, hrecorded, fun library => ?_⟩
    rw [answerAll_eq, hrecords]
    rfl
  · exact absurd h hstops

lemma answerAll_eq_error (h : ∃ a ∈ attempts past client, ¬a.Returns) (library : Library) :
    answerAll library past client = .error .localOutOfRange := by
  obtain ⟨a, ha, hstops⟩ := h
  obtain ⟨-, -, hreturns, -⟩ | ⟨hrecords, -⟩ := recordsOf_cases (attempts past client)
  · exact absurd (hreturns a ha) hstops
  · rw [answerAll_eq, hrecords]
    rfl

end Sinks

/-- The answers do not depend on the library: they are those of the attempts. A sink in memory keeps the
records of the attempts that failed after those that it had, a log shows them, and a silent sink drops
them. That is so unless an attempt stops the program, which it then does whatever the library is. -/
theorem answerAll_sinks [Zones] (client : Client) (past : List Value) :
    ((∀ a ∈ attempts past client, a.Returns) → ∃ records,
        List.Forall₂ Attempt.IsRecordedAs ((attempts past client).filter Attempt.fails) records ∧
        ∀ library, ∃ after,
          answerAll library past client = .ok ((attempts past client).map Attempt.answer, after) ∧
          (library.sink = .memory → after = { library with records := library.records ++ records }) ∧
          (library.sink = .log →
            after = { library with logged := library.logged ++ records.map Diagnostic.logLine }) ∧
          (library.sink = .silent → after = library)) ∧
      ((∃ a ∈ attempts past client, ¬a.Returns) →
        ∀ library, answerAll library past client = .error .localOutOfRange) := by
  refine ⟨fun hreturns => ?_, answerAll_eq_error⟩
  obtain ⟨records, hrecorded, hanswers⟩ := answerAll_eq_ok hreturns
  refine ⟨records, hrecorded, fun library => ⟨recordAll library records, hanswers library, ?_⟩⟩
  obtain ⟨sink, kept, logged⟩ := library
  refine ⟨?_, ?_, ?_⟩
  · rintro rfl
    exact recordAll_memory kept logged _
  · rintro rfl
    exact recordAll_log kept logged _
  · rintro rfl
    exact recordAll_silent kept logged _

/-- A client that calls no function, then one with a null answer, then one without its argument. -/
def carelessClient : Client :=
  [fun _ => ⟨"nope", []⟩, fun past => ⟨"floor", past⟩, fun _ => ⟨"abs", []⟩]

lemma attempts_carelessClient : attempts [] carelessClient =
    [⟨⟨"nope", []⟩, .error (.unknownFunction "nope")⟩, ⟨⟨"floor", [.null]⟩, .ok .null⟩,
      ⟨⟨"abs", []⟩, .error (.argumentCount (.exactly 1) 0)⟩] := by
  rfl

theorem answerAll_sinks_carelessClient :
    (∀ a ∈ attempts [] carelessClient, a.Returns) ∧
      ∃ memory log silent,
        answerAll (.ofSink .memory) [] carelessClient = .ok ([.null, .null, .null], memory) ∧
        memory.records = [⟨"nope", [], "Unknown function 'nope'."⟩,
          ⟨"abs", [], "Argument count mismatch: expected 1, found 0."⟩] ∧
        answerAll (.ofSink .log) [] carelessClient = .ok ([.null, .null, .null], log) ∧
        log.logged = ["ERROR feelib nope(): Unknown function 'nope'.",
          "ERROR feelib abs(): Argument count mismatch: expected 1, found 0."] ∧
        answerAll (.ofSink .silent) [] carelessClient = .ok ([.null, .null, .null], silent) ∧
        silent = .ofSink .silent := by
  have hreturns : ∀ a ∈ attempts [] carelessClient, a.Returns := by
    rw [attempts_carelessClient]
    simp [Attempt.Returns, AllShown]
  obtain ⟨records, hrecorded, hall⟩ := (answerAll_sinks carelessClient []).1 hreturns
  have hrecords : records = [⟨"nope", [], "Unknown function 'nope'."⟩,
      ⟨"abs", [], "Argument count mismatch: expected 1, found 0."⟩] := by
    rw [attempts_carelessClient] at hrecorded
    obtain _ | ⟨⟨_, _, ⟨⟩, ⟨⟩, rfl⟩, _ | ⟨⟨_, _, ⟨⟩, ⟨⟩, rfl⟩, ⟨⟩⟩⟩ := hrecorded
    decide +kernel
  obtain ⟨memory, hmemory, hkept, -⟩ := hall (.ofSink .memory)
  obtain ⟨log, hlog, -, hlogged, -⟩ := hall (.ofSink .log)
  obtain ⟨silent, hsilent, -, -, hsame⟩ := hall (.ofSink .silent)
  refine ⟨hreturns, memory, log, silent, hmemory, ?_, hlog, ?_, hsilent, hsame rfl⟩
  · rw [hkept rfl, hrecords]
    rfl
  · rw [hlogged rfl, hrecords]
    decide +kernel

/-- A client that calls a function of numbers with a date-time beyond the calendar's last day. -/
def farClient : Client :=
  [fun _ => ⟨"date and time", [.string "+262142-12-31T23:30:00Z@Asia/Tokyo"]⟩, fun past => ⟨"abs", past⟩]

lemma attempts_farClient : attempts [] farClient =
    [⟨⟨"date and time", [.string "+262142-12-31T23:30:00Z@Asia/Tokyo"]⟩, .ok (.dateTime pastLastDay)⟩,
      ⟨⟨"abs", [.dateTime pastLastDay]⟩, .error (.wrongKind (.kind .number) .dateTime)⟩] := by
  have hread : tryCall "date and time" [.string "+262142-12-31T23:30:00Z@Asia/Tokyo"] =
      .ok (.dateTime pastLastDay) := by
    have hcall (s : String) : tryCall "date and time" [.string s] = Operation.dateAndTime [.string s] := rfl
    rw [hcall, dateAndTime_pastLastDay]
  simp only [attempts, farClient, Request.attempt, hread, Attempt.answer]
  rfl

/-- The function fails, as any function that is given a value of the wrong kind. But the answer is not null,
and no sink gets a record: the program stops. -/
theorem answerAll_farClient :
    (attempts [] farClient).map Attempt.outcome =
        [.ok (.dateTime pastLastDay), .error (.wrongKind (.kind .number) .dateTime)] ∧
      ∀ library, answerAll library [] farClient = .error .localOutOfRange := by
  refine ⟨congrArg _ attempts_farClient, answerAll_eq_error ?_⟩
  rw [attempts_farClient]
  refine ⟨_, List.mem_cons_of_mem _ List.mem_cons_self, fun hreturns => ?_⟩
  obtain ⟨-, hshown⟩ := hreturns _ rfl
  exact not_isShown_pastLastDay (hshown _ List.mem_cons_self _ .self)

end Feel.Proofs
