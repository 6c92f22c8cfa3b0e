import Feel.Operation.Calendar
import Mathlib

/-!
# Where values come from

A call gives back parts of its arguments, values that it makes anew, and groups of these. `Makes` says
so of a result, `Yields` of a computation that may fail. The rules of `Yields` take the steps of a
computation apart, so that a function's results are read off its last steps.
-/

namespace Feel.Proofs

/-! ### Results of computations -/

/-- The result of a computation has the property, if there is one. -/
def Yields {ε α : Type} (P : α → Prop) (x : Except ε α) : Prop := ∀ r, x = .ok r → P r

section Yields

variable {ε α β : Type} {P : α → Prop}

@[simp] lemma yields_ok {a : α} : Yields P (.ok a : Except ε α) ↔ P a := by simp [Yields]

@[simp] lemma yields_pure {a : α} : Yields P (pure a : Except ε α) ↔ P a := yields_ok

@[simp] lemma yields_error (e : ε) : Yields P (.error e) := by simp [Yields]

@[simp] lemma yields_throw (e : ε) : Yields P (throw e : Except ε α) := yields_error e

@[simp] lemma yields_true (x : Except ε α) : Yields (fun _ => True) x := fun _ _ => trivial

@[simp] lemma yields_bind {x : Except ε β} {f : β → Except ε α} :
    Yields P (x >>= f) ↔ Yields (fun b => Yields P (f b)) x := by
  cases x <;> simp [bind, Except.bind]

@[simp] lemma yields_map {x : Except ε β} {f : β → α} :
    Yields P (x.map f) ↔ Yields (fun b => P (f b)) x := by
  cases x <;> simp [Except.map]

@[simp] lemma yields_functorMap {x : Except ε β} {f : β → α} :
    Yields P (f <$> x) ↔ Yields (fun b => P (f b)) x := yields_map

@[simp] lemma yields_mapError {ε' : Type} {x : Except ε' α} {f : ε' → ε} :
    Yields P (x.mapError f) ↔ Yields P x := by
  cases x <;> simp [Except.mapError]

@[simp] lemma yields_ite {c : Prop} [Decidable c] {x y : Except ε α} :
    Yields P (if c then x else y) ↔ (c → Yields P x) ∧ (¬c → Yields P y) := by
  split_ifs with h <;> simp [h]

end Yields

/-! ### Parts and makings -/

/-- A value is part of another one if it is that value or stands in it at some depth. -/
inductive IsPart (p : Value) : Value → Prop
  | self : IsPart p p
  | item {v : Value} {items : List Value} (hv : v ∈ items) (h : IsPart p v) : IsPart p (.list items)
  | binding {key : String} {v : Value} {entries : List (String × Value)} (hv : (key, v) ∈ entries)
      (h : IsPart p v) : IsPart p (.context entries)

lemma IsPart.trans {p q v : Value} (hp : IsPart p q) (hq : IsPart q v) : IsPart p v := by
  induction hq with
  | self => exact hp
  | item hv _ ih => exact .item hv ih
  | binding hv _ ih => exact .binding hv ih

/-- A whole number of 64 bits with a sign. -/
def IsWord (k : ℤ) : Prop := -(Word.max64 : ℤ) - 1 ≤ k ∧ k ≤ Word.max64

/-- How many items a list or characters a text has. -/
def extent : Value → ℕ
  | .string s => s.toList.length
  | .list items => items.length
  | _ => 0

/-- The numbers that calls with the given arguments, or documents, make anew. -/
inductive FreshNumber (args : List Value) : Decimal → Prop
  | working {x n : Decimal} (h : x.toWorking? = some n) : FreshNumber args n.normalize
  | floor {n : Decimal} (h : .number n ∈ args) : FreshNumber args n.floor.normalize
  | ceiling {n : Decimal} (h : .number n ∈ args) : FreshNumber args n.ceiling.normalize
  | abs {n : Decimal} (h : .number n ∈ args) : FreshNumber args n.abs.normalize
  | position {a : Value} {k : ℕ} (ha : a ∈ args) (hk : k ≤ extent a) :
      FreshNumber args (Decimal.ofInt k).normalize
  | word {k : ℤ} (h : IsWord k) : FreshNumber args (.ofInt k)
  | component {d : Duration} {k : ℤ} (hd : .duration d ∈ args)
      (hk : some k ∈ [d.yearPart?, d.monthPart?, d.dayPart?, d.hourPart?, d.minutePart?]) :
      FreshNumber args (.ofInt k)
  | seconds {d : Duration} {n : Decimal} (hd : .duration d ∈ args) (hn : d.secondPart? = some n) :
      FreshNumber args n.normalize

/-- The values without parts that calls with the given arguments, or documents, make anew. -/
inductive Fresh [Zones] (args : List Value) : Value → Prop
  | null : Fresh args .null
  | boolean (b : Bool) : Fresh args (.boolean b)
  | number {n : Decimal} (h : FreshNumber args n) : Fresh args (.number n)
  | string (s : String) : Fresh args (.string s)
  | date (d : Date) : Fresh args (.date d)
  | function (f : Comparator) : Fresh args (.function f)
  | timeOfText {s : String} {t : OffsetTime} (h : OffsetTime.parse s = .ok t) : Fresh args (.time t)
  | timeOfClock (c : Clock) : Fresh args (.time ⟨c, .utc⟩)
  | timeOfOffset (c : Clock) {d : Duration} {o : Offset} (h : Operation.offsetOfDuration d = .ok o) :
      Fresh args (.time ⟨c, o⟩)
  | timeOfDateTime {t : DateTime} {time : OffsetTime} (h : .dateTime t ∈ args) (htime : t.time = .ok time) :
      Fresh args (.time time)
  | dateTimeOfText {s : String} {t : DateTime} (h : DateTime.parse s = .ok t) : Fresh args (.dateTime t)
  | dateTimeAtUtc {shown : LocalDateTime} {t : DateTime} (h : DateTime.atUtc shown = .ok t) :
      Fresh args (.dateTime t)
  | durationOfText {s : String} {d : Duration} (h : Duration.parse s = .ok d) : Fresh args (.duration d)
  | monthsBetween (a b : LocalDateTime) : Fresh args (.duration (.months (a.monthsUntil b)))
  | offsetOf (o : Offset) : Fresh args (.duration (.ofMinutes (o.seconds.tdiv 60)))

/-- Lists, and contexts without a name that is bound twice. -/
def IsGroup : Value → Prop
  | .list _ => True
  | .context entries => (Entries.keys entries).Nodup
  | _ => False

/-- What a call can give back: parts of its arguments, fresh values, and groups of these. -/
inductive Makes [Zones] (args : List Value) : Value → Prop
  | part {a p : Value} (ha : a ∈ args) (hp : IsPart p a) : Makes args p
  | fresh {v : Value} (h : Fresh args v) : Makes args v
  | list {items : List Value} (h : ∀ v ∈ items, Makes args v) : Makes args (.list items)
  | context {entries : List (String × Value)} (hkeys : (Entries.keys entries).Nodup)
      (h : ∀ e ∈ entries, Makes args e.2) : Makes args (.context entries)

@[simp] lemma yields_miscount (arity : Arity) (args : List Value) (P : Value → Prop) :
    Yields P (arity.miscount args) := yields_error _

@[simp] lemma yields_fault (v : Value) (wanted : Wanted) (P : Value → Prop) :
    Yields P (v.fault wanted) := yields_error _

section Makes

variable [Zones] {args : List Value}

lemma Makes.arg {a : Value} (h : a ∈ args) : Makes args a := .part h .self

@[simp] lemma makes_null : Makes args .null := .fresh .null

@[simp] lemma makes_boolean (b : Bool) : Makes args (.boolean b) := .fresh (.boolean b)

lemma makes_working {x n : Decimal} (h : x.toWorking? = some n) : Makes args (.ofDecimal n) :=
  .fresh (.number (.working h))

lemma makes_position {a : Value} {k : ℕ} (ha : a ∈ args) (hk : k ≤ extent a) :
    Makes args (.ofDecimal (.ofInt k)) :=
  .fresh (.number (.position ha hk))

lemma makes_word {k : ℤ} (h : IsWord k) : Makes args (.ofInt k) := .fresh (.number (.word h))

@[simp] lemma makes_string (s : String) : Makes args (.string s) := .fresh (.string s)

@[simp] lemma makes_ofChars (cs : List Char) : Makes args (.ofChars cs) := makes_string _

@[simp] lemma makes_date (d : Date) : Makes args (.date d) := .fresh (.date d)

lemma Makes.of_isPart {r p : Value} (h : Makes args r) (hp : IsPart p r) : Makes args p := by
  induction h with
  | part ha hr => exact .part ha (hp.trans hr)
  | fresh hr =>
    cases hp with
    | self => exact .fresh hr
    | item => cases hr
    | binding => cases hr
  | list hitems ih =>
    cases hp with
    | self => exact .list hitems
    | item hv hp => exact ih _ hv hp
  | context hkeys hentries ih =>
    cases hp with
    | self => exact .context hkeys hentries
    | binding hv hp => exact ih _ hv hp

@[simp] lemma makes_nil : Makes args (.list []) := .list (by simp)

/-- What holds of groups and of fresh values, and of all parts of the arguments, holds of what a call
gives back. -/
lemma Makes.forall {P : Value → Prop} (hgroup : ∀ v, IsGroup v → P v) (hfresh : ∀ v, Fresh args v → P v)
    (hargs : ∀ a ∈ args, ∀ p, IsPart p a → P p) {v : Value} (h : Makes args v) : P v := by
  cases h with
  | part ha hp => exact hargs _ ha _ hp
  | fresh h => exact hfresh _ h
  | list _ => exact hgroup _ trivial
  | context hkeys _ => exact hgroup _ hkeys

end Makes

end Feel.Proofs
