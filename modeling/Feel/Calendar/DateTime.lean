import Feel.Calendar.OffsetTime
import Feel.Fault

/-!
# Date-times

An instant of the calendar at universal time, the offset of the clock that shows it and, where it is known,
the zone that the offset comes from. Date-times are ordered, and equal, by their instants. What the local
calendar and clock show may lie beyond the calendar's first or last day, and then it cannot be had.
-/

namespace Feel

structure DateTime where
  /-- What a calendar and a clock at universal time show. -/
  utc : LocalDateTime
  offset : Offset
  zone : Option Zone
  deriving DecidableEq

namespace DateTime

/-- Nanoseconds of universal time since the start of 1970. -/
def instant (t : DateTime) : Int := t.utc.position

/-- Whole seconds of universal time since the start of 1970. -/
def seconds (t : DateTime) : Int := t.utc.seconds

def cmp (a b : DateTime) : Ordering := compare a.instant b.instant

def same (a b : DateTime) : Bool := a.instant == b.instant

/-- What the local calendar and clock show. -/
def shown (t : DateTime) : Except Panic LocalDateTime :=
  match LocalDateTime.atPosition? (t.instant + t.offset.nanos) with
  | some shown => .ok shown
  | none => .error .localOutOfRange

def date (t : DateTime) : Except Panic Date := t.shown.map LocalDateTime.date

def time (t : DateTime) : Except Panic OffsetTime := t.shown.map fun shown => ⟨shown.clock, t.offset⟩

/-- The date-time that a clock with the given offset shows. -/
def atOffset (shown : LocalDateTime) (offset : Offset) : Except ArgumentFault DateTime :=
  match LocalDateTime.atPosition? (shown.position - offset.nanos) with
  | some utc => .ok ⟨utc, offset, none⟩
  | none => .error (.notRepresentable shown offset)

def atUtc (shown : LocalDateTime) : Except ArgumentFault DateTime := atOffset shown .utc

/-- The first instant at which the clocks of a zone show the given local date-time. -/
def inZone (shown : LocalDateTime) (zone : Zone) : Except ArgumentFault DateTime :=
  match zone.timeline.showing? shown.seconds with
  | some offset =>
    match LocalDateTime.atPosition? (shown.position - offset.nanos) with
    | some utc => .ok ⟨utc, offset, some zone⟩
    | none => .error (.skipped shown zone)
  | none => .error (.skipped shown zone)

/-- The same instant, as the clocks of a zone show it. -/
def moveTo (t : DateTime) (zone : Zone) : DateTime := ⟨t.utc, zone.offsetAt t.seconds, some zone⟩

/-! ### Text -/

/-- The local date-time, followed by the zone's name or by the offset. -/
def text (t : DateTime) : Except Panic (List Char) := t.shown.map fun shown =>
  shown.textWith 'T' ++
    match t.zone with
    | some zone => '@' :: zone.name.toList
    | none => t.offset.text

/-- The text before a zone's name, and that name: after an at sign, or in brackets at the end. -/
def cutZone (cs : List Char) : List Char × Option (List Char) :=
  match Text.splitOnce (· == '@') cs with
  | (body, some zone) => (body, some zone)
  | (_, none) =>
    match cs.getLast?, Text.splitOnce (· == '[') cs.dropLast with
    | some ']', (body, some zone) => (body, some zone)
    | _, _ => (cs, none)

structure Parts where
  shown : LocalDateTime
  offset : Option Offset
  zone : Option Zone

/-- Parts a clock text from the offset at its end. A date without a clock stands for its midnight. -/
def cutClock : Option (List Char) → List Char × Option (List Char)
  | some clock => Offset.cut clock
  | none => (Clock.midnight.text, none)

/-- Reads a date, perhaps with a clock after the letter `T`, an offset and one of the zones. -/
def readParts? (zones : List Zone) (cs : List Char) : Option Parts := do
  let (body, zone) := cutZone cs
  let zone ← zone.mapM fun name => Zone.ofName? zones (String.ofList name)
  let (date, clock) := Text.splitOnce (· == 'T') body
  let date ← Date.parse? date
  let (clock, offset) := cutClock clock
  let clock ← Clock.parse? clock
  let offset ← offset.mapM Offset.parse?
  return ⟨⟨date, clock⟩, offset, zone⟩

/-- The date-time of a literal's parts: at the offset if there is one, else in the zone, else at
universal time. A zone beside an offset only says which clocks show the instant. -/
def ofParts (parts : Parts) : Except ArgumentFault DateTime :=
  match parts.offset, parts.zone with
  | some offset, some zone => (atOffset parts.shown offset).map fun t => t.moveTo zone
  | none, some zone => inZone parts.shown zone
  | some offset, none => atOffset parts.shown offset
  | none, none => atUtc parts.shown

/-- Reads a literal that may name one of the zones. -/
def parseIn (zones : List Zone) (text : String) : Except Fault DateTime :=
  match readParts? zones text.toList with
  | none => .error (.malformed .dateTime text)
  | some parts => (ofParts parts).mapError .badArgument

/-- Reads a literal that may name a known zone. -/
def parse [Zones] (text : String) : Except Fault DateTime := parseIn Zones.known text

end DateTime

def Date.parse (text : String) : Except Fault Date :=
  match Date.parse? text.toList with
  | some date => .ok date
  | none => .error (.malformed .date text)

def OffsetTime.parse (text : String) : Except Fault OffsetTime :=
  match OffsetTime.parse? text.toList with
  | some time => .ok time
  | none => .error (.malformed .time text)

end Feel
