import Feel.Calendar.Offset

/-!
# Times with an offset

A time of day together with the offset of the clock that shows it. Two such times are the same if
they are reached at the same moment of a day, whatever their offsets.
-/

namespace Feel

/-- A time of day with its offset, and no date. -/
structure OffsetTime where
  clock : Clock
  offset : Offset

namespace OffsetTime

/-- Nanoseconds since midnight of universal time, which may be negative or exceed a day. -/
def utcNanos (t : OffsetTime) : Int := t.clock.nanos - t.offset.nanos

def toUtc (t : OffsetTime) : Clock := Clock.wrap t.utcNanos

/-- Times are ordered, and equal, by universal time without wrapping around midnight. -/
def cmp (a b : OffsetTime) : Ordering := compare a.utcNanos b.utcNanos

def same (a b : OffsetTime) : Bool := a.utcNanos == b.utcNanos

def text (t : OffsetTime) : List Char := t.clock.text ++ t.offset.text

/-- Reads a clock and an optional offset; without one the time is universal. A zone's name is
refused because its offset depends on the date. -/
def parse? (cs : List Char) : Option OffsetTime := do
  if cs.any fun c => c == '@' || c == '[' then none
  let (clock, offset) := Offset.cut cs
  let clock ← Clock.parse? clock
  match offset with
  | none => some ⟨clock, .utc⟩
  | some offset => some ⟨clock, ← Offset.parse? offset⟩

end OffsetTime

end Feel
