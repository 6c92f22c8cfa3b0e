import Feel.Calendar.Zone.Africa
import Feel.Calendar.Zone.America
import Feel.Calendar.Zone.Asia
import Feel.Calendar.Zone.Europe
import Feel.Calendar.Zone.Pacific

/-!
# Named zones

Places and zones that are known by name, each with its timeline. Names are case-sensitive; two names may
stand for the same timeline. Which zones are known is a parameter of all that reads date-times.
-/

namespace Feel

structure Zone where
  name : String
  timeline : Timeline
  deriving DecidableEq

namespace Zone

def fixed (offset : Offset) : Timeline := ⟨offset, [], trivial⟩

/-- Some zones of the earth, in the order of their names. -/
def all : List Zone :=
  [⟨"Africa/Monrovia", Monrovia.timeline⟩, ⟨"America/New_York", NewYork.timeline⟩,
   ⟨"America/St_Johns", StJohns.timeline⟩, ⟨"Asia/Kathmandu", Kathmandu.timeline⟩,
   ⟨"Asia/Kolkata", Kolkata.timeline⟩, ⟨"Asia/Tokyo", Tokyo.timeline⟩,
   ⟨"Australia/Lord_Howe", LordHowe.timeline⟩, ⟨"EST", Panama.timeline⟩,
   ⟨"Etc/GMT+5", fixed { seconds := -5 * 3600 }⟩, ⟨"Etc/UTC", fixed .utc⟩,
   ⟨"Europe/Paris", Paris.timeline⟩, ⟨"GMT", fixed .utc⟩, ⟨"Pacific/Apia", Apia.timeline⟩,
   ⟨"Pacific/Chatham", Chatham.timeline⟩, ⟨"UTC", fixed .utc⟩, ⟨"US/Eastern", NewYork.timeline⟩]

def ofName? (zones : List Zone) (name : String) : Option Zone :=
  zones.find? fun zone => zone.name == name

/-- The offset in force at an instant, in seconds since the start of 1970. -/
def offsetAt (zone : Zone) (instant : Int) : Offset := zone.timeline.offsetAt instant

end Zone

/-- The zones that literals may name. -/
class Zones where
  known : List Zone

/-- The zones that are known where no others are given. -/
instance Zones.ofEarth : Zones := ⟨Zone.all⟩

end Feel
