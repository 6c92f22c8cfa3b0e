import Feel.Calendar.Timeline

/-!
# Zones of Africa

Liberia, whose clocks showed local time until 1972.
-/

namespace Feel.Zone

namespace Monrovia

def mean : Offset := { seconds := -2588 }
def liberian : Offset := { seconds := -2670 }
def greenwich : Offset := .utc

def changes : List (Int × Offset) :=
  [(-1604359012, liberian), (63593070, greenwich)]

def timeline : Timeline := ⟨mean, changes, by decide +kernel⟩

end Monrovia

end Feel.Zone
