import Feel.Calendar.Timeline

/-!
# Zones of Asia

Japan, India and Nepal.
-/

namespace Feel.Zone

namespace Tokyo

def mean : Offset := { seconds := 33539 }
def standard : Offset := { seconds := 32400 }
def daylight : Offset := { seconds := 36000 }

def changes : List (Int × Offset) :=
  [(-2587712400, standard), (-683802000, daylight), (-672310800, standard),
   (-654771600, daylight), (-640861200, standard), (-620298000, daylight),
   (-609411600, standard), (-588848400, daylight), (-577962000, standard)]

def timeline : Timeline := ⟨mean, changes, by decide +kernel⟩

end Tokyo

namespace Kolkata

def mean : Offset := { seconds := 21208 }
def howrah : Offset := { seconds := 21200 }
def madras : Offset := { seconds := 19270 }
def standard : Offset := { seconds := 19800 }
def warTime : Offset := { seconds := 23400 }

def changes : List (Int × Offset) :=
  [(-3645237208, howrah), (-3155694800, madras), (-2019705670, standard), (-891581400, warTime),
   (-872058600, standard), (-862637400, warTime), (-764145000, standard)]

def timeline : Timeline := ⟨mean, changes, by decide +kernel⟩

end Kolkata

namespace Kathmandu

def mean : Offset := { seconds := 20476 }
def indian : Offset := { seconds := 19800 }
def nepal : Offset := { seconds := 20700 }

def changes : List (Int × Offset) :=
  [(-1577943676, indian), (504901800, nepal)]

def timeline : Timeline := ⟨mean, changes, by decide +kernel⟩

end Kathmandu

end Feel.Zone
