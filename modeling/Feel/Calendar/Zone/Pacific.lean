import Feel.Calendar.Timeline

/-!
# Zones of the Pacific

Lord Howe Island, the Chatham Islands and Samoa, which changed sides of the date line twice.
-/

namespace Feel.Zone

namespace LordHowe

def mean : Offset := { seconds := 38180 }
def eastern : Offset := { seconds := 10 * 3600 }
def standard : Offset := { seconds := 37800 }
def fullSummer : Offset := { seconds := 41400 }
def halfSummer : Offset := { seconds := 39600 }

def changes : List (Int × Offset) :=
  [(-2364114980, eastern), (352216800, standard), (372785400, fullSummer), (384273000, standard),
   (404839800, fullSummer), (415722600, standard), (436289400, fullSummer),
   (447172200, standard), (467739000, fullSummer), (478621800, standard),
   (499188600, halfSummer), (511282800, standard), (530033400, halfSummer),
   (542732400, standard), (562087800, halfSummer), (574786800, standard),
   (594142200, halfSummer), (606236400, standard), (625591800, halfSummer),
   (636476400, standard), (657041400, halfSummer), (667926000, standard),
   (688491000, halfSummer), (699375600, standard), (719940600, halfSummer),
   (731430000, standard), (751995000, halfSummer), (762879600, standard),
   (783444600, halfSummer), (794329200, standard), (814894200, halfSummer),
   (828198000, standard), (846343800, halfSummer), (859647600, standard),
   (877793400, halfSummer), (891097200, standard), (909243000, halfSummer),
   (922546800, standard), (941297400, halfSummer), (953996400, standard),
   (967303800, halfSummer), (985446000, standard), (1004196600, halfSummer),
   (1017500400, standard), (1035646200, halfSummer), (1048950000, standard),
   (1067095800, halfSummer), (1080399600, standard), (1099150200, halfSummer),
   (1111849200, standard), (1130599800, halfSummer), (1143903600, standard),
   (1162049400, halfSummer), (1174748400, standard), (1193499000, halfSummer)]

def yearly : List Timeline.Yearly :=
  [⟨4, .first, -32400, standard⟩, ⟨10, .first, -30600, halfSummer⟩]

def timeline : Timeline := ⟨mean, changes ++ Timeline.recurring 2008 yearly, by decide +kernel⟩

end LordHowe

namespace Chatham

def mean : Offset := { seconds := 44028 }
def early : Offset := { seconds := 44100 }
def standard : Offset := { seconds := 45900 }
def daylight : Offset := { seconds := 49500 }

def changes : List (Int × Offset) :=
  [(-3192437628, early), (-757426500, standard), (152632800, daylight), (162309600, standard),
   (183477600, daylight), (194968800, standard), (215532000, daylight), (226418400, standard),
   (246981600, daylight), (257868000, standard), (278431200, daylight), (289317600, standard),
   (309880800, daylight), (320767200, standard), (341330400, daylight), (352216800, standard),
   (372780000, daylight), (384271200, standard), (404834400, daylight), (415720800, standard),
   (436284000, daylight), (447170400, standard), (467733600, daylight), (478620000, standard),
   (499183200, daylight), (510069600, standard), (530632800, daylight), (541519200, standard),
   (562082400, daylight), (573573600, standard), (594136800, daylight), (605023200, standard),
   (623772000, daylight), (637682400, standard), (655221600, daylight), (669132000, standard),
   (686671200, daylight), (700581600, standard), (718120800, daylight), (732636000, standard),
   (749570400, daylight), (764085600, standard), (781020000, daylight), (795535200, standard),
   (812469600, daylight), (826984800, standard), (844524000, daylight), (858434400, standard),
   (875973600, daylight), (889884000, standard), (907423200, daylight), (921938400, standard),
   (938872800, daylight), (953388000, standard), (970322400, daylight), (984837600, standard),
   (1002376800, daylight), (1016287200, standard), (1033826400, daylight),
   (1047736800, standard), (1065276000, daylight), (1079791200, standard),
   (1096725600, daylight), (1111240800, standard), (1128175200, daylight),
   (1142690400, standard), (1159624800, daylight), (1174140000, standard),
   (1191074400, daylight)]

def yearly : List Timeline.Yearly :=
  [⟨4, .first, -36000, standard⟩, ⟨9, .last, -36000, daylight⟩]

def timeline : Timeline := ⟨mean, changes ++ Timeline.recurring 2008 yearly, by decide +kernel⟩

end Chatham

namespace Apia

def meanEast : Offset := { seconds := 45184 }
def meanWest : Offset := { seconds := -41216 }
def early : Offset := { seconds := -41400 }
def standardWest : Offset := { seconds := -39600 }
def daylightWest : Offset := { seconds := -36000 }
def daylight : Offset := { seconds := 50400 }
def standard : Offset := { seconds := 46800 }

def changes : List (Int × Offset) :=
  [(-2445424384, meanWest), (-1861878784, early), (-631110600, standardWest),
   (1285498800, daylightWest), (1301752800, standardWest), (1316872800, daylightWest),
   (1325239200, daylight), (1333202400, standard), (1348927200, daylight),
   (1365256800, standard), (1380376800, daylight), (1396706400, standard),
   (1411826400, daylight), (1428156000, standard), (1443276000, daylight),
   (1459605600, standard), (1474725600, daylight), (1491055200, standard),
   (1506175200, daylight), (1522504800, standard), (1538229600, daylight),
   (1554559200, standard), (1569679200, daylight), (1586008800, standard),
   (1601128800, daylight), (1617458400, standard)]

def timeline : Timeline := ⟨meanEast, changes, by decide +kernel⟩

end Apia

end Feel.Zone
