import Feel.Calendar.Timeline

/-!
# Zones of Europe

Western and central time in France.
-/

namespace Feel.Zone

namespace Paris

def mean : Offset := { seconds := 561 }
def western : Offset := .utc
def central : Offset := { seconds := 3600 }
def centralSummer : Offset := { seconds := 7200 }

def changes : List (Int × Offset) :=
  [(-1855958961, western), (-1689814800, central), (-1680397200, western),
   (-1665363600, central), (-1648342800, western), (-1635123600, central),
   (-1616893200, western), (-1604278800, central), (-1585443600, western),
   (-1574038800, central), (-1552266000, western), (-1539997200, central),
   (-1520557200, western), (-1507510800, central), (-1490576400, western),
   (-1470618000, central), (-1459126800, western), (-1444006800, central),
   (-1427677200, western), (-1411952400, central), (-1396227600, western),
   (-1379293200, central), (-1364778000, western), (-1348448400, central),
   (-1333328400, western), (-1316394000, central), (-1301274000, western),
   (-1284339600, central), (-1269824400, western), (-1253494800, central),
   (-1238374800, western), (-1221440400, central), (-1206925200, western),
   (-1191200400, central), (-1175475600, western), (-1160355600, central),
   (-1143421200, western), (-1127696400, central), (-1111971600, western),
   (-1096851600, central), (-1080522000, western), (-1063587600, central),
   (-1049072400, western), (-1033347600, central), (-1017622800, western),
   (-1002502800, central), (-986173200, western), (-969238800, central), (-950490000, western),
   (-942012000, central), (-932436000, centralSummer), (-857257200, central),
   (-844556400, centralSummer), (-828226800, central), (-812502000, centralSummer),
   (-796266000, central), (-781052400, centralSummer), (-766623600, central),
   (196819200, centralSummer), (212540400, central), (228877200, centralSummer),
   (243997200, central), (260326800, centralSummer), (276051600, central),
   (291776400, centralSummer), (307501200, central), (323830800, centralSummer),
   (338950800, central), (354675600, centralSummer), (370400400, central),
   (386125200, centralSummer), (401850000, central), (417574800, centralSummer),
   (433299600, central), (449024400, centralSummer), (465354000, central),
   (481078800, centralSummer), (496803600, central), (512528400, centralSummer),
   (528253200, central), (543978000, centralSummer), (559702800, central),
   (575427600, centralSummer), (591152400, central), (606877200, centralSummer),
   (622602000, central), (638326800, centralSummer), (654656400, central),
   (670381200, centralSummer), (686106000, central), (701830800, centralSummer),
   (717555600, central), (733280400, centralSummer), (749005200, central),
   (764730000, centralSummer), (780454800, central), (796179600, centralSummer),
   (811904400, central), (828234000, centralSummer), (846378000, central)]

def yearly : List Timeline.Yearly :=
  [⟨3, .last, 3600, centralSummer⟩, ⟨10, .last, 3600, central⟩]

def timeline : Timeline := ⟨mean, changes ++ Timeline.recurring 1997 yearly, by decide +kernel⟩

end Paris

end Feel.Zone
