import Feel.Calendar.Timeline

/-!
# Zones of America

New York, Newfoundland and Panama.
-/

namespace Feel.Zone

namespace NewYork

def mean : Offset := { seconds := -17762 }
def eastern : Offset := { seconds := -18000 }
def easternDaylight : Offset := { seconds := -14400 }

def changes : List (Int × Offset) :=
  [(-2717650800, eastern), (-1633280400, easternDaylight), (-1615140000, eastern),
   (-1601830800, easternDaylight), (-1583690400, eastern), (-1570381200, easternDaylight),
   (-1551636000, eastern), (-1536512400, easternDaylight), (-1523210400, eastern),
   (-1504458000, easternDaylight), (-1491760800, eastern), (-1473008400, easternDaylight),
   (-1459706400, eastern), (-1441558800, easternDaylight), (-1428256800, eastern),
   (-1410109200, easternDaylight), (-1396807200, eastern), (-1378659600, easternDaylight),
   (-1365357600, eastern), (-1347210000, easternDaylight), (-1333908000, eastern),
   (-1315155600, easternDaylight), (-1301853600, eastern), (-1283706000, easternDaylight),
   (-1270404000, eastern), (-1252256400, easternDaylight), (-1238954400, eastern),
   (-1220806800, easternDaylight), (-1207504800, eastern), (-1189357200, easternDaylight),
   (-1176055200, eastern), (-1157302800, easternDaylight), (-1144605600, eastern),
   (-1125853200, easternDaylight), (-1112551200, eastern), (-1094403600, easternDaylight),
   (-1081101600, eastern), (-1062954000, easternDaylight), (-1049652000, eastern),
   (-1031504400, easternDaylight), (-1018202400, eastern), (-1000054800, easternDaylight),
   (-986752800, eastern), (-968000400, easternDaylight), (-955303200, eastern),
   (-936550800, easternDaylight), (-923248800, eastern), (-905101200, easternDaylight),
   (-891799200, eastern), (-880218000, easternDaylight), (-765396000, eastern),
   (-747248400, easternDaylight), (-733946400, eastern), (-715798800, easternDaylight),
   (-702496800, eastern), (-684349200, easternDaylight), (-671047200, eastern),
   (-652899600, easternDaylight), (-639597600, eastern), (-620845200, easternDaylight),
   (-608148000, eastern), (-589395600, easternDaylight), (-576093600, eastern),
   (-557946000, easternDaylight), (-544644000, eastern), (-526496400, easternDaylight),
   (-513194400, eastern), (-495046800, easternDaylight), (-481744800, eastern),
   (-463597200, easternDaylight), (-447271200, eastern), (-431542800, easternDaylight),
   (-415821600, eastern), (-400093200, easternDaylight), (-384372000, eastern),
   (-368643600, easternDaylight), (-352922400, eastern), (-337194000, easternDaylight),
   (-321472800, eastern), (-305744400, easternDaylight), (-289418400, eastern),
   (-273690000, easternDaylight), (-257968800, eastern), (-242240400, easternDaylight),
   (-226519200, eastern), (-210790800, easternDaylight), (-195069600, eastern),
   (-179341200, easternDaylight), (-163620000, eastern), (-147891600, easternDaylight),
   (-131565600, eastern), (-116442000, easternDaylight), (-100116000, eastern),
   (-84387600, easternDaylight), (-68666400, eastern), (-52938000, easternDaylight),
   (-37216800, eastern), (-21488400, easternDaylight), (-5767200, eastern),
   (9961200, easternDaylight), (25682400, eastern), (41410800, easternDaylight),
   (57736800, eastern), (73465200, easternDaylight), (89186400, eastern),
   (104914800, easternDaylight), (120636000, eastern), (126687600, easternDaylight),
   (152085600, eastern), (162370800, easternDaylight), (183535200, eastern),
   (199263600, easternDaylight), (215589600, eastern), (230713200, easternDaylight),
   (247039200, eastern), (262767600, easternDaylight), (278488800, eastern),
   (294217200, easternDaylight), (309938400, eastern), (325666800, easternDaylight),
   (341388000, eastern), (357116400, easternDaylight), (372837600, eastern),
   (388566000, easternDaylight), (404892000, eastern), (420015600, easternDaylight),
   (436341600, eastern), (452070000, easternDaylight), (467791200, eastern),
   (483519600, easternDaylight), (499240800, eastern), (514969200, easternDaylight),
   (530690400, eastern), (544604400, easternDaylight), (562140000, eastern),
   (576054000, easternDaylight), (594194400, eastern), (607503600, easternDaylight),
   (625644000, eastern), (638953200, easternDaylight), (657093600, eastern),
   (671007600, easternDaylight), (688543200, eastern), (702457200, easternDaylight),
   (719992800, eastern), (733906800, easternDaylight), (752047200, eastern),
   (765356400, easternDaylight), (783496800, eastern), (796806000, easternDaylight),
   (814946400, eastern), (828860400, easternDaylight), (846396000, eastern),
   (860310000, easternDaylight), (877845600, eastern), (891759600, easternDaylight),
   (909295200, eastern), (923209200, easternDaylight), (941349600, eastern),
   (954658800, easternDaylight), (972799200, eastern), (986108400, easternDaylight),
   (1004248800, eastern), (1018162800, easternDaylight), (1035698400, eastern),
   (1049612400, easternDaylight), (1067148000, eastern), (1081062000, easternDaylight),
   (1099202400, eastern), (1112511600, easternDaylight), (1130652000, eastern),
   (1143961200, easternDaylight), (1162101600, eastern)]

def yearly : List Timeline.Yearly :=
  [⟨3, .second, 25200, easternDaylight⟩, ⟨11, .first, 21600, eastern⟩]

def timeline : Timeline := ⟨mean, changes ++ Timeline.recurring 2007 yearly, by decide +kernel⟩

end NewYork

namespace StJohns

def mean : Offset := { seconds := -12652 }
def meanDaylight : Offset := { seconds := -9052 }
def standard : Offset := { seconds := -12600 }
def daylight : Offset := { seconds := -9000 }
def doubleDaylight : Offset := { seconds := -5400 }

def changes : List (Int × Offset) :=
  [(-1664130548, meanDaylight), (-1650137348, mean), (-1632076148, meanDaylight),
   (-1615145348, mean), (-1598650148, meanDaylight), (-1590100148, mean),
   (-1567286948, meanDaylight), (-1551565748, mean), (-1535837348, meanDaylight),
   (-1520116148, mean), (-1503782948, meanDaylight), (-1488666548, mean),
   (-1472333348, meanDaylight), (-1457216948, mean), (-1440883748, meanDaylight),
   (-1425767348, mean), (-1409434148, meanDaylight), (-1394317748, mean),
   (-1377984548, meanDaylight), (-1362263348, mean), (-1346534948, meanDaylight),
   (-1330813748, mean), (-1314480548, meanDaylight), (-1299364148, mean),
   (-1283030948, meanDaylight), (-1267914548, mean), (-1251581348, meanDaylight),
   (-1236464948, mean), (-1220131748, meanDaylight), (-1205015348, mean),
   (-1188682148, meanDaylight), (-1172960948, mean), (-1156627748, meanDaylight),
   (-1141511348, mean), (-1125178148, meanDaylight), (-1110061748, mean),
   (-1096921748, standard), (-1093728600, daylight), (-1078612200, standard),
   (-1061670600, daylight), (-1048973400, standard), (-1030221000, daylight),
   (-1017523800, standard), (-998771400, daylight), (-986074200, standard),
   (-966717000, daylight), (-954624600, standard), (-935267400, daylight),
   (-922570200, standard), (-903817800, daylight), (-891120600, standard),
   (-872368200, daylight), (-765401400, standard), (-746044200, daylight),
   (-733347000, standard), (-714594600, daylight), (-701897400, standard),
   (-683145000, daylight), (-670447800, standard), (-651695400, daylight),
   (-638998200, standard), (-619641000, daylight), (-606943800, standard),
   (-589401000, daylight), (-576099000, standard), (-557951400, daylight),
   (-544649400, standard), (-526501800, daylight), (-513199800, standard),
   (-495052200, daylight), (-481750200, standard), (-463602600, daylight),
   (-450300600, standard), (-431548200, daylight), (-418246200, standard),
   (-400098600, daylight), (-386796600, standard), (-368649000, daylight),
   (-355347000, standard), (-337199400, daylight), (-323897400, standard),
   (-305749800, daylight), (-289423800, standard), (-273695400, daylight),
   (-257974200, standard), (-242245800, daylight), (-226524600, standard),
   (-210796200, daylight), (-195075000, standard), (-179346600, daylight),
   (-163625400, standard), (-147897000, daylight), (-131571000, standard),
   (-116447400, daylight), (-100121400, standard), (-84393000, daylight), (-68671800, standard),
   (-52943400, daylight), (-37222200, standard), (-21493800, daylight), (-5772600, standard),
   (9955800, daylight), (25677000, standard), (41405400, daylight), (57731400, standard),
   (73459800, daylight), (89181000, standard), (104909400, daylight), (120630600, standard),
   (136359000, daylight), (152080200, standard), (167808600, daylight), (183529800, standard),
   (199258200, daylight), (215584200, standard), (230707800, daylight), (247033800, standard),
   (262762200, daylight), (278483400, standard), (294211800, daylight), (309933000, standard),
   (325661400, daylight), (341382600, standard), (357111000, daylight), (372832200, standard),
   (388560600, daylight), (404886600, standard), (420010200, daylight), (436336200, standard),
   (452064600, daylight), (467785800, standard), (483514200, daylight), (499235400, standard),
   (514963800, daylight), (530685000, standard), (544591860, daylight), (562127460, standard),
   (576041460, doubleDaylight), (594178260, standard), (607491060, daylight),
   (625631460, standard), (638940660, daylight), (657081060, standard), (670995060, daylight),
   (688530660, standard), (702444660, daylight), (719980260, standard), (733894260, daylight),
   (752034660, standard), (765343860, daylight), (783484260, standard), (796793460, daylight),
   (814933860, standard), (828847860, daylight), (846383460, standard), (860297460, daylight),
   (877833060, standard), (891747060, daylight), (909282660, standard), (923196660, daylight),
   (941337060, standard), (954646260, daylight), (972786660, standard), (986095860, daylight),
   (1004236260, standard), (1018150260, daylight), (1035685860, standard),
   (1049599860, daylight), (1067135460, standard), (1081049460, daylight),
   (1099189860, standard), (1112499060, daylight), (1130639460, standard),
   (1143948660, daylight), (1162089060, standard), (1173583860, daylight),
   (1194143460, standard), (1205033460, daylight), (1225593060, standard),
   (1236483060, daylight), (1257042660, standard), (1268537460, daylight),
   (1289097060, standard), (1299987060, daylight), (1320553800, standard)]

def yearly : List Timeline.Yearly :=
  [⟨3, .second, 19800, daylight⟩, ⟨11, .first, 16200, standard⟩]

def timeline : Timeline := ⟨mean, changes ++ Timeline.recurring 2012 yearly, by decide +kernel⟩

end StJohns

namespace Panama

def mean : Offset := { seconds := -19088 }
def colon : Offset := { seconds := -19176 }
def eastern : Offset := { seconds := -18000 }

def changes : List (Int × Offset) :=
  [(-2524502512, colon), (-1946918424, eastern)]

def timeline : Timeline := ⟨mean, changes, by decide +kernel⟩

end Panama

end Feel.Zone
