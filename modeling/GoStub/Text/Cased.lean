import GoStub.Text.CharSet

/-! Characters with a case. -/

namespace GoStub.Text

set_option maxRecDepth 8192 in
/-- Characters beyond ASCII that have a case (Unicode 17, property Cased). -/
def cased : CharSet :=
  [
    ⟨170, 170, 1⟩, ⟨181, 181, 1⟩, ⟨186, 186, 1⟩, ⟨192, 214, 1⟩, ⟨216, 246, 1⟩, ⟨248, 442, 1⟩,
    ⟨444, 447, 1⟩, ⟨452, 659, 1⟩, ⟨662, 696, 1⟩, ⟨704, 705, 1⟩, ⟨736, 740, 1⟩, ⟨837, 837, 1⟩,
    ⟨880, 883, 1⟩, ⟨886, 887, 1⟩, ⟨890, 893, 1⟩, ⟨895, 895, 1⟩, ⟨902, 902, 1⟩, ⟨904, 906, 1⟩,
    ⟨908, 908, 1⟩, ⟨910, 929, 1⟩, ⟨931, 1013, 1⟩, ⟨1015, 1153, 1⟩, ⟨1162, 1327, 1⟩,
    ⟨1329, 1366, 1⟩, ⟨1376, 1416, 1⟩, ⟨4256, 4293, 1⟩, ⟨4295, 4295, 1⟩, ⟨4301, 4301, 1⟩,
    ⟨4304, 4346, 1⟩, ⟨4348, 4351, 1⟩, ⟨5024, 5109, 1⟩, ⟨5112, 5117, 1⟩, ⟨7296, 7306, 1⟩,
    ⟨7312, 7354, 1⟩, ⟨7357, 7359, 1⟩, ⟨7424, 7615, 1⟩, ⟨7680, 7957, 1⟩, ⟨7960, 7965, 1⟩,
    ⟨7968, 8005, 1⟩, ⟨8008, 8013, 1⟩, ⟨8016, 8023, 1⟩, ⟨8025, 8029, 2⟩, ⟨8031, 8061, 1⟩,
    ⟨8064, 8116, 1⟩, ⟨8118, 8124, 1⟩, ⟨8126, 8126, 1⟩, ⟨8130, 8132, 1⟩, ⟨8134, 8140, 1⟩,
    ⟨8144, 8147, 1⟩, ⟨8150, 8155, 1⟩, ⟨8160, 8172, 1⟩, ⟨8178, 8180, 1⟩, ⟨8182, 8188, 1⟩,
    ⟨8305, 8305, 1⟩, ⟨8319, 8319, 1⟩, ⟨8336, 8348, 1⟩, ⟨8450, 8450, 1⟩, ⟨8455, 8455, 1⟩,
    ⟨8458, 8467, 1⟩, ⟨8469, 8469, 1⟩, ⟨8473, 8477, 1⟩, ⟨8484, 8488, 2⟩, ⟨8490, 8493, 1⟩,
    ⟨8495, 8500, 1⟩, ⟨8505, 8505, 1⟩, ⟨8508, 8511, 1⟩, ⟨8517, 8521, 1⟩, ⟨8526, 8526, 1⟩,
    ⟨8544, 8575, 1⟩, ⟨8579, 8580, 1⟩, ⟨9398, 9449, 1⟩, ⟨11264, 11492, 1⟩, ⟨11499, 11502, 1⟩,
    ⟨11506, 11507, 1⟩, ⟨11520, 11557, 1⟩, ⟨11559, 11559, 1⟩, ⟨11565, 11565, 1⟩, ⟨42560, 42605, 1⟩,
    ⟨42624, 42653, 1⟩, ⟨42786, 42887, 1⟩, ⟨42891, 42894, 1⟩, ⟨42896, 42972, 1⟩, ⟨42993, 42998, 1⟩,
    ⟨43000, 43002, 1⟩, ⟨43824, 43866, 1⟩, ⟨43868, 43881, 1⟩, ⟨43888, 43967, 1⟩, ⟨64256, 64262, 1⟩,
    ⟨64275, 64279, 1⟩, ⟨65313, 65338, 1⟩, ⟨65345, 65370, 1⟩, ⟨66560, 66639, 1⟩, ⟨66736, 66771, 1⟩,
    ⟨66776, 66811, 1⟩, ⟨66928, 66938, 1⟩, ⟨66940, 66954, 1⟩, ⟨66956, 66962, 1⟩, ⟨66964, 66965, 1⟩,
    ⟨66967, 66977, 1⟩, ⟨66979, 66993, 1⟩, ⟨66995, 67001, 1⟩, ⟨67003, 67004, 1⟩, ⟨67456, 67456, 1⟩,
    ⟨67459, 67461, 1⟩, ⟨67463, 67504, 1⟩, ⟨67506, 67514, 1⟩, ⟨68736, 68786, 1⟩, ⟨68800, 68850, 1⟩,
    ⟨68944, 68965, 1⟩, ⟨68976, 68997, 1⟩, ⟨71840, 71903, 1⟩, ⟨93760, 93823, 1⟩, ⟨93856, 93880, 1⟩,
    ⟨93883, 93907, 1⟩, ⟨119808, 119892, 1⟩, ⟨119894, 119964, 1⟩, ⟨119966, 119967, 1⟩,
    ⟨119970, 119970, 1⟩, ⟨119973, 119974, 1⟩, ⟨119977, 119980, 1⟩, ⟨119982, 119993, 1⟩,
    ⟨119995, 119995, 1⟩, ⟨119997, 120003, 1⟩, ⟨120005, 120069, 1⟩, ⟨120071, 120074, 1⟩,
    ⟨120077, 120084, 1⟩, ⟨120086, 120092, 1⟩, ⟨120094, 120121, 1⟩, ⟨120123, 120126, 1⟩,
    ⟨120128, 120132, 1⟩, ⟨120134, 120134, 1⟩, ⟨120138, 120144, 1⟩, ⟨120146, 120485, 1⟩,
    ⟨120488, 120512, 1⟩, ⟨120514, 120538, 1⟩, ⟨120540, 120570, 1⟩, ⟨120572, 120596, 1⟩,
    ⟨120598, 120628, 1⟩, ⟨120630, 120654, 1⟩, ⟨120656, 120686, 1⟩, ⟨120688, 120712, 1⟩,
    ⟨120714, 120744, 1⟩, ⟨120746, 120770, 1⟩, ⟨120772, 120779, 1⟩, ⟨122624, 122633, 1⟩,
    ⟨122635, 122654, 1⟩, ⟨122661, 122666, 1⟩, ⟨122928, 122989, 1⟩, ⟨125184, 125251, 1⟩,
    ⟨127280, 127305, 1⟩, ⟨127312, 127337, 1⟩, ⟨127344, 127369, 1⟩]

end GoStub.Text
