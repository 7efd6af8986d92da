import GoStub.Text.CharSet

/-! Capital letters. -/

namespace GoStub.Text

set_option maxRecDepth 8192 in
/-- Capital letters beyond ASCII (Unicode 17, property Uppercase). -/
def uppercase : CharSet :=
  [
    ⟨192, 214, 1⟩, ⟨216, 222, 1⟩, ⟨256, 310, 2⟩, ⟨313, 327, 2⟩, ⟨330, 374, 2⟩, ⟨376, 377, 1⟩,
    ⟨379, 379, 1⟩, ⟨381, 381, 1⟩, ⟨385, 386, 1⟩, ⟨388, 388, 1⟩, ⟨390, 391, 1⟩, ⟨393, 395, 1⟩,
    ⟨398, 401, 1⟩, ⟨403, 404, 1⟩, ⟨406, 408, 1⟩, ⟨412, 413, 1⟩, ⟨415, 416, 1⟩, ⟨418, 418, 1⟩,
    ⟨420, 420, 1⟩, ⟨422, 423, 1⟩, ⟨425, 425, 1⟩, ⟨428, 428, 1⟩, ⟨430, 431, 1⟩, ⟨433, 435, 1⟩,
    ⟨437, 437, 1⟩, ⟨439, 440, 1⟩, ⟨444, 444, 1⟩, ⟨452, 452, 1⟩, ⟨455, 455, 1⟩, ⟨458, 458, 1⟩,
    ⟨461, 475, 2⟩, ⟨478, 494, 2⟩, ⟨497, 497, 1⟩, ⟨500, 500, 1⟩, ⟨502, 504, 1⟩, ⟨506, 562, 2⟩,
    ⟨570, 571, 1⟩, ⟨573, 574, 1⟩, ⟨577, 577, 1⟩, ⟨579, 582, 1⟩, ⟨584, 590, 2⟩, ⟨880, 880, 1⟩,
    ⟨882, 882, 1⟩, ⟨886, 886, 1⟩, ⟨895, 895, 1⟩, ⟨902, 902, 1⟩, ⟨904, 906, 1⟩, ⟨908, 908, 1⟩,
    ⟨910, 911, 1⟩, ⟨913, 929, 1⟩, ⟨931, 939, 1⟩, ⟨975, 975, 1⟩, ⟨978, 980, 1⟩, ⟨984, 1006, 2⟩,
    ⟨1012, 1012, 1⟩, ⟨1015, 1015, 1⟩, ⟨1017, 1018, 1⟩, ⟨1021, 1071, 1⟩, ⟨1120, 1152, 2⟩,
    ⟨1162, 1214, 2⟩, ⟨1216, 1217, 1⟩, ⟨1219, 1229, 2⟩, ⟨1232, 1326, 2⟩, ⟨1329, 1366, 1⟩,
    ⟨4256, 4293, 1⟩, ⟨4295, 4295, 1⟩, ⟨4301, 4301, 1⟩, ⟨5024, 5109, 1⟩, ⟨7305, 7305, 1⟩,
    ⟨7312, 7354, 1⟩, ⟨7357, 7359, 1⟩, ⟨7680, 7828, 2⟩, ⟨7838, 7934, 2⟩, ⟨7944, 7951, 1⟩,
    ⟨7960, 7965, 1⟩, ⟨7976, 7983, 1⟩, ⟨7992, 7999, 1⟩, ⟨8008, 8013, 1⟩, ⟨8025, 8031, 2⟩,
    ⟨8040, 8047, 1⟩, ⟨8120, 8123, 1⟩, ⟨8136, 8139, 1⟩, ⟨8152, 8155, 1⟩, ⟨8168, 8172, 1⟩,
    ⟨8184, 8187, 1⟩, ⟨8450, 8450, 1⟩, ⟨8455, 8455, 1⟩, ⟨8459, 8461, 1⟩, ⟨8464, 8466, 1⟩,
    ⟨8469, 8469, 1⟩, ⟨8473, 8477, 1⟩, ⟨8484, 8488, 2⟩, ⟨8490, 8493, 1⟩, ⟨8496, 8499, 1⟩,
    ⟨8510, 8511, 1⟩, ⟨8517, 8517, 1⟩, ⟨8544, 8559, 1⟩, ⟨8579, 8579, 1⟩, ⟨9398, 9423, 1⟩,
    ⟨11264, 11311, 1⟩, ⟨11360, 11360, 1⟩, ⟨11362, 11364, 1⟩, ⟨11367, 11371, 2⟩, ⟨11373, 11376, 1⟩,
    ⟨11378, 11378, 1⟩, ⟨11381, 11381, 1⟩, ⟨11390, 11392, 1⟩, ⟨11394, 11490, 2⟩, ⟨11499, 11499, 1⟩,
    ⟨11501, 11501, 1⟩, ⟨11506, 11506, 1⟩, ⟨42560, 42604, 2⟩, ⟨42624, 42650, 2⟩, ⟨42786, 42798, 2⟩,
    ⟨42802, 42862, 2⟩, ⟨42873, 42873, 1⟩, ⟨42875, 42875, 1⟩, ⟨42877, 42878, 1⟩, ⟨42880, 42886, 2⟩,
    ⟨42891, 42891, 1⟩, ⟨42893, 42893, 1⟩, ⟨42896, 42896, 1⟩, ⟨42898, 42898, 1⟩, ⟨42902, 42920, 2⟩,
    ⟨42922, 42926, 1⟩, ⟨42928, 42932, 1⟩, ⟨42934, 42946, 2⟩, ⟨42948, 42951, 1⟩, ⟨42953, 42953, 1⟩,
    ⟨42955, 42956, 1⟩, ⟨42958, 42972, 2⟩, ⟨42997, 42997, 1⟩, ⟨65313, 65338, 1⟩, ⟨66560, 66599, 1⟩,
    ⟨66736, 66771, 1⟩, ⟨66928, 66938, 1⟩, ⟨66940, 66954, 1⟩, ⟨66956, 66962, 1⟩, ⟨66964, 66965, 1⟩,
    ⟨68736, 68786, 1⟩, ⟨68944, 68965, 1⟩, ⟨71840, 71871, 1⟩, ⟨93760, 93791, 1⟩, ⟨93856, 93880, 1⟩,
    ⟨119808, 119833, 1⟩, ⟨119860, 119885, 1⟩, ⟨119912, 119937, 1⟩, ⟨119964, 119964, 1⟩,
    ⟨119966, 119967, 1⟩, ⟨119970, 119970, 1⟩, ⟨119973, 119974, 1⟩, ⟨119977, 119980, 1⟩,
    ⟨119982, 119989, 1⟩, ⟨120016, 120041, 1⟩, ⟨120068, 120069, 1⟩, ⟨120071, 120074, 1⟩,
    ⟨120077, 120084, 1⟩, ⟨120086, 120092, 1⟩, ⟨120120, 120121, 1⟩, ⟨120123, 120126, 1⟩,
    ⟨120128, 120132, 1⟩, ⟨120134, 120134, 1⟩, ⟨120138, 120144, 1⟩, ⟨120172, 120197, 1⟩,
    ⟨120224, 120249, 1⟩, ⟨120276, 120301, 1⟩, ⟨120328, 120353, 1⟩, ⟨120380, 120405, 1⟩,
    ⟨120432, 120457, 1⟩, ⟨120488, 120512, 1⟩, ⟨120546, 120570, 1⟩, ⟨120604, 120628, 1⟩,
    ⟨120662, 120686, 1⟩, ⟨120720, 120744, 1⟩, ⟨120778, 120778, 1⟩, ⟨125184, 125217, 1⟩,
    ⟨127280, 127305, 1⟩, ⟨127312, 127337, 1⟩, ⟨127344, 127369, 1⟩]

end GoStub.Text
