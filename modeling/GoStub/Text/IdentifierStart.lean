import GoStub.Text.CharSet

/-! Characters that may begin an identifier. -/

namespace GoStub.Text

set_option maxRecDepth 8192 in
/-- Characters beyond ASCII that may begin an identifier (Unicode 17, property XID_Start). -/
def identifierStart : CharSet :=
  [
    ⟨170, 170, 1⟩, ⟨181, 181, 1⟩, ⟨186, 186, 1⟩, ⟨192, 214, 1⟩, ⟨216, 246, 1⟩, ⟨248, 705, 1⟩,
    ⟨710, 721, 1⟩, ⟨736, 740, 1⟩, ⟨748, 748, 1⟩, ⟨750, 750, 1⟩, ⟨880, 884, 1⟩, ⟨886, 887, 1⟩,
    ⟨891, 893, 1⟩, ⟨895, 895, 1⟩, ⟨902, 902, 1⟩, ⟨904, 906, 1⟩, ⟨908, 908, 1⟩, ⟨910, 929, 1⟩,
    ⟨931, 1013, 1⟩, ⟨1015, 1153, 1⟩, ⟨1162, 1327, 1⟩, ⟨1329, 1366, 1⟩, ⟨1369, 1369, 1⟩,
    ⟨1376, 1416, 1⟩, ⟨1488, 1514, 1⟩, ⟨1519, 1522, 1⟩, ⟨1568, 1610, 1⟩, ⟨1646, 1647, 1⟩,
    ⟨1649, 1747, 1⟩, ⟨1749, 1749, 1⟩, ⟨1765, 1766, 1⟩, ⟨1774, 1775, 1⟩, ⟨1786, 1788, 1⟩,
    ⟨1791, 1791, 1⟩, ⟨1808, 1808, 1⟩, ⟨1810, 1839, 1⟩, ⟨1869, 1957, 1⟩, ⟨1969, 1969, 1⟩,
    ⟨1994, 2026, 1⟩, ⟨2036, 2037, 1⟩, ⟨2042, 2042, 1⟩, ⟨2048, 2069, 1⟩, ⟨2074, 2074, 1⟩,
    ⟨2084, 2084, 1⟩, ⟨2088, 2088, 1⟩, ⟨2112, 2136, 1⟩, ⟨2144, 2154, 1⟩, ⟨2160, 2183, 1⟩,
    ⟨2185, 2191, 1⟩, ⟨2208, 2249, 1⟩, ⟨2308, 2361, 1⟩, ⟨2365, 2365, 1⟩, ⟨2384, 2384, 1⟩,
    ⟨2392, 2401, 1⟩, ⟨2417, 2432, 1⟩, ⟨2437, 2444, 1⟩, ⟨2447, 2448, 1⟩, ⟨2451, 2472, 1⟩,
    ⟨2474, 2480, 1⟩, ⟨2482, 2482, 1⟩, ⟨2486, 2489, 1⟩, ⟨2493, 2493, 1⟩, ⟨2510, 2510, 1⟩,
    ⟨2524, 2525, 1⟩, ⟨2527, 2529, 1⟩, ⟨2544, 2545, 1⟩, ⟨2556, 2556, 1⟩, ⟨2565, 2570, 1⟩,
    ⟨2575, 2576, 1⟩, ⟨2579, 2600, 1⟩, ⟨2602, 2608, 1⟩, ⟨2610, 2611, 1⟩, ⟨2613, 2614, 1⟩,
    ⟨2616, 2617, 1⟩, ⟨2649, 2652, 1⟩, ⟨2654, 2654, 1⟩, ⟨2674, 2676, 1⟩, ⟨2693, 2701, 1⟩,
    ⟨2703, 2705, 1⟩, ⟨2707, 2728, 1⟩, ⟨2730, 2736, 1⟩, ⟨2738, 2739, 1⟩, ⟨2741, 2745, 1⟩,
    ⟨2749, 2749, 1⟩, ⟨2768, 2768, 1⟩, ⟨2784, 2785, 1⟩, ⟨2809, 2809, 1⟩, ⟨2821, 2828, 1⟩,
    ⟨2831, 2832, 1⟩, ⟨2835, 2856, 1⟩, ⟨2858, 2864, 1⟩, ⟨2866, 2867, 1⟩, ⟨2869, 2873, 1⟩,
    ⟨2877, 2877, 1⟩, ⟨2908, 2909, 1⟩, ⟨2911, 2913, 1⟩, ⟨2929, 2929, 1⟩, ⟨2947, 2947, 1⟩,
    ⟨2949, 2954, 1⟩, ⟨2958, 2960, 1⟩, ⟨2962, 2965, 1⟩, ⟨2969, 2970, 1⟩, ⟨2972, 2972, 1⟩,
    ⟨2974, 2975, 1⟩, ⟨2979, 2980, 1⟩, ⟨2984, 2986, 1⟩, ⟨2990, 3001, 1⟩, ⟨3024, 3024, 1⟩,
    ⟨3077, 3084, 1⟩, ⟨3086, 3088, 1⟩, ⟨3090, 3112, 1⟩, ⟨3114, 3129, 1⟩, ⟨3133, 3133, 1⟩,
    ⟨3160, 3162, 1⟩, ⟨3164, 3165, 1⟩, ⟨3168, 3169, 1⟩, ⟨3200, 3200, 1⟩, ⟨3205, 3212, 1⟩,
    ⟨3214, 3216, 1⟩, ⟨3218, 3240, 1⟩, ⟨3242, 3251, 1⟩, ⟨3253, 3257, 1⟩, ⟨3261, 3261, 1⟩,
    ⟨3292, 3294, 1⟩, ⟨3296, 3297, 1⟩, ⟨3313, 3314, 1⟩, ⟨3332, 3340, 1⟩, ⟨3342, 3344, 1⟩,
    ⟨3346, 3386, 1⟩, ⟨3389, 3389, 1⟩, ⟨3406, 3406, 1⟩, ⟨3412, 3414, 1⟩, ⟨3423, 3425, 1⟩,
    ⟨3450, 3455, 1⟩, ⟨3461, 3478, 1⟩, ⟨3482, 3505, 1⟩, ⟨3507, 3515, 1⟩, ⟨3517, 3517, 1⟩,
    ⟨3520, 3526, 1⟩, ⟨3585, 3632, 1⟩, ⟨3634, 3634, 1⟩, ⟨3648, 3654, 1⟩, ⟨3713, 3714, 1⟩,
    ⟨3716, 3716, 1⟩, ⟨3718, 3722, 1⟩, ⟨3724, 3747, 1⟩, ⟨3749, 3749, 1⟩, ⟨3751, 3760, 1⟩,
    ⟨3762, 3762, 1⟩, ⟨3773, 3773, 1⟩, ⟨3776, 3780, 1⟩, ⟨3782, 3782, 1⟩, ⟨3804, 3807, 1⟩,
    ⟨3840, 3840, 1⟩, ⟨3904, 3911, 1⟩, ⟨3913, 3948, 1⟩, ⟨3976, 3980, 1⟩, ⟨4096, 4138, 1⟩,
    ⟨4159, 4159, 1⟩, ⟨4176, 4181, 1⟩, ⟨4186, 4189, 1⟩, ⟨4193, 4193, 1⟩, ⟨4197, 4198, 1⟩,
    ⟨4206, 4208, 1⟩, ⟨4213, 4225, 1⟩, ⟨4238, 4238, 1⟩, ⟨4256, 4293, 1⟩, ⟨4295, 4295, 1⟩,
    ⟨4301, 4301, 1⟩, ⟨4304, 4346, 1⟩, ⟨4348, 4680, 1⟩, ⟨4682, 4685, 1⟩, ⟨4688, 4694, 1⟩,
    ⟨4696, 4696, 1⟩, ⟨4698, 4701, 1⟩, ⟨4704, 4744, 1⟩, ⟨4746, 4749, 1⟩, ⟨4752, 4784, 1⟩,
    ⟨4786, 4789, 1⟩, ⟨4792, 4798, 1⟩, ⟨4800, 4800, 1⟩, ⟨4802, 4805, 1⟩, ⟨4808, 4822, 1⟩,
    ⟨4824, 4880, 1⟩, ⟨4882, 4885, 1⟩, ⟨4888, 4954, 1⟩, ⟨4992, 5007, 1⟩, ⟨5024, 5109, 1⟩,
    ⟨5112, 5117, 1⟩, ⟨5121, 5740, 1⟩, ⟨5743, 5759, 1⟩, ⟨5761, 5786, 1⟩, ⟨5792, 5866, 1⟩,
    ⟨5870, 5880, 1⟩, ⟨5888, 5905, 1⟩, ⟨5919, 5937, 1⟩, ⟨5952, 5969, 1⟩, ⟨5984, 5996, 1⟩,
    ⟨5998, 6000, 1⟩, ⟨6016, 6067, 1⟩, ⟨6103, 6103, 1⟩, ⟨6108, 6108, 1⟩, ⟨6176, 6264, 1⟩,
    ⟨6272, 6312, 1⟩, ⟨6314, 6314, 1⟩, ⟨6320, 6389, 1⟩, ⟨6400, 6430, 1⟩, ⟨6480, 6509, 1⟩,
    ⟨6512, 6516, 1⟩, ⟨6528, 6571, 1⟩, ⟨6576, 6601, 1⟩, ⟨6656, 6678, 1⟩, ⟨6688, 6740, 1⟩,
    ⟨6823, 6823, 1⟩, ⟨6917, 6963, 1⟩, ⟨6981, 6988, 1⟩, ⟨7043, 7072, 1⟩, ⟨7086, 7087, 1⟩,
    ⟨7098, 7141, 1⟩, ⟨7168, 7203, 1⟩, ⟨7245, 7247, 1⟩, ⟨7258, 7293, 1⟩, ⟨7296, 7306, 1⟩,
    ⟨7312, 7354, 1⟩, ⟨7357, 7359, 1⟩, ⟨7401, 7404, 1⟩, ⟨7406, 7411, 1⟩, ⟨7413, 7414, 1⟩,
    ⟨7418, 7418, 1⟩, ⟨7424, 7615, 1⟩, ⟨7680, 7957, 1⟩, ⟨7960, 7965, 1⟩, ⟨7968, 8005, 1⟩,
    ⟨8008, 8013, 1⟩, ⟨8016, 8023, 1⟩, ⟨8025, 8029, 2⟩, ⟨8031, 8061, 1⟩, ⟨8064, 8116, 1⟩,
    ⟨8118, 8124, 1⟩, ⟨8126, 8126, 1⟩, ⟨8130, 8132, 1⟩, ⟨8134, 8140, 1⟩, ⟨8144, 8147, 1⟩,
    ⟨8150, 8155, 1⟩, ⟨8160, 8172, 1⟩, ⟨8178, 8180, 1⟩, ⟨8182, 8188, 1⟩, ⟨8305, 8305, 1⟩,
    ⟨8319, 8319, 1⟩, ⟨8336, 8348, 1⟩, ⟨8450, 8450, 1⟩, ⟨8455, 8455, 1⟩, ⟨8458, 8467, 1⟩,
    ⟨8469, 8469, 1⟩, ⟨8472, 8477, 1⟩, ⟨8484, 8488, 2⟩, ⟨8490, 8505, 1⟩, ⟨8508, 8511, 1⟩,
    ⟨8517, 8521, 1⟩, ⟨8526, 8526, 1⟩, ⟨8544, 8584, 1⟩, ⟨11264, 11492, 1⟩, ⟨11499, 11502, 1⟩,
    ⟨11506, 11507, 1⟩, ⟨11520, 11557, 1⟩, ⟨11559, 11559, 1⟩, ⟨11565, 11565, 1⟩, ⟨11568, 11623, 1⟩,
    ⟨11631, 11631, 1⟩, ⟨11648, 11670, 1⟩, ⟨11680, 11686, 1⟩, ⟨11688, 11694, 1⟩, ⟨11696, 11702, 1⟩,
    ⟨11704, 11710, 1⟩, ⟨11712, 11718, 1⟩, ⟨11720, 11726, 1⟩, ⟨11728, 11734, 1⟩, ⟨11736, 11742, 1⟩,
    ⟨12293, 12295, 1⟩, ⟨12321, 12329, 1⟩, ⟨12337, 12341, 1⟩, ⟨12344, 12348, 1⟩, ⟨12353, 12438, 1⟩,
    ⟨12445, 12447, 1⟩, ⟨12449, 12538, 1⟩, ⟨12540, 12543, 1⟩, ⟨12549, 12591, 1⟩, ⟨12593, 12686, 1⟩,
    ⟨12704, 12735, 1⟩, ⟨12784, 12799, 1⟩, ⟨13312, 19903, 1⟩, ⟨19968, 42124, 1⟩, ⟨42192, 42237, 1⟩,
    ⟨42240, 42508, 1⟩, ⟨42512, 42527, 1⟩, ⟨42538, 42539, 1⟩, ⟨42560, 42606, 1⟩, ⟨42623, 42653, 1⟩,
    ⟨42656, 42735, 1⟩, ⟨42775, 42783, 1⟩, ⟨42786, 42888, 1⟩, ⟨42891, 42972, 1⟩, ⟨42993, 43009, 1⟩,
    ⟨43011, 43013, 1⟩, ⟨43015, 43018, 1⟩, ⟨43020, 43042, 1⟩, ⟨43072, 43123, 1⟩, ⟨43138, 43187, 1⟩,
    ⟨43250, 43255, 1⟩, ⟨43259, 43259, 1⟩, ⟨43261, 43262, 1⟩, ⟨43274, 43301, 1⟩, ⟨43312, 43334, 1⟩,
    ⟨43360, 43388, 1⟩, ⟨43396, 43442, 1⟩, ⟨43471, 43471, 1⟩, ⟨43488, 43492, 1⟩, ⟨43494, 43503, 1⟩,
    ⟨43514, 43518, 1⟩, ⟨43520, 43560, 1⟩, ⟨43584, 43586, 1⟩, ⟨43588, 43595, 1⟩, ⟨43616, 43638, 1⟩,
    ⟨43642, 43642, 1⟩, ⟨43646, 43695, 1⟩, ⟨43697, 43697, 1⟩, ⟨43701, 43702, 1⟩, ⟨43705, 43709, 1⟩,
    ⟨43712, 43712, 1⟩, ⟨43714, 43714, 1⟩, ⟨43739, 43741, 1⟩, ⟨43744, 43754, 1⟩, ⟨43762, 43764, 1⟩,
    ⟨43777, 43782, 1⟩, ⟨43785, 43790, 1⟩, ⟨43793, 43798, 1⟩, ⟨43808, 43814, 1⟩, ⟨43816, 43822, 1⟩,
    ⟨43824, 43866, 1⟩, ⟨43868, 43881, 1⟩, ⟨43888, 44002, 1⟩, ⟨44032, 55203, 1⟩, ⟨55216, 55238, 1⟩,
    ⟨55243, 55291, 1⟩, ⟨63744, 64109, 1⟩, ⟨64112, 64217, 1⟩, ⟨64256, 64262, 1⟩, ⟨64275, 64279, 1⟩,
    ⟨64285, 64285, 1⟩, ⟨64287, 64296, 1⟩, ⟨64298, 64310, 1⟩, ⟨64312, 64316, 1⟩, ⟨64318, 64318, 1⟩,
    ⟨64320, 64321, 1⟩, ⟨64323, 64324, 1⟩, ⟨64326, 64433, 1⟩, ⟨64467, 64605, 1⟩, ⟨64612, 64829, 1⟩,
    ⟨64848, 64911, 1⟩, ⟨64914, 64967, 1⟩, ⟨65008, 65017, 1⟩, ⟨65137, 65137, 1⟩, ⟨65139, 65139, 1⟩,
    ⟨65143, 65149, 2⟩, ⟨65151, 65276, 1⟩, ⟨65313, 65338, 1⟩, ⟨65345, 65370, 1⟩, ⟨65382, 65437, 1⟩,
    ⟨65440, 65470, 1⟩, ⟨65474, 65479, 1⟩, ⟨65482, 65487, 1⟩, ⟨65490, 65495, 1⟩, ⟨65498, 65500, 1⟩,
    ⟨65536, 65547, 1⟩, ⟨65549, 65574, 1⟩, ⟨65576, 65594, 1⟩, ⟨65596, 65597, 1⟩, ⟨65599, 65613, 1⟩,
    ⟨65616, 65629, 1⟩, ⟨65664, 65786, 1⟩, ⟨65856, 65908, 1⟩, ⟨66176, 66204, 1⟩, ⟨66208, 66256, 1⟩,
    ⟨66304, 66335, 1⟩, ⟨66349, 66378, 1⟩, ⟨66384, 66421, 1⟩, ⟨66432, 66461, 1⟩, ⟨66464, 66499, 1⟩,
    ⟨66504, 66511, 1⟩, ⟨66513, 66517, 1⟩, ⟨66560, 66717, 1⟩, ⟨66736, 66771, 1⟩, ⟨66776, 66811, 1⟩,
    ⟨66816, 66855, 1⟩, ⟨66864, 66915, 1⟩, ⟨66928, 66938, 1⟩, ⟨66940, 66954, 1⟩, ⟨66956, 66962, 1⟩,
    ⟨66964, 66965, 1⟩, ⟨66967, 66977, 1⟩, ⟨66979, 66993, 1⟩, ⟨66995, 67001, 1⟩, ⟨67003, 67004, 1⟩,
    ⟨67008, 67059, 1⟩, ⟨67072, 67382, 1⟩, ⟨67392, 67413, 1⟩, ⟨67424, 67431, 1⟩, ⟨67456, 67461, 1⟩,
    ⟨67463, 67504, 1⟩, ⟨67506, 67514, 1⟩, ⟨67584, 67589, 1⟩, ⟨67592, 67592, 1⟩, ⟨67594, 67637, 1⟩,
    ⟨67639, 67640, 1⟩, ⟨67644, 67644, 1⟩, ⟨67647, 67669, 1⟩, ⟨67680, 67702, 1⟩, ⟨67712, 67742, 1⟩,
    ⟨67808, 67826, 1⟩, ⟨67828, 67829, 1⟩, ⟨67840, 67861, 1⟩, ⟨67872, 67897, 1⟩, ⟨67904, 67929, 1⟩,
    ⟨67968, 68023, 1⟩, ⟨68030, 68031, 1⟩, ⟨68096, 68096, 1⟩, ⟨68112, 68115, 1⟩, ⟨68117, 68119, 1⟩,
    ⟨68121, 68149, 1⟩, ⟨68192, 68220, 1⟩, ⟨68224, 68252, 1⟩, ⟨68288, 68295, 1⟩, ⟨68297, 68324, 1⟩,
    ⟨68352, 68405, 1⟩, ⟨68416, 68437, 1⟩, ⟨68448, 68466, 1⟩, ⟨68480, 68497, 1⟩, ⟨68608, 68680, 1⟩,
    ⟨68736, 68786, 1⟩, ⟨68800, 68850, 1⟩, ⟨68864, 68899, 1⟩, ⟨68938, 68965, 1⟩, ⟨68975, 68997, 1⟩,
    ⟨69248, 69289, 1⟩, ⟨69296, 69297, 1⟩, ⟨69314, 69319, 1⟩, ⟨69376, 69404, 1⟩, ⟨69415, 69415, 1⟩,
    ⟨69424, 69445, 1⟩, ⟨69488, 69505, 1⟩, ⟨69552, 69572, 1⟩, ⟨69600, 69622, 1⟩, ⟨69635, 69687, 1⟩,
    ⟨69745, 69746, 1⟩, ⟨69749, 69749, 1⟩, ⟨69763, 69807, 1⟩, ⟨69840, 69864, 1⟩, ⟨69891, 69926, 1⟩,
    ⟨69956, 69956, 1⟩, ⟨69959, 69959, 1⟩, ⟨69968, 70002, 1⟩, ⟨70006, 70006, 1⟩, ⟨70019, 70066, 1⟩,
    ⟨70081, 70084, 1⟩, ⟨70106, 70106, 1⟩, ⟨70108, 70108, 1⟩, ⟨70144, 70161, 1⟩, ⟨70163, 70187, 1⟩,
    ⟨70207, 70208, 1⟩, ⟨70272, 70278, 1⟩, ⟨70280, 70280, 1⟩, ⟨70282, 70285, 1⟩, ⟨70287, 70301, 1⟩,
    ⟨70303, 70312, 1⟩, ⟨70320, 70366, 1⟩, ⟨70405, 70412, 1⟩, ⟨70415, 70416, 1⟩, ⟨70419, 70440, 1⟩,
    ⟨70442, 70448, 1⟩, ⟨70450, 70451, 1⟩, ⟨70453, 70457, 1⟩, ⟨70461, 70461, 1⟩, ⟨70480, 70480, 1⟩,
    ⟨70493, 70497, 1⟩, ⟨70528, 70537, 1⟩, ⟨70539, 70539, 1⟩, ⟨70542, 70542, 1⟩, ⟨70544, 70581, 1⟩,
    ⟨70583, 70583, 1⟩, ⟨70609, 70609, 1⟩, ⟨70611, 70611, 1⟩, ⟨70656, 70708, 1⟩, ⟨70727, 70730, 1⟩,
    ⟨70751, 70753, 1⟩, ⟨70784, 70831, 1⟩, ⟨70852, 70853, 1⟩, ⟨70855, 70855, 1⟩, ⟨71040, 71086, 1⟩,
    ⟨71128, 71131, 1⟩, ⟨71168, 71215, 1⟩, ⟨71236, 71236, 1⟩, ⟨71296, 71338, 1⟩, ⟨71352, 71352, 1⟩,
    ⟨71424, 71450, 1⟩, ⟨71488, 71494, 1⟩, ⟨71680, 71723, 1⟩, ⟨71840, 71903, 1⟩, ⟨71935, 71942, 1⟩,
    ⟨71945, 71945, 1⟩, ⟨71948, 71955, 1⟩, ⟨71957, 71958, 1⟩, ⟨71960, 71983, 1⟩, ⟨71999, 71999, 1⟩,
    ⟨72001, 72001, 1⟩, ⟨72096, 72103, 1⟩, ⟨72106, 72144, 1⟩, ⟨72161, 72161, 1⟩, ⟨72163, 72163, 1⟩,
    ⟨72192, 72192, 1⟩, ⟨72203, 72242, 1⟩, ⟨72250, 72250, 1⟩, ⟨72272, 72272, 1⟩, ⟨72284, 72329, 1⟩,
    ⟨72349, 72349, 1⟩, ⟨72368, 72440, 1⟩, ⟨72640, 72672, 1⟩, ⟨72704, 72712, 1⟩, ⟨72714, 72750, 1⟩,
    ⟨72768, 72768, 1⟩, ⟨72818, 72847, 1⟩, ⟨72960, 72966, 1⟩, ⟨72968, 72969, 1⟩, ⟨72971, 73008, 1⟩,
    ⟨73030, 73030, 1⟩, ⟨73056, 73061, 1⟩, ⟨73063, 73064, 1⟩, ⟨73066, 73097, 1⟩, ⟨73112, 73112, 1⟩,
    ⟨73136, 73179, 1⟩, ⟨73440, 73458, 1⟩, ⟨73474, 73474, 1⟩, ⟨73476, 73488, 1⟩, ⟨73490, 73523, 1⟩,
    ⟨73648, 73648, 1⟩, ⟨73728, 74649, 1⟩, ⟨74752, 74862, 1⟩, ⟨74880, 75075, 1⟩, ⟨77712, 77808, 1⟩,
    ⟨77824, 78895, 1⟩, ⟨78913, 78918, 1⟩, ⟨78944, 82938, 1⟩, ⟨82944, 83526, 1⟩, ⟨90368, 90397, 1⟩,
    ⟨92160, 92728, 1⟩, ⟨92736, 92766, 1⟩, ⟨92784, 92862, 1⟩, ⟨92880, 92909, 1⟩, ⟨92928, 92975, 1⟩,
    ⟨92992, 92995, 1⟩, ⟨93027, 93047, 1⟩, ⟨93053, 93071, 1⟩, ⟨93504, 93548, 1⟩, ⟨93760, 93823, 1⟩,
    ⟨93856, 93880, 1⟩, ⟨93883, 93907, 1⟩, ⟨93952, 94026, 1⟩, ⟨94032, 94032, 1⟩, ⟨94099, 94111, 1⟩,
    ⟨94176, 94177, 1⟩, ⟨94179, 94179, 1⟩, ⟨94194, 94198, 1⟩, ⟨94208, 101589, 1⟩,
    ⟨101631, 101662, 1⟩, ⟨101760, 101874, 1⟩, ⟨110576, 110579, 1⟩, ⟨110581, 110587, 1⟩,
    ⟨110589, 110590, 1⟩, ⟨110592, 110882, 1⟩, ⟨110898, 110898, 1⟩, ⟨110928, 110930, 1⟩,
    ⟨110933, 110933, 1⟩, ⟨110948, 110951, 1⟩, ⟨110960, 111355, 1⟩, ⟨113664, 113770, 1⟩,
    ⟨113776, 113788, 1⟩, ⟨113792, 113800, 1⟩, ⟨113808, 113817, 1⟩, ⟨119808, 119892, 1⟩,
    ⟨119894, 119964, 1⟩, ⟨119966, 119967, 1⟩, ⟨119970, 119970, 1⟩, ⟨119973, 119974, 1⟩,
    ⟨119977, 119980, 1⟩, ⟨119982, 119993, 1⟩, ⟨119995, 119995, 1⟩, ⟨119997, 120003, 1⟩,
    ⟨120005, 120069, 1⟩, ⟨120071, 120074, 1⟩, ⟨120077, 120084, 1⟩, ⟨120086, 120092, 1⟩,
    ⟨120094, 120121, 1⟩, ⟨120123, 120126, 1⟩, ⟨120128, 120132, 1⟩, ⟨120134, 120134, 1⟩,
    ⟨120138, 120144, 1⟩, ⟨120146, 120485, 1⟩, ⟨120488, 120512, 1⟩, ⟨120514, 120538, 1⟩,
    ⟨120540, 120570, 1⟩, ⟨120572, 120596, 1⟩, ⟨120598, 120628, 1⟩, ⟨120630, 120654, 1⟩,
    ⟨120656, 120686, 1⟩, ⟨120688, 120712, 1⟩, ⟨120714, 120744, 1⟩, ⟨120746, 120770, 1⟩,
    ⟨120772, 120779, 1⟩, ⟨122624, 122654, 1⟩, ⟨122661, 122666, 1⟩, ⟨122928, 122989, 1⟩,
    ⟨123136, 123180, 1⟩, ⟨123191, 123197, 1⟩, ⟨123214, 123214, 1⟩, ⟨123536, 123565, 1⟩,
    ⟨123584, 123627, 1⟩, ⟨124112, 124139, 1⟩, ⟨124368, 124397, 1⟩, ⟨124400, 124400, 1⟩,
    ⟨124608, 124638, 1⟩, ⟨124640, 124642, 1⟩, ⟨124644, 124645, 1⟩, ⟨124647, 124653, 1⟩,
    ⟨124656, 124660, 1⟩, ⟨124670, 124671, 1⟩, ⟨124896, 124902, 1⟩, ⟨124904, 124907, 1⟩,
    ⟨124909, 124910, 1⟩, ⟨124912, 124926, 1⟩, ⟨124928, 125124, 1⟩, ⟨125184, 125251, 1⟩,
    ⟨125259, 125259, 1⟩, ⟨126464, 126467, 1⟩, ⟨126469, 126495, 1⟩, ⟨126497, 126498, 1⟩,
    ⟨126500, 126500, 1⟩, ⟨126503, 126503, 1⟩, ⟨126505, 126514, 1⟩, ⟨126516, 126519, 1⟩,
    ⟨126521, 126521, 1⟩, ⟨126523, 126523, 1⟩, ⟨126530, 126530, 1⟩, ⟨126535, 126539, 2⟩,
    ⟨126541, 126543, 1⟩, ⟨126545, 126546, 1⟩, ⟨126548, 126548, 1⟩, ⟨126551, 126559, 2⟩,
    ⟨126561, 126562, 1⟩, ⟨126564, 126564, 1⟩, ⟨126567, 126570, 1⟩, ⟨126572, 126578, 1⟩,
    ⟨126580, 126583, 1⟩, ⟨126585, 126588, 1⟩, ⟨126590, 126590, 1⟩, ⟨126592, 126601, 1⟩,
    ⟨126603, 126619, 1⟩, ⟨126625, 126627, 1⟩, ⟨126629, 126633, 1⟩, ⟨126635, 126651, 1⟩,
    ⟨131072, 173791, 1⟩, ⟨173824, 178205, 1⟩, ⟨178208, 183981, 1⟩, ⟨183984, 191456, 1⟩,
    ⟨191472, 192093, 1⟩, ⟨194560, 195101, 1⟩, ⟨196608, 201546, 1⟩, ⟨201552, 210041, 1⟩]

end GoStub.Text
