import GoStub.Text.CharSet

/-! Characters that do not part letters. -/

namespace GoStub.Text

set_option maxRecDepth 8192 in
/-- Characters beyond ASCII that do not part the letters around them where case depends on position
(Unicode 17, property Case_Ignorable). -/
def caseIgnorable : CharSet :=
  [
    ⟨168, 168, 1⟩, ⟨173, 173, 1⟩, ⟨175, 175, 1⟩, ⟨180, 180, 1⟩, ⟨183, 184, 1⟩, ⟨688, 879, 1⟩,
    ⟨884, 885, 1⟩, ⟨890, 890, 1⟩, ⟨900, 901, 1⟩, ⟨903, 903, 1⟩, ⟨1155, 1161, 1⟩, ⟨1369, 1369, 1⟩,
    ⟨1375, 1375, 1⟩, ⟨1425, 1469, 1⟩, ⟨1471, 1471, 1⟩, ⟨1473, 1474, 1⟩, ⟨1476, 1477, 1⟩,
    ⟨1479, 1479, 1⟩, ⟨1524, 1524, 1⟩, ⟨1536, 1541, 1⟩, ⟨1552, 1562, 1⟩, ⟨1564, 1564, 1⟩,
    ⟨1600, 1600, 1⟩, ⟨1611, 1631, 1⟩, ⟨1648, 1648, 1⟩, ⟨1750, 1757, 1⟩, ⟨1759, 1768, 1⟩,
    ⟨1770, 1773, 1⟩, ⟨1807, 1807, 1⟩, ⟨1809, 1809, 1⟩, ⟨1840, 1866, 1⟩, ⟨1958, 1968, 1⟩,
    ⟨2027, 2037, 1⟩, ⟨2042, 2042, 1⟩, ⟨2045, 2045, 1⟩, ⟨2070, 2093, 1⟩, ⟨2137, 2139, 1⟩,
    ⟨2184, 2184, 1⟩, ⟨2192, 2193, 1⟩, ⟨2199, 2207, 1⟩, ⟨2249, 2306, 1⟩, ⟨2362, 2362, 1⟩,
    ⟨2364, 2364, 1⟩, ⟨2369, 2376, 1⟩, ⟨2381, 2381, 1⟩, ⟨2385, 2391, 1⟩, ⟨2402, 2403, 1⟩,
    ⟨2417, 2417, 1⟩, ⟨2433, 2433, 1⟩, ⟨2492, 2492, 1⟩, ⟨2497, 2500, 1⟩, ⟨2509, 2509, 1⟩,
    ⟨2530, 2531, 1⟩, ⟨2558, 2558, 1⟩, ⟨2561, 2562, 1⟩, ⟨2620, 2620, 1⟩, ⟨2625, 2626, 1⟩,
    ⟨2631, 2632, 1⟩, ⟨2635, 2637, 1⟩, ⟨2641, 2641, 1⟩, ⟨2672, 2673, 1⟩, ⟨2677, 2677, 1⟩,
    ⟨2689, 2690, 1⟩, ⟨2748, 2748, 1⟩, ⟨2753, 2757, 1⟩, ⟨2759, 2760, 1⟩, ⟨2765, 2765, 1⟩,
    ⟨2786, 2787, 1⟩, ⟨2810, 2815, 1⟩, ⟨2817, 2817, 1⟩, ⟨2876, 2876, 1⟩, ⟨2879, 2879, 1⟩,
    ⟨2881, 2884, 1⟩, ⟨2893, 2893, 1⟩, ⟨2901, 2902, 1⟩, ⟨2914, 2915, 1⟩, ⟨2946, 2946, 1⟩,
    ⟨3008, 3008, 1⟩, ⟨3021, 3021, 1⟩, ⟨3072, 3072, 1⟩, ⟨3076, 3076, 1⟩, ⟨3132, 3132, 1⟩,
    ⟨3134, 3136, 1⟩, ⟨3142, 3144, 1⟩, ⟨3146, 3149, 1⟩, ⟨3157, 3158, 1⟩, ⟨3170, 3171, 1⟩,
    ⟨3201, 3201, 1⟩, ⟨3260, 3260, 1⟩, ⟨3263, 3263, 1⟩, ⟨3270, 3270, 1⟩, ⟨3276, 3277, 1⟩,
    ⟨3298, 3299, 1⟩, ⟨3328, 3329, 1⟩, ⟨3387, 3388, 1⟩, ⟨3393, 3396, 1⟩, ⟨3405, 3405, 1⟩,
    ⟨3426, 3427, 1⟩, ⟨3457, 3457, 1⟩, ⟨3530, 3530, 1⟩, ⟨3538, 3540, 1⟩, ⟨3542, 3542, 1⟩,
    ⟨3633, 3633, 1⟩, ⟨3636, 3642, 1⟩, ⟨3654, 3662, 1⟩, ⟨3761, 3761, 1⟩, ⟨3764, 3772, 1⟩,
    ⟨3782, 3782, 1⟩, ⟨3784, 3790, 1⟩, ⟨3864, 3865, 1⟩, ⟨3893, 3897, 2⟩, ⟨3953, 3966, 1⟩,
    ⟨3968, 3972, 1⟩, ⟨3974, 3975, 1⟩, ⟨3981, 3991, 1⟩, ⟨3993, 4028, 1⟩, ⟨4038, 4038, 1⟩,
    ⟨4141, 4144, 1⟩, ⟨4146, 4151, 1⟩, ⟨4153, 4154, 1⟩, ⟨4157, 4158, 1⟩, ⟨4184, 4185, 1⟩,
    ⟨4190, 4192, 1⟩, ⟨4209, 4212, 1⟩, ⟨4226, 4226, 1⟩, ⟨4229, 4230, 1⟩, ⟨4237, 4237, 1⟩,
    ⟨4253, 4253, 1⟩, ⟨4348, 4348, 1⟩, ⟨4957, 4959, 1⟩, ⟨5906, 5908, 1⟩, ⟨5938, 5939, 1⟩,
    ⟨5970, 5971, 1⟩, ⟨6002, 6003, 1⟩, ⟨6068, 6069, 1⟩, ⟨6071, 6077, 1⟩, ⟨6086, 6086, 1⟩,
    ⟨6089, 6099, 1⟩, ⟨6103, 6103, 1⟩, ⟨6109, 6109, 1⟩, ⟨6155, 6159, 1⟩, ⟨6211, 6211, 1⟩,
    ⟨6277, 6278, 1⟩, ⟨6313, 6313, 1⟩, ⟨6432, 6434, 1⟩, ⟨6439, 6440, 1⟩, ⟨6450, 6450, 1⟩,
    ⟨6457, 6459, 1⟩, ⟨6679, 6680, 1⟩, ⟨6683, 6683, 1⟩, ⟨6742, 6742, 1⟩, ⟨6744, 6750, 1⟩,
    ⟨6752, 6752, 1⟩, ⟨6754, 6754, 1⟩, ⟨6757, 6764, 1⟩, ⟨6771, 6780, 1⟩, ⟨6783, 6783, 1⟩,
    ⟨6823, 6823, 1⟩, ⟨6832, 6877, 1⟩, ⟨6880, 6891, 1⟩, ⟨6912, 6915, 1⟩, ⟨6964, 6964, 1⟩,
    ⟨6966, 6970, 1⟩, ⟨6972, 6972, 1⟩, ⟨6978, 6978, 1⟩, ⟨7019, 7027, 1⟩, ⟨7040, 7041, 1⟩,
    ⟨7074, 7077, 1⟩, ⟨7080, 7081, 1⟩, ⟨7083, 7085, 1⟩, ⟨7142, 7142, 1⟩, ⟨7144, 7145, 1⟩,
    ⟨7149, 7149, 1⟩, ⟨7151, 7153, 1⟩, ⟨7212, 7219, 1⟩, ⟨7222, 7223, 1⟩, ⟨7288, 7293, 1⟩,
    ⟨7376, 7378, 1⟩, ⟨7380, 7392, 1⟩, ⟨7394, 7400, 1⟩, ⟨7405, 7405, 1⟩, ⟨7412, 7412, 1⟩,
    ⟨7416, 7417, 1⟩, ⟨7468, 7530, 1⟩, ⟨7544, 7544, 1⟩, ⟨7579, 7679, 1⟩, ⟨8125, 8125, 1⟩,
    ⟨8127, 8129, 1⟩, ⟨8141, 8143, 1⟩, ⟨8157, 8159, 1⟩, ⟨8173, 8175, 1⟩, ⟨8189, 8190, 1⟩,
    ⟨8203, 8207, 1⟩, ⟨8216, 8217, 1⟩, ⟨8228, 8228, 1⟩, ⟨8231, 8231, 1⟩, ⟨8234, 8238, 1⟩,
    ⟨8288, 8292, 1⟩, ⟨8294, 8303, 1⟩, ⟨8305, 8305, 1⟩, ⟨8319, 8319, 1⟩, ⟨8336, 8348, 1⟩,
    ⟨8400, 8432, 1⟩, ⟨11388, 11389, 1⟩, ⟨11503, 11505, 1⟩, ⟨11631, 11631, 1⟩, ⟨11647, 11647, 1⟩,
    ⟨11744, 11775, 1⟩, ⟨11823, 11823, 1⟩, ⟨12293, 12293, 1⟩, ⟨12330, 12333, 1⟩, ⟨12337, 12341, 1⟩,
    ⟨12347, 12347, 1⟩, ⟨12441, 12446, 1⟩, ⟨12540, 12542, 1⟩, ⟨40981, 40981, 1⟩, ⟨42232, 42237, 1⟩,
    ⟨42508, 42508, 1⟩, ⟨42607, 42610, 1⟩, ⟨42612, 42621, 1⟩, ⟨42623, 42623, 1⟩, ⟨42652, 42655, 1⟩,
    ⟨42736, 42737, 1⟩, ⟨42752, 42785, 1⟩, ⟨42864, 42864, 1⟩, ⟨42888, 42890, 1⟩, ⟨42993, 42996, 1⟩,
    ⟨43000, 43001, 1⟩, ⟨43010, 43010, 1⟩, ⟨43014, 43014, 1⟩, ⟨43019, 43019, 1⟩, ⟨43045, 43046, 1⟩,
    ⟨43052, 43052, 1⟩, ⟨43204, 43205, 1⟩, ⟨43232, 43249, 1⟩, ⟨43263, 43263, 1⟩, ⟨43302, 43309, 1⟩,
    ⟨43335, 43345, 1⟩, ⟨43392, 43394, 1⟩, ⟨43443, 43443, 1⟩, ⟨43446, 43449, 1⟩, ⟨43452, 43453, 1⟩,
    ⟨43471, 43471, 1⟩, ⟨43493, 43494, 1⟩, ⟨43561, 43566, 1⟩, ⟨43569, 43570, 1⟩, ⟨43573, 43574, 1⟩,
    ⟨43587, 43587, 1⟩, ⟨43596, 43596, 1⟩, ⟨43632, 43632, 1⟩, ⟨43644, 43644, 1⟩, ⟨43696, 43696, 1⟩,
    ⟨43698, 43700, 1⟩, ⟨43703, 43704, 1⟩, ⟨43710, 43711, 1⟩, ⟨43713, 43713, 1⟩, ⟨43741, 43741, 1⟩,
    ⟨43756, 43757, 1⟩, ⟨43763, 43764, 1⟩, ⟨43766, 43766, 1⟩, ⟨43867, 43871, 1⟩, ⟨43881, 43883, 1⟩,
    ⟨44005, 44005, 1⟩, ⟨44008, 44008, 1⟩, ⟨44013, 44013, 1⟩, ⟨64286, 64286, 1⟩, ⟨64434, 64450, 1⟩,
    ⟨65024, 65039, 1⟩, ⟨65043, 65043, 1⟩, ⟨65056, 65071, 1⟩, ⟨65106, 65106, 1⟩, ⟨65109, 65109, 1⟩,
    ⟨65279, 65279, 1⟩, ⟨65287, 65287, 1⟩, ⟨65294, 65294, 1⟩, ⟨65306, 65306, 1⟩, ⟨65342, 65342, 1⟩,
    ⟨65344, 65344, 1⟩, ⟨65392, 65392, 1⟩, ⟨65438, 65439, 1⟩, ⟨65507, 65507, 1⟩, ⟨65529, 65531, 1⟩,
    ⟨66045, 66045, 1⟩, ⟨66272, 66272, 1⟩, ⟨66422, 66426, 1⟩, ⟨67456, 67461, 1⟩, ⟨67463, 67504, 1⟩,
    ⟨67506, 67514, 1⟩, ⟨68097, 68099, 1⟩, ⟨68101, 68102, 1⟩, ⟨68108, 68111, 1⟩, ⟨68152, 68154, 1⟩,
    ⟨68159, 68159, 1⟩, ⟨68325, 68326, 1⟩, ⟨68900, 68903, 1⟩, ⟨68942, 68942, 1⟩, ⟨68969, 68973, 1⟩,
    ⟨68975, 68975, 1⟩, ⟨69291, 69292, 1⟩, ⟨69317, 69317, 1⟩, ⟨69370, 69375, 1⟩, ⟨69446, 69456, 1⟩,
    ⟨69506, 69509, 1⟩, ⟨69633, 69633, 1⟩, ⟨69688, 69702, 1⟩, ⟨69744, 69744, 1⟩, ⟨69747, 69748, 1⟩,
    ⟨69759, 69761, 1⟩, ⟨69811, 69814, 1⟩, ⟨69817, 69818, 1⟩, ⟨69821, 69821, 1⟩, ⟨69826, 69826, 1⟩,
    ⟨69837, 69837, 1⟩, ⟨69888, 69890, 1⟩, ⟨69927, 69931, 1⟩, ⟨69933, 69940, 1⟩, ⟨70003, 70003, 1⟩,
    ⟨70016, 70017, 1⟩, ⟨70070, 70078, 1⟩, ⟨70089, 70092, 1⟩, ⟨70095, 70095, 1⟩, ⟨70191, 70193, 1⟩,
    ⟨70196, 70196, 1⟩, ⟨70198, 70199, 1⟩, ⟨70206, 70206, 1⟩, ⟨70209, 70209, 1⟩, ⟨70367, 70367, 1⟩,
    ⟨70371, 70378, 1⟩, ⟨70400, 70401, 1⟩, ⟨70459, 70460, 1⟩, ⟨70464, 70464, 1⟩, ⟨70502, 70508, 1⟩,
    ⟨70512, 70516, 1⟩, ⟨70587, 70592, 1⟩, ⟨70606, 70610, 2⟩, ⟨70625, 70626, 1⟩, ⟨70712, 70719, 1⟩,
    ⟨70722, 70724, 1⟩, ⟨70726, 70726, 1⟩, ⟨70750, 70750, 1⟩, ⟨70835, 70840, 1⟩, ⟨70842, 70842, 1⟩,
    ⟨70847, 70848, 1⟩, ⟨70850, 70851, 1⟩, ⟨71090, 71093, 1⟩, ⟨71100, 71101, 1⟩, ⟨71103, 71104, 1⟩,
    ⟨71132, 71133, 1⟩, ⟨71219, 71226, 1⟩, ⟨71229, 71229, 1⟩, ⟨71231, 71232, 1⟩, ⟨71339, 71339, 1⟩,
    ⟨71341, 71341, 1⟩, ⟨71344, 71349, 1⟩, ⟨71351, 71351, 1⟩, ⟨71453, 71453, 1⟩, ⟨71455, 71455, 1⟩,
    ⟨71458, 71461, 1⟩, ⟨71463, 71467, 1⟩, ⟨71727, 71735, 1⟩, ⟨71737, 71738, 1⟩, ⟨71995, 71996, 1⟩,
    ⟨71998, 71998, 1⟩, ⟨72003, 72003, 1⟩, ⟨72148, 72151, 1⟩, ⟨72154, 72155, 1⟩, ⟨72160, 72160, 1⟩,
    ⟨72193, 72202, 1⟩, ⟨72243, 72248, 1⟩, ⟨72251, 72254, 1⟩, ⟨72263, 72263, 1⟩, ⟨72273, 72278, 1⟩,
    ⟨72281, 72283, 1⟩, ⟨72330, 72342, 1⟩, ⟨72344, 72345, 1⟩, ⟨72544, 72544, 1⟩, ⟨72546, 72548, 1⟩,
    ⟨72550, 72550, 1⟩, ⟨72752, 72758, 1⟩, ⟨72760, 72765, 1⟩, ⟨72767, 72767, 1⟩, ⟨72850, 72871, 1⟩,
    ⟨72874, 72880, 1⟩, ⟨72882, 72883, 1⟩, ⟨72885, 72886, 1⟩, ⟨73009, 73014, 1⟩, ⟨73018, 73018, 1⟩,
    ⟨73020, 73021, 1⟩, ⟨73023, 73029, 1⟩, ⟨73031, 73031, 1⟩, ⟨73104, 73105, 1⟩, ⟨73109, 73109, 1⟩,
    ⟨73111, 73111, 1⟩, ⟨73177, 73177, 1⟩, ⟨73459, 73460, 1⟩, ⟨73472, 73473, 1⟩, ⟨73526, 73530, 1⟩,
    ⟨73536, 73536, 1⟩, ⟨73538, 73538, 1⟩, ⟨73562, 73562, 1⟩, ⟨78896, 78912, 1⟩, ⟨78919, 78933, 1⟩,
    ⟨90398, 90409, 1⟩, ⟨90413, 90415, 1⟩, ⟨92912, 92916, 1⟩, ⟨92976, 92982, 1⟩, ⟨92992, 92995, 1⟩,
    ⟨93504, 93506, 1⟩, ⟨93547, 93548, 1⟩, ⟨94031, 94031, 1⟩, ⟨94095, 94111, 1⟩, ⟨94176, 94177, 1⟩,
    ⟨94179, 94180, 1⟩, ⟨94194, 94195, 1⟩, ⟨110576, 110579, 1⟩, ⟨110581, 110587, 1⟩,
    ⟨110589, 110590, 1⟩, ⟨113821, 113822, 1⟩, ⟨113824, 113827, 1⟩, ⟨118528, 118573, 1⟩,
    ⟨118576, 118598, 1⟩, ⟨119143, 119145, 1⟩, ⟨119155, 119170, 1⟩, ⟨119173, 119179, 1⟩,
    ⟨119210, 119213, 1⟩, ⟨119362, 119364, 1⟩, ⟨121344, 121398, 1⟩, ⟨121403, 121452, 1⟩,
    ⟨121461, 121461, 1⟩, ⟨121476, 121476, 1⟩, ⟨121499, 121503, 1⟩, ⟨121505, 121519, 1⟩,
    ⟨122880, 122886, 1⟩, ⟨122888, 122904, 1⟩, ⟨122907, 122913, 1⟩, ⟨122915, 122916, 1⟩,
    ⟨122918, 122922, 1⟩, ⟨122928, 122989, 1⟩, ⟨123023, 123023, 1⟩, ⟨123184, 123197, 1⟩,
    ⟨123566, 123566, 1⟩, ⟨123628, 123631, 1⟩, ⟨124139, 124143, 1⟩, ⟨124398, 124399, 1⟩,
    ⟨124643, 124643, 1⟩, ⟨124646, 124646, 1⟩, ⟨124654, 124655, 1⟩, ⟨124661, 124661, 1⟩,
    ⟨124671, 124671, 1⟩, ⟨125136, 125142, 1⟩, ⟨125252, 125259, 1⟩, ⟨127995, 127999, 1⟩,
    ⟨917505, 917505, 1⟩, ⟨917536, 917631, 1⟩, ⟨917760, 917999, 1⟩]

end GoStub.Text
