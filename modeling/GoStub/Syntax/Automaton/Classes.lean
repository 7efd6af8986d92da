/-! Classes of symbols. Where a row of the automaton names a class, all symbols of the class are met
with the same action. -/

namespace GoStub.Syntax.Automaton

/-- The classes, each with the codes of its symbols. -/
def classes : List (List Nat) :=
  [[0], [1], [3], [5], [6], [7], [9], [10], [11], [12], [13], [14], [15], [16], [17], [18], [19],
    [20], [21], [22], [23], [24], [25], [26], [27], [28], [29], [30], [31], [32], [44], [45], [46],
    [47], [48], [49], [50], [51], [52], [53], [54], [55], [56], [57], [58], [59], [78], [79], [80],
    [81], [82], [84], [95], [98], [102], [104], [108], [109], [110], [116], [117], [118], [119],
    [120], [123], [126], [127], [128], [131], [135], [137], [139], [148], [164], [168], [171],
    [172], [173], [181], [182], [183], [187], [188], [189], [190], [191], [192], [193], [194],
    [195], [196], [197], [198], [199], [200], [201], [202], [203], [204], [205], [208], [210],
    [211], [212], [1, 10], [3, 23], [3, 44], [8, 99], [9, 10], [9, 16], [10, 12], [12, 17],
    [12, 23], [12, 24], [13, 30], [60, 61], [80, 82], [98, 100], [104, 105], [110, 118],
    [111, 112], [113, 115], [117, 118], [126, 187], [130, 131], [135, 156], [136, 148], [141, 142],
    [158, 159], [188, 189], [2, 3, 4], [9, 17, 26], [12, 17, 26], [12, 17, 44], [12, 24, 44],
    [24, 57, 58], [83, 84, 85], [83, 85, 212], [161, 162, 206], [162, 165, 207], [162, 167, 209],
    [0, 2, 3, 4], [2, 3, 4, 10], [2, 3, 4, 24], [3, 13, 30, 44], [10, 12, 17, 26],
    [10, 12, 18, 79], [12, 23, 30, 79], [26, 62, 63, 65], [96, 97, 106, 107], [121, 129, 133, 134],
    [0, 2, 3, 4, 10], [2, 3, 4, 24, 26], [3, 12, 13, 30, 44], [9, 10, 12, 17, 26],
    [10, 12, 18, 78, 79], [12, 23, 30, 78, 79], [62, 63, 64, 65, 66], [96, 97, 106, 107, 137],
    [119, 122, 124, 125, 132], [2, 3, 4, 24, 57, 58], [9, 10, 12, 16, 17, 26],
    [12, 13, 29, 30, 44, 79], [72, 73, 74, 75, 76, 77], [140, 141, 143, 144, 145, 146],
    [2, 3, 4, 12, 24, 57, 58], [10, 12, 13, 17, 23, 26, 44], [12, 13, 29, 30, 44, 78, 79],
    [20, 66, 67, 68, 69, 70, 71], [2, 3, 4, 12, 24, 57, 58, 79], [3, 12, 13, 17, 24, 30, 44, 79],
    [9, 10, 12, 13, 17, 23, 26, 44], [2, 3, 4, 12, 24, 57, 58, 78, 79],
    [3, 12, 13, 17, 24, 30, 44, 78, 79], [9, 10, 12, 13, 16, 17, 23, 26, 44],
    [119, 121, 122, 124, 125, 129, 132, 133, 134], [1, 9, 15, 16, 20, 21, 22, 25, 27, 28, 29],
    [10, 12, 18, 72, 73, 74, 75, 76, 77, 78, 79], [12, 23, 30, 72, 73, 74, 75, 76, 77, 78, 79],
    [33, 34, 35, 36, 37, 38, 39, 40, 41, 42, 43], [0, 2, 3, 4, 13, 23, 24, 26, 57, 58, 80, 82],
    [1, 9, 12, 15, 16, 20, 21, 22, 25, 27, 28, 29],
    [13, 33, 34, 35, 36, 37, 38, 39, 40, 41, 42, 43],
    [0, 2, 3, 4, 13, 16, 23, 24, 26, 57, 58, 80, 82],
    [1, 9, 12, 13, 15, 16, 20, 21, 22, 25, 27, 28, 29],
    [12, 13, 29, 30, 44, 72, 73, 74, 75, 76, 77, 78, 79],
    [13, 30, 33, 34, 35, 36, 37, 38, 39, 40, 41, 42, 43],
    [12, 13, 30, 33, 34, 35, 36, 37, 38, 39, 40, 41, 42, 43],
    [169, 170, 174, 175, 176, 177, 178, 179, 180, 184, 185, 186, 188, 189],
    [2, 3, 4, 12, 24, 57, 58, 72, 73, 74, 75, 76, 77, 78, 79],
    [3, 12, 13, 17, 24, 30, 44, 72, 73, 74, 75, 76, 77, 78, 79],
    [10, 12, 18, 26, 62, 63, 65, 72, 73, 74, 75, 76, 77, 78, 79],
    [12, 13, 30, 33, 34, 35, 36, 37, 38, 39, 40, 41, 42, 43, 79],
    [12, 23, 26, 30, 62, 63, 65, 72, 73, 74, 75, 76, 77, 78, 79],
    [12, 13, 30, 33, 34, 35, 36, 37, 38, 39, 40, 41, 42, 43, 78, 79],
    [12, 13, 26, 29, 30, 44, 62, 63, 65, 72, 73, 74, 75, 76, 77, 78, 79],
    [1, 9, 10, 12, 13, 15, 16, 17, 20, 21, 22, 23, 25, 26, 27, 28, 29, 44],
    [1, 2, 3, 4, 9, 12, 13, 15, 16, 20, 21, 22, 24, 25, 27, 28, 29, 57, 58],
    [2, 3, 4, 12, 24, 26, 57, 58, 62, 63, 65, 72, 73, 74, 75, 76, 77, 78, 79],
    [3, 12, 13, 17, 24, 26, 30, 44, 62, 63, 65, 72, 73, 74, 75, 76, 77, 78, 79],
    [17, 26, 62, 63, 65, 66, 67, 68, 69, 70, 71, 72, 73, 74, 75, 76, 77, 78, 79],
    [20, 44, 62, 63, 65, 66, 67, 68, 69, 70, 71, 72, 73, 74, 75, 76, 77, 78, 79],
    [101, 103, 114, 135, 138, 139, 147, 149, 150, 151, 152, 153, 154, 155, 156, 157, 160, 163,
      166], [3, 12, 13, 23, 29, 30, 31, 32, 33, 34, 35, 36, 37, 38, 39, 40, 41, 42, 43, 79],
    [3, 12, 13, 23, 29, 30, 31, 32, 33, 34, 35, 36, 37, 38, 39, 40, 41, 42, 43, 78, 79],
    [10, 12, 18, 20, 26, 62, 63, 65, 66, 67, 68, 69, 70, 71, 72, 73, 74, 75, 76, 77, 78, 79],
    [12, 13, 30, 33, 34, 35, 36, 37, 38, 39, 40, 41, 42, 43, 72, 73, 74, 75, 76, 77, 78, 79],
    [12, 20, 23, 26, 30, 62, 63, 65, 66, 67, 68, 69, 70, 71, 72, 73, 74, 75, 76, 77, 78, 79],
    [86, 87, 88, 89, 90, 91, 92, 93, 169, 170, 174, 175, 176, 177, 178, 179, 180, 184, 185, 186,
      188, 189],
    [0, 1, 2, 3, 4, 9, 13, 15, 16, 20, 21, 22, 23, 24, 25, 26, 27, 28, 29, 57, 58, 80, 82],
    [2, 3, 4, 12, 13, 24, 29, 30, 31, 32, 33, 34, 35, 36, 37, 38, 39, 40, 41, 42, 43, 57, 58, 79],
    [12, 13, 20, 26, 29, 30, 44, 62, 63, 65, 66, 67, 68, 69, 70, 71, 72, 73, 74, 75, 76, 77, 78,
      79],
    [2, 3, 4, 12, 13, 24, 29, 30, 31, 32, 33, 34, 35, 36, 37, 38, 39, 40, 41, 42, 43, 57, 58, 78,
      79],
    [2, 3, 4, 12, 20, 24, 26, 57, 58, 62, 63, 65, 66, 67, 68, 69, 70, 71, 72, 73, 74, 75, 76, 77,
      78, 79],
    [3, 12, 13, 17, 20, 24, 26, 30, 44, 62, 63, 65, 66, 67, 68, 69, 70, 71, 72, 73, 74, 75, 76,
      77, 78, 79],
    [7, 12, 13, 16, 20, 26, 29, 30, 44, 62, 63, 65, 66, 67, 68, 69, 70, 71, 72, 73, 74, 75, 76,
      77, 78, 79],
    [12, 13, 26, 30, 33, 34, 35, 36, 37, 38, 39, 40, 41, 42, 43, 62, 63, 65, 72, 73, 74, 75, 76,
      77, 78, 79],
    [3, 12, 13, 23, 29, 30, 31, 32, 33, 34, 35, 36, 37, 38, 39, 40, 41, 42, 43, 72, 73, 74, 75,
      76, 77, 78, 79],
    [7, 9, 12, 13, 16, 20, 26, 29, 30, 44, 62, 63, 65, 66, 67, 68, 69, 70, 71, 72, 73, 74, 75, 76,
      77, 78, 79],
    [2, 3, 4, 7, 12, 16, 20, 24, 26, 57, 58, 62, 63, 65, 66, 67, 68, 69, 70, 71, 72, 73, 74, 75,
      76, 77, 78, 79],
    [2, 3, 4, 7, 9, 12, 16, 20, 24, 26, 57, 58, 62, 63, 65, 66, 67, 68, 69, 70, 71, 72, 73, 74,
      75, 76, 77, 78, 79],
    [3, 10, 12, 13, 17, 18, 20, 23, 24, 26, 30, 44, 62, 63, 65, 66, 67, 68, 69, 70, 71, 72, 73,
      74, 75, 76, 77, 78, 79],
    [2, 3, 4, 12, 13, 24, 29, 30, 31, 32, 33, 34, 35, 36, 37, 38, 39, 40, 41, 42, 43, 57, 58, 72,
      73, 74, 75, 76, 77, 78, 79],
    [3, 7, 10, 12, 13, 16, 17, 18, 20, 23, 24, 26, 30, 44, 62, 63, 65, 66, 67, 68, 69, 70, 71, 72,
      73, 74, 75, 76, 77, 78, 79],
    [3, 12, 13, 23, 26, 29, 30, 31, 32, 33, 34, 35, 36, 37, 38, 39, 40, 41, 42, 43, 62, 63, 65,
      72, 73, 74, 75, 76, 77, 78, 79],
    [3, 7, 9, 10, 12, 13, 16, 17, 18, 20, 23, 24, 26, 30, 44, 62, 63, 65, 66, 67, 68, 69, 70, 71,
      72, 73, 74, 75, 76, 77, 78, 79],
    [12, 13, 20, 26, 30, 33, 34, 35, 36, 37, 38, 39, 40, 41, 42, 43, 62, 63, 65, 66, 67, 68, 69,
      70, 71, 72, 73, 74, 75, 76, 77, 78, 79],
    [2, 3, 4, 12, 13, 24, 26, 29, 30, 31, 32, 33, 34, 35, 36, 37, 38, 39, 40, 41, 42, 43, 57, 58,
      62, 63, 65, 72, 73, 74, 75, 76, 77, 78, 79],
    [7, 12, 13, 16, 20, 26, 30, 33, 34, 35, 36, 37, 38, 39, 40, 41, 42, 43, 62, 63, 65, 66, 67,
      68, 69, 70, 71, 72, 73, 74, 75, 76, 77, 78, 79],
    [7, 9, 12, 13, 16, 20, 26, 30, 33, 34, 35, 36, 37, 38, 39, 40, 41, 42, 43, 62, 63, 65, 66, 67,
      68, 69, 70, 71, 72, 73, 74, 75, 76, 77, 78, 79],
    [3, 12, 13, 20, 23, 26, 29, 30, 31, 32, 33, 34, 35, 36, 37, 38, 39, 40, 41, 42, 43, 62, 63,
      65, 66, 67, 68, 69, 70, 71, 72, 73, 74, 75, 76, 77, 78, 79],
    [3, 7, 12, 13, 16, 20, 23, 26, 29, 30, 31, 32, 33, 34, 35, 36, 37, 38, 39, 40, 41, 42, 43, 62,
      63, 65, 66, 67, 68, 69, 70, 71, 72, 73, 74, 75, 76, 77, 78, 79],
    [3, 7, 9, 12, 13, 16, 20, 23, 26, 29, 30, 31, 32, 33, 34, 35, 36, 37, 38, 39, 40, 41, 42, 43,
      62, 63, 65, 66, 67, 68, 69, 70, 71, 72, 73, 74, 75, 76, 77, 78, 79],
    [2, 3, 4, 12, 13, 20, 24, 26, 29, 30, 31, 32, 33, 34, 35, 36, 37, 38, 39, 40, 41, 42, 43, 57,
      58, 62, 63, 65, 66, 67, 68, 69, 70, 71, 72, 73, 74, 75, 76, 77, 78, 79],
    [2, 3, 4, 7, 12, 13, 16, 20, 24, 26, 29, 30, 31, 32, 33, 34, 35, 36, 37, 38, 39, 40, 41, 42,
      43, 57, 58, 62, 63, 65, 66, 67, 68, 69, 70, 71, 72, 73, 74, 75, 76, 77, 78, 79],
    [2, 3, 4, 7, 9, 12, 13, 16, 20, 24, 26, 29, 30, 31, 32, 33, 34, 35, 36, 37, 38, 39, 40, 41,
      42, 43, 57, 58, 62, 63, 65, 66, 67, 68, 69, 70, 71, 72, 73, 74, 75, 76, 77, 78, 79],
    [0, 1, 3, 5, 6, 9, 11, 14, 15, 16, 19, 20, 21, 22, 23, 25, 27, 28, 29, 45, 46, 47, 48, 49, 50,
      51, 52, 54, 56, 59, 60, 61, 62, 63, 64, 65, 66, 80, 82, 86, 87, 88, 89, 90, 91, 92, 93],
    [0, 2, 3, 4, 7, 9, 10, 12, 13, 16, 20, 24, 26, 29, 30, 31, 32, 33, 34, 35, 36, 37, 38, 39, 40,
      41, 42, 43, 57, 58, 62, 63, 65, 66, 67, 68, 69, 70, 71, 72, 73, 74, 75, 76, 77, 78, 79],
    [0, 2, 3, 4, 7, 9, 12, 13, 16, 20, 24, 26, 29, 30, 31, 32, 33, 34, 35, 36, 37, 38, 39, 40, 41,
      42, 43, 53, 57, 58, 62, 63, 65, 66, 67, 68, 69, 70, 71, 72, 73, 74, 75, 76, 77, 78, 79]]

end GoStub.Syntax.Automaton
