/-
Py.Cased: the letters that have a case, and the characters
a word goes on over.

The two classes decide which capital sigma ends a word. A character that
is in both counts as skipped, so `isCased` leaves those out. The codes are
those of the tables Python 3.11 ships; a range is given by its first code
and the number of codes behind it.
-/

namespace ChaosBlade.Py

def inClass (codes : List Nat) (ranges : List (Nat × Nat)) (c : Char) : Bool :=
  codes.contains c.toNat ||
    ranges.any fun r => Nat.ble r.1 c.toNat && Nat.ble c.toNat (r.1 + r.2)

def casedCodes : List Nat :=
  [170, 181, 186, 895, 902, 908, 4295, 4301, 8025, 8027, 8029, 8126, 8450, 8455, 8469, 8484, 8486,
   8488, 8505, 8526, 11559, 11565, 42963, 43002, 119970, 119995, 120134]

def casedRanges : List (Nat × Nat) :=
  [(65, 25), (97, 25), (192, 22), (216, 30), (248, 194), (444, 3), (452, 207), (661, 26),
   (880, 3), (886, 1), (891, 2), (904, 2), (910, 19), (931, 82), (1015, 138), (1162, 165),
   (1329, 37), (1376, 40), (4256, 37), (4304, 42), (4349, 2), (5024, 85), (5112, 5), (7296, 8),
   (7312, 42), (7357, 2), (7424, 43), (7531, 12), (7545, 33), (7680, 277), (7960, 5), (7968, 37),
   (8008, 5), (8016, 7), (8031, 30), (8064, 52), (8118, 6), (8130, 2), (8134, 6), (8144, 3),
   (8150, 5), (8160, 12), (8178, 2), (8182, 6), (8458, 9), (8473, 4), (8490, 3), (8495, 5),
   (8508, 3), (8517, 4), (8544, 31), (8579, 1), (9398, 51), (11264, 123), (11390, 102),
   (11499, 3), (11506, 1), (11520, 37), (42560, 45), (42624, 27), (42786, 77), (42865, 22),
   (42891, 3), (42896, 58), (42960, 1), (42965, 4), (42997, 1), (43824, 42), (43872, 8),
   (43888, 79), (64256, 6), (64275, 4), (65313, 25), (65345, 25), (66560, 79), (66736, 35),
   (66776, 35), (66928, 10), (66940, 14), (66956, 6), (66964, 1), (66967, 10), (66979, 14),
   (66995, 6), (67003, 1), (68736, 50), (68800, 50), (71840, 63), (93760, 63), (119808, 84),
   (119894, 70), (119966, 1), (119973, 1), (119977, 3), (119982, 11), (119997, 6), (120005, 64),
   (120071, 3), (120077, 7), (120086, 6), (120094, 27), (120123, 3), (120128, 4), (120138, 6),
   (120146, 339), (120488, 24), (120514, 24), (120540, 30), (120572, 24), (120598, 30),
   (120630, 24), (120656, 30), (120688, 24), (120714, 30), (120746, 24), (120772, 7), (122624, 9),
   (122635, 19), (125184, 67), (127280, 25), (127312, 25), (127344, 25)]

def isCased : Char → Bool := inClass casedCodes casedRanges

def caseIgnorableCodes : List Nat :=
  [39, 46, 58, 94, 96, 168, 173, 175, 180, 890, 903, 1369, 1375, 1471, 1479, 1524, 1564, 1600,
   1648, 1807, 1809, 2042, 2045, 2184, 2362, 2364, 2381, 2417, 2433, 2492, 2509, 2558, 2620, 2641,
   2677, 2748, 2765, 2817, 2876, 2879, 2893, 2946, 3008, 3021, 3072, 3076, 3132, 3201, 3260, 3263,
   3270, 3405, 3457, 3530, 3542, 3633, 3761, 3782, 3893, 3895, 3897, 4038, 4226, 4237, 4253, 4348,
   6086, 6103, 6109, 6211, 6313, 6450, 6683, 6742, 6752, 6754, 6783, 6823, 6964, 6972, 6978, 7142,
   7149, 7405, 7412, 7544, 8125, 8228, 8231, 8305, 8319, 11631, 11647, 11823, 12293, 12347, 40981,
   42508, 42623, 42864, 43010, 43014, 43019, 43052, 43263, 43443, 43471, 43587, 43596, 43632,
   43644, 43696, 43713, 43741, 43766, 44005, 44008, 44013, 64286, 65043, 65106, 65109, 65279,
   65287, 65294, 65306, 65342, 65344, 65392, 65507, 66045, 66272, 68159, 69633, 69744, 69821,
   69826, 69837, 70003, 70095, 70196, 70206, 70367, 70464, 70726, 70750, 70842, 71229, 71339,
   71341, 71351, 71998, 72003, 72160, 72263, 72767, 73018, 73031, 73109, 73111, 94031, 121461,
   121476, 123566, 917505]

def caseIgnorableRanges : List (Nat × Nat) :=
  [(183, 1), (688, 191), (884, 1), (900, 1), (1155, 6), (1425, 44), (1473, 1), (1476, 1),
   (1536, 5), (1552, 10), (1611, 20), (1750, 7), (1759, 9), (1770, 3), (1840, 26), (1958, 10),
   (2027, 10), (2070, 23), (2137, 2), (2192, 1), (2200, 7), (2249, 57), (2369, 7), (2385, 6),
   (2402, 1), (2497, 3), (2530, 1), (2561, 1), (2625, 1), (2631, 1), (2635, 2), (2672, 1),
   (2689, 1), (2753, 4), (2759, 1), (2786, 1), (2810, 5), (2881, 3), (2901, 1), (2914, 1),
   (3134, 2), (3142, 2), (3146, 3), (3157, 1), (3170, 1), (3276, 1), (3298, 1), (3328, 1),
   (3387, 1), (3393, 3), (3426, 1), (3538, 2), (3636, 6), (3654, 8), (3764, 8), (3784, 5),
   (3864, 1), (3953, 13), (3968, 4), (3974, 1), (3981, 10), (3993, 35), (4141, 3), (4146, 5),
   (4153, 1), (4157, 1), (4184, 1), (4190, 2), (4209, 3), (4229, 1), (4957, 2), (5906, 2),
   (5938, 1), (5970, 1), (6002, 1), (6068, 1), (6071, 6), (6089, 10), (6155, 4), (6277, 1),
   (6432, 2), (6439, 1), (6457, 2), (6679, 1), (6744, 6), (6757, 7), (6771, 9), (6832, 30),
   (6912, 3), (6966, 4), (7019, 8), (7040, 1), (7074, 3), (7080, 1), (7083, 2), (7144, 1),
   (7151, 2), (7212, 7), (7222, 1), (7288, 5), (7376, 2), (7380, 12), (7394, 6), (7416, 1),
   (7468, 62), (7579, 100), (8127, 2), (8141, 2), (8157, 2), (8173, 2), (8189, 1), (8203, 4),
   (8216, 1), (8234, 4), (8288, 4), (8294, 9), (8336, 12), (8400, 32), (11388, 1), (11503, 2),
   (11744, 31), (12330, 3), (12337, 4), (12441, 5), (12540, 2), (42232, 5), (42607, 3),
   (42612, 9), (42652, 3), (42736, 1), (42752, 33), (42888, 2), (42994, 2), (43000, 1),
   (43045, 1), (43204, 1), (43232, 17), (43302, 7), (43335, 10), (43392, 2), (43446, 3),
   (43452, 1), (43493, 1), (43561, 5), (43569, 1), (43573, 1), (43698, 2), (43703, 1), (43710, 1),
   (43756, 1), (43763, 1), (43867, 4), (43881, 2), (64434, 16), (65024, 15), (65056, 15),
   (65438, 1), (65529, 2), (66422, 4), (67456, 5), (67463, 41), (67506, 8), (68097, 2),
   (68101, 1), (68108, 3), (68152, 2), (68325, 1), (68900, 3), (69291, 1), (69446, 10),
   (69506, 3), (69688, 14), (69747, 1), (69759, 2), (69811, 3), (69817, 1), (69888, 2),
   (69927, 4), (69933, 7), (70016, 1), (70070, 8), (70089, 3), (70191, 2), (70198, 1), (70371, 7),
   (70400, 1), (70459, 1), (70502, 6), (70512, 4), (70712, 7), (70722, 2), (70835, 5), (70847, 1),
   (70850, 1), (71090, 3), (71100, 1), (71103, 1), (71132, 1), (71219, 7), (71231, 1), (71344, 5),
   (71453, 2), (71458, 3), (71463, 4), (71727, 8), (71737, 1), (71995, 1), (72148, 3), (72154, 1),
   (72193, 9), (72243, 5), (72251, 3), (72273, 5), (72281, 2), (72330, 12), (72344, 1),
   (72752, 6), (72760, 5), (72850, 21), (72874, 6), (72882, 1), (72885, 1), (73009, 5),
   (73020, 1), (73023, 6), (73104, 1), (73459, 1), (78896, 8), (92912, 4), (92976, 6), (92992, 3),
   (94095, 16), (94176, 1), (94179, 1), (110576, 3), (110581, 6), (110589, 1), (113821, 1),
   (113824, 3), (118528, 45), (118576, 22), (119143, 2), (119155, 15), (119173, 6), (119210, 3),
   (119362, 2), (121344, 54), (121403, 49), (121499, 4), (121505, 14), (122880, 6), (122888, 16),
   (122907, 6), (122915, 1), (122918, 4), (123184, 13), (123628, 3), (125136, 6), (125252, 7),
   (127995, 4), (917536, 95), (917760, 239)]

def isCaseIgnorable : Char → Bool := inClass caseIgnorableCodes caseIgnorableRanges

end ChaosBlade.Py
