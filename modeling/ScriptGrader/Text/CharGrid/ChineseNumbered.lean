/-!
# Chinese characters in two and four bytes

All of Unicode can be written in two or four bytes: places in two bytes that
other sets leave free have characters one after the other, and what has no
form in two bytes is numbered through in four.
-/

namespace ScriptGrader.Text.CharGrid

/-- Places in two bytes: both bytes, the code point there, and how many follow. -/
def freePlaces : List (Nat × Nat × Nat × Nat) := [
  (0xa1, 0x40, 0xe4c6, 63), (0xa1, 0x80, 0xe505, 33), (0xa2, 0x40, 0xe526, 63),
  (0xa2, 0x80, 0xe565, 33), (0xa2, 0xab, 0xe766, 6), (0xa2, 0xe3, 0x20ac, 1),
  (0xa2, 0xe4, 0xe76d, 1), (0xa2, 0xef, 0xe76e, 2), (0xa2, 0xfd, 0xe770, 2),
  (0xa3, 0x40, 0xe586, 63), (0xa3, 0x80, 0xe5c5, 33), (0xa4, 0x40, 0xe5e6, 63),
  (0xa4, 0x80, 0xe625, 33), (0xa4, 0xf4, 0xe772, 11), (0xa5, 0x40, 0xe646, 63),
  (0xa5, 0x80, 0xe685, 33), (0xa5, 0xf7, 0xe77d, 8), (0xa6, 0x40, 0xe6a6, 63),
  (0xa6, 0x80, 0xe6e5, 33), (0xa6, 0xb9, 0xe785, 8), (0xa6, 0xd9, 0xe78d, 7),
  (0xa6, 0xec, 0xe794, 2), (0xa6, 0xf3, 0xe796, 1), (0xa6, 0xf6, 0xe797, 9),
  (0xa7, 0x40, 0xe706, 63), (0xa7, 0x80, 0xe745, 33), (0xa7, 0xc2, 0xe7a0, 15),
  (0xa7, 0xf2, 0xe7af, 13), (0xa8, 0x96, 0xe7bc, 11), (0xa8, 0xbc, 0xe7c7, 1),
  (0xa8, 0xbf, 0x01f9, 1), (0xa8, 0xc1, 0xe7c9, 4), (0xa8, 0xea, 0xe7cd, 21),
  (0xa9, 0x58, 0xe7e2, 1), (0xa9, 0x5b, 0xe7e3, 1), (0xa9, 0x5d, 0xe7e4, 3),
  (0xa9, 0x89, 0x303e, 1), (0xa9, 0x8a, 0x2ff0, 12), (0xa9, 0x97, 0xe7f4, 13),
  (0xa9, 0xf0, 0xe801, 15), (0xaa, 0xa1, 0xe000, 94), (0xab, 0xa1, 0xe05e, 94),
  (0xac, 0xa1, 0xe0bc, 94), (0xad, 0xa1, 0xe11a, 94), (0xae, 0xa1, 0xe178, 94),
  (0xaf, 0xa1, 0xe1d6, 94), (0xd7, 0xfa, 0xe810, 5), (0xf8, 0xa1, 0xe234, 94),
  (0xf9, 0xa1, 0xe292, 94), (0xfa, 0xa1, 0xe2f0, 94), (0xfb, 0xa1, 0xe34e, 94),
  (0xfc, 0xa1, 0xe3ac, 94), (0xfd, 0xa1, 0xe40a, 94), (0xfe, 0x50, 0x2e81, 1),
  (0xfe, 0x51, 0xe816, 3), (0xfe, 0x54, 0x2e84, 1), (0xfe, 0x55, 0x3473, 1),
  (0xfe, 0x56, 0x3447, 1), (0xfe, 0x57, 0x2e88, 1), (0xfe, 0x58, 0x2e8b, 1),
  (0xfe, 0x59, 0xe81e, 1), (0xfe, 0x5a, 0x359e, 1), (0xfe, 0x5b, 0x361a, 1),
  (0xfe, 0x5c, 0x360e, 1), (0xfe, 0x5d, 0x2e8c, 1), (0xfe, 0x5e, 0x2e97, 1),
  (0xfe, 0x5f, 0x396e, 1), (0xfe, 0x60, 0x3918, 1), (0xfe, 0x61, 0xe826, 1),
  (0xfe, 0x62, 0x39cf, 1), (0xfe, 0x63, 0x39df, 1), (0xfe, 0x64, 0x3a73, 1),
  (0xfe, 0x65, 0x39d0, 1), (0xfe, 0x66, 0xe82b, 2), (0xfe, 0x68, 0x3b4e, 1),
  (0xfe, 0x69, 0x3c6e, 1), (0xfe, 0x6a, 0x3ce0, 1), (0xfe, 0x6b, 0x2ea7, 1),
  (0xfe, 0x6c, 0xe831, 2), (0xfe, 0x6e, 0x2eaa, 1), (0xfe, 0x6f, 0x4056, 1),
  (0xfe, 0x70, 0x415f, 1), (0xfe, 0x71, 0x2eae, 1), (0xfe, 0x72, 0x4337, 1),
  (0xfe, 0x73, 0x2eb3, 1), (0xfe, 0x74, 0x2eb6, 2), (0xfe, 0x76, 0xe83b, 1),
  (0xfe, 0x77, 0x43b1, 1), (0xfe, 0x78, 0x43ac, 1), (0xfe, 0x79, 0x2ebb, 1),
  (0xfe, 0x7a, 0x43dd, 1), (0xfe, 0x7b, 0x44d6, 1), (0xfe, 0x7c, 0x4661, 1),
  (0xfe, 0x7d, 0x464c, 1), (0xfe, 0x7e, 0xe843, 1), (0xfe, 0x80, 0x4723, 1),
  (0xfe, 0x81, 0x4729, 1), (0xfe, 0x82, 0x477c, 1), (0xfe, 0x83, 0x478d, 1),
  (0xfe, 0x84, 0x2eca, 1), (0xfe, 0x85, 0x4947, 1), (0xfe, 0x86, 0x497a, 1),
  (0xfe, 0x87, 0x497d, 1), (0xfe, 0x88, 0x4982, 2), (0xfe, 0x8a, 0x4985, 2),
  (0xfe, 0x8c, 0x499f, 1), (0xfe, 0x8d, 0x499b, 1), (0xfe, 0x8e, 0x49b7, 1),
  (0xfe, 0x8f, 0x49b6, 1), (0xfe, 0x90, 0xe854, 2), (0xfe, 0x92, 0x4ca3, 1),
  (0xfe, 0x93, 0x4c9f, 3), (0xfe, 0x96, 0x4c77, 1), (0xfe, 0x97, 0x4ca2, 1),
  (0xfe, 0x98, 0x4d13, 7), (0xfe, 0x9f, 0x4dae, 1), (0xfe, 0xa0, 0xe864, 1),
  (0xfe, 0xa1, 0xe468, 94)]

/-- Numbers of forms in four bytes, each with the code point from which on they
follow one another. -/
def fourByteRuns : List (Nat × Nat) := [
  (0, 0x0080), (36, 0x00a5), (38, 0x00a9), (45, 0x00b2), (50, 0x00b8), (81, 0x00d8),
  (89, 0x00e2), (95, 0x00eb), (96, 0x00ee), (100, 0x00f4), (103, 0x00f8), (104, 0x00fb),
  (105, 0x00fd), (109, 0x0102), (126, 0x0114), (133, 0x011c), (148, 0x012c), (172, 0x0145),
  (175, 0x0149), (179, 0x014e), (208, 0x016c), (306, 0x01cf), (307, 0x01d1), (308, 0x01d3),
  (309, 0x01d5), (310, 0x01d7), (311, 0x01d9), (312, 0x01db), (313, 0x01dd), (341, 0x01fa),
  (428, 0x0252), (443, 0x0262), (544, 0x02c8), (545, 0x02cc), (558, 0x02da), (741, 0x03a2),
  (742, 0x03aa), (749, 0x03c2), (750, 0x03ca), (805, 0x0402), (819, 0x0450), (820, 0x0452),
  (7922, 0x2011), (7924, 0x2017), (7925, 0x201a), (7927, 0x201e), (7934, 0x2027),
  (7943, 0x2031), (7944, 0x2034), (7945, 0x2036), (7950, 0x203c), (8062, 0x20ad),
  (8148, 0x2104), (8149, 0x2106), (8152, 0x210a), (8164, 0x2117), (8174, 0x2122),
  (8236, 0x216c), (8240, 0x217a), (8262, 0x2194), (8264, 0x219a), (8374, 0x2209),
  (8380, 0x2210), (8381, 0x2212), (8384, 0x2216), (8388, 0x221b), (8390, 0x2221),
  (8392, 0x2224), (8393, 0x2226), (8394, 0x222c), (8396, 0x222f), (8401, 0x2238),
  (8406, 0x223e), (8416, 0x2249), (8419, 0x224d), (8424, 0x2253), (8437, 0x2262),
  (8439, 0x2268), (8445, 0x2270), (8482, 0x2296), (8485, 0x229a), (8496, 0x22a6),
  (8521, 0x22c0), (8603, 0x2313), (8936, 0x246a), (8946, 0x249c), (9046, 0x254c),
  (9050, 0x2574), (9063, 0x2590), (9066, 0x2596), (9076, 0x25a2), (9092, 0x25b4),
  (9100, 0x25be), (9108, 0x25c8), (9111, 0x25cc), (9113, 0x25d0), (9131, 0x25e6),
  (9162, 0x2607), (9164, 0x260a), (9218, 0x2641), (9219, 0x2643), (11329, 0x2e82),
  (11331, 0x2e85), (11334, 0x2e89), (11336, 0x2e8d), (11346, 0x2e98), (11361, 0x2ea8),
  (11363, 0x2eab), (11366, 0x2eaf), (11370, 0x2eb4), (11372, 0x2eb8), (11375, 0x2ebc),
  (11389, 0x2ecb), (11682, 0x2ffc), (11686, 0x3004), (11687, 0x3018), (11692, 0x301f),
  (11694, 0x302a), (11714, 0x303f), (11716, 0x3094), (11723, 0x309f), (11725, 0x30f7),
  (11730, 0x30ff), (11736, 0x312a), (11982, 0x322a), (11989, 0x3232), (12102, 0x32a4),
  (12336, 0x3390), (12348, 0x339f), (12350, 0x33a2), (12384, 0x33c5), (12393, 0x33cf),
  (12395, 0x33d3), (12397, 0x33d6), (12510, 0x3448), (12553, 0x3474), (12851, 0x359f),
  (12962, 0x360f), (12973, 0x361b), (13738, 0x3919), (13823, 0x396f), (13919, 0x39d1),
  (13933, 0x39e0), (14080, 0x3a74), (14298, 0x3b4f), (14585, 0x3c6f), (14698, 0x3ce1),
  (15583, 0x4057), (15847, 0x4160), (16318, 0x4338), (16434, 0x43ad), (16438, 0x43b2),
  (16481, 0x43de), (16729, 0x44d7), (17102, 0x464d), (17122, 0x4662), (17315, 0x4724),
  (17320, 0x472a), (17402, 0x477d), (17418, 0x478e), (17859, 0x4948), (17909, 0x497b),
  (17911, 0x497e), (17915, 0x4984), (17916, 0x4987), (17936, 0x499c), (17939, 0x49a0),
  (17961, 0x49b8), (18664, 0x4c78), (18703, 0x4ca4), (18814, 0x4d1a), (18962, 0x4daf),
  (19043, 0x9fa6), (33469, 0xe76c), (33470, 0xe7c8), (33471, 0xe7e7), (33484, 0xe815),
  (33485, 0xe819), (33490, 0xe81f), (33497, 0xe827), (33501, 0xe82d), (33505, 0xe833),
  (33513, 0xe83c), (33520, 0xe844), (33536, 0xe856), (33550, 0xe865), (37845, 0xf92d),
  (37921, 0xf97a), (37948, 0xf996), (38029, 0xf9e8), (38038, 0xf9f2), (38064, 0xfa10),
  (38065, 0xfa12), (38066, 0xfa15), (38069, 0xfa19), (38075, 0xfa22), (38076, 0xfa25),
  (38078, 0xfa2a), (39108, 0xfe32), (39109, 0xfe45), (39113, 0xfe53), (39114, 0xfe58),
  (39115, 0xfe67), (39116, 0xfe6c), (39265, 0xff5f), (39394, 0xffe6)]

/-- How many forms in four bytes there are for code points of four digits. -/
def fourByteCount : Nat := 39420

end ScriptGrader.Text.CharGrid
