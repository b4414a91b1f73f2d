/-
This file holds properties of characters beside category and script, and the names of all three.

A name may be written in any case, with or without spaces, underscores and hyphens, and with or
without the word that asks: so `White_Space`, `whitespace` and `isWhiteSpace` are one name.
-/

import Telemetry.Text.Category
import Telemetry.Text.Script
import Telemetry.Text.Words

namespace Telemetry

/-- The alphabetic code points that are neither letters nor numbers made of letters. -/
def otherAlphabeticSpans : List Span :=
  [⟨837, 837, 1⟩, ⟨867, 879, 1⟩, ⟨1456, 1469, 1⟩, ⟨1471, 1471, 1⟩, ⟨1473, 1474, 1⟩,
   ⟨1476, 1477, 1⟩, ⟨1479, 1479, 1⟩, ⟨1552, 1562, 1⟩, ⟨1611, 1623, 1⟩, ⟨1625, 1631, 1⟩,
   ⟨1648, 1648, 1⟩, ⟨1750, 1756, 1⟩, ⟨1761, 1764, 1⟩, ⟨1767, 1768, 1⟩, ⟨1773, 1773, 1⟩,
   ⟨1809, 1809, 1⟩, ⟨1840, 1855, 1⟩, ⟨1958, 1968, 1⟩, ⟨2070, 2071, 1⟩, ⟨2075, 2083, 1⟩,
   ⟨2085, 2087, 1⟩, ⟨2089, 2092, 1⟩, ⟨2199, 2199, 1⟩, ⟨2260, 2271, 1⟩, ⟨2275, 2281, 1⟩,
   ⟨2288, 2307, 1⟩, ⟨2362, 2363, 1⟩, ⟨2366, 2380, 1⟩, ⟨2382, 2383, 1⟩, ⟨2389, 2391, 1⟩,
   ⟨2402, 2403, 1⟩, ⟨2433, 2435, 1⟩, ⟨2494, 2500, 1⟩, ⟨2503, 2504, 1⟩, ⟨2507, 2508, 1⟩,
   ⟨2519, 2519, 1⟩, ⟨2530, 2531, 1⟩, ⟨2561, 2563, 1⟩, ⟨2622, 2626, 1⟩, ⟨2631, 2632, 1⟩,
   ⟨2635, 2636, 1⟩, ⟨2641, 2641, 1⟩, ⟨2672, 2673, 1⟩, ⟨2677, 2677, 1⟩, ⟨2689, 2691, 1⟩,
   ⟨2750, 2757, 1⟩, ⟨2759, 2761, 1⟩, ⟨2763, 2764, 1⟩, ⟨2786, 2787, 1⟩, ⟨2810, 2812, 1⟩,
   ⟨2817, 2819, 1⟩, ⟨2878, 2884, 1⟩, ⟨2887, 2888, 1⟩, ⟨2891, 2892, 1⟩, ⟨2902, 2903, 1⟩,
   ⟨2914, 2915, 1⟩, ⟨2946, 2946, 1⟩, ⟨3006, 3010, 1⟩, ⟨3014, 3016, 1⟩, ⟨3018, 3020, 1⟩,
   ⟨3031, 3031, 1⟩, ⟨3072, 3076, 1⟩, ⟨3134, 3140, 1⟩, ⟨3142, 3144, 1⟩, ⟨3146, 3148, 1⟩,
   ⟨3157, 3158, 1⟩, ⟨3170, 3171, 1⟩, ⟨3201, 3203, 1⟩, ⟨3262, 3268, 1⟩, ⟨3270, 3272, 1⟩,
   ⟨3274, 3276, 1⟩, ⟨3285, 3286, 1⟩, ⟨3298, 3299, 1⟩, ⟨3315, 3315, 1⟩, ⟨3328, 3331, 1⟩,
   ⟨3390, 3396, 1⟩, ⟨3398, 3400, 1⟩, ⟨3402, 3404, 1⟩, ⟨3415, 3415, 1⟩, ⟨3426, 3427, 1⟩,
   ⟨3457, 3459, 1⟩, ⟨3535, 3540, 1⟩, ⟨3542, 3542, 1⟩, ⟨3544, 3551, 1⟩, ⟨3570, 3571, 1⟩,
   ⟨3633, 3633, 1⟩, ⟨3636, 3642, 1⟩, ⟨3661, 3661, 1⟩, ⟨3761, 3761, 1⟩, ⟨3764, 3769, 1⟩,
   ⟨3771, 3772, 1⟩, ⟨3789, 3789, 1⟩, ⟨3953, 3971, 1⟩, ⟨3981, 3991, 1⟩, ⟨3993, 4028, 1⟩,
   ⟨4139, 4150, 1⟩, ⟨4152, 4152, 1⟩, ⟨4155, 4158, 1⟩, ⟨4182, 4185, 1⟩, ⟨4190, 4192, 1⟩,
   ⟨4194, 4196, 1⟩, ⟨4199, 4205, 1⟩, ⟨4209, 4212, 1⟩, ⟨4226, 4237, 1⟩, ⟨4239, 4239, 1⟩,
   ⟨4250, 4253, 1⟩, ⟨5906, 5907, 1⟩, ⟨5938, 5939, 1⟩, ⟨5970, 5971, 1⟩, ⟨6002, 6003, 1⟩,
   ⟨6070, 6088, 1⟩, ⟨6277, 6278, 1⟩, ⟨6313, 6313, 1⟩, ⟨6432, 6443, 1⟩, ⟨6448, 6456, 1⟩,
   ⟨6679, 6683, 1⟩, ⟨6741, 6750, 1⟩, ⟨6753, 6772, 1⟩, ⟨6847, 6848, 1⟩, ⟨6860, 6862, 1⟩,
   ⟨6912, 6916, 1⟩, ⟨6965, 6979, 1⟩, ⟨7040, 7042, 1⟩, ⟨7073, 7081, 1⟩, ⟨7084, 7085, 1⟩,
   ⟨7143, 7153, 1⟩, ⟨7204, 7222, 1⟩, ⟨7635, 7668, 1⟩, ⟨9398, 9449, 1⟩, ⟨11744, 11775, 1⟩,
   ⟨42612, 42619, 1⟩, ⟨42654, 42655, 1⟩, ⟨43010, 43010, 1⟩, ⟨43019, 43019, 1⟩, ⟨43043, 43047, 1⟩,
   ⟨43136, 43137, 1⟩, ⟨43188, 43203, 1⟩, ⟨43205, 43205, 1⟩, ⟨43263, 43263, 1⟩, ⟨43302, 43306, 1⟩,
   ⟨43335, 43346, 1⟩, ⟨43392, 43395, 1⟩, ⟨43444, 43455, 1⟩, ⟨43493, 43493, 1⟩, ⟨43561, 43574, 1⟩,
   ⟨43587, 43587, 1⟩, ⟨43596, 43597, 1⟩, ⟨43643, 43645, 1⟩, ⟨43696, 43696, 1⟩, ⟨43698, 43700, 1⟩,
   ⟨43703, 43704, 1⟩, ⟨43710, 43710, 1⟩, ⟨43755, 43759, 1⟩, ⟨43765, 43765, 1⟩, ⟨44003, 44010, 1⟩,
   ⟨64286, 64286, 1⟩, ⟨66422, 66426, 1⟩, ⟨68097, 68099, 1⟩, ⟨68101, 68102, 1⟩, ⟨68108, 68111, 1⟩,
   ⟨68900, 68903, 1⟩, ⟨68969, 68969, 1⟩, ⟨69291, 69292, 1⟩, ⟨69372, 69372, 1⟩, ⟨69632, 69634, 1⟩,
   ⟨69688, 69701, 1⟩, ⟨69747, 69748, 1⟩, ⟨69760, 69762, 1⟩, ⟨69808, 69816, 1⟩, ⟨69826, 69826, 1⟩,
   ⟨69888, 69890, 1⟩, ⟨69927, 69938, 1⟩, ⟨69957, 69958, 1⟩, ⟨70016, 70018, 1⟩, ⟨70067, 70079, 1⟩,
   ⟨70094, 70095, 1⟩, ⟨70188, 70196, 1⟩, ⟨70199, 70199, 1⟩, ⟨70206, 70206, 1⟩, ⟨70209, 70209, 1⟩,
   ⟨70367, 70376, 1⟩, ⟨70400, 70403, 1⟩, ⟨70462, 70468, 1⟩, ⟨70471, 70472, 1⟩, ⟨70475, 70476, 1⟩,
   ⟨70487, 70487, 1⟩, ⟨70498, 70499, 1⟩, ⟨70584, 70592, 1⟩, ⟨70594, 70594, 1⟩, ⟨70597, 70597, 1⟩,
   ⟨70599, 70602, 1⟩, ⟨70604, 70605, 1⟩, ⟨70709, 70721, 1⟩, ⟨70723, 70725, 1⟩, ⟨70832, 70849, 1⟩,
   ⟨71087, 71093, 1⟩, ⟨71096, 71102, 1⟩, ⟨71132, 71133, 1⟩, ⟨71216, 71230, 1⟩, ⟨71232, 71232, 1⟩,
   ⟨71339, 71349, 1⟩, ⟨71453, 71466, 1⟩, ⟨71724, 71736, 1⟩, ⟨71984, 71989, 1⟩, ⟨71991, 71992, 1⟩,
   ⟨71995, 71996, 1⟩, ⟨72000, 72002, 2⟩, ⟨72145, 72151, 1⟩, ⟨72154, 72159, 1⟩, ⟨72164, 72164, 1⟩,
   ⟨72193, 72202, 1⟩, ⟨72245, 72249, 1⟩, ⟨72251, 72254, 1⟩, ⟨72273, 72283, 1⟩, ⟨72330, 72343, 1⟩,
   ⟨72751, 72758, 1⟩, ⟨72760, 72766, 1⟩, ⟨72850, 72871, 1⟩, ⟨72873, 72886, 1⟩, ⟨73009, 73014, 1⟩,
   ⟨73018, 73018, 1⟩, ⟨73020, 73021, 1⟩, ⟨73023, 73025, 1⟩, ⟨73027, 73027, 1⟩, ⟨73031, 73031, 1⟩,
   ⟨73098, 73102, 1⟩, ⟨73104, 73105, 1⟩, ⟨73107, 73110, 1⟩, ⟨73459, 73462, 1⟩, ⟨73472, 73473, 1⟩,
   ⟨73475, 73475, 1⟩, ⟨73524, 73530, 1⟩, ⟨73534, 73536, 1⟩, ⟨90398, 90414, 1⟩, ⟨94031, 94031, 1⟩,
   ⟨94033, 94087, 1⟩, ⟨94095, 94098, 1⟩, ⟨94192, 94193, 1⟩, ⟨113822, 113822, 1⟩,
   ⟨122880, 122886, 1⟩, ⟨122888, 122904, 1⟩, ⟨122907, 122913, 1⟩, ⟨122915, 122916, 1⟩,
   ⟨122918, 122922, 1⟩, ⟨123023, 123023, 1⟩, ⟨125255, 125255, 1⟩, ⟨127280, 127305, 1⟩,
   ⟨127312, 127337, 1⟩, ⟨127344, 127369, 1⟩]

/-- The code points in lower case that are no small letters. -/
def otherLowercaseSpans : List Span :=
  [⟨170, 170, 1⟩, ⟨186, 186, 1⟩, ⟨688, 696, 1⟩, ⟨704, 705, 1⟩, ⟨736, 740, 1⟩, ⟨837, 837, 1⟩,
   ⟨890, 890, 1⟩, ⟨4348, 4348, 1⟩, ⟨7468, 7530, 1⟩, ⟨7544, 7544, 1⟩, ⟨7579, 7615, 1⟩,
   ⟨8305, 8305, 1⟩, ⟨8319, 8319, 1⟩, ⟨8336, 8348, 1⟩, ⟨8560, 8575, 1⟩, ⟨9424, 9449, 1⟩,
   ⟨11388, 11389, 1⟩, ⟨42652, 42653, 1⟩, ⟨42864, 42864, 1⟩, ⟨42994, 42996, 1⟩, ⟨43000, 43001, 1⟩,
   ⟨43868, 43871, 1⟩, ⟨43881, 43881, 1⟩, ⟨67456, 67456, 1⟩, ⟨67459, 67461, 1⟩, ⟨67463, 67504, 1⟩,
   ⟨67506, 67514, 1⟩, ⟨122928, 122989, 1⟩]

/-- The code points in upper case that are no capital letters. -/
def otherUppercaseSpans : List Span :=
  [⟨8544, 8559, 1⟩, ⟨9398, 9423, 1⟩, ⟨127280, 127305, 1⟩, ⟨127312, 127337, 1⟩,
   ⟨127344, 127369, 1⟩]

/-- The dashes, whatever their category. -/
def dashSpans : List Span :=
  [⟨45, 45, 1⟩, ⟨1418, 1418, 1⟩, ⟨1470, 1470, 1⟩, ⟨5120, 5120, 1⟩, ⟨6150, 6150, 1⟩,
   ⟨8208, 8213, 1⟩, ⟨8275, 8275, 1⟩, ⟨8315, 8315, 1⟩, ⟨8331, 8331, 1⟩, ⟨8722, 8722, 1⟩,
   ⟨11799, 11799, 1⟩, ⟨11802, 11802, 1⟩, ⟨11834, 11835, 1⟩, ⟨11840, 11840, 1⟩, ⟨11869, 11869, 1⟩,
   ⟨12316, 12316, 1⟩, ⟨12336, 12336, 1⟩, ⟨12448, 12448, 1⟩, ⟨65073, 65074, 1⟩, ⟨65112, 65112, 1⟩,
   ⟨65123, 65123, 1⟩, ⟨65293, 65293, 1⟩, ⟨68974, 68974, 1⟩, ⟨69293, 69293, 1⟩]

/-- The hexadecimal digits, wide forms among them. -/
def hexDigitSpans : List Span :=
  [⟨48, 57, 1⟩, ⟨65, 70, 1⟩, ⟨97, 102, 1⟩, ⟨65296, 65305, 1⟩, ⟨65313, 65318, 1⟩,
   ⟨65345, 65350, 1⟩]

/-- The quotation marks. -/
def quotationMarkSpans : List Span :=
  [⟨34, 34, 1⟩, ⟨39, 39, 1⟩, ⟨171, 171, 1⟩, ⟨187, 187, 1⟩, ⟨8216, 8223, 1⟩, ⟨8249, 8250, 1⟩,
   ⟨11842, 11842, 1⟩, ⟨12300, 12303, 1⟩, ⟨12317, 12319, 1⟩, ⟨65089, 65092, 1⟩, ⟨65282, 65282, 1⟩,
   ⟨65287, 65287, 1⟩, ⟨65378, 65379, 1⟩]

/-- The ideographs. -/
def ideographicSpans : List Span :=
  [⟨12294, 12295, 1⟩, ⟨12321, 12329, 1⟩, ⟨12344, 12346, 1⟩, ⟨13312, 19903, 1⟩, ⟨19968, 40959, 1⟩,
   ⟨63744, 64109, 1⟩, ⟨64112, 64217, 1⟩, ⟨94180, 94180, 1⟩, ⟨94208, 100343, 1⟩,
   ⟨100352, 101589, 1⟩, ⟨101631, 101640, 1⟩, ⟨110960, 111355, 1⟩, ⟨131072, 173791, 1⟩,
   ⟨173824, 177977, 1⟩, ⟨177984, 178205, 1⟩, ⟨178208, 183969, 1⟩, ⟨183984, 191456, 1⟩,
   ⟨191472, 192093, 1⟩, ⟨194560, 195101, 1⟩, ⟨196608, 201546, 1⟩, ⟨201552, 205743, 1⟩]

/-- The code points used in mathematics, letters among them. -/
def mathSpans : List Span :=
  [⟨43, 43, 1⟩, ⟨60, 62, 1⟩, ⟨94, 94, 1⟩, ⟨124, 126, 2⟩, ⟨172, 172, 1⟩, ⟨177, 177, 1⟩,
   ⟨215, 215, 1⟩, ⟨247, 247, 1⟩, ⟨976, 978, 1⟩, ⟨981, 981, 1⟩, ⟨1008, 1009, 1⟩, ⟨1012, 1014, 1⟩,
   ⟨1542, 1544, 1⟩, ⟨8214, 8214, 1⟩, ⟨8242, 8244, 1⟩, ⟨8256, 8256, 1⟩, ⟨8260, 8260, 1⟩,
   ⟨8274, 8274, 1⟩, ⟨8289, 8292, 1⟩, ⟨8314, 8318, 1⟩, ⟨8330, 8334, 1⟩, ⟨8400, 8412, 1⟩,
   ⟨8417, 8417, 1⟩, ⟨8421, 8422, 1⟩, ⟨8427, 8431, 1⟩, ⟨8450, 8450, 1⟩, ⟨8455, 8455, 1⟩,
   ⟨8458, 8467, 1⟩, ⟨8469, 8469, 1⟩, ⟨8472, 8477, 1⟩, ⟨8484, 8484, 1⟩, ⟨8488, 8489, 1⟩,
   ⟨8492, 8493, 1⟩, ⟨8495, 8497, 1⟩, ⟨8499, 8504, 1⟩, ⟨8508, 8521, 1⟩, ⟨8523, 8523, 1⟩,
   ⟨8592, 8615, 1⟩, ⟨8617, 8622, 1⟩, ⟨8624, 8625, 1⟩, ⟨8630, 8631, 1⟩, ⟨8636, 8667, 1⟩,
   ⟨8669, 8669, 1⟩, ⟨8676, 8677, 1⟩, ⟨8692, 8959, 1⟩, ⟨8968, 8971, 1⟩, ⟨8992, 8993, 1⟩,
   ⟨9084, 9084, 1⟩, ⟨9115, 9141, 1⟩, ⟨9143, 9143, 1⟩, ⟨9168, 9168, 1⟩, ⟨9180, 9186, 1⟩,
   ⟨9632, 9633, 1⟩, ⟨9646, 9655, 1⟩, ⟨9660, 9665, 1⟩, ⟨9670, 9671, 1⟩, ⟨9674, 9675, 1⟩,
   ⟨9679, 9683, 1⟩, ⟨9698, 9700, 2⟩, ⟨9703, 9708, 1⟩, ⟨9720, 9727, 1⟩, ⟨9733, 9734, 1⟩,
   ⟨9792, 9794, 2⟩, ⟨9824, 9827, 1⟩, ⟨9837, 9839, 1⟩, ⟨10176, 10239, 1⟩, ⟨10496, 11007, 1⟩,
   ⟨11056, 11076, 1⟩, ⟨11079, 11084, 1⟩, ⟨64297, 64297, 1⟩, ⟨65121, 65126, 1⟩, ⟨65128, 65128, 1⟩,
   ⟨65291, 65291, 1⟩, ⟨65308, 65310, 1⟩, ⟨65340, 65342, 2⟩, ⟨65372, 65374, 2⟩, ⟨65506, 65506, 1⟩,
   ⟨65513, 65516, 1⟩, ⟨69006, 69007, 1⟩, ⟨119808, 119892, 1⟩, ⟨119894, 119964, 1⟩,
   ⟨119966, 119967, 1⟩, ⟨119970, 119970, 1⟩, ⟨119973, 119974, 1⟩, ⟨119977, 119980, 1⟩,
   ⟨119982, 119993, 1⟩, ⟨119995, 119995, 1⟩, ⟨119997, 120003, 1⟩, ⟨120005, 120069, 1⟩,
   ⟨120071, 120074, 1⟩, ⟨120077, 120084, 1⟩, ⟨120086, 120092, 1⟩, ⟨120094, 120121, 1⟩,
   ⟨120123, 120126, 1⟩, ⟨120128, 120132, 1⟩, ⟨120134, 120134, 1⟩, ⟨120138, 120144, 1⟩,
   ⟨120146, 120485, 1⟩, ⟨120488, 120779, 1⟩, ⟨120782, 120831, 1⟩, ⟨126464, 126467, 1⟩,
   ⟨126469, 126495, 1⟩, ⟨126497, 126498, 1⟩, ⟨126500, 126500, 1⟩, ⟨126503, 126503, 1⟩,
   ⟨126505, 126514, 1⟩, ⟨126516, 126519, 1⟩, ⟨126521, 126523, 2⟩, ⟨126530, 126530, 1⟩,
   ⟨126535, 126539, 2⟩, ⟨126541, 126543, 1⟩, ⟨126545, 126546, 1⟩, ⟨126548, 126548, 1⟩,
   ⟨126551, 126559, 2⟩, ⟨126561, 126562, 1⟩, ⟨126564, 126564, 1⟩, ⟨126567, 126570, 1⟩,
   ⟨126572, 126578, 1⟩, ⟨126580, 126583, 1⟩, ⟨126585, 126588, 1⟩, ⟨126590, 126590, 1⟩,
   ⟨126592, 126601, 1⟩, ⟨126603, 126619, 1⟩, ⟨126625, 126627, 1⟩, ⟨126629, 126633, 1⟩,
   ⟨126635, 126651, 1⟩, ⟨126704, 126705, 1⟩]

/-- The code points that may show as an emoji. -/
def emojiSpans : List Span :=
  [⟨35, 35, 1⟩, ⟨42, 42, 1⟩, ⟨48, 57, 1⟩, ⟨169, 169, 1⟩, ⟨174, 174, 1⟩, ⟨8252, 8252, 1⟩,
   ⟨8265, 8265, 1⟩, ⟨8482, 8482, 1⟩, ⟨8505, 8505, 1⟩, ⟨8596, 8601, 1⟩, ⟨8617, 8618, 1⟩,
   ⟨8986, 8987, 1⟩, ⟨9000, 9000, 1⟩, ⟨9167, 9167, 1⟩, ⟨9193, 9203, 1⟩, ⟨9208, 9210, 1⟩,
   ⟨9410, 9410, 1⟩, ⟨9642, 9643, 1⟩, ⟨9654, 9654, 1⟩, ⟨9664, 9664, 1⟩, ⟨9723, 9726, 1⟩,
   ⟨9728, 9732, 1⟩, ⟨9742, 9742, 1⟩, ⟨9745, 9745, 1⟩, ⟨9748, 9749, 1⟩, ⟨9752, 9752, 1⟩,
   ⟨9757, 9757, 1⟩, ⟨9760, 9760, 1⟩, ⟨9762, 9763, 1⟩, ⟨9766, 9766, 1⟩, ⟨9770, 9770, 1⟩,
   ⟨9774, 9775, 1⟩, ⟨9784, 9786, 1⟩, ⟨9792, 9794, 2⟩, ⟨9800, 9811, 1⟩, ⟨9823, 9824, 1⟩,
   ⟨9827, 9827, 1⟩, ⟨9829, 9830, 1⟩, ⟨9832, 9832, 1⟩, ⟨9851, 9851, 1⟩, ⟨9854, 9855, 1⟩,
   ⟨9874, 9879, 1⟩, ⟨9881, 9881, 1⟩, ⟨9883, 9884, 1⟩, ⟨9888, 9889, 1⟩, ⟨9895, 9895, 1⟩,
   ⟨9898, 9899, 1⟩, ⟨9904, 9905, 1⟩, ⟨9917, 9918, 1⟩, ⟨9924, 9925, 1⟩, ⟨9928, 9928, 1⟩,
   ⟨9934, 9935, 1⟩, ⟨9937, 9937, 1⟩, ⟨9939, 9940, 1⟩, ⟨9961, 9962, 1⟩, ⟨9968, 9973, 1⟩,
   ⟨9975, 9978, 1⟩, ⟨9981, 9981, 1⟩, ⟨9986, 9986, 1⟩, ⟨9989, 9989, 1⟩, ⟨9992, 9997, 1⟩,
   ⟨9999, 9999, 1⟩, ⟨10002, 10006, 2⟩, ⟨10013, 10013, 1⟩, ⟨10017, 10017, 1⟩, ⟨10024, 10024, 1⟩,
   ⟨10035, 10036, 1⟩, ⟨10052, 10052, 1⟩, ⟨10055, 10055, 1⟩, ⟨10060, 10062, 2⟩, ⟨10067, 10069, 1⟩,
   ⟨10071, 10071, 1⟩, ⟨10083, 10084, 1⟩, ⟨10133, 10135, 1⟩, ⟨10145, 10145, 1⟩, ⟨10160, 10160, 1⟩,
   ⟨10175, 10175, 1⟩, ⟨10548, 10549, 1⟩, ⟨11013, 11015, 1⟩, ⟨11035, 11036, 1⟩, ⟨11088, 11088, 1⟩,
   ⟨11093, 11093, 1⟩, ⟨12336, 12336, 1⟩, ⟨12349, 12349, 1⟩, ⟨12951, 12953, 2⟩,
   ⟨126980, 126980, 1⟩, ⟨127183, 127183, 1⟩, ⟨127344, 127345, 1⟩, ⟨127358, 127359, 1⟩,
   ⟨127374, 127374, 1⟩, ⟨127377, 127386, 1⟩, ⟨127462, 127487, 1⟩, ⟨127489, 127490, 1⟩,
   ⟨127514, 127514, 1⟩, ⟨127535, 127535, 1⟩, ⟨127538, 127546, 1⟩, ⟨127568, 127569, 1⟩,
   ⟨127744, 127777, 1⟩, ⟨127780, 127891, 1⟩, ⟨127894, 127895, 1⟩, ⟨127897, 127899, 1⟩,
   ⟨127902, 127984, 1⟩, ⟨127987, 127989, 1⟩, ⟨127991, 128253, 1⟩, ⟨128255, 128317, 1⟩,
   ⟨128329, 128334, 1⟩, ⟨128336, 128359, 1⟩, ⟨128367, 128368, 1⟩, ⟨128371, 128378, 1⟩,
   ⟨128391, 128391, 1⟩, ⟨128394, 128397, 1⟩, ⟨128400, 128400, 1⟩, ⟨128405, 128406, 1⟩,
   ⟨128420, 128421, 1⟩, ⟨128424, 128424, 1⟩, ⟨128433, 128434, 1⟩, ⟨128444, 128444, 1⟩,
   ⟨128450, 128452, 1⟩, ⟨128465, 128467, 1⟩, ⟨128476, 128478, 1⟩, ⟨128481, 128483, 2⟩,
   ⟨128488, 128488, 1⟩, ⟨128495, 128495, 1⟩, ⟨128499, 128499, 1⟩, ⟨128506, 128591, 1⟩,
   ⟨128640, 128709, 1⟩, ⟨128715, 128722, 1⟩, ⟨128725, 128727, 1⟩, ⟨128732, 128741, 1⟩,
   ⟨128745, 128745, 1⟩, ⟨128747, 128748, 1⟩, ⟨128752, 128752, 1⟩, ⟨128755, 128764, 1⟩,
   ⟨128992, 129003, 1⟩, ⟨129008, 129008, 1⟩, ⟨129292, 129338, 1⟩, ⟨129340, 129349, 1⟩,
   ⟨129351, 129535, 1⟩, ⟨129648, 129660, 1⟩, ⟨129664, 129673, 1⟩, ⟨129679, 129734, 1⟩,
   ⟨129742, 129756, 1⟩, ⟨129759, 129769, 1⟩, ⟨129776, 129784, 1⟩]

/-- The code points that show as an emoji by default. -/
def emojiPresentationSpans : List Span :=
  [⟨8986, 8987, 1⟩, ⟨9193, 9196, 1⟩, ⟨9200, 9200, 1⟩, ⟨9203, 9203, 1⟩, ⟨9725, 9726, 1⟩,
   ⟨9748, 9749, 1⟩, ⟨9800, 9811, 1⟩, ⟨9855, 9855, 1⟩, ⟨9875, 9875, 1⟩, ⟨9889, 9889, 1⟩,
   ⟨9898, 9899, 1⟩, ⟨9917, 9918, 1⟩, ⟨9924, 9925, 1⟩, ⟨9934, 9934, 1⟩, ⟨9940, 9940, 1⟩,
   ⟨9962, 9962, 1⟩, ⟨9970, 9971, 1⟩, ⟨9973, 9973, 1⟩, ⟨9978, 9978, 1⟩, ⟨9981, 9981, 1⟩,
   ⟨9989, 9989, 1⟩, ⟨9994, 9995, 1⟩, ⟨10024, 10024, 1⟩, ⟨10060, 10062, 2⟩, ⟨10067, 10069, 1⟩,
   ⟨10071, 10071, 1⟩, ⟨10133, 10135, 1⟩, ⟨10160, 10160, 1⟩, ⟨10175, 10175, 1⟩, ⟨11035, 11036, 1⟩,
   ⟨11088, 11088, 1⟩, ⟨11093, 11093, 1⟩, ⟨126980, 126980, 1⟩, ⟨127183, 127183, 1⟩,
   ⟨127374, 127374, 1⟩, ⟨127377, 127386, 1⟩, ⟨127462, 127487, 1⟩, ⟨127489, 127489, 1⟩,
   ⟨127514, 127514, 1⟩, ⟨127535, 127535, 1⟩, ⟨127538, 127542, 1⟩, ⟨127544, 127546, 1⟩,
   ⟨127568, 127569, 1⟩, ⟨127744, 127776, 1⟩, ⟨127789, 127797, 1⟩, ⟨127799, 127868, 1⟩,
   ⟨127870, 127891, 1⟩, ⟨127904, 127946, 1⟩, ⟨127951, 127955, 1⟩, ⟨127968, 127984, 1⟩,
   ⟨127988, 127988, 1⟩, ⟨127992, 128062, 1⟩, ⟨128064, 128064, 1⟩, ⟨128066, 128252, 1⟩,
   ⟨128255, 128317, 1⟩, ⟨128331, 128334, 1⟩, ⟨128336, 128359, 1⟩, ⟨128378, 128378, 1⟩,
   ⟨128405, 128406, 1⟩, ⟨128420, 128420, 1⟩, ⟨128507, 128591, 1⟩, ⟨128640, 128709, 1⟩,
   ⟨128716, 128716, 1⟩, ⟨128720, 128722, 1⟩, ⟨128725, 128727, 1⟩, ⟨128732, 128735, 1⟩,
   ⟨128747, 128748, 1⟩, ⟨128756, 128764, 1⟩, ⟨128992, 129003, 1⟩, ⟨129008, 129008, 1⟩,
   ⟨129292, 129338, 1⟩, ⟨129340, 129349, 1⟩, ⟨129351, 129535, 1⟩, ⟨129648, 129660, 1⟩,
   ⟨129664, 129673, 1⟩, ⟨129679, 129734, 1⟩, ⟨129742, 129756, 1⟩, ⟨129759, 129769, 1⟩,
   ⟨129776, 129784, 1⟩]

/-- The pictographs, present ones and reserved ones. -/
def pictographicSpans : List Span :=
  [⟨169, 169, 1⟩, ⟨174, 174, 1⟩, ⟨8252, 8252, 1⟩, ⟨8265, 8265, 1⟩, ⟨8482, 8482, 1⟩,
   ⟨8505, 8505, 1⟩, ⟨8596, 8601, 1⟩, ⟨8617, 8618, 1⟩, ⟨8986, 8987, 1⟩, ⟨9000, 9000, 1⟩,
   ⟨9167, 9167, 1⟩, ⟨9193, 9203, 1⟩, ⟨9208, 9210, 1⟩, ⟨9410, 9410, 1⟩, ⟨9642, 9643, 1⟩,
   ⟨9654, 9654, 1⟩, ⟨9664, 9664, 1⟩, ⟨9723, 9726, 1⟩, ⟨9728, 9732, 1⟩, ⟨9742, 9742, 1⟩,
   ⟨9745, 9745, 1⟩, ⟨9748, 9749, 1⟩, ⟨9752, 9752, 1⟩, ⟨9757, 9757, 1⟩, ⟨9760, 9760, 1⟩,
   ⟨9762, 9763, 1⟩, ⟨9766, 9766, 1⟩, ⟨9770, 9770, 1⟩, ⟨9774, 9775, 1⟩, ⟨9784, 9786, 1⟩,
   ⟨9792, 9794, 2⟩, ⟨9800, 9811, 1⟩, ⟨9823, 9824, 1⟩, ⟨9827, 9827, 1⟩, ⟨9829, 9830, 1⟩,
   ⟨9832, 9832, 1⟩, ⟨9851, 9851, 1⟩, ⟨9854, 9855, 1⟩, ⟨9874, 9879, 1⟩, ⟨9881, 9881, 1⟩,
   ⟨9883, 9884, 1⟩, ⟨9888, 9889, 1⟩, ⟨9895, 9895, 1⟩, ⟨9898, 9899, 1⟩, ⟨9904, 9905, 1⟩,
   ⟨9917, 9918, 1⟩, ⟨9924, 9925, 1⟩, ⟨9928, 9928, 1⟩, ⟨9934, 9935, 1⟩, ⟨9937, 9937, 1⟩,
   ⟨9939, 9940, 1⟩, ⟨9961, 9962, 1⟩, ⟨9968, 9973, 1⟩, ⟨9975, 9978, 1⟩, ⟨9981, 9981, 1⟩,
   ⟨9986, 9986, 1⟩, ⟨9989, 9989, 1⟩, ⟨9992, 9997, 1⟩, ⟨9999, 9999, 1⟩, ⟨10002, 10006, 2⟩,
   ⟨10013, 10013, 1⟩, ⟨10017, 10017, 1⟩, ⟨10024, 10024, 1⟩, ⟨10035, 10036, 1⟩, ⟨10052, 10052, 1⟩,
   ⟨10055, 10055, 1⟩, ⟨10060, 10062, 2⟩, ⟨10067, 10069, 1⟩, ⟨10071, 10071, 1⟩, ⟨10083, 10084, 1⟩,
   ⟨10133, 10135, 1⟩, ⟨10145, 10145, 1⟩, ⟨10160, 10160, 1⟩, ⟨10175, 10175, 1⟩, ⟨10548, 10549, 1⟩,
   ⟨11013, 11015, 1⟩, ⟨11035, 11036, 1⟩, ⟨11088, 11088, 1⟩, ⟨11093, 11093, 1⟩, ⟨12336, 12336, 1⟩,
   ⟨12349, 12349, 1⟩, ⟨12951, 12953, 2⟩, ⟨126980, 126980, 1⟩, ⟨127020, 127023, 1⟩,
   ⟨127124, 127135, 1⟩, ⟨127151, 127152, 1⟩, ⟨127168, 127168, 1⟩, ⟨127183, 127184, 1⟩,
   ⟨127222, 127231, 1⟩, ⟨127344, 127345, 1⟩, ⟨127358, 127359, 1⟩, ⟨127374, 127374, 1⟩,
   ⟨127377, 127386, 1⟩, ⟨127406, 127461, 1⟩, ⟨127489, 127503, 1⟩, ⟨127514, 127514, 1⟩,
   ⟨127535, 127535, 1⟩, ⟨127538, 127546, 1⟩, ⟨127548, 127551, 1⟩, ⟨127561, 127583, 1⟩,
   ⟨127590, 127777, 1⟩, ⟨127780, 127891, 1⟩, ⟨127894, 127895, 1⟩, ⟨127897, 127899, 1⟩,
   ⟨127902, 127984, 1⟩, ⟨127987, 127989, 1⟩, ⟨127991, 127994, 1⟩, ⟨128000, 128253, 1⟩,
   ⟨128255, 128317, 1⟩, ⟨128329, 128334, 1⟩, ⟨128336, 128359, 1⟩, ⟨128367, 128368, 1⟩,
   ⟨128371, 128378, 1⟩, ⟨128391, 128391, 1⟩, ⟨128394, 128397, 1⟩, ⟨128400, 128400, 1⟩,
   ⟨128405, 128406, 1⟩, ⟨128420, 128421, 1⟩, ⟨128424, 128424, 1⟩, ⟨128433, 128434, 1⟩,
   ⟨128444, 128444, 1⟩, ⟨128450, 128452, 1⟩, ⟨128465, 128467, 1⟩, ⟨128476, 128478, 1⟩,
   ⟨128481, 128483, 2⟩, ⟨128488, 128488, 1⟩, ⟨128495, 128495, 1⟩, ⟨128499, 128499, 1⟩,
   ⟨128506, 128591, 1⟩, ⟨128640, 128709, 1⟩, ⟨128715, 128722, 1⟩, ⟨128725, 128727, 1⟩,
   ⟨128729, 128741, 1⟩, ⟨128745, 128745, 1⟩, ⟨128747, 128752, 1⟩, ⟨128755, 128767, 1⟩,
   ⟨128986, 129023, 1⟩, ⟨129036, 129039, 1⟩, ⟨129096, 129103, 1⟩, ⟨129114, 129119, 1⟩,
   ⟨129160, 129167, 1⟩, ⟨129198, 129199, 1⟩, ⟨129212, 129215, 1⟩, ⟨129218, 129231, 1⟩,
   ⟨129241, 129279, 1⟩, ⟨129292, 129338, 1⟩, ⟨129340, 129349, 1⟩, ⟨129351, 129535, 1⟩,
   ⟨129624, 129631, 1⟩, ⟨129646, 129673, 1⟩, ⟨129675, 129677, 1⟩, ⟨129679, 129735, 1⟩,
   ⟨129737, 129740, 1⟩, ⟨129742, 129769, 1⟩, ⟨129771, 129774, 1⟩, ⟨129776, 129791, 1⟩,
   ⟨130048, 131069, 1⟩]

/-- The tables of the alphabetic characters. -/
def alphabeticTables : List (List Span) := [letterSpans, letterNumberSpans, otherAlphabeticSpans]

/-- The tables of the characters of words: letters, marks, digits, connecting punctuation, and the
two joiners. -/
def wordTables : List (List Span) :=
  alphabeticTables ++ [nonspacingMarkSpans, spacingMarkSpans, enclosingMarkSpans, decimalDigitSpans,
    connectorPunctuationSpans, [⟨8204, 8205, 1⟩]]

/-! ### Names -/

/-- The form of a name in which the tables list it. -/
def propertyName (name : String) : String :=
  let letters := name.toList.filter fun character =>
    !(character == ' ' || character == '_' || character == '-') && character.toNat < 128
  match letters.map Char.toLower, name.toList.map Char.toLower with
  | 'i' :: 's' :: rest, 'i' :: 's' :: _ =>
    String.ofList (if rest = ['c'] then ['i', 's', 'c'] else rest)
  | lower, _ => String.ofList lower

/-- The tables of a property that a character has or has not. -/
def binaryProperty? (name : String) : Option (List (List Span)) :=
  match name with
  | "alphabetic" | "alpha" => some alphabeticTables
  | "lowercase" | "lower" => some [lowercaseLetterSpans, otherLowercaseSpans]
  | "uppercase" | "upper" => some [uppercaseLetterSpans, otherUppercaseSpans]
  | "whitespace" | "wspace" | "space" => some [blankSpans]
  | "dash" => some [dashSpans]
  | "hexdigit" | "hex" => some [hexDigitSpans]
  | "asciihexdigit" | "ahex" => some [[⟨48, 57, 1⟩, ⟨65, 70, 1⟩, ⟨97, 102, 1⟩]]
  | "quotationmark" | "qmark" => some [quotationMarkSpans]
  | "ideographic" | "ideo" => some [ideographicSpans]
  | "joincontrol" | "joinc" => some [[⟨8204, 8205, 1⟩]]
  | "math" => some [mathSpans]
  | "emoji" => some [emojiSpans]
  | "emojipresentation" | "epres" => some [emojiPresentationSpans]
  | "extendedpictographic" | "extpict" => some [pictographicSpans]
  | _ => none

end Telemetry
