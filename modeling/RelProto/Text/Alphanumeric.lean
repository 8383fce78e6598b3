import RelProto.Text.CodePoints

/-! Letters and numbers. -/
namespace RelProto.Text

/-- Alphabetic characters and the numbers of the categories Nd, Nl and No. -/
def alphanumeric : CodePoints := [
  (0x30, 0x39, 1), (0x41, 0x5a, 1), (0x61, 0x7a, 1), (0xaa, 0xaa, 1), (0xb2, 0xb3, 1),
  (0xb5, 0xb5, 1), (0xb9, 0xba, 1), (0xbc, 0xbe, 1), (0xc0, 0xd6, 1), (0xd8, 0xf6, 1),
  (0xf8, 0x2c1, 1), (0x2c6, 0x2d1, 1), (0x2e0, 0x2e4, 1), (0x2ec, 0x2ee, 2), (0x345, 0x345, 1),
  (0x363, 0x374, 1), (0x376, 0x377, 1), (0x37a, 0x37d, 1), (0x37f, 0x37f, 1), (0x386, 0x388, 2),
  (0x389, 0x38a, 1), (0x38c, 0x38e, 2), (0x38f, 0x3a1, 1), (0x3a3, 0x3f5, 1), (0x3f7, 0x481, 1),
  (0x48a, 0x52f, 1), (0x531, 0x556, 1), (0x559, 0x559, 1), (0x560, 0x588, 1), (0x5b0, 0x5bd, 1),
  (0x5bf, 0x5c1, 2), (0x5c2, 0x5c4, 2), (0x5c5, 0x5c7, 2), (0x5d0, 0x5ea, 1), (0x5ef, 0x5f2, 1),
  (0x610, 0x61a, 1), (0x620, 0x657, 1), (0x659, 0x669, 1), (0x66e, 0x6d3, 1), (0x6d5, 0x6dc, 1),
  (0x6e1, 0x6e8, 1), (0x6ed, 0x6fc, 1), (0x6ff, 0x6ff, 1), (0x710, 0x73f, 1), (0x74d, 0x7b1, 1),
  (0x7c0, 0x7ea, 1), (0x7f4, 0x7f5, 1), (0x7fa, 0x7fa, 1), (0x800, 0x817, 1), (0x81a, 0x82c, 1),
  (0x840, 0x858, 1), (0x860, 0x86a, 1), (0x870, 0x887, 1), (0x889, 0x88f, 1), (0x897, 0x897, 1),
  (0x8a0, 0x8c9, 1), (0x8d4, 0x8df, 1), (0x8e3, 0x8e9, 1), (0x8f0, 0x93b, 1), (0x93d, 0x94c, 1),
  (0x94e, 0x950, 1), (0x955, 0x963, 1), (0x966, 0x96f, 1), (0x971, 0x983, 1), (0x985, 0x98c, 1),
  (0x98f, 0x990, 1), (0x993, 0x9a8, 1), (0x9aa, 0x9b0, 1), (0x9b2, 0x9b2, 1), (0x9b6, 0x9b9, 1),
  (0x9bd, 0x9c4, 1), (0x9c7, 0x9c8, 1), (0x9cb, 0x9cc, 1), (0x9ce, 0x9ce, 1), (0x9d7, 0x9d7, 1),
  (0x9dc, 0x9dd, 1), (0x9df, 0x9e3, 1), (0x9e6, 0x9f1, 1), (0x9f4, 0x9f9, 1), (0x9fc, 0x9fc, 1),
  (0xa01, 0xa03, 1), (0xa05, 0xa0a, 1), (0xa0f, 0xa10, 1), (0xa13, 0xa28, 1), (0xa2a, 0xa30, 1),
  (0xa32, 0xa33, 1), (0xa35, 0xa36, 1), (0xa38, 0xa39, 1), (0xa3e, 0xa42, 1), (0xa47, 0xa48, 1),
  (0xa4b, 0xa4c, 1), (0xa51, 0xa51, 1), (0xa59, 0xa5c, 1), (0xa5e, 0xa5e, 1), (0xa66, 0xa75, 1),
  (0xa81, 0xa83, 1), (0xa85, 0xa8d, 1), (0xa8f, 0xa91, 1), (0xa93, 0xaa8, 1), (0xaaa, 0xab0, 1),
  (0xab2, 0xab3, 1), (0xab5, 0xab9, 1), (0xabd, 0xac5, 1), (0xac7, 0xac9, 1), (0xacb, 0xacc, 1),
  (0xad0, 0xad0, 1), (0xae0, 0xae3, 1), (0xae6, 0xaef, 1), (0xaf9, 0xafc, 1), (0xb01, 0xb03, 1),
  (0xb05, 0xb0c, 1), (0xb0f, 0xb10, 1), (0xb13, 0xb28, 1), (0xb2a, 0xb30, 1), (0xb32, 0xb33, 1),
  (0xb35, 0xb39, 1), (0xb3d, 0xb44, 1), (0xb47, 0xb48, 1), (0xb4b, 0xb4c, 1), (0xb56, 0xb57, 1),
  (0xb5c, 0xb5d, 1), (0xb5f, 0xb63, 1), (0xb66, 0xb6f, 1), (0xb71, 0xb77, 1), (0xb82, 0xb83, 1),
  (0xb85, 0xb8a, 1), (0xb8e, 0xb90, 1), (0xb92, 0xb95, 1), (0xb99, 0xb9a, 1), (0xb9c, 0xb9e, 2),
  (0xb9f, 0xb9f, 1), (0xba3, 0xba4, 1), (0xba8, 0xbaa, 1), (0xbae, 0xbb9, 1), (0xbbe, 0xbc2, 1),
  (0xbc6, 0xbc8, 1), (0xbca, 0xbcc, 1), (0xbd0, 0xbd0, 1), (0xbd7, 0xbd7, 1), (0xbe6, 0xbf2, 1),
  (0xc00, 0xc0c, 1), (0xc0e, 0xc10, 1), (0xc12, 0xc28, 1), (0xc2a, 0xc39, 1), (0xc3d, 0xc44, 1),
  (0xc46, 0xc48, 1), (0xc4a, 0xc4c, 1), (0xc55, 0xc56, 1), (0xc58, 0xc5a, 1), (0xc5c, 0xc5d, 1),
  (0xc60, 0xc63, 1), (0xc66, 0xc6f, 1), (0xc78, 0xc7e, 1), (0xc80, 0xc83, 1), (0xc85, 0xc8c, 1),
  (0xc8e, 0xc90, 1), (0xc92, 0xca8, 1), (0xcaa, 0xcb3, 1), (0xcb5, 0xcb9, 1), (0xcbd, 0xcc4, 1),
  (0xcc6, 0xcc8, 1), (0xcca, 0xccc, 1), (0xcd5, 0xcd6, 1), (0xcdc, 0xcde, 1), (0xce0, 0xce3, 1),
  (0xce6, 0xcef, 1), (0xcf1, 0xcf3, 1), (0xd00, 0xd0c, 1), (0xd0e, 0xd10, 1), (0xd12, 0xd3a, 1),
  (0xd3d, 0xd44, 1), (0xd46, 0xd48, 1), (0xd4a, 0xd4c, 1), (0xd4e, 0xd4e, 1), (0xd54, 0xd63, 1),
  (0xd66, 0xd78, 1), (0xd7a, 0xd7f, 1), (0xd81, 0xd83, 1), (0xd85, 0xd96, 1), (0xd9a, 0xdb1, 1),
  (0xdb3, 0xdbb, 1), (0xdbd, 0xdbd, 1), (0xdc0, 0xdc6, 1), (0xdcf, 0xdd4, 1), (0xdd6, 0xdd8, 2),
  (0xdd9, 0xddf, 1), (0xde6, 0xdef, 1), (0xdf2, 0xdf3, 1), (0xe01, 0xe3a, 1), (0xe40, 0xe46, 1),
  (0xe4d, 0xe4d, 1), (0xe50, 0xe59, 1), (0xe81, 0xe82, 1), (0xe84, 0xe86, 2), (0xe87, 0xe8a, 1),
  (0xe8c, 0xea3, 1), (0xea5, 0xea7, 2), (0xea8, 0xeb9, 1), (0xebb, 0xebd, 1), (0xec0, 0xec4, 1),
  (0xec6, 0xec6, 1), (0xecd, 0xecd, 1), (0xed0, 0xed9, 1), (0xedc, 0xedf, 1), (0xf00, 0xf00, 1),
  (0xf20, 0xf33, 1), (0xf40, 0xf47, 1), (0xf49, 0xf6c, 1), (0xf71, 0xf83, 1), (0xf88, 0xf97, 1),
  (0xf99, 0xfbc, 1), (0x1000, 0x1036, 1), (0x1038, 0x1038, 1), (0x103b, 0x1049, 1),
  (0x1050, 0x109d, 1), (0x10a0, 0x10c5, 1), (0x10c7, 0x10c7, 1), (0x10cd, 0x10cd, 1),
  (0x10d0, 0x10fa, 1), (0x10fc, 0x1248, 1), (0x124a, 0x124d, 1), (0x1250, 0x1256, 1),
  (0x1258, 0x125a, 2), (0x125b, 0x125d, 1), (0x1260, 0x1288, 1), (0x128a, 0x128d, 1),
  (0x1290, 0x12b0, 1), (0x12b2, 0x12b5, 1), (0x12b8, 0x12be, 1), (0x12c0, 0x12c2, 2),
  (0x12c3, 0x12c5, 1), (0x12c8, 0x12d6, 1), (0x12d8, 0x1310, 1), (0x1312, 0x1315, 1),
  (0x1318, 0x135a, 1), (0x1369, 0x137c, 1), (0x1380, 0x138f, 1), (0x13a0, 0x13f5, 1),
  (0x13f8, 0x13fd, 1), (0x1401, 0x166c, 1), (0x166f, 0x167f, 1), (0x1681, 0x169a, 1),
  (0x16a0, 0x16ea, 1), (0x16ee, 0x16f8, 1), (0x1700, 0x1713, 1), (0x171f, 0x1733, 1),
  (0x1740, 0x1753, 1), (0x1760, 0x176c, 1), (0x176e, 0x1770, 1), (0x1772, 0x1773, 1),
  (0x1780, 0x17b3, 1), (0x17b6, 0x17c8, 1), (0x17d7, 0x17d7, 1), (0x17dc, 0x17dc, 1),
  (0x17e0, 0x17e9, 1), (0x17f0, 0x17f9, 1), (0x1810, 0x1819, 1), (0x1820, 0x1878, 1),
  (0x1880, 0x18aa, 1), (0x18b0, 0x18f5, 1), (0x1900, 0x191e, 1), (0x1920, 0x192b, 1),
  (0x1930, 0x1938, 1), (0x1946, 0x196d, 1), (0x1970, 0x1974, 1), (0x1980, 0x19ab, 1),
  (0x19b0, 0x19c9, 1), (0x19d0, 0x19da, 1), (0x1a00, 0x1a1b, 1), (0x1a20, 0x1a5e, 1),
  (0x1a61, 0x1a74, 1), (0x1a80, 0x1a89, 1), (0x1a90, 0x1a99, 1), (0x1aa7, 0x1aa7, 1),
  (0x1abf, 0x1ac0, 1), (0x1acc, 0x1ace, 1), (0x1b00, 0x1b33, 1), (0x1b35, 0x1b43, 1),
  (0x1b45, 0x1b4c, 1), (0x1b50, 0x1b59, 1), (0x1b80, 0x1ba9, 1), (0x1bac, 0x1be5, 1),
  (0x1be7, 0x1bf1, 1), (0x1c00, 0x1c36, 1), (0x1c40, 0x1c49, 1), (0x1c4d, 0x1c7d, 1),
  (0x1c80, 0x1c8a, 1), (0x1c90, 0x1cba, 1), (0x1cbd, 0x1cbf, 1), (0x1ce9, 0x1cec, 1),
  (0x1cee, 0x1cf3, 1), (0x1cf5, 0x1cf6, 1), (0x1cfa, 0x1cfa, 1), (0x1d00, 0x1dbf, 1),
  (0x1dd3, 0x1df4, 1), (0x1e00, 0x1f15, 1), (0x1f18, 0x1f1d, 1), (0x1f20, 0x1f45, 1),
  (0x1f48, 0x1f4d, 1), (0x1f50, 0x1f57, 1), (0x1f59, 0x1f5f, 2), (0x1f60, 0x1f7d, 1),
  (0x1f80, 0x1fb4, 1), (0x1fb6, 0x1fbc, 1), (0x1fbe, 0x1fbe, 1), (0x1fc2, 0x1fc4, 1),
  (0x1fc6, 0x1fcc, 1), (0x1fd0, 0x1fd3, 1), (0x1fd6, 0x1fdb, 1), (0x1fe0, 0x1fec, 1),
  (0x1ff2, 0x1ff4, 1), (0x1ff6, 0x1ffc, 1), (0x2070, 0x2071, 1), (0x2074, 0x2079, 1),
  (0x207f, 0x2089, 1), (0x2090, 0x209c, 1), (0x2102, 0x2102, 1), (0x2107, 0x2107, 1),
  (0x210a, 0x2113, 1), (0x2115, 0x2115, 1), (0x2119, 0x211d, 1), (0x2124, 0x212a, 2),
  (0x212b, 0x212d, 1), (0x212f, 0x2139, 1), (0x213c, 0x213f, 1), (0x2145, 0x2149, 1),
  (0x214e, 0x2150, 2), (0x2151, 0x2189, 1), (0x2460, 0x249b, 1), (0x24b6, 0x24ff, 1),
  (0x2776, 0x2793, 1), (0x2c00, 0x2ce4, 1), (0x2ceb, 0x2cee, 1), (0x2cf2, 0x2cf3, 1),
  (0x2cfd, 0x2cfd, 1), (0x2d00, 0x2d25, 1), (0x2d27, 0x2d27, 1), (0x2d2d, 0x2d2d, 1),
  (0x2d30, 0x2d67, 1), (0x2d6f, 0x2d6f, 1), (0x2d80, 0x2d96, 1), (0x2da0, 0x2da6, 1),
  (0x2da8, 0x2dae, 1), (0x2db0, 0x2db6, 1), (0x2db8, 0x2dbe, 1), (0x2dc0, 0x2dc6, 1),
  (0x2dc8, 0x2dce, 1), (0x2dd0, 0x2dd6, 1), (0x2dd8, 0x2dde, 1), (0x2de0, 0x2dff, 1),
  (0x2e2f, 0x2e2f, 1), (0x3005, 0x3007, 1), (0x3021, 0x3029, 1), (0x3031, 0x3035, 1),
  (0x3038, 0x303c, 1), (0x3041, 0x3096, 1), (0x309d, 0x309f, 1), (0x30a1, 0x30fa, 1),
  (0x30fc, 0x30ff, 1), (0x3105, 0x312f, 1), (0x3131, 0x318e, 1), (0x3192, 0x3195, 1),
  (0x31a0, 0x31bf, 1), (0x31f0, 0x31ff, 1), (0x3220, 0x3229, 1), (0x3248, 0x324f, 1),
  (0x3251, 0x325f, 1), (0x3280, 0x3289, 1), (0x32b1, 0x32bf, 1), (0x3400, 0x4dbf, 1),
  (0x4e00, 0xa48c, 1), (0xa4d0, 0xa4fd, 1), (0xa500, 0xa60c, 1), (0xa610, 0xa62b, 1),
  (0xa640, 0xa66e, 1), (0xa674, 0xa67b, 1), (0xa67f, 0xa6ef, 1), (0xa717, 0xa71f, 1),
  (0xa722, 0xa788, 1), (0xa78b, 0xa7dc, 1), (0xa7f1, 0xa805, 1), (0xa807, 0xa827, 1),
  (0xa830, 0xa835, 1), (0xa840, 0xa873, 1), (0xa880, 0xa8c3, 1), (0xa8c5, 0xa8c5, 1),
  (0xa8d0, 0xa8d9, 1), (0xa8f2, 0xa8f7, 1), (0xa8fb, 0xa8fd, 2), (0xa8fe, 0xa92a, 1),
  (0xa930, 0xa952, 1), (0xa960, 0xa97c, 1), (0xa980, 0xa9b2, 1), (0xa9b4, 0xa9bf, 1),
  (0xa9cf, 0xa9d9, 1), (0xa9e0, 0xa9fe, 1), (0xaa00, 0xaa36, 1), (0xaa40, 0xaa4d, 1),
  (0xaa50, 0xaa59, 1), (0xaa60, 0xaa76, 1), (0xaa7a, 0xaabe, 1), (0xaac0, 0xaac2, 2),
  (0xaadb, 0xaadd, 1), (0xaae0, 0xaaef, 1), (0xaaf2, 0xaaf5, 1), (0xab01, 0xab06, 1),
  (0xab09, 0xab0e, 1), (0xab11, 0xab16, 1), (0xab20, 0xab26, 1), (0xab28, 0xab2e, 1),
  (0xab30, 0xab5a, 1), (0xab5c, 0xab69, 1), (0xab70, 0xabea, 1), (0xabf0, 0xabf9, 1),
  (0xac00, 0xd7a3, 1), (0xd7b0, 0xd7c6, 1), (0xd7cb, 0xd7fb, 1), (0xf900, 0xfa6d, 1),
  (0xfa70, 0xfad9, 1), (0xfb00, 0xfb06, 1), (0xfb13, 0xfb17, 1), (0xfb1d, 0xfb28, 1),
  (0xfb2a, 0xfb36, 1), (0xfb38, 0xfb3c, 1), (0xfb3e, 0xfb40, 2), (0xfb41, 0xfb43, 2),
  (0xfb44, 0xfb46, 2), (0xfb47, 0xfbb1, 1), (0xfbd3, 0xfd3d, 1), (0xfd50, 0xfd8f, 1),
  (0xfd92, 0xfdc7, 1), (0xfdf0, 0xfdfb, 1), (0xfe70, 0xfe74, 1), (0xfe76, 0xfefc, 1),
  (0xff10, 0xff19, 1), (0xff21, 0xff3a, 1), (0xff41, 0xff5a, 1), (0xff66, 0xffbe, 1),
  (0xffc2, 0xffc7, 1), (0xffca, 0xffcf, 1), (0xffd2, 0xffd7, 1), (0xffda, 0xffdc, 1),
  (0x10000, 0x1000b, 1), (0x1000d, 0x10026, 1), (0x10028, 0x1003a, 1), (0x1003c, 0x1003d, 1),
  (0x1003f, 0x1004d, 1), (0x10050, 0x1005d, 1), (0x10080, 0x100fa, 1), (0x10107, 0x10133, 1),
  (0x10140, 0x10178, 1), (0x1018a, 0x1018b, 1), (0x10280, 0x1029c, 1), (0x102a0, 0x102d0, 1),
  (0x102e1, 0x102fb, 1), (0x10300, 0x10323, 1), (0x1032d, 0x1034a, 1), (0x10350, 0x1037a, 1),
  (0x10380, 0x1039d, 1), (0x103a0, 0x103c3, 1), (0x103c8, 0x103cf, 1), (0x103d1, 0x103d5, 1),
  (0x10400, 0x1049d, 1), (0x104a0, 0x104a9, 1), (0x104b0, 0x104d3, 1), (0x104d8, 0x104fb, 1),
  (0x10500, 0x10527, 1), (0x10530, 0x10563, 1), (0x10570, 0x1057a, 1), (0x1057c, 0x1058a, 1),
  (0x1058c, 0x10592, 1), (0x10594, 0x10595, 1), (0x10597, 0x105a1, 1), (0x105a3, 0x105b1, 1),
  (0x105b3, 0x105b9, 1), (0x105bb, 0x105bc, 1), (0x105c0, 0x105f3, 1), (0x10600, 0x10736, 1),
  (0x10740, 0x10755, 1), (0x10760, 0x10767, 1), (0x10780, 0x10785, 1), (0x10787, 0x107b0, 1),
  (0x107b2, 0x107ba, 1), (0x10800, 0x10805, 1), (0x10808, 0x1080a, 2), (0x1080b, 0x10835, 1),
  (0x10837, 0x10838, 1), (0x1083c, 0x1083c, 1), (0x1083f, 0x10855, 1), (0x10858, 0x10876, 1),
  (0x10879, 0x1089e, 1), (0x108a7, 0x108af, 1), (0x108e0, 0x108f2, 1), (0x108f4, 0x108f5, 1),
  (0x108fb, 0x1091b, 1), (0x10920, 0x10939, 1), (0x10940, 0x10959, 1), (0x10980, 0x109b7, 1),
  (0x109bc, 0x109cf, 1), (0x109d2, 0x10a03, 1), (0x10a05, 0x10a06, 1), (0x10a0c, 0x10a13, 1),
  (0x10a15, 0x10a17, 1), (0x10a19, 0x10a35, 1), (0x10a40, 0x10a48, 1), (0x10a60, 0x10a7e, 1),
  (0x10a80, 0x10a9f, 1), (0x10ac0, 0x10ac7, 1), (0x10ac9, 0x10ae4, 1), (0x10aeb, 0x10aef, 1),
  (0x10b00, 0x10b35, 1), (0x10b40, 0x10b55, 1), (0x10b58, 0x10b72, 1), (0x10b78, 0x10b91, 1),
  (0x10ba9, 0x10baf, 1), (0x10c00, 0x10c48, 1), (0x10c80, 0x10cb2, 1), (0x10cc0, 0x10cf2, 1),
  (0x10cfa, 0x10d27, 1), (0x10d30, 0x10d39, 1), (0x10d40, 0x10d65, 1), (0x10d69, 0x10d69, 1),
  (0x10d6f, 0x10d85, 1), (0x10e60, 0x10e7e, 1), (0x10e80, 0x10ea9, 1), (0x10eab, 0x10eac, 1),
  (0x10eb0, 0x10eb1, 1), (0x10ec2, 0x10ec7, 1), (0x10efa, 0x10efc, 1), (0x10f00, 0x10f27, 1),
  (0x10f30, 0x10f45, 1), (0x10f51, 0x10f54, 1), (0x10f70, 0x10f81, 1), (0x10fb0, 0x10fcb, 1),
  (0x10fe0, 0x10ff6, 1), (0x11000, 0x11045, 1), (0x11052, 0x1106f, 1), (0x11071, 0x11075, 1),
  (0x11080, 0x110b8, 1), (0x110c2, 0x110c2, 1), (0x110d0, 0x110e8, 1), (0x110f0, 0x110f9, 1),
  (0x11100, 0x11132, 1), (0x11136, 0x1113f, 1), (0x11144, 0x11147, 1), (0x11150, 0x11172, 1),
  (0x11176, 0x11176, 1), (0x11180, 0x111bf, 1), (0x111c1, 0x111c4, 1), (0x111ce, 0x111da, 1),
  (0x111dc, 0x111dc, 1), (0x111e1, 0x111f4, 1), (0x11200, 0x11211, 1), (0x11213, 0x11234, 1),
  (0x11237, 0x11237, 1), (0x1123e, 0x11241, 1), (0x11280, 0x11286, 1), (0x11288, 0x1128a, 2),
  (0x1128b, 0x1128d, 1), (0x1128f, 0x1129d, 1), (0x1129f, 0x112a8, 1), (0x112b0, 0x112e8, 1),
  (0x112f0, 0x112f9, 1), (0x11300, 0x11303, 1), (0x11305, 0x1130c, 1), (0x1130f, 0x11310, 1),
  (0x11313, 0x11328, 1), (0x1132a, 0x11330, 1), (0x11332, 0x11333, 1), (0x11335, 0x11339, 1),
  (0x1133d, 0x11344, 1), (0x11347, 0x11348, 1), (0x1134b, 0x1134c, 1), (0x11350, 0x11350, 1),
  (0x11357, 0x11357, 1), (0x1135d, 0x11363, 1), (0x11380, 0x11389, 1), (0x1138b, 0x1138b, 1),
  (0x1138e, 0x11390, 2), (0x11391, 0x113b5, 1), (0x113b7, 0x113c0, 1), (0x113c2, 0x113c2, 1),
  (0x113c5, 0x113c7, 2), (0x113c8, 0x113ca, 1), (0x113cc, 0x113cd, 1), (0x113d1, 0x113d3, 2),
  (0x11400, 0x11441, 1), (0x11443, 0x11445, 1), (0x11447, 0x1144a, 1), (0x11450, 0x11459, 1),
  (0x1145f, 0x11461, 1), (0x11480, 0x114c1, 1), (0x114c4, 0x114c5, 1), (0x114c7, 0x114c7, 1),
  (0x114d0, 0x114d9, 1), (0x11580, 0x115b5, 1), (0x115b8, 0x115be, 1), (0x115d8, 0x115dd, 1),
  (0x11600, 0x1163e, 1), (0x11640, 0x11640, 1), (0x11644, 0x11644, 1), (0x11650, 0x11659, 1),
  (0x11680, 0x116b5, 1), (0x116b8, 0x116b8, 1), (0x116c0, 0x116c9, 1), (0x116d0, 0x116e3, 1),
  (0x11700, 0x1171a, 1), (0x1171d, 0x1172a, 1), (0x11730, 0x1173b, 1), (0x11740, 0x11746, 1),
  (0x11800, 0x11838, 1), (0x118a0, 0x118f2, 1), (0x118ff, 0x11906, 1), (0x11909, 0x11909, 1),
  (0x1190c, 0x11913, 1), (0x11915, 0x11916, 1), (0x11918, 0x11935, 1), (0x11937, 0x11938, 1),
  (0x1193b, 0x1193c, 1), (0x1193f, 0x11942, 1), (0x11950, 0x11959, 1), (0x119a0, 0x119a7, 1),
  (0x119aa, 0x119d7, 1), (0x119da, 0x119df, 1), (0x119e1, 0x119e3, 2), (0x119e4, 0x119e4, 1),
  (0x11a00, 0x11a32, 1), (0x11a35, 0x11a3e, 1), (0x11a50, 0x11a97, 1), (0x11a9d, 0x11a9d, 1),
  (0x11ab0, 0x11af8, 1), (0x11b60, 0x11b67, 1), (0x11bc0, 0x11be0, 1), (0x11bf0, 0x11bf9, 1),
  (0x11c00, 0x11c08, 1), (0x11c0a, 0x11c36, 1), (0x11c38, 0x11c3e, 1), (0x11c40, 0x11c40, 1),
  (0x11c50, 0x11c6c, 1), (0x11c72, 0x11c8f, 1), (0x11c92, 0x11ca7, 1), (0x11ca9, 0x11cb6, 1),
  (0x11d00, 0x11d06, 1), (0x11d08, 0x11d09, 1), (0x11d0b, 0x11d36, 1), (0x11d3a, 0x11d3c, 2),
  (0x11d3d, 0x11d3f, 2), (0x11d40, 0x11d41, 1), (0x11d43, 0x11d43, 1), (0x11d46, 0x11d47, 1),
  (0x11d50, 0x11d59, 1), (0x11d60, 0x11d65, 1), (0x11d67, 0x11d68, 1), (0x11d6a, 0x11d8e, 1),
  (0x11d90, 0x11d91, 1), (0x11d93, 0x11d96, 1), (0x11d98, 0x11d98, 1), (0x11da0, 0x11da9, 1),
  (0x11db0, 0x11ddb, 1), (0x11de0, 0x11de9, 1), (0x11ee0, 0x11ef6, 1), (0x11f00, 0x11f10, 1),
  (0x11f12, 0x11f3a, 1), (0x11f3e, 0x11f40, 1), (0x11f50, 0x11f59, 1), (0x11fb0, 0x11fb0, 1),
  (0x11fc0, 0x11fd4, 1), (0x12000, 0x12399, 1), (0x12400, 0x1246e, 1), (0x12480, 0x12543, 1),
  (0x12f90, 0x12ff0, 1), (0x13000, 0x1342f, 1), (0x13441, 0x13446, 1), (0x13460, 0x143fa, 1),
  (0x14400, 0x14646, 1), (0x16100, 0x1612e, 1), (0x16130, 0x16139, 1), (0x16800, 0x16a38, 1),
  (0x16a40, 0x16a5e, 1), (0x16a60, 0x16a69, 1), (0x16a70, 0x16abe, 1), (0x16ac0, 0x16ac9, 1),
  (0x16ad0, 0x16aed, 1), (0x16b00, 0x16b2f, 1), (0x16b40, 0x16b43, 1), (0x16b50, 0x16b59, 1),
  (0x16b5b, 0x16b61, 1), (0x16b63, 0x16b77, 1), (0x16b7d, 0x16b8f, 1), (0x16d40, 0x16d6c, 1),
  (0x16d70, 0x16d79, 1), (0x16e40, 0x16e96, 1), (0x16ea0, 0x16eb8, 1), (0x16ebb, 0x16ed3, 1),
  (0x16f00, 0x16f4a, 1), (0x16f4f, 0x16f87, 1), (0x16f8f, 0x16f9f, 1), (0x16fe0, 0x16fe1, 1),
  (0x16fe3, 0x16fe3, 1), (0x16ff0, 0x16ff6, 1), (0x17000, 0x18cd5, 1), (0x18cff, 0x18d1e, 1),
  (0x18d80, 0x18df2, 1), (0x1aff0, 0x1aff3, 1), (0x1aff5, 0x1affb, 1), (0x1affd, 0x1affe, 1),
  (0x1b000, 0x1b122, 1), (0x1b132, 0x1b132, 1), (0x1b150, 0x1b152, 1), (0x1b155, 0x1b155, 1),
  (0x1b164, 0x1b167, 1), (0x1b170, 0x1b2fb, 1), (0x1bc00, 0x1bc6a, 1), (0x1bc70, 0x1bc7c, 1),
  (0x1bc80, 0x1bc88, 1), (0x1bc90, 0x1bc99, 1), (0x1bc9e, 0x1bc9e, 1), (0x1ccf0, 0x1ccf9, 1),
  (0x1d2c0, 0x1d2d3, 1), (0x1d2e0, 0x1d2f3, 1), (0x1d360, 0x1d378, 1), (0x1d400, 0x1d454, 1),
  (0x1d456, 0x1d49c, 1), (0x1d49e, 0x1d49f, 1), (0x1d4a2, 0x1d4a2, 1), (0x1d4a5, 0x1d4a6, 1),
  (0x1d4a9, 0x1d4ac, 1), (0x1d4ae, 0x1d4b9, 1), (0x1d4bb, 0x1d4bd, 2), (0x1d4be, 0x1d4c3, 1),
  (0x1d4c5, 0x1d505, 1), (0x1d507, 0x1d50a, 1), (0x1d50d, 0x1d514, 1), (0x1d516, 0x1d51c, 1),
  (0x1d51e, 0x1d539, 1), (0x1d53b, 0x1d53e, 1), (0x1d540, 0x1d544, 1), (0x1d546, 0x1d546, 1),
  (0x1d54a, 0x1d550, 1), (0x1d552, 0x1d6a5, 1), (0x1d6a8, 0x1d6c0, 1), (0x1d6c2, 0x1d6da, 1),
  (0x1d6dc, 0x1d6fa, 1), (0x1d6fc, 0x1d714, 1), (0x1d716, 0x1d734, 1), (0x1d736, 0x1d74e, 1),
  (0x1d750, 0x1d76e, 1), (0x1d770, 0x1d788, 1), (0x1d78a, 0x1d7a8, 1), (0x1d7aa, 0x1d7c2, 1),
  (0x1d7c4, 0x1d7cb, 1), (0x1d7ce, 0x1d7ff, 1), (0x1df00, 0x1df1e, 1), (0x1df25, 0x1df2a, 1),
  (0x1e000, 0x1e006, 1), (0x1e008, 0x1e018, 1), (0x1e01b, 0x1e021, 1), (0x1e023, 0x1e024, 1),
  (0x1e026, 0x1e02a, 1), (0x1e030, 0x1e06d, 1), (0x1e08f, 0x1e08f, 1), (0x1e100, 0x1e12c, 1),
  (0x1e137, 0x1e13d, 1), (0x1e140, 0x1e149, 1), (0x1e14e, 0x1e14e, 1), (0x1e290, 0x1e2ad, 1),
  (0x1e2c0, 0x1e2eb, 1), (0x1e2f0, 0x1e2f9, 1), (0x1e4d0, 0x1e4eb, 1), (0x1e4f0, 0x1e4f9, 1),
  (0x1e5d0, 0x1e5ed, 1), (0x1e5f0, 0x1e5fa, 1), (0x1e6c0, 0x1e6de, 1), (0x1e6e0, 0x1e6f5, 1),
  (0x1e6fe, 0x1e6ff, 1), (0x1e7e0, 0x1e7e6, 1), (0x1e7e8, 0x1e7eb, 1), (0x1e7ed, 0x1e7ee, 1),
  (0x1e7f0, 0x1e7fe, 1), (0x1e800, 0x1e8c4, 1), (0x1e8c7, 0x1e8cf, 1), (0x1e900, 0x1e943, 1),
  (0x1e947, 0x1e947, 1), (0x1e94b, 0x1e94b, 1), (0x1e950, 0x1e959, 1), (0x1ec71, 0x1ecab, 1),
  (0x1ecad, 0x1ecaf, 1), (0x1ecb1, 0x1ecb4, 1), (0x1ed01, 0x1ed2d, 1), (0x1ed2f, 0x1ed3d, 1),
  (0x1ee00, 0x1ee03, 1), (0x1ee05, 0x1ee1f, 1), (0x1ee21, 0x1ee22, 1), (0x1ee24, 0x1ee24, 1),
  (0x1ee27, 0x1ee29, 2), (0x1ee2a, 0x1ee32, 1), (0x1ee34, 0x1ee37, 1), (0x1ee39, 0x1ee3b, 2),
  (0x1ee42, 0x1ee42, 1), (0x1ee47, 0x1ee4d, 2), (0x1ee4e, 0x1ee4f, 1), (0x1ee51, 0x1ee52, 1),
  (0x1ee54, 0x1ee54, 1), (0x1ee57, 0x1ee61, 2), (0x1ee62, 0x1ee64, 2), (0x1ee67, 0x1ee6a, 1),
  (0x1ee6c, 0x1ee72, 1), (0x1ee74, 0x1ee77, 1), (0x1ee79, 0x1ee7c, 1), (0x1ee7e, 0x1ee80, 2),
  (0x1ee81, 0x1ee89, 1), (0x1ee8b, 0x1ee9b, 1), (0x1eea1, 0x1eea3, 1), (0x1eea5, 0x1eea9, 1),
  (0x1eeab, 0x1eebb, 1), (0x1f100, 0x1f10c, 1), (0x1f130, 0x1f149, 1), (0x1f150, 0x1f169, 1),
  (0x1f170, 0x1f189, 1), (0x1fbf0, 0x1fbf9, 1), (0x20000, 0x2a6df, 1), (0x2a700, 0x2b81d, 1),
  (0x2b820, 0x2cead, 1), (0x2ceb0, 0x2ebe0, 1), (0x2ebf0, 0x2ee5d, 1), (0x2f800, 0x2fa1d, 1),
  (0x30000, 0x3134a, 1), (0x31350, 0x33479, 1)]

end RelProto.Text
