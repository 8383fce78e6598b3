import RelProto.Network.Domain.Mark

/-! The direction in which characters are written. -/
namespace RelProto.Network.Domain

open Text (CodePoints)

/-- How a character counts for the direction of a text. Neutral ones are written either way. -/
inductive Direction where
  | leftToRight
  | rightToLeft
  | europeanNumber
  | arabicNumber
  | nonspacing
  | neutral
  deriving DecidableEq

/-- Letters that are written from right to left. -/
def rightToLeftLetters : CodePoints := [
  (0x5be, 0x5c0, 2), (0x5c3, 0x5c3, 1), (0x5c6, 0x5c6, 1), (0x5d0, 0x5ea, 1), (0x5ef, 0x5f4, 1),
  (0x608, 0x608, 1), (0x60b, 0x60d, 2), (0x61b, 0x61d, 2), (0x61e, 0x64a, 1), (0x66d, 0x66f, 1),
  (0x671, 0x6d5, 1), (0x6e5, 0x6e6, 1), (0x6ee, 0x6ef, 1), (0x6fa, 0x70d, 1), (0x710, 0x712, 2),
  (0x713, 0x72f, 1), (0x74d, 0x7a5, 1), (0x7b1, 0x7b1, 1), (0x7c0, 0x7ea, 1), (0x7f4, 0x7f5, 1),
  (0x7fa, 0x7fa, 1), (0x7fe, 0x815, 1), (0x81a, 0x81a, 1), (0x824, 0x824, 1), (0x828, 0x828, 1),
  (0x830, 0x83e, 1), (0x840, 0x858, 1), (0x85e, 0x860, 2), (0x861, 0x86a, 1), (0x870, 0x88f, 1),
  (0x8a0, 0x8c9, 1), (0x2135, 0x2138, 1), (0xfb1d, 0xfb1f, 2), (0xfb20, 0xfb28, 1),
  (0xfb2a, 0xfb36, 1), (0xfb38, 0xfb3c, 1), (0xfb3e, 0xfb40, 2), (0xfb41, 0xfb43, 2),
  (0xfb44, 0xfb46, 2), (0xfb47, 0xfbc2, 1), (0xfbd3, 0xfc5d, 1), (0xfc64, 0xfd3d, 1),
  (0xfd50, 0xfd8f, 1), (0xfd92, 0xfdc7, 1), (0xfdf0, 0xfdf9, 1), (0xfdfc, 0xfdfc, 1),
  (0xfe71, 0xfe73, 2), (0xfe77, 0xfe7f, 2), (0xfe80, 0xfefc, 1), (0x10800, 0x10805, 1),
  (0x10808, 0x1080a, 2), (0x1080b, 0x10835, 1), (0x10837, 0x10838, 1), (0x1083c, 0x1083c, 1),
  (0x1083f, 0x10855, 1), (0x10857, 0x1089e, 1), (0x108a7, 0x108af, 1), (0x108e0, 0x108f2, 1),
  (0x108f4, 0x108f5, 1), (0x108fb, 0x1091b, 1), (0x10920, 0x10939, 1), (0x1093f, 0x10959, 1),
  (0x10980, 0x109b7, 1), (0x109bc, 0x109cf, 1), (0x109d2, 0x10a00, 1), (0x10a10, 0x10a13, 1),
  (0x10a15, 0x10a17, 1), (0x10a19, 0x10a35, 1), (0x10a40, 0x10a48, 1), (0x10a50, 0x10a58, 1),
  (0x10a60, 0x10a9f, 1), (0x10ac0, 0x10ae4, 1), (0x10aeb, 0x10af6, 1), (0x10b00, 0x10b35, 1),
  (0x10b40, 0x10b55, 1), (0x10b58, 0x10b72, 1), (0x10b78, 0x10b91, 1), (0x10b99, 0x10b9c, 1),
  (0x10ba9, 0x10baf, 1), (0x10c00, 0x10c48, 1), (0x10c80, 0x10cb2, 1), (0x10cc0, 0x10cf2, 1),
  (0x10cfa, 0x10d23, 1), (0x10d40, 0x10d65, 1), (0x10d6e, 0x10d85, 1), (0x10e80, 0x10ea9, 1),
  (0x10ead, 0x10ead, 1), (0x10eb0, 0x10eb1, 1), (0x10ec2, 0x10ec7, 1), (0x10ed0, 0x10ed0, 1),
  (0x10f00, 0x10f27, 1), (0x10f30, 0x10f45, 1), (0x10f51, 0x10f59, 1), (0x10f70, 0x10f81, 1),
  (0x10f86, 0x10f89, 1), (0x10fb0, 0x10fcb, 1), (0x10fe0, 0x10ff6, 1), (0x1e800, 0x1e8c4, 1),
  (0x1e8c7, 0x1e8cf, 1), (0x1e900, 0x1e943, 1), (0x1e94b, 0x1e94b, 1), (0x1e950, 0x1e959, 1),
  (0x1e95e, 0x1e95f, 1), (0x1ec71, 0x1ecb4, 1), (0x1ed01, 0x1ed3d, 1), (0x1ee00, 0x1ee03, 1),
  (0x1ee05, 0x1ee1f, 1), (0x1ee21, 0x1ee22, 1), (0x1ee24, 0x1ee24, 1), (0x1ee27, 0x1ee29, 2),
  (0x1ee2a, 0x1ee32, 1), (0x1ee34, 0x1ee37, 1), (0x1ee39, 0x1ee3b, 2), (0x1ee42, 0x1ee42, 1),
  (0x1ee47, 0x1ee4d, 2), (0x1ee4e, 0x1ee4f, 1), (0x1ee51, 0x1ee52, 1), (0x1ee54, 0x1ee54, 1),
  (0x1ee57, 0x1ee61, 2), (0x1ee62, 0x1ee64, 2), (0x1ee67, 0x1ee6a, 1), (0x1ee6c, 0x1ee72, 1),
  (0x1ee74, 0x1ee77, 1), (0x1ee79, 0x1ee7c, 1), (0x1ee7e, 0x1ee80, 2), (0x1ee81, 0x1ee89, 1),
  (0x1ee8b, 0x1ee9b, 1), (0x1eea1, 0x1eea3, 1), (0x1eea5, 0x1eea9, 1), (0x1eeab, 0x1eebb, 1)]

/-- Digits outside ASCII that are not Arabic ones, and numbers that have parts. -/
def europeanNumbers : CodePoints := [
  (0xb2, 0xb3, 1), (0xb9, 0xb9, 1), (0xbc, 0xbe, 1), (0x6f0, 0x6f9, 1), (0x2070, 0x2070, 1),
  (0x2074, 0x2079, 1), (0x2080, 0x2089, 1), (0x2150, 0x215f, 1), (0x2189, 0x2189, 1),
  (0x2460, 0x2487, 1), (0x24ea, 0x24ea, 1), (0x3251, 0x325f, 1), (0x32b1, 0x32bf, 1),
  (0xff10, 0xff19, 1), (0x102e1, 0x102fb, 1), (0x1ccf0, 0x1ccf9, 1), (0x1d7ce, 0x1d7ff, 1),
  (0x1f101, 0x1f10a, 1), (0x1fbf0, 0x1fbf9, 1)]

/-- Arabic digits. -/
def arabicNumbers : CodePoints := [
  (0x660, 0x669, 1), (0x66b, 0x66c, 1), (0x10d30, 0x10d39, 1), (0x10e60, 0x10e7e, 1)]

/-- Signs and symbols outside ASCII. -/
def neutralSigns : CodePoints := [
  (0xa1, 0xa7, 1), (0xa9, 0xab, 2), (0xac, 0xb0, 2), (0xb1, 0xb1, 1), (0xb6, 0xb7, 1),
  (0xbb, 0xbb, 1), (0xbf, 0xbf, 1), (0xd7, 0xd7, 1), (0xf7, 0xf7, 1), (0x2b9, 0x2ba, 1),
  (0x2c2, 0x2cf, 1), (0x2d2, 0x2d7, 1), (0x2de, 0x2df, 1), (0x2e5, 0x2ed, 1), (0x2ef, 0x2ff, 1),
  (0x374, 0x375, 1), (0x37e, 0x37e, 1), (0x387, 0x387, 1), (0x3f6, 0x3f6, 1), (0x58a, 0x58a, 1),
  (0x58d, 0x58f, 1), (0x606, 0x607, 1), (0x609, 0x60a, 1), (0x60c, 0x60e, 2), (0x60f, 0x60f, 1),
  (0x66a, 0x66a, 1), (0x6de, 0x6de, 1), (0x6e9, 0x6e9, 1), (0x7f6, 0x7f9, 1), (0x9f2, 0x9f3, 1),
  (0x9fb, 0x9fb, 1), (0xaf1, 0xaf1, 1), (0xbf3, 0xbfa, 1), (0xc78, 0xc7e, 1), (0xe3f, 0xe3f, 1),
  (0xf3a, 0xf3d, 1), (0x1390, 0x1399, 1), (0x1400, 0x1400, 1), (0x169b, 0x169c, 1),
  (0x17db, 0x17db, 1), (0x17f0, 0x17f9, 1), (0x1800, 0x180a, 1), (0x1940, 0x1940, 1),
  (0x1944, 0x1945, 1), (0x19de, 0x19ff, 1), (0x1b4e, 0x1b4f, 1), (0x1b7f, 0x1b7f, 1),
  (0x1fef, 0x1fef, 1), (0x200c, 0x200d, 1), (0x2010, 0x2016, 1), (0x2018, 0x2023, 1),
  (0x2027, 0x2027, 1), (0x2030, 0x203d, 1), (0x203f, 0x2046, 1), (0x204a, 0x205e, 1),
  (0x207a, 0x207e, 1), (0x208a, 0x208e, 1), (0x20a0, 0x20a7, 1), (0x20a9, 0x20c0, 1),
  (0x2104, 0x2104, 1), (0x2108, 0x2108, 1), (0x2114, 0x2114, 1), (0x2117, 0x2118, 1),
  (0x211e, 0x211f, 1), (0x2123, 0x2129, 2), (0x212e, 0x212e, 1), (0x213a, 0x213a, 1),
  (0x2140, 0x2144, 1), (0x214a, 0x214d, 1), (0x218a, 0x218b, 1), (0x2190, 0x2335, 1),
  (0x237b, 0x2394, 1), (0x2396, 0x2429, 1), (0x2440, 0x244a, 1), (0x24eb, 0x26ab, 1),
  (0x26ad, 0x27ff, 1), (0x2900, 0x2a73, 1), (0x2a75, 0x2b73, 1), (0x2b76, 0x2bff, 1),
  (0x2ce5, 0x2cea, 1), (0x2cf9, 0x2cff, 1), (0x2e00, 0x2e5d, 1), (0x2e80, 0x2e99, 1),
  (0x2e9b, 0x2e9e, 1), (0x2ea0, 0x2ef2, 1), (0x3001, 0x3004, 1), (0x3008, 0x3020, 1),
  (0x3030, 0x3030, 1), (0x3036, 0x3037, 1), (0x303d, 0x303f, 1), (0x30a0, 0x30a0, 1),
  (0x30fb, 0x30fb, 1), (0x31c0, 0x31e5, 1), (0x4dc0, 0x4dff, 1), (0xa490, 0xa4c6, 1),
  (0xa60d, 0xa60f, 1), (0xa673, 0xa673, 1), (0xa67e, 0xa67f, 1), (0xa700, 0xa721, 1),
  (0xa788, 0xa788, 1), (0xa828, 0xa82b, 1), (0xa838, 0xa839, 1), (0xa874, 0xa877, 1),
  (0xab6a, 0xab6b, 1), (0xfb29, 0xfb29, 1), (0xfbc3, 0xfbd2, 1), (0xfd3e, 0xfd4f, 1),
  (0xfd90, 0xfd91, 1), (0xfdc8, 0xfdcf, 1), (0xfdfd, 0xfdff, 1), (0xfe10, 0xfe11, 1),
  (0xfe14, 0xfe15, 1), (0xfe17, 0xfe18, 1), (0xfe31, 0xfe46, 1), (0xfe4d, 0xfe51, 1),
  (0xfe54, 0xfe54, 1), (0xfe57, 0xfe5e, 1), (0xfe60, 0xfe63, 1), (0xfe66, 0xfe66, 1),
  (0xfe69, 0xfe69, 1), (0xff01, 0xff02, 1), (0xff04, 0xff06, 2), (0xff07, 0xff0e, 1),
  (0xff1b, 0xff1d, 2), (0xff3f, 0xff40, 1), (0xff5b, 0xff5d, 2), (0xff5e, 0xff65, 1),
  (0xffe0, 0xffe2, 1), (0xffe4, 0xffe6, 1), (0xffe8, 0xffee, 1), (0x10101, 0x10101, 1),
  (0x10140, 0x1018c, 1), (0x10190, 0x1019c, 1), (0x101a0, 0x101a0, 1), (0x1091f, 0x1091f, 1),
  (0x10b39, 0x10b3f, 1), (0x10d8e, 0x10d8f, 1), (0x10ed1, 0x10ed8, 1), (0x11052, 0x11065, 1),
  (0x113d4, 0x113d5, 1), (0x113d7, 0x113d8, 1), (0x11660, 0x1166c, 1), (0x11b00, 0x11b09, 1),
  (0x11be1, 0x11be1, 1), (0x11f43, 0x11f4f, 1), (0x11fd5, 0x11ff1, 1), (0x16d6d, 0x16d6f, 1),
  (0x16fe2, 0x16fe2, 1), (0x1cc00, 0x1ccd5, 1), (0x1ccfa, 0x1ccfc, 1), (0x1cd00, 0x1ceb3, 1),
  (0x1ceba, 0x1ced0, 1), (0x1cee0, 0x1cef0, 1), (0x1d1e9, 0x1d1ea, 1), (0x1d200, 0x1d241, 1),
  (0x1d245, 0x1d245, 1), (0x1d300, 0x1d356, 1), (0x1d6c1, 0x1d6c1, 1), (0x1d6db, 0x1d6db, 1),
  (0x1d6fb, 0x1d6fb, 1), (0x1d715, 0x1d715, 1), (0x1d735, 0x1d735, 1), (0x1d74f, 0x1d74f, 1),
  (0x1d76f, 0x1d76f, 1), (0x1d789, 0x1d789, 1), (0x1d7a9, 0x1d7a9, 1), (0x1d7c3, 0x1d7c3, 1),
  (0x1e2ff, 0x1e2ff, 1), (0x1e5ff, 0x1e5ff, 1), (0x1eef0, 0x1eef1, 1), (0x1f000, 0x1f02b, 1),
  (0x1f030, 0x1f093, 1), (0x1f0a0, 0x1f0ae, 1), (0x1f0b1, 0x1f0bf, 1), (0x1f0c1, 0x1f0cf, 1),
  (0x1f0d1, 0x1f0f5, 1), (0x1f10b, 0x1f10f, 1), (0x1f12f, 0x1f12f, 1), (0x1f16d, 0x1f16f, 1),
  (0x1f1ad, 0x1f1ad, 1), (0x1f260, 0x1f265, 1), (0x1f300, 0x1f6d8, 1), (0x1f6dc, 0x1f6ec, 1),
  (0x1f6f0, 0x1f6fc, 1), (0x1f700, 0x1f7d9, 1), (0x1f7e0, 0x1f7eb, 1), (0x1f7f0, 0x1f7f0, 1),
  (0x1f800, 0x1f80b, 1), (0x1f810, 0x1f847, 1), (0x1f850, 0x1f859, 1), (0x1f860, 0x1f887, 1),
  (0x1f890, 0x1f8ad, 1), (0x1f8b0, 0x1f8bb, 1), (0x1f8c0, 0x1f8c1, 1), (0x1f8d0, 0x1f8d8, 1),
  (0x1f900, 0x1fa57, 1), (0x1fa60, 0x1fa6d, 1), (0x1fa70, 0x1fa7c, 1), (0x1fa80, 0x1fa8a, 1),
  (0x1fa8e, 0x1fac6, 1), (0x1fac8, 0x1fac8, 1), (0x1facd, 0x1fadc, 1), (0x1fadf, 0x1faea, 1),
  (0x1faef, 0x1faf8, 1), (0x1fb00, 0x1fb92, 1), (0x1fb94, 0x1fbef, 1), (0x1fbfa, 0x1fbfa, 1)]

def Direction.ofAscii (c : Char) : Direction :=
  if c.isDigit then .europeanNumber else if c.isAlpha then .leftToRight else .neutral

def Direction.ofChar (c : Char) : Direction :=
  if c.toNat < 0x80 then .ofAscii c
  else if rightToLeftLetters.contains c then .rightToLeft
  else if isNonspacing c then .nonspacing
  else if neutralSigns.contains c then .neutral
  else if europeanNumbers.contains c then .europeanNumber
  else if arabicNumbers.contains c then .arabicNumber
  else .leftToRight

end RelProto.Network.Domain
