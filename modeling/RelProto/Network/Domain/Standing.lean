import RelProto.Network.Domain.Mark

/-! What a character stands for in the name of a domain. -/
namespace RelProto.Network.Domain

open Text (CodePoints Run)

/-- A character stands for itself, for nothing, for ASCII characters or for others, or it may not
occur. What others it stands for makes no difference to the name. -/
inductive Standing where
  | plain
  | ignored
  | ascii (text : List Char)
  | variant
  | disallowed
  deriving DecidableEq

/-- Characters that stand for nothing. -/
def ignorables : CodePoints := [
  (0xad, 0xad, 1), (0x34f, 0x34f, 1), (0x115f, 0x1160, 1), (0x17b4, 0x17b5, 1), (0x180b, 0x180f, 1),
  (0x200b, 0x200b, 1), (0x2060, 0x2064, 1), (0x3164, 0x3164, 1), (0xfe00, 0xfe0f, 1),
  (0xfeff, 0xfeff, 1), (0xffa0, 0xffa0, 1), (0x1bca0, 0x1bca3, 1), (0xe0100, 0xe01ef, 1)]

/-- Symbols that would stand for a blank, a full stop or another character without a place in a
name, and those that describe ideographs. -/
def spaced : CodePoints := [
  (0xa8, 0xa8, 1), (0xaf, 0xaf, 1), (0xb4, 0xb4, 1), (0xb8, 0xb8, 1), (0x2d8, 0x2dd, 1),
  (0x37a, 0x37a, 1), (0x384, 0x385, 1), (0x1fbd, 0x1fbf, 2), (0x1fc0, 0x1fc1, 1),
  (0x1fcd, 0x1fcf, 1), (0x1fdd, 0x1fdf, 1), (0x1fed, 0x1fee, 1), (0x1ffd, 0x1ffe, 1),
  (0x2017, 0x2017, 1), (0x2024, 0x2026, 1), (0x203e, 0x203e, 1), (0x2047, 0x2049, 1),
  (0x2100, 0x2101, 1), (0x2105, 0x2106, 1), (0x2488, 0x249b, 1), (0x2a74, 0x2a74, 1),
  (0x2ff0, 0x2fff, 1), (0x309b, 0x309c, 1), (0x31ef, 0x31ef, 1), (0x33c2, 0x33c2, 1),
  (0x33c7, 0x33c7, 1), (0x33d8, 0x33d8, 1), (0xfc5e, 0xfc63, 1), (0xfdfa, 0xfdfb, 1),
  (0xfe12, 0xfe13, 1), (0xfe16, 0xfe16, 1), (0xfe19, 0xfe19, 1), (0xfe30, 0xfe30, 1),
  (0xfe47, 0xfe4c, 1), (0xfe52, 0xfe52, 1), (0xfe55, 0xfe56, 1), (0xfe5f, 0xfe5f, 1),
  (0xfe64, 0xfe65, 1), (0xfe68, 0xfe6a, 2), (0xfe6b, 0xfe6b, 1), (0xfe70, 0xfe7e, 2),
  (0xff03, 0xff05, 2), (0xff0f, 0xff0f, 1), (0xff1a, 0xff1e, 2), (0xff1f, 0xff20, 1),
  (0xff3b, 0xff3e, 1), (0xff5c, 0xff5c, 1), (0xffe3, 0xffe3, 1), (0xfffc, 0xfffd, 1),
  (0x1f100, 0x1f100, 1)]

/-- Invisible characters that act on the letters around them. -/
def joiners : CodePoints := [
  (0x200c, 0x200d, 1)]

/-- Runs of characters that stand for an ASCII character at a common distance. -/
def asciiShifts : List (Run × Int) := [
  ((0xaa, 0xaa, 1), -73), ((0xb2, 0xb3, 1), -128), ((0xb9, 0xb9, 1), -136), ((0xba, 0xba, 1), -75),
  ((0x17f, 0x17f, 1), -268), ((0x2b0, 0x2b0, 1), -584), ((0x2b2, 0x2b2, 1), -584),
  ((0x2b3, 0x2b3, 1), -577), ((0x2b7, 0x2b7, 1), -576), ((0x2b8, 0x2b8, 1), -575),
  ((0x2e1, 0x2e1, 1), -629), ((0x2e2, 0x2e2, 1), -623), ((0x2e3, 0x2e3, 1), -619),
  ((0x37e, 0x37e, 1), -835), ((0x1d2c, 0x1d2c, 1), -7371), ((0x1d2e, 0x1d2e, 1), -7372),
  ((0x1d30, 0x1d31, 1), -7372), ((0x1d33, 0x1d3a, 1), -7372), ((0x1d3c, 0x1d3c, 1), -7373),
  ((0x1d3e, 0x1d3e, 1), -7374), ((0x1d3f, 0x1d3f, 1), -7373), ((0x1d40, 0x1d41, 1), -7372),
  ((0x1d42, 0x1d42, 1), -7371), ((0x1d43, 0x1d43, 1), -7394), ((0x1d47, 0x1d47, 1), -7397),
  ((0x1d48, 0x1d49, 1), -7396), ((0x1d4d, 0x1d4d, 1), -7398), ((0x1d4f, 0x1d4f, 1), -7396),
  ((0x1d50, 0x1d50, 1), -7395), ((0x1d52, 0x1d52, 1), -7395), ((0x1d56, 0x1d56, 1), -7398),
  ((0x1d57, 0x1d58, 1), -7395), ((0x1d5b, 0x1d5b, 1), -7397), ((0x1d62, 0x1d62, 1), -7417),
  ((0x1d63, 0x1d63, 1), -7409), ((0x1d64, 0x1d65, 1), -7407), ((0x1d9c, 0x1d9c, 1), -7481),
  ((0x1da0, 0x1da0, 1), -7482), ((0x1dbb, 0x1dbb, 1), -7489), ((0x1fef, 0x1fef, 1), -8079),
  ((0x2070, 0x2070, 1), -8256), ((0x2071, 0x2071, 1), -8200), ((0x2074, 0x2079, 1), -8256),
  ((0x207a, 0x207a, 1), -8271), ((0x207c, 0x207c, 1), -8255), ((0x207d, 0x207e, 1), -8277),
  ((0x207f, 0x207f, 1), -8209), ((0x2080, 0x2089, 1), -8272), ((0x208a, 0x208a, 1), -8287),
  ((0x208c, 0x208c, 1), -8271), ((0x208d, 0x208e, 1), -8293), ((0x2090, 0x2090, 1), -8239),
  ((0x2091, 0x2091, 1), -8236), ((0x2092, 0x2092, 1), -8227), ((0x2093, 0x2093, 1), -8219),
  ((0x2095, 0x2095, 1), -8237), ((0x2096, 0x2099, 1), -8235), ((0x209a, 0x209a, 1), -8234),
  ((0x209b, 0x209c, 1), -8232), ((0x2102, 0x2102, 1), -8351), ((0x210a, 0x210b, 1), -8355),
  ((0x210c, 0x210c, 1), -8356), ((0x210d, 0x210d, 1), -8357), ((0x210e, 0x210e, 1), -8358),
  ((0x2110, 0x2110, 1), -8359), ((0x2111, 0x2111, 1), -8360), ((0x2112, 0x2112, 1), -8358),
  ((0x2113, 0x2113, 1), -8359), ((0x2115, 0x2115, 1), -8359), ((0x2119, 0x211b, 1), -8361),
  ((0x211c, 0x211c, 1), -8362), ((0x211d, 0x211d, 1), -8363), ((0x2124, 0x2124, 1), -8362),
  ((0x2128, 0x2128, 1), -8366), ((0x212a, 0x212a, 1), -8383), ((0x212c, 0x212d, 1), -8394),
  ((0x212f, 0x212f, 1), -8394), ((0x2130, 0x2131, 1), -8395), ((0x2133, 0x2133, 1), -8390),
  ((0x2134, 0x2134, 1), -8389), ((0x2139, 0x2139, 1), -8400), ((0x2145, 0x2145, 1), -8417),
  ((0x2146, 0x2147, 1), -8418), ((0x2148, 0x2149, 1), -8415), ((0x2160, 0x2160, 1), -8439),
  ((0x2164, 0x2164, 1), -8430), ((0x2169, 0x2169, 1), -8433), ((0x216c, 0x216c, 1), -8448),
  ((0x216d, 0x216e, 1), -8458), ((0x216f, 0x216f, 1), -8450), ((0x2170, 0x2170, 1), -8455),
  ((0x2174, 0x2174, 1), -8446), ((0x2179, 0x2179, 1), -8449), ((0x217c, 0x217c, 1), -8464),
  ((0x217d, 0x217e, 1), -8474), ((0x217f, 0x217f, 1), -8466), ((0x2460, 0x2468, 1), -9263),
  ((0x24b6, 0x24cf, 1), -9301), ((0x24d0, 0x24e9, 1), -9327), ((0x24ea, 0x24ea, 1), -9402),
  ((0x2c7c, 0x2c7c, 1), -11282), ((0x2c7d, 0x2c7d, 1), -11271), ((0x3002, 0x3002, 1), -12244),
  ((0xa7f1, 0xa7f1, 1), -42878), ((0xa7f2, 0xa7f2, 1), -42895), ((0xa7f3, 0xa7f3, 1), -42893),
  ((0xa7f4, 0xa7f4, 1), -42883), ((0xfb29, 0xfb29, 1), -64254), ((0xfe10, 0xfe10, 1), -64996),
  ((0xfe14, 0xfe14, 1), -64985), ((0xfe15, 0xfe15, 1), -65012), ((0xfe33, 0xfe33, 1), -64980),
  ((0xfe34, 0xfe34, 1), -64981), ((0xfe35, 0xfe36, 1), -65037), ((0xfe37, 0xfe37, 1), -64956),
  ((0xfe38, 0xfe38, 1), -64955), ((0xfe4d, 0xfe4d, 1), -65006), ((0xfe4e, 0xfe4e, 1), -65007),
  ((0xfe4f, 0xfe4f, 1), -65008), ((0xfe50, 0xfe50, 1), -65060), ((0xfe54, 0xfe54, 1), -65049),
  ((0xfe57, 0xfe57, 1), -65078), ((0xfe59, 0xfe5a, 1), -65073), ((0xfe5b, 0xfe5b, 1), -64992),
  ((0xfe5c, 0xfe5c, 1), -64991), ((0xfe60, 0xfe60, 1), -65082), ((0xfe61, 0xfe62, 1), -65079),
  ((0xfe63, 0xfe63, 1), -65078), ((0xfe66, 0xfe66, 1), -65065), ((0xfe69, 0xfe69, 1), -65093),
  ((0xff01, 0xff02, 1), -65248), ((0xff04, 0xff04, 1), -65248), ((0xff06, 0xff0e, 1), -65248),
  ((0xff10, 0xff19, 1), -65248), ((0xff1b, 0xff1b, 1), -65248), ((0xff1d, 0xff1d, 1), -65248),
  ((0xff21, 0xff3a, 1), -65216), ((0xff3f, 0xff5b, 1), -65248), ((0xff5d, 0xff5e, 1), -65248),
  ((0xff61, 0xff61, 1), -65331), ((0x107a5, 0x107a5, 1), -67380), ((0x1ccd6, 0x1ccef, 1), -117877),
  ((0x1ccf0, 0x1ccf9, 1), -117952), ((0x1d400, 0x1d419, 1), -119711),
  ((0x1d41a, 0x1d433, 1), -119737), ((0x1d434, 0x1d44d, 1), -119763),
  ((0x1d44e, 0x1d454, 1), -119789), ((0x1d456, 0x1d467, 1), -119789),
  ((0x1d468, 0x1d481, 1), -119815), ((0x1d482, 0x1d49b, 1), -119841),
  ((0x1d49c, 0x1d49c, 1), -119867), ((0x1d49e, 0x1d49f, 1), -119867),
  ((0x1d4a2, 0x1d4a2, 1), -119867), ((0x1d4a5, 0x1d4a6, 1), -119867),
  ((0x1d4a9, 0x1d4ac, 1), -119867), ((0x1d4ae, 0x1d4b5, 1), -119867),
  ((0x1d4b6, 0x1d4b9, 1), -119893), ((0x1d4bb, 0x1d4bb, 1), -119893),
  ((0x1d4bd, 0x1d4c3, 1), -119893), ((0x1d4c5, 0x1d4cf, 1), -119893),
  ((0x1d4d0, 0x1d4e9, 1), -119919), ((0x1d4ea, 0x1d503, 1), -119945),
  ((0x1d504, 0x1d505, 1), -119971), ((0x1d507, 0x1d50a, 1), -119971),
  ((0x1d50d, 0x1d514, 1), -119971), ((0x1d516, 0x1d51c, 1), -119971),
  ((0x1d51e, 0x1d537, 1), -119997), ((0x1d538, 0x1d539, 1), -120023),
  ((0x1d53b, 0x1d53e, 1), -120023), ((0x1d540, 0x1d544, 1), -120023),
  ((0x1d546, 0x1d546, 1), -120023), ((0x1d54a, 0x1d550, 1), -120023),
  ((0x1d552, 0x1d56b, 1), -120049), ((0x1d56c, 0x1d585, 1), -120075),
  ((0x1d586, 0x1d59f, 1), -120101), ((0x1d5a0, 0x1d5b9, 1), -120127),
  ((0x1d5ba, 0x1d5d3, 1), -120153), ((0x1d5d4, 0x1d5ed, 1), -120179),
  ((0x1d5ee, 0x1d607, 1), -120205), ((0x1d608, 0x1d621, 1), -120231),
  ((0x1d622, 0x1d63b, 1), -120257), ((0x1d63c, 0x1d655, 1), -120283),
  ((0x1d656, 0x1d66f, 1), -120309), ((0x1d670, 0x1d689, 1), -120335),
  ((0x1d68a, 0x1d6a3, 1), -120361), ((0x1d7ce, 0x1d7d7, 1), -120734),
  ((0x1d7d8, 0x1d7e1, 1), -120744), ((0x1d7e2, 0x1d7eb, 1), -120754),
  ((0x1d7ec, 0x1d7f5, 1), -120764), ((0x1d7f6, 0x1d7ff, 1), -120774),
  ((0x1f12b, 0x1f12b, 1), -127176), ((0x1f12c, 0x1f12c, 1), -127162),
  ((0x1f130, 0x1f149, 1), -127183), ((0x1fbf0, 0x1fbf9, 1), -129984)]

/-- Runs of characters that stand for numbers of two digits at a common distance. -/
def numberShifts : List (Run × Int) := [
  ((0x2469, 0x2473, 1), -9311), ((0x3251, 0x325f, 1), -12860), ((0x32b1, 0x32bf, 1), -12941)]

/-- Characters that stand for characters outside ASCII. -/
def variants : CodePoints := [
  (0xb5, 0xb5, 1), (0xbc, 0xbe, 1), (0xc0, 0xd6, 1), (0xd8, 0xde, 1), (0x100, 0x132, 2),
  (0x133, 0x134, 1), (0x136, 0x136, 1), (0x139, 0x13f, 2), (0x140, 0x141, 1), (0x143, 0x149, 2),
  (0x14a, 0x178, 2), (0x179, 0x17d, 2), (0x181, 0x182, 1), (0x184, 0x186, 2), (0x187, 0x189, 2),
  (0x18a, 0x18b, 1), (0x18e, 0x191, 1), (0x193, 0x194, 1), (0x196, 0x198, 1), (0x19c, 0x19d, 1),
  (0x19f, 0x1a0, 1), (0x1a2, 0x1a6, 2), (0x1a7, 0x1a9, 2), (0x1ac, 0x1ae, 2), (0x1af, 0x1b1, 2),
  (0x1b2, 0x1b3, 1), (0x1b5, 0x1b7, 2), (0x1b8, 0x1b8, 1), (0x1bc, 0x1bc, 1), (0x1c4, 0x1cd, 1),
  (0x1cf, 0x1db, 2), (0x1de, 0x1ee, 2), (0x1f1, 0x1f4, 1), (0x1f6, 0x1f8, 1), (0x1fa, 0x232, 2),
  (0x23a, 0x23b, 1), (0x23d, 0x23e, 1), (0x241, 0x243, 2), (0x244, 0x246, 1), (0x248, 0x24e, 2),
  (0x2b1, 0x2b1, 1), (0x2b4, 0x2b6, 1), (0x2e0, 0x2e0, 1), (0x2e4, 0x2e4, 1), (0x340, 0x341, 1),
  (0x343, 0x345, 1), (0x370, 0x376, 2), (0x37f, 0x37f, 1), (0x386, 0x38a, 1), (0x38c, 0x38e, 2),
  (0x38f, 0x391, 2), (0x392, 0x3a1, 1), (0x3a3, 0x3ab, 1), (0x3cf, 0x3d6, 1), (0x3d8, 0x3f0, 2),
  (0x3f1, 0x3f2, 1), (0x3f4, 0x3f5, 1), (0x3f7, 0x3f9, 2), (0x3fa, 0x3fa, 1), (0x3fd, 0x42f, 1),
  (0x460, 0x480, 2), (0x48a, 0x4c0, 2), (0x4c1, 0x4cd, 2), (0x4d0, 0x52e, 2), (0x531, 0x556, 1),
  (0x587, 0x587, 1), (0x675, 0x678, 1), (0x958, 0x95f, 1), (0x9dc, 0x9dd, 1), (0x9df, 0x9df, 1),
  (0xa33, 0xa33, 1), (0xa36, 0xa36, 1), (0xa59, 0xa5b, 1), (0xa5e, 0xa5e, 1), (0xb5c, 0xb5d, 1),
  (0xe33, 0xe33, 1), (0xeb3, 0xeb3, 1), (0xedc, 0xedd, 1), (0xf0c, 0xf0c, 1), (0xf43, 0xf43, 1),
  (0xf4d, 0xf4d, 1), (0xf52, 0xf52, 1), (0xf57, 0xf57, 1), (0xf5c, 0xf5c, 1), (0xf69, 0xf69, 1),
  (0xf73, 0xf75, 2), (0xf76, 0xf79, 1), (0xf81, 0xf81, 1), (0xf93, 0xf93, 1), (0xf9d, 0xf9d, 1),
  (0xfa2, 0xfa2, 1), (0xfa7, 0xfa7, 1), (0xfac, 0xfac, 1), (0xfb9, 0xfb9, 1), (0x10a0, 0x10c5, 1),
  (0x10c7, 0x10c7, 1), (0x10cd, 0x10cd, 1), (0x10fc, 0x10fc, 1), (0x13f8, 0x13fd, 1),
  (0x1c80, 0x1c89, 1), (0x1c90, 0x1cba, 1), (0x1cbd, 0x1cbf, 1), (0x1d2d, 0x1d2d, 1),
  (0x1d32, 0x1d32, 1), (0x1d3d, 0x1d3d, 1), (0x1d44, 0x1d46, 1), (0x1d4a, 0x1d4c, 1),
  (0x1d51, 0x1d53, 2), (0x1d54, 0x1d55, 1), (0x1d59, 0x1d5a, 1), (0x1d5c, 0x1d61, 1),
  (0x1d66, 0x1d6a, 1), (0x1d78, 0x1d78, 1), (0x1d9b, 0x1d9d, 2), (0x1d9e, 0x1d9f, 1),
  (0x1da1, 0x1dba, 1), (0x1dbc, 0x1dbf, 1), (0x1e00, 0x1e94, 2), (0x1e9a, 0x1e9b, 1),
  (0x1e9e, 0x1efe, 2), (0x1f08, 0x1f0f, 1), (0x1f18, 0x1f1d, 1), (0x1f28, 0x1f2f, 1),
  (0x1f38, 0x1f3f, 1), (0x1f48, 0x1f4d, 1), (0x1f59, 0x1f5f, 2), (0x1f68, 0x1f6f, 1),
  (0x1f71, 0x1f7d, 2), (0x1f80, 0x1faf, 1), (0x1fb2, 0x1fb4, 1), (0x1fb7, 0x1fbc, 1),
  (0x1fbe, 0x1fbe, 1), (0x1fc2, 0x1fc4, 1), (0x1fc7, 0x1fcc, 1), (0x1fd3, 0x1fd3, 1),
  (0x1fd8, 0x1fdb, 1), (0x1fe3, 0x1fe3, 1), (0x1fe8, 0x1fec, 1), (0x1ff2, 0x1ff4, 1),
  (0x1ff7, 0x1ffc, 1), (0x2011, 0x2011, 1), (0x2033, 0x2034, 1), (0x2036, 0x2037, 1),
  (0x203c, 0x203c, 1), (0x2057, 0x2057, 1), (0x207b, 0x207b, 1), (0x208b, 0x208b, 1),
  (0x2094, 0x2094, 1), (0x20a8, 0x20a8, 1), (0x2103, 0x2103, 1), (0x2107, 0x2109, 2),
  (0x210f, 0x210f, 1), (0x2116, 0x2116, 1), (0x2120, 0x2122, 1), (0x2126, 0x2126, 1),
  (0x212b, 0x212b, 1), (0x2132, 0x2132, 1), (0x2135, 0x2138, 1), (0x213b, 0x2140, 1),
  (0x2150, 0x215f, 1), (0x2161, 0x2163, 1), (0x2165, 0x2168, 1), (0x216a, 0x216b, 1),
  (0x2171, 0x2173, 1), (0x2175, 0x2178, 1), (0x217a, 0x217b, 1), (0x2183, 0x2183, 1),
  (0x2189, 0x2189, 1), (0x222c, 0x222d, 1), (0x222f, 0x2230, 1), (0x2329, 0x232a, 1),
  (0x2474, 0x2487, 1), (0x249c, 0x24b5, 1), (0x2a0c, 0x2a0c, 1), (0x2a75, 0x2a76, 1),
  (0x2adc, 0x2adc, 1), (0x2c00, 0x2c2f, 1), (0x2c60, 0x2c62, 2), (0x2c63, 0x2c64, 1),
  (0x2c67, 0x2c6d, 2), (0x2c6e, 0x2c70, 1), (0x2c72, 0x2c72, 1), (0x2c75, 0x2c75, 1),
  (0x2c7e, 0x2c80, 1), (0x2c82, 0x2ce2, 2), (0x2ceb, 0x2ced, 2), (0x2cf2, 0x2cf2, 1),
  (0x2d6f, 0x2d6f, 1), (0x2e9f, 0x2e9f, 1), (0x2ef3, 0x2ef3, 1), (0x2f00, 0x2fd5, 1),
  (0x3036, 0x3038, 2), (0x3039, 0x303a, 1), (0x309f, 0x309f, 1), (0x30ff, 0x30ff, 1),
  (0x3131, 0x3163, 1), (0x3165, 0x318e, 1), (0x3192, 0x319f, 1), (0x3200, 0x321e, 1),
  (0x3220, 0x3247, 1), (0x3250, 0x3250, 1), (0x3260, 0x327e, 1), (0x3280, 0x32b0, 1),
  (0x32c0, 0x33c1, 1), (0x33c3, 0x33c6, 1), (0x33c8, 0x33d7, 1), (0x33d9, 0x33ff, 1),
  (0xa640, 0xa66c, 2), (0xa680, 0xa69c, 2), (0xa69d, 0xa69d, 1), (0xa722, 0xa72e, 2),
  (0xa732, 0xa770, 2), (0xa779, 0xa77d, 2), (0xa77e, 0xa786, 2), (0xa78b, 0xa78d, 2),
  (0xa790, 0xa792, 2), (0xa796, 0xa7aa, 2), (0xa7ab, 0xa7ae, 1), (0xa7b0, 0xa7b4, 1),
  (0xa7b6, 0xa7c4, 2), (0xa7c5, 0xa7c7, 1), (0xa7c9, 0xa7cb, 2), (0xa7cc, 0xa7dc, 2),
  (0xa7f5, 0xa7f5, 1), (0xa7f8, 0xa7f9, 1), (0xab5c, 0xab5f, 1), (0xab69, 0xab69, 1),
  (0xab70, 0xabbf, 1), (0xf900, 0xfa0d, 1), (0xfa10, 0xfa12, 2), (0xfa15, 0xfa1e, 1),
  (0xfa20, 0xfa22, 2), (0xfa25, 0xfa26, 1), (0xfa2a, 0xfa6d, 1), (0xfa70, 0xfad9, 1),
  (0xfb00, 0xfb06, 1), (0xfb13, 0xfb17, 1), (0xfb1d, 0xfb1f, 2), (0xfb20, 0xfb28, 1),
  (0xfb2a, 0xfb36, 1), (0xfb38, 0xfb3c, 1), (0xfb3e, 0xfb40, 2), (0xfb41, 0xfb43, 2),
  (0xfb44, 0xfb46, 2), (0xfb47, 0xfbb1, 1), (0xfbd3, 0xfc5d, 1), (0xfc64, 0xfd3d, 1),
  (0xfd50, 0xfd8f, 1), (0xfd92, 0xfdc7, 1), (0xfdf0, 0xfdf9, 1), (0xfdfc, 0xfdfc, 1),
  (0xfe11, 0xfe11, 1), (0xfe17, 0xfe18, 1), (0xfe31, 0xfe32, 1), (0xfe39, 0xfe44, 1),
  (0xfe51, 0xfe51, 1), (0xfe58, 0xfe58, 1), (0xfe5d, 0xfe5e, 1), (0xfe71, 0xfe71, 1),
  (0xfe77, 0xfe7f, 2), (0xfe80, 0xfefc, 1), (0xff5f, 0xff60, 1), (0xff62, 0xff9f, 1),
  (0xffa1, 0xffbe, 1), (0xffc2, 0xffc7, 1), (0xffca, 0xffcf, 1), (0xffd2, 0xffd7, 1),
  (0xffda, 0xffdc, 1), (0xffe0, 0xffe2, 1), (0xffe4, 0xffe6, 1), (0xffe8, 0xffee, 1),
  (0x10400, 0x10427, 1), (0x104b0, 0x104d3, 1), (0x10570, 0x1057a, 1), (0x1057c, 0x1058a, 1),
  (0x1058c, 0x10592, 1), (0x10594, 0x10595, 1), (0x10781, 0x10785, 1), (0x10787, 0x107a4, 1),
  (0x107a6, 0x107b0, 1), (0x107b2, 0x107ba, 1), (0x10c80, 0x10cb2, 1), (0x10d50, 0x10d65, 1),
  (0x118a0, 0x118bf, 1), (0x16e40, 0x16e5f, 1), (0x16ea0, 0x16eb8, 1), (0x1d15e, 0x1d164, 1),
  (0x1d1bb, 0x1d1c0, 1), (0x1d6a4, 0x1d6a5, 1), (0x1d6a8, 0x1d7cb, 1), (0x1e030, 0x1e06d, 1),
  (0x1e900, 0x1e921, 1), (0x1ee00, 0x1ee03, 1), (0x1ee05, 0x1ee1f, 1), (0x1ee21, 0x1ee22, 1),
  (0x1ee24, 0x1ee24, 1), (0x1ee27, 0x1ee29, 2), (0x1ee2a, 0x1ee32, 1), (0x1ee34, 0x1ee37, 1),
  (0x1ee39, 0x1ee3b, 2), (0x1ee42, 0x1ee42, 1), (0x1ee47, 0x1ee4d, 2), (0x1ee4e, 0x1ee4f, 1),
  (0x1ee51, 0x1ee52, 1), (0x1ee54, 0x1ee54, 1), (0x1ee57, 0x1ee61, 2), (0x1ee62, 0x1ee64, 2),
  (0x1ee67, 0x1ee6a, 1), (0x1ee6c, 0x1ee72, 1), (0x1ee74, 0x1ee77, 1), (0x1ee79, 0x1ee7c, 1),
  (0x1ee7e, 0x1ee80, 2), (0x1ee81, 0x1ee89, 1), (0x1ee8b, 0x1ee9b, 1), (0x1eea1, 0x1eea3, 1),
  (0x1eea5, 0x1eea9, 1), (0x1eeab, 0x1eebb, 1), (0x1f101, 0x1f10a, 1), (0x1f110, 0x1f12a, 1),
  (0x1f12d, 0x1f12e, 1), (0x1f14a, 0x1f14f, 1), (0x1f16a, 0x1f16c, 1), (0x1f190, 0x1f190, 1),
  (0x1f200, 0x1f202, 1), (0x1f210, 0x1f23b, 1), (0x1f240, 0x1f248, 1), (0x1f250, 0x1f251, 1),
  (0x2f800, 0x2fa1d, 1)]

/-- ASCII characters that no name has. -/
def isForbidden (c : Char) : Bool :=
  c ≤ ' ' || c == '\x7f' || "%#/:<>?@[\\]^|".toList.contains c

/-- The number at the distance of a run that has the character. -/
def shifted? (shifts : List (Run × Int)) (c : Char) : Option Nat :=
  (shifts.find? (·.1.contains c.toNat)).map fun (_, shift) => (c.toNat + shift).toNat

def Standing.ofAscii (c : Char) : Standing :=
  if isForbidden c then .disallowed else if c.isUpper then .ascii [c.toLower] else .plain

/-- A mark is allowed although it is not printed on its own, and so are joiners. -/
def Standing.ofOther (c : Char) : Standing :=
  if ignorables.contains c then .ignored
  else if spaced.contains c then .disallowed
  else if variants.contains c then .variant
  else if isMark c || joiners.contains c then .plain
  else if Text.unprintable.contains c then .disallowed
  else
    match shifted? asciiShifts c, shifted? numberShifts c with
    | some code, _ => .ascii [.ofNat code]
    | none, some number => .ascii (toString number).toList
    | none, none => .plain

def Standing.ofChar (c : Char) : Standing := if c.toNat < 0x80 then .ofAscii c else .ofOther c

end RelProto.Network.Domain
