import KnowledgeBase.Text.Ranges

/-!
# Characters of domain names

A name is folded before it is looked up: each of its characters is kept, dropped, refused or
replaced.  Letters of ASCII fold to lower case, and characters with a meaning in addresses are
refused.  The rest is the mapping for internationalized names, version 17, as far as it decides
whether a name can be looked up and whether it is a number: of the characters that become others
outside ASCII, it tells no more than that.

## Main definitions

* `Domain.Folding`, `Domain.fold` — what becomes of a character.
-/

namespace KnowledgeBase.Domain

open Text

/-- What becomes of a character. -/
inductive Folding where
  /-- It stays as it is. -/
  | kept
  | dropped
  | refused
  /-- It is replaced. -/
  | becomes (cs : List Char)
  /-- It becomes characters outside ASCII, and can stand for them. -/
  | stands
deriving DecidableEq

/-! ### Refused characters -/

/-- The characters of ASCII, beside controls, that no name contains. -/
def delimiters : List Char := " %#/:<>?@[\\]^|\x7F".toList

/-- The refused ranges from U+0080 to U+1FFF: unassigned code points, controls, white space and what
becomes a delimiter. -/
def refusedLow : Ranges := [
  (0x80, 0xA0), (0xA8, 0xA8), (0xAF, 0xAF), (0xB4, 0xB4), (0xB8, 0xB8), (0x2D8, 0x2DD),
  (0x378, 0x37A), (0x380, 0x385), (0x38B, 0x38B), (0x38D, 0x38D), (0x3A2, 0x3A2), (0x530, 0x530),
  (0x557, 0x558), (0x58B, 0x58C), (0x590, 0x590), (0x5C8, 0x5CF), (0x5EB, 0x5EE), (0x5F5, 0x605),
  (0x61C, 0x61C), (0x6DD, 0x6DD), (0x70E, 0x70F), (0x74B, 0x74C), (0x7B2, 0x7BF), (0x7FB, 0x7FC),
  (0x82E, 0x82F), (0x83F, 0x83F), (0x85C, 0x85D), (0x85F, 0x85F), (0x86B, 0x86F), (0x890, 0x896),
  (0x8E2, 0x8E2), (0x984, 0x984), (0x98D, 0x98E), (0x991, 0x992), (0x9A9, 0x9A9), (0x9B1, 0x9B1),
  (0x9B3, 0x9B5), (0x9BA, 0x9BB), (0x9C5, 0x9C6), (0x9C9, 0x9CA), (0x9CF, 0x9D6), (0x9D8, 0x9DB),
  (0x9DE, 0x9DE), (0x9E4, 0x9E5), (0x9FF, 0xA00), (0xA04, 0xA04), (0xA0B, 0xA0E), (0xA11, 0xA12),
  (0xA29, 0xA29), (0xA31, 0xA31), (0xA34, 0xA34), (0xA37, 0xA37), (0xA3A, 0xA3B), (0xA3D, 0xA3D),
  (0xA43, 0xA46), (0xA49, 0xA4A), (0xA4E, 0xA50), (0xA52, 0xA58), (0xA5D, 0xA5D), (0xA5F, 0xA65),
  (0xA77, 0xA80), (0xA84, 0xA84), (0xA8E, 0xA8E), (0xA92, 0xA92), (0xAA9, 0xAA9), (0xAB1, 0xAB1),
  (0xAB4, 0xAB4), (0xABA, 0xABB), (0xAC6, 0xAC6), (0xACA, 0xACA), (0xACE, 0xACF), (0xAD1, 0xADF),
  (0xAE4, 0xAE5), (0xAF2, 0xAF8), (0xB00, 0xB00), (0xB04, 0xB04), (0xB0D, 0xB0E), (0xB11, 0xB12),
  (0xB29, 0xB29), (0xB31, 0xB31), (0xB34, 0xB34), (0xB3A, 0xB3B), (0xB45, 0xB46), (0xB49, 0xB4A),
  (0xB4E, 0xB54), (0xB58, 0xB5B), (0xB5E, 0xB5E), (0xB64, 0xB65), (0xB78, 0xB81), (0xB84, 0xB84),
  (0xB8B, 0xB8D), (0xB91, 0xB91), (0xB96, 0xB98), (0xB9B, 0xB9B), (0xB9D, 0xB9D), (0xBA0, 0xBA2),
  (0xBA5, 0xBA7), (0xBAB, 0xBAD), (0xBBA, 0xBBD), (0xBC3, 0xBC5), (0xBC9, 0xBC9), (0xBCE, 0xBCF),
  (0xBD1, 0xBD6), (0xBD8, 0xBE5), (0xBFB, 0xBFF), (0xC0D, 0xC0D), (0xC11, 0xC11), (0xC29, 0xC29),
  (0xC3A, 0xC3B), (0xC45, 0xC45), (0xC49, 0xC49), (0xC4E, 0xC54), (0xC57, 0xC57), (0xC5B, 0xC5B),
  (0xC5E, 0xC5F), (0xC64, 0xC65), (0xC70, 0xC76), (0xC8D, 0xC8D), (0xC91, 0xC91), (0xCA9, 0xCA9),
  (0xCB4, 0xCB4), (0xCBA, 0xCBB), (0xCC5, 0xCC5), (0xCC9, 0xCC9), (0xCCE, 0xCD4), (0xCD7, 0xCDB),
  (0xCDF, 0xCDF), (0xCE4, 0xCE5), (0xCF0, 0xCF0), (0xCF4, 0xCFF), (0xD0D, 0xD0D), (0xD11, 0xD11),
  (0xD45, 0xD45), (0xD49, 0xD49), (0xD50, 0xD53), (0xD64, 0xD65), (0xD80, 0xD80), (0xD84, 0xD84),
  (0xD97, 0xD99), (0xDB2, 0xDB2), (0xDBC, 0xDBC), (0xDBE, 0xDBF), (0xDC7, 0xDC9), (0xDCB, 0xDCE),
  (0xDD5, 0xDD5), (0xDD7, 0xDD7), (0xDE0, 0xDE5), (0xDF0, 0xDF1), (0xDF5, 0xE00), (0xE3B, 0xE3E),
  (0xE5C, 0xE80), (0xE83, 0xE83), (0xE85, 0xE85), (0xE8B, 0xE8B), (0xEA4, 0xEA4), (0xEA6, 0xEA6),
  (0xEBE, 0xEBF), (0xEC5, 0xEC5), (0xEC7, 0xEC7), (0xECF, 0xECF), (0xEDA, 0xEDB), (0xEE0, 0xEFF),
  (0xF48, 0xF48), (0xF6D, 0xF70), (0xF98, 0xF98), (0xFBD, 0xFBD), (0xFCD, 0xFCD), (0xFDB, 0xFFF),
  (0x10C6, 0x10C6), (0x10C8, 0x10CC), (0x10CE, 0x10CF), (0x1249, 0x1249), (0x124E, 0x124F),
  (0x1257, 0x1257), (0x1259, 0x1259), (0x125E, 0x125F), (0x1289, 0x1289), (0x128E, 0x128F),
  (0x12B1, 0x12B1), (0x12B6, 0x12B7), (0x12BF, 0x12BF), (0x12C1, 0x12C1), (0x12C6, 0x12C7),
  (0x12D7, 0x12D7), (0x1311, 0x1311), (0x1316, 0x1317), (0x135B, 0x135C), (0x137D, 0x137F),
  (0x139A, 0x139F), (0x13F6, 0x13F7), (0x13FE, 0x13FF), (0x1680, 0x1680), (0x169D, 0x169F),
  (0x16F9, 0x16FF), (0x1716, 0x171E), (0x1737, 0x173F), (0x1754, 0x175F), (0x176D, 0x176D),
  (0x1771, 0x1771), (0x1774, 0x177F), (0x17DE, 0x17DF), (0x17EA, 0x17EF), (0x17FA, 0x17FF),
  (0x181A, 0x181F), (0x1879, 0x187F), (0x18AB, 0x18AF), (0x18F6, 0x18FF), (0x191F, 0x191F),
  (0x192C, 0x192F), (0x193C, 0x193F), (0x1941, 0x1943), (0x196E, 0x196F), (0x1975, 0x197F),
  (0x19AC, 0x19AF), (0x19CA, 0x19CF), (0x19DB, 0x19DD), (0x1A1C, 0x1A1D), (0x1A5F, 0x1A5F),
  (0x1A7D, 0x1A7E), (0x1A8A, 0x1A8F), (0x1A9A, 0x1A9F), (0x1AAE, 0x1AAF), (0x1ADE, 0x1ADF),
  (0x1AEC, 0x1AFF), (0x1B4D, 0x1B4D), (0x1BF4, 0x1BFB), (0x1C38, 0x1C3A), (0x1C4A, 0x1C4C),
  (0x1C8B, 0x1C8F), (0x1CBB, 0x1CBC), (0x1CC8, 0x1CCF), (0x1CFB, 0x1CFF), (0x1F16, 0x1F17),
  (0x1F1E, 0x1F1F), (0x1F46, 0x1F47), (0x1F4E, 0x1F4F), (0x1F58, 0x1F58), (0x1F5A, 0x1F5A),
  (0x1F5C, 0x1F5C), (0x1F5E, 0x1F5E), (0x1F7E, 0x1F7F), (0x1FB5, 0x1FB5), (0x1FBD, 0x1FBD),
  (0x1FBF, 0x1FC1), (0x1FC5, 0x1FC5), (0x1FCD, 0x1FCF), (0x1FD4, 0x1FD5), (0x1FDC, 0x1FDF),
  (0x1FED, 0x1FEE), (0x1FF0, 0x1FF1), (0x1FF5, 0x1FF5), (0x1FFD, 0x200A)]

/-- The refused ranges from U+2000 to U+FFFF. -/
def refusedPlane : Ranges := [
  (0x200E, 0x200F), (0x2017, 0x2017), (0x2024, 0x2026), (0x2028, 0x202F), (0x203E, 0x203E),
  (0x2047, 0x2049), (0x205F, 0x205F), (0x2065, 0x2069), (0x2072, 0x2073), (0x208F, 0x208F),
  (0x209D, 0x209F), (0x20C2, 0x20CF), (0x20F1, 0x2101), (0x2105, 0x2106), (0x218C, 0x218F),
  (0x242A, 0x243F), (0x244B, 0x245F), (0x2488, 0x249B), (0x2A74, 0x2A74), (0x2B74, 0x2B75),
  (0x2CF4, 0x2CF8), (0x2D26, 0x2D26), (0x2D28, 0x2D2C), (0x2D2E, 0x2D2F), (0x2D68, 0x2D6E),
  (0x2D71, 0x2D7E), (0x2D97, 0x2D9F), (0x2DA7, 0x2DA7), (0x2DAF, 0x2DAF), (0x2DB7, 0x2DB7),
  (0x2DBF, 0x2DBF), (0x2DC7, 0x2DC7), (0x2DCF, 0x2DCF), (0x2DD7, 0x2DD7), (0x2DDF, 0x2DDF),
  (0x2E5E, 0x2E7F), (0x2E9A, 0x2E9A), (0x2EF4, 0x2EFF), (0x2FD6, 0x3000), (0x3040, 0x3040),
  (0x3097, 0x3098), (0x309B, 0x309C), (0x3100, 0x3104), (0x3130, 0x3130), (0x318F, 0x318F),
  (0x31E6, 0x31EF), (0x321F, 0x321F), (0x33C2, 0x33C2), (0x33C7, 0x33C7), (0x33D8, 0x33D8),
  (0xA48D, 0xA48F), (0xA4C7, 0xA4CF), (0xA62C, 0xA63F), (0xA6F8, 0xA6FF), (0xA7DD, 0xA7F0),
  (0xA82D, 0xA82F), (0xA83A, 0xA83F), (0xA878, 0xA87F), (0xA8C6, 0xA8CD), (0xA8DA, 0xA8DF),
  (0xA954, 0xA95E), (0xA97D, 0xA97F), (0xA9CE, 0xA9CE), (0xA9DA, 0xA9DD), (0xA9FF, 0xA9FF),
  (0xAA37, 0xAA3F), (0xAA4E, 0xAA4F), (0xAA5A, 0xAA5B), (0xAAC3, 0xAADA), (0xAAF7, 0xAB00),
  (0xAB07, 0xAB08), (0xAB0F, 0xAB10), (0xAB17, 0xAB1F), (0xAB27, 0xAB27), (0xAB2F, 0xAB2F),
  (0xAB6C, 0xAB6F), (0xABEE, 0xABEF), (0xABFA, 0xABFF), (0xD7A4, 0xD7AF), (0xD7C7, 0xD7CA),
  (0xD7FC, 0xD7FF), (0xE000, 0xF8FF), (0xFA6E, 0xFA6F), (0xFADA, 0xFAFF), (0xFB07, 0xFB12),
  (0xFB18, 0xFB1C), (0xFB37, 0xFB37), (0xFB3D, 0xFB3D), (0xFB3F, 0xFB3F), (0xFB42, 0xFB42),
  (0xFB45, 0xFB45), (0xFC5E, 0xFC63), (0xFDD0, 0xFDEF), (0xFDFA, 0xFDFB), (0xFE12, 0xFE13),
  (0xFE16, 0xFE16), (0xFE19, 0xFE1F), (0xFE30, 0xFE30), (0xFE47, 0xFE4C), (0xFE52, 0xFE53),
  (0xFE55, 0xFE56), (0xFE5F, 0xFE5F), (0xFE64, 0xFE65), (0xFE67, 0xFE68), (0xFE6A, 0xFE70),
  (0xFE72, 0xFE72), (0xFE74, 0xFE76), (0xFE78, 0xFE78), (0xFE7A, 0xFE7A), (0xFE7C, 0xFE7C),
  (0xFE7E, 0xFE7E), (0xFEFD, 0xFEFE), (0xFF00, 0xFF00), (0xFF03, 0xFF03), (0xFF05, 0xFF05),
  (0xFF0F, 0xFF0F), (0xFF1A, 0xFF1A), (0xFF1C, 0xFF1C), (0xFF1E, 0xFF20), (0xFF3B, 0xFF3E),
  (0xFF5C, 0xFF5C), (0xFFBF, 0xFFC1), (0xFFC8, 0xFFC9), (0xFFD0, 0xFFD1), (0xFFD8, 0xFFD9),
  (0xFFDD, 0xFFDF), (0xFFE3, 0xFFE3), (0xFFE7, 0xFFE7), (0xFFEF, 0xFFFF)]

/-- The refused ranges from U+10000. -/
def refusedHigh : Ranges := [
  (0x1000C, 0x1000C), (0x10027, 0x10027), (0x1003B, 0x1003B), (0x1003E, 0x1003E),
  (0x1004E, 0x1004F), (0x1005E, 0x1007F), (0x100FB, 0x100FF), (0x10103, 0x10106),
  (0x10134, 0x10136), (0x1018F, 0x1018F), (0x1019D, 0x1019F), (0x101A1, 0x101CF),
  (0x101FE, 0x1027F), (0x1029D, 0x1029F), (0x102D1, 0x102DF), (0x102FC, 0x102FF),
  (0x10324, 0x1032C), (0x1034B, 0x1034F), (0x1037B, 0x1037F), (0x1039E, 0x1039E),
  (0x103C4, 0x103C7), (0x103D6, 0x103FF), (0x1049E, 0x1049F), (0x104AA, 0x104AF),
  (0x104D4, 0x104D7), (0x104FC, 0x104FF), (0x10528, 0x1052F), (0x10564, 0x1056E),
  (0x1057B, 0x1057B), (0x1058B, 0x1058B), (0x10593, 0x10593), (0x10596, 0x10596),
  (0x105A2, 0x105A2), (0x105B2, 0x105B2), (0x105BA, 0x105BA), (0x105BD, 0x105BF),
  (0x105F4, 0x105FF), (0x10737, 0x1073F), (0x10756, 0x1075F), (0x10768, 0x1077F),
  (0x10786, 0x10786), (0x107B1, 0x107B1), (0x107BB, 0x107FF), (0x10806, 0x10807),
  (0x10809, 0x10809), (0x10836, 0x10836), (0x10839, 0x1083B), (0x1083D, 0x1083E),
  (0x10856, 0x10856), (0x1089F, 0x108A6), (0x108B0, 0x108DF), (0x108F3, 0x108F3),
  (0x108F6, 0x108FA), (0x1091C, 0x1091E), (0x1093A, 0x1093E), (0x1095A, 0x1097F),
  (0x109B8, 0x109BB), (0x109D0, 0x109D1), (0x10A04, 0x10A04), (0x10A07, 0x10A0B),
  (0x10A14, 0x10A14), (0x10A18, 0x10A18), (0x10A36, 0x10A37), (0x10A3B, 0x10A3E),
  (0x10A49, 0x10A4F), (0x10A59, 0x10A5F), (0x10AA0, 0x10ABF), (0x10AE7, 0x10AEA),
  (0x10AF7, 0x10AFF), (0x10B36, 0x10B38), (0x10B56, 0x10B57), (0x10B73, 0x10B77),
  (0x10B92, 0x10B98), (0x10B9D, 0x10BA8), (0x10BB0, 0x10BFF), (0x10C49, 0x10C7F),
  (0x10CB3, 0x10CBF), (0x10CF3, 0x10CF9), (0x10D28, 0x10D2F), (0x10D3A, 0x10D3F),
  (0x10D66, 0x10D68), (0x10D86, 0x10D8D), (0x10D90, 0x10E5F), (0x10E7F, 0x10E7F),
  (0x10EAA, 0x10EAA), (0x10EAE, 0x10EAF), (0x10EB2, 0x10EC1), (0x10EC8, 0x10ECF),
  (0x10ED9, 0x10EF9), (0x10F28, 0x10F2F), (0x10F5A, 0x10F6F), (0x10F8A, 0x10FAF),
  (0x10FCC, 0x10FDF), (0x10FF7, 0x10FFF), (0x1104E, 0x11051), (0x11076, 0x1107E),
  (0x110BD, 0x110BD), (0x110C3, 0x110CF), (0x110E9, 0x110EF), (0x110FA, 0x110FF),
  (0x11135, 0x11135), (0x11148, 0x1114F), (0x11177, 0x1117F), (0x111E0, 0x111E0),
  (0x111F5, 0x111FF), (0x11212, 0x11212), (0x11242, 0x1127F), (0x11287, 0x11287),
  (0x11289, 0x11289), (0x1128E, 0x1128E), (0x1129E, 0x1129E), (0x112AA, 0x112AF),
  (0x112EB, 0x112EF), (0x112FA, 0x112FF), (0x11304, 0x11304), (0x1130D, 0x1130E),
  (0x11311, 0x11312), (0x11329, 0x11329), (0x11331, 0x11331), (0x11334, 0x11334),
  (0x1133A, 0x1133A), (0x11345, 0x11346), (0x11349, 0x1134A), (0x1134E, 0x1134F),
  (0x11351, 0x11356), (0x11358, 0x1135C), (0x11364, 0x11365), (0x1136D, 0x1136F),
  (0x11375, 0x1137F), (0x1138A, 0x1138A), (0x1138C, 0x1138D), (0x1138F, 0x1138F),
  (0x113B6, 0x113B6), (0x113C1, 0x113C1), (0x113C3, 0x113C4), (0x113C6, 0x113C6),
  (0x113CB, 0x113CB), (0x113D6, 0x113D6), (0x113D9, 0x113E0), (0x113E3, 0x113FF),
  (0x1145C, 0x1145C), (0x11462, 0x1147F), (0x114C8, 0x114CF), (0x114DA, 0x1157F),
  (0x115B6, 0x115B7), (0x115DE, 0x115FF), (0x11645, 0x1164F), (0x1165A, 0x1165F),
  (0x1166D, 0x1167F), (0x116BA, 0x116BF), (0x116CA, 0x116CF), (0x116E4, 0x116FF),
  (0x1171B, 0x1171C), (0x1172C, 0x1172F), (0x11747, 0x117FF), (0x1183C, 0x1189F),
  (0x118F3, 0x118FE), (0x11907, 0x11908), (0x1190A, 0x1190B), (0x11914, 0x11914),
  (0x11917, 0x11917), (0x11936, 0x11936), (0x11939, 0x1193A), (0x11947, 0x1194F),
  (0x1195A, 0x1199F), (0x119A8, 0x119A9), (0x119D8, 0x119D9), (0x119E5, 0x119FF),
  (0x11A48, 0x11A4F), (0x11AA3, 0x11AAF), (0x11AF9, 0x11AFF), (0x11B0A, 0x11B5F),
  (0x11B68, 0x11BBF), (0x11BE2, 0x11BEF), (0x11BFA, 0x11BFF), (0x11C09, 0x11C09),
  (0x11C37, 0x11C37), (0x11C46, 0x11C4F), (0x11C6D, 0x11C6F), (0x11C90, 0x11C91),
  (0x11CA8, 0x11CA8), (0x11CB7, 0x11CFF), (0x11D07, 0x11D07), (0x11D0A, 0x11D0A),
  (0x11D37, 0x11D39), (0x11D3B, 0x11D3B), (0x11D3E, 0x11D3E), (0x11D48, 0x11D4F),
  (0x11D5A, 0x11D5F), (0x11D66, 0x11D66), (0x11D69, 0x11D69), (0x11D8F, 0x11D8F),
  (0x11D92, 0x11D92), (0x11D99, 0x11D9F), (0x11DAA, 0x11DAF), (0x11DDC, 0x11DDF),
  (0x11DEA, 0x11EDF), (0x11EF9, 0x11EFF), (0x11F11, 0x11F11), (0x11F3B, 0x11F3D),
  (0x11F5B, 0x11FAF), (0x11FB1, 0x11FBF), (0x11FF2, 0x11FFE), (0x1239A, 0x123FF),
  (0x1246F, 0x1246F), (0x12475, 0x1247F), (0x12544, 0x12F8F), (0x12FF3, 0x12FFF),
  (0x13430, 0x1343F), (0x13456, 0x1345F), (0x143FB, 0x143FF), (0x14647, 0x160FF),
  (0x1613A, 0x167FF), (0x16A39, 0x16A3F), (0x16A5F, 0x16A5F), (0x16A6A, 0x16A6D),
  (0x16ABF, 0x16ABF), (0x16ACA, 0x16ACF), (0x16AEE, 0x16AEF), (0x16AF6, 0x16AFF),
  (0x16B46, 0x16B4F), (0x16B5A, 0x16B5A), (0x16B62, 0x16B62), (0x16B78, 0x16B7C),
  (0x16B90, 0x16D3F), (0x16D7A, 0x16E3F), (0x16E9B, 0x16E9F), (0x16EB9, 0x16EBA),
  (0x16ED4, 0x16EFF), (0x16F4B, 0x16F4E), (0x16F88, 0x16F8E), (0x16FA0, 0x16FDF),
  (0x16FE5, 0x16FEF), (0x16FF7, 0x16FFF), (0x18CD6, 0x18CFE), (0x18D1F, 0x18D7F),
  (0x18DF3, 0x1AFEF), (0x1AFF4, 0x1AFF4), (0x1AFFC, 0x1AFFC), (0x1AFFF, 0x1AFFF),
  (0x1B123, 0x1B131), (0x1B133, 0x1B14F), (0x1B153, 0x1B154), (0x1B156, 0x1B163),
  (0x1B168, 0x1B16F), (0x1B2FC, 0x1BBFF), (0x1BC6B, 0x1BC6F), (0x1BC7D, 0x1BC7F),
  (0x1BC89, 0x1BC8F), (0x1BC9A, 0x1BC9B), (0x1BCA4, 0x1CBFF), (0x1CCFD, 0x1CCFF),
  (0x1CEB4, 0x1CEB9), (0x1CED1, 0x1CEDF), (0x1CEF1, 0x1CEFF), (0x1CF2E, 0x1CF2F),
  (0x1CF47, 0x1CF4F), (0x1CFC4, 0x1CFFF), (0x1D0F6, 0x1D0FF), (0x1D127, 0x1D128),
  (0x1D1EB, 0x1D1FF), (0x1D246, 0x1D2BF), (0x1D2D4, 0x1D2DF), (0x1D2F4, 0x1D2FF),
  (0x1D357, 0x1D35F), (0x1D379, 0x1D3FF), (0x1D455, 0x1D455), (0x1D49D, 0x1D49D),
  (0x1D4A0, 0x1D4A1), (0x1D4A3, 0x1D4A4), (0x1D4A7, 0x1D4A8), (0x1D4AD, 0x1D4AD),
  (0x1D4BA, 0x1D4BA), (0x1D4BC, 0x1D4BC), (0x1D4C4, 0x1D4C4), (0x1D506, 0x1D506),
  (0x1D50B, 0x1D50C), (0x1D515, 0x1D515), (0x1D51D, 0x1D51D), (0x1D53A, 0x1D53A),
  (0x1D53F, 0x1D53F), (0x1D545, 0x1D545), (0x1D547, 0x1D549), (0x1D551, 0x1D551),
  (0x1D6A6, 0x1D6A7), (0x1D7CC, 0x1D7CD), (0x1DA8C, 0x1DA9A), (0x1DAA0, 0x1DAA0),
  (0x1DAB0, 0x1DEFF), (0x1DF1F, 0x1DF24), (0x1DF2B, 0x1DFFF), (0x1E007, 0x1E007),
  (0x1E019, 0x1E01A), (0x1E022, 0x1E022), (0x1E025, 0x1E025), (0x1E02B, 0x1E02F),
  (0x1E06E, 0x1E08E), (0x1E090, 0x1E0FF), (0x1E12D, 0x1E12F), (0x1E13E, 0x1E13F),
  (0x1E14A, 0x1E14D), (0x1E150, 0x1E28F), (0x1E2AF, 0x1E2BF), (0x1E2FA, 0x1E2FE),
  (0x1E300, 0x1E4CF), (0x1E4FA, 0x1E5CF), (0x1E5FB, 0x1E5FE), (0x1E600, 0x1E6BF),
  (0x1E6DF, 0x1E6DF), (0x1E6F6, 0x1E6FD), (0x1E700, 0x1E7DF), (0x1E7E7, 0x1E7E7),
  (0x1E7EC, 0x1E7EC), (0x1E7EF, 0x1E7EF), (0x1E7FF, 0x1E7FF), (0x1E8C5, 0x1E8C6),
  (0x1E8D7, 0x1E8FF), (0x1E94C, 0x1E94F), (0x1E95A, 0x1E95D), (0x1E960, 0x1EC70),
  (0x1ECB5, 0x1ED00), (0x1ED3E, 0x1EDFF), (0x1EE04, 0x1EE04), (0x1EE20, 0x1EE20),
  (0x1EE23, 0x1EE23), (0x1EE25, 0x1EE26), (0x1EE28, 0x1EE28), (0x1EE33, 0x1EE33),
  (0x1EE38, 0x1EE38), (0x1EE3A, 0x1EE3A), (0x1EE3C, 0x1EE41), (0x1EE43, 0x1EE46),
  (0x1EE48, 0x1EE48), (0x1EE4A, 0x1EE4A), (0x1EE4C, 0x1EE4C), (0x1EE50, 0x1EE50),
  (0x1EE53, 0x1EE53), (0x1EE55, 0x1EE56), (0x1EE58, 0x1EE58), (0x1EE5A, 0x1EE5A),
  (0x1EE5C, 0x1EE5C), (0x1EE5E, 0x1EE5E), (0x1EE60, 0x1EE60), (0x1EE63, 0x1EE63),
  (0x1EE65, 0x1EE66), (0x1EE6B, 0x1EE6B), (0x1EE73, 0x1EE73), (0x1EE78, 0x1EE78),
  (0x1EE7D, 0x1EE7D), (0x1EE7F, 0x1EE7F), (0x1EE8A, 0x1EE8A), (0x1EE9C, 0x1EEA0),
  (0x1EEA4, 0x1EEA4), (0x1EEAA, 0x1EEAA), (0x1EEBC, 0x1EEEF), (0x1EEF2, 0x1EFFF),
  (0x1F02C, 0x1F02F), (0x1F094, 0x1F09F), (0x1F0AF, 0x1F0B0), (0x1F0C0, 0x1F0C0),
  (0x1F0D0, 0x1F0D0), (0x1F0F6, 0x1F100), (0x1F1AE, 0x1F1E5), (0x1F203, 0x1F20F),
  (0x1F23C, 0x1F23F), (0x1F249, 0x1F24F), (0x1F252, 0x1F25F), (0x1F266, 0x1F2FF),
  (0x1F6D9, 0x1F6DB), (0x1F6ED, 0x1F6EF), (0x1F6FD, 0x1F6FF), (0x1F7DA, 0x1F7DF),
  (0x1F7EC, 0x1F7EF), (0x1F7F1, 0x1F7FF), (0x1F80C, 0x1F80F), (0x1F848, 0x1F84F),
  (0x1F85A, 0x1F85F), (0x1F888, 0x1F88F), (0x1F8AE, 0x1F8AF), (0x1F8BC, 0x1F8BF),
  (0x1F8C2, 0x1F8CF), (0x1F8D9, 0x1F8FF), (0x1FA58, 0x1FA5F), (0x1FA6E, 0x1FA6F),
  (0x1FA7D, 0x1FA7F), (0x1FA8B, 0x1FA8D), (0x1FAC7, 0x1FAC7), (0x1FAC9, 0x1FACC),
  (0x1FADD, 0x1FADE), (0x1FAEB, 0x1FAEE), (0x1FAF9, 0x1FAFF), (0x1FB93, 0x1FB93),
  (0x1FBFB, 0x1FFFF), (0x2A6E0, 0x2A6FF), (0x2B81E, 0x2B81F), (0x2CEAE, 0x2CEAF),
  (0x2EBE1, 0x2EBEF), (0x2EE5E, 0x2F7FF), (0x2FA1E, 0x2FFFF), (0x3134B, 0x3134F),
  (0x3347A, 0xE00FF), (0xE01F0, 0x10FFFF)]

/-- Whether a character outside ASCII is refused. -/
def isRefused (c : Char) : Bool :=
  if c.toNat < 0x2000 then refusedLow.has c
  else if c.toNat < 0x10000 then refusedPlane.has c
  else refusedHigh.has c

/-! ### Dropped and replaced characters -/

/-- The invisible characters that are dropped. -/
def droppedRanges : Ranges := [
  (0xAD, 0xAD), (0x34F, 0x34F), (0x115F, 0x1160), (0x17B4, 0x17B5), (0x180B, 0x180F),
  (0x200B, 0x200B), (0x2060, 0x2064), (0x206A, 0x206F), (0x3164, 0x3164), (0xFE00, 0xFE0F),
  (0xFEFF, 0xFEFF), (0xFFA0, 0xFFA0), (0x1BCA0, 0x1BCA3), (0x1D173, 0x1D17A), (0xE0100, 0xE01EF)]

/-- The characters that become one character, mostly of ASCII: the first and the last of a run, and
what the first becomes. -/
def replacements : List (Nat × Nat × Nat) := [
  (0xAA, 0xAA, 0x61), (0xB2, 0xB3, 0x32), (0xB9, 0xB9, 0x31), (0xBA, 0xBA, 0x6F),
  (0x17F, 0x17F, 0x73), (0x2B0, 0x2B0, 0x68), (0x2B2, 0x2B2, 0x6A), (0x2B3, 0x2B3, 0x72),
  (0x2B7, 0x2B7, 0x77), (0x2B8, 0x2B8, 0x79), (0x2E1, 0x2E1, 0x6C), (0x2E2, 0x2E2, 0x73),
  (0x2E3, 0x2E3, 0x78), (0x345, 0x345, 0x3B9), (0x37E, 0x37E, 0x3B), (0xE33, 0xE33, 0xE4D),
  (0xEB3, 0xEB3, 0xECD), (0x1D2C, 0x1D2C, 0x61), (0x1D2E, 0x1D2E, 0x62), (0x1D30, 0x1D31, 0x64),
  (0x1D33, 0x1D3A, 0x67), (0x1D3C, 0x1D3C, 0x6F), (0x1D3E, 0x1D3E, 0x70), (0x1D3F, 0x1D3F, 0x72),
  (0x1D40, 0x1D41, 0x74), (0x1D42, 0x1D42, 0x77), (0x1D43, 0x1D43, 0x61), (0x1D47, 0x1D47, 0x62),
  (0x1D48, 0x1D49, 0x64), (0x1D4D, 0x1D4D, 0x67), (0x1D4F, 0x1D4F, 0x6B), (0x1D50, 0x1D50, 0x6D),
  (0x1D52, 0x1D52, 0x6F), (0x1D56, 0x1D56, 0x70), (0x1D57, 0x1D58, 0x74), (0x1D5B, 0x1D5B, 0x76),
  (0x1D62, 0x1D62, 0x69), (0x1D63, 0x1D63, 0x72), (0x1D64, 0x1D65, 0x75), (0x1D9C, 0x1D9C, 0x63),
  (0x1DA0, 0x1DA0, 0x66), (0x1DBB, 0x1DBB, 0x7A), (0x1FEF, 0x1FEF, 0x60), (0x2070, 0x2070, 0x30),
  (0x2071, 0x2071, 0x69), (0x2074, 0x2079, 0x34), (0x207A, 0x207A, 0x2B), (0x207C, 0x207C, 0x3D),
  (0x207D, 0x207E, 0x28), (0x207F, 0x207F, 0x6E), (0x2080, 0x2089, 0x30), (0x208A, 0x208A, 0x2B),
  (0x208C, 0x208C, 0x3D), (0x208D, 0x208E, 0x28), (0x2090, 0x2090, 0x61), (0x2091, 0x2091, 0x65),
  (0x2092, 0x2092, 0x6F), (0x2093, 0x2093, 0x78), (0x2095, 0x2095, 0x68), (0x2096, 0x2099, 0x6B),
  (0x209A, 0x209A, 0x70), (0x209B, 0x209C, 0x73), (0x2102, 0x2102, 0x63), (0x210A, 0x210B, 0x67),
  (0x210C, 0x210C, 0x68), (0x210D, 0x210D, 0x68), (0x210E, 0x210E, 0x68), (0x2110, 0x2110, 0x69),
  (0x2111, 0x2111, 0x69), (0x2112, 0x2112, 0x6C), (0x2113, 0x2113, 0x6C), (0x2115, 0x2115, 0x6E),
  (0x2119, 0x211B, 0x70), (0x211C, 0x211C, 0x72), (0x211D, 0x211D, 0x72), (0x2124, 0x2124, 0x7A),
  (0x2128, 0x2128, 0x7A), (0x212A, 0x212A, 0x6B), (0x212C, 0x212D, 0x62), (0x212F, 0x212F, 0x65),
  (0x2130, 0x2131, 0x65), (0x2133, 0x2133, 0x6D), (0x2134, 0x2134, 0x6F), (0x2135, 0x2138, 0x5D0),
  (0x2139, 0x2139, 0x69), (0x2145, 0x2145, 0x64), (0x2146, 0x2147, 0x64), (0x2148, 0x2149, 0x69),
  (0x2160, 0x2160, 0x69), (0x2164, 0x2164, 0x76), (0x2169, 0x2169, 0x78), (0x216C, 0x216C, 0x6C),
  (0x216D, 0x216E, 0x63), (0x216F, 0x216F, 0x6D), (0x2170, 0x2170, 0x69), (0x2174, 0x2174, 0x76),
  (0x2179, 0x2179, 0x78), (0x217C, 0x217C, 0x6C), (0x217D, 0x217E, 0x63), (0x217F, 0x217F, 0x6D),
  (0x2460, 0x2468, 0x31), (0x24B6, 0x24CF, 0x61), (0x24D0, 0x24E9, 0x61), (0x24EA, 0x24EA, 0x30),
  (0x2C7C, 0x2C7C, 0x6A), (0x2C7D, 0x2C7D, 0x76), (0x3002, 0x3002, 0x2E), (0xA7F1, 0xA7F1, 0x73),
  (0xA7F2, 0xA7F2, 0x63), (0xA7F3, 0xA7F3, 0x66), (0xA7F4, 0xA7F4, 0x71), (0xFB29, 0xFB29, 0x2B),
  (0xFE10, 0xFE10, 0x2C), (0xFE14, 0xFE14, 0x3B), (0xFE15, 0xFE15, 0x21), (0xFE33, 0xFE33, 0x5F),
  (0xFE34, 0xFE34, 0x5F), (0xFE35, 0xFE36, 0x28), (0xFE37, 0xFE37, 0x7B), (0xFE38, 0xFE38, 0x7D),
  (0xFE4D, 0xFE4D, 0x5F), (0xFE4E, 0xFE4E, 0x5F), (0xFE4F, 0xFE4F, 0x5F), (0xFE50, 0xFE50, 0x2C),
  (0xFE54, 0xFE54, 0x3B), (0xFE57, 0xFE57, 0x21), (0xFE59, 0xFE5A, 0x28), (0xFE5B, 0xFE5B, 0x7B),
  (0xFE5C, 0xFE5C, 0x7D), (0xFE60, 0xFE60, 0x26), (0xFE61, 0xFE62, 0x2A), (0xFE63, 0xFE63, 0x2D),
  (0xFE66, 0xFE66, 0x3D), (0xFE69, 0xFE69, 0x24), (0xFF01, 0xFF02, 0x21), (0xFF04, 0xFF04, 0x24),
  (0xFF06, 0xFF0E, 0x26), (0xFF10, 0xFF19, 0x30), (0xFF1B, 0xFF1B, 0x3B), (0xFF1D, 0xFF1D, 0x3D),
  (0xFF21, 0xFF3A, 0x61), (0xFF3F, 0xFF5B, 0x5F), (0xFF5D, 0xFF5E, 0x7D), (0xFF61, 0xFF61, 0x2E),
  (0xFF9E, 0xFF9F, 0x3099), (0x107A5, 0x107A5, 0x71), (0x1CCD6, 0x1CCEF, 0x61),
  (0x1CCF0, 0x1CCF9, 0x30), (0x1D400, 0x1D419, 0x61), (0x1D41A, 0x1D433, 0x61),
  (0x1D434, 0x1D44D, 0x61), (0x1D44E, 0x1D454, 0x61), (0x1D456, 0x1D467, 0x69),
  (0x1D468, 0x1D481, 0x61), (0x1D482, 0x1D49B, 0x61), (0x1D49C, 0x1D49C, 0x61),
  (0x1D49E, 0x1D49F, 0x63), (0x1D4A2, 0x1D4A2, 0x67), (0x1D4A5, 0x1D4A6, 0x6A),
  (0x1D4A9, 0x1D4AC, 0x6E), (0x1D4AE, 0x1D4B5, 0x73), (0x1D4B6, 0x1D4B9, 0x61),
  (0x1D4BB, 0x1D4BB, 0x66), (0x1D4BD, 0x1D4C3, 0x68), (0x1D4C5, 0x1D4CF, 0x70),
  (0x1D4D0, 0x1D4E9, 0x61), (0x1D4EA, 0x1D503, 0x61), (0x1D504, 0x1D505, 0x61),
  (0x1D507, 0x1D50A, 0x64), (0x1D50D, 0x1D514, 0x6A), (0x1D516, 0x1D51C, 0x73),
  (0x1D51E, 0x1D537, 0x61), (0x1D538, 0x1D539, 0x61), (0x1D53B, 0x1D53E, 0x64),
  (0x1D540, 0x1D544, 0x69), (0x1D546, 0x1D546, 0x6F), (0x1D54A, 0x1D550, 0x73),
  (0x1D552, 0x1D56B, 0x61), (0x1D56C, 0x1D585, 0x61), (0x1D586, 0x1D59F, 0x61),
  (0x1D5A0, 0x1D5B9, 0x61), (0x1D5BA, 0x1D5D3, 0x61), (0x1D5D4, 0x1D5ED, 0x61),
  (0x1D5EE, 0x1D607, 0x61), (0x1D608, 0x1D621, 0x61), (0x1D622, 0x1D63B, 0x61),
  (0x1D63C, 0x1D655, 0x61), (0x1D656, 0x1D66F, 0x61), (0x1D670, 0x1D689, 0x61),
  (0x1D68A, 0x1D6A3, 0x61), (0x1D7CE, 0x1D7D7, 0x30), (0x1D7D8, 0x1D7E1, 0x30),
  (0x1D7E2, 0x1D7EB, 0x30), (0x1D7EC, 0x1D7F5, 0x30), (0x1D7F6, 0x1D7FF, 0x30),
  (0x1F12B, 0x1F12B, 0x63), (0x1F12C, 0x1F12C, 0x72), (0x1F130, 0x1F149, 0x61),
  (0x1FBF0, 0x1FBF9, 0x30)]

/-- The circled numbers from ten: the first and the last of a run, and the number of the first. -/
def circledNumbers : List (Nat × Nat × Nat) := [
  (0x2469, 0x2473, 10), (0x3251, 0x325F, 21), (0x32B1, 0x32BF, 36)]

/-- The characters that are spelled in ASCII: the first of a run, and the spellings of the run. -/
def spellings : List (Nat × List String) := [
  (0x132, ["ij", "ij"]), (0x1C7, ["lj", "lj", "lj", "nj", "nj", "nj"]), (0x1F1, ["dz", "dz", "dz"]),
  (0x203C, ["!!"]), (0x20A8, ["rs"]), (0x2116, ["no"]), (0x2120, ["sm", "tel", "tm"]),
  (0x213B, ["fax"]), (0x2161, ["ii", "iii", "iv"]), (0x2165, ["vi", "vii", "viii", "ix"]),
  (0x216A, ["xi", "xii"]), (0x2171, ["ii", "iii", "iv"]), (0x2175, ["vi", "vii", "viii", "ix"]),
  (0x217A, ["xi", "xii"]), (0x2474, ["(1)", "(2)", "(3)", "(4)", "(5)", "(6)", "(7)", "(8)", "(9)",
   "(10)", "(11)", "(12)", "(13)", "(14)", "(15)", "(16)", "(17)", "(18)", "(19)", "(20)"]),
  (0x249C, ["(a)", "(b)", "(c)", "(d)", "(e)", "(f)", "(g)", "(h)", "(i)", "(j)", "(k)", "(l)",
   "(m)", "(n)", "(o)", "(p)", "(q)", "(r)", "(s)", "(t)", "(u)", "(v)", "(w)", "(x)", "(y)",
   "(z)"]), (0x2A75, ["==", "==="]), (0x3250, ["pte"]), (0x32CC, ["hg", "erg", "ev", "ltd"]),
  (0x3371, ["hpa", "da", "au", "bar", "ov", "pc", "dm", "dm2", "dm3", "iu"]), (0x3380, ["pa",
   "na"]), (0x3383, ["ma", "ka", "kb", "mb", "gb", "cal", "kcal", "pf", "nf"]), (0x338E, ["mg",
   "kg", "hz", "khz", "mhz", "ghz", "thz"]), (0x3396, ["ml", "dl", "kl", "fm", "nm"]),
  (0x339C, ["mm", "cm", "km", "mm2", "cm2", "m2", "km2", "mm3", "cm3", "m3", "km3"]),
  (0x33A9, ["pa", "kpa", "mpa", "gpa", "rad"]), (0x33B0, ["ps", "ns"]), (0x33B3, ["ms", "pv",
   "nv"]), (0x33B7, ["mv", "kv", "mv", "pw", "nw"]), (0x33BD, ["mw", "kw", "mw"]), (0x33C3, ["bq",
   "cc", "cd"]), (0x33C8, ["db", "gy", "ha", "hp", "in", "kk", "km", "kt", "lm", "ln", "log", "lx",
   "mb", "mil", "mol", "ph"]), (0x33D9, ["ppm", "pr", "sr", "sv", "wb"]), (0x33FF, ["gal"]),
  (0xFB00, ["ff", "fi", "fl", "ffi", "ffl", "st", "st"]), (0x1F101, ["0,", "1,", "2,", "3,", "4,",
   "5,", "6,", "7,", "8,", "9,"]), (0x1F110, ["(a)", "(b)", "(c)", "(d)", "(e)", "(f)", "(g)",
   "(h)", "(i)", "(j)", "(k)", "(l)", "(m)", "(n)", "(o)", "(p)", "(q)", "(r)", "(s)", "(t)", "(u)",
   "(v)", "(w)", "(x)", "(y)", "(z)"]), (0x1F12D, ["cd", "wz"]), (0x1F14A, ["hv", "mv", "sd", "ss",
   "ppv", "wc"]), (0x1F16A, ["mc", "md", "mr"]), (0x1F190, ["dj"])]

/-- The ranges of the characters that become others outside ASCII, or are spelled. -/
def standing : Ranges := [
  (0xB5, 0xB5), (0xBC, 0xBE), (0xC0, 0xD6), (0xD8, 0xDE), (0x132, 0x134), (0x136, 0x136),
  (0x13F, 0x141), (0x149, 0x14A), (0x178, 0x179), (0x17B, 0x17B), (0x17D, 0x17D), (0x181, 0x182),
  (0x184, 0x184), (0x186, 0x187), (0x189, 0x18B), (0x18E, 0x191), (0x193, 0x194), (0x196, 0x198),
  (0x19C, 0x19D), (0x19F, 0x1A0), (0x1A2, 0x1A2), (0x1A4, 0x1A4), (0x1A6, 0x1A7), (0x1A9, 0x1A9),
  (0x1AC, 0x1AC), (0x1AE, 0x1AF), (0x1B1, 0x1B3), (0x1B5, 0x1B5), (0x1B7, 0x1B8), (0x1BC, 0x1BC),
  (0x1C4, 0x1CD), (0x1F1, 0x1F4), (0x1F6, 0x1F8), (0x23A, 0x23B), (0x23D, 0x23E), (0x241, 0x241),
  (0x243, 0x246), (0x2B1, 0x2B1), (0x2B4, 0x2B6), (0x2E0, 0x2E0), (0x2E4, 0x2E4), (0x340, 0x341),
  (0x343, 0x344), (0x37F, 0x37F), (0x386, 0x38A), (0x38C, 0x38C), (0x38E, 0x38F), (0x391, 0x3A1),
  (0x3A3, 0x3AB), (0x3CF, 0x3D6), (0x3F0, 0x3F2), (0x3F4, 0x3F5), (0x3F7, 0x3F7), (0x3F9, 0x3FA),
  (0x3FD, 0x42F), (0x4C0, 0x4C1), (0x531, 0x556), (0x587, 0x587), (0x675, 0x678), (0x958, 0x95F),
  (0x9DC, 0x9DD), (0x9DF, 0x9DF), (0xA33, 0xA33), (0xA36, 0xA36), (0xA59, 0xA5B), (0xA5E, 0xA5E),
  (0xB5C, 0xB5D), (0xEDC, 0xEDD), (0xF0C, 0xF0C), (0xF43, 0xF43), (0xF4D, 0xF4D), (0xF52, 0xF52),
  (0xF57, 0xF57), (0xF5C, 0xF5C), (0xF69, 0xF69), (0xF73, 0xF73), (0xF75, 0xF79), (0xF81, 0xF81),
  (0xF93, 0xF93), (0xF9D, 0xF9D), (0xFA2, 0xFA2), (0xFA7, 0xFA7), (0xFAC, 0xFAC), (0xFB9, 0xFB9),
  (0x10A0, 0x10C5), (0x10C7, 0x10C7), (0x10CD, 0x10CD), (0x10FC, 0x10FC), (0x13F8, 0x13FD),
  (0x1C80, 0x1C89), (0x1C90, 0x1CBA), (0x1CBD, 0x1CBF), (0x1D2D, 0x1D2D), (0x1D32, 0x1D32),
  (0x1D3D, 0x1D3D), (0x1D44, 0x1D46), (0x1D4A, 0x1D4C), (0x1D51, 0x1D51), (0x1D53, 0x1D55),
  (0x1D59, 0x1D5A), (0x1D5C, 0x1D61), (0x1D66, 0x1D6A), (0x1D78, 0x1D78), (0x1D9B, 0x1D9B),
  (0x1D9D, 0x1D9F), (0x1DA1, 0x1DBA), (0x1DBC, 0x1DBF), (0x1E9A, 0x1E9B), (0x1F08, 0x1F0F),
  (0x1F18, 0x1F1D), (0x1F28, 0x1F2F), (0x1F38, 0x1F3F), (0x1F48, 0x1F4D), (0x1F68, 0x1F6F),
  (0x1F80, 0x1FAF), (0x1FB2, 0x1FB4), (0x1FB7, 0x1FBC), (0x1FBE, 0x1FBE), (0x1FC2, 0x1FC4),
  (0x1FC7, 0x1FCC), (0x1FD3, 0x1FD3), (0x1FD8, 0x1FDB), (0x1FE3, 0x1FE3), (0x1FE8, 0x1FEC),
  (0x1FF2, 0x1FF4), (0x1FF7, 0x1FFC), (0x2011, 0x2011), (0x2033, 0x2034), (0x2036, 0x2037),
  (0x203C, 0x203C), (0x2057, 0x2057), (0x207B, 0x207B), (0x208B, 0x208B), (0x2094, 0x2094),
  (0x20A8, 0x20A8), (0x2103, 0x2103), (0x2107, 0x2107), (0x2109, 0x2109), (0x210F, 0x210F),
  (0x2116, 0x2116), (0x2120, 0x2122), (0x2126, 0x2126), (0x212B, 0x212B), (0x2132, 0x2132),
  (0x213B, 0x2140), (0x2150, 0x215F), (0x2161, 0x2163), (0x2165, 0x2168), (0x216A, 0x216B),
  (0x2171, 0x2173), (0x2175, 0x2178), (0x217A, 0x217B), (0x2183, 0x2183), (0x2189, 0x2189),
  (0x222C, 0x222D), (0x222F, 0x2230), (0x2329, 0x232A), (0x2474, 0x2487), (0x249C, 0x24B5),
  (0x2A0C, 0x2A0C), (0x2A75, 0x2A76), (0x2ADC, 0x2ADC), (0x2C00, 0x2C2F), (0x2C60, 0x2C60),
  (0x2C62, 0x2C64), (0x2C6D, 0x2C70), (0x2C72, 0x2C72), (0x2C75, 0x2C75), (0x2C7E, 0x2C80),
  (0x2CEB, 0x2CEB), (0x2CED, 0x2CED), (0x2CF2, 0x2CF2), (0x2D6F, 0x2D6F), (0x2E9F, 0x2E9F),
  (0x2EF3, 0x2EF3), (0x2F00, 0x2FD5), (0x3036, 0x3036), (0x3038, 0x303A), (0x309F, 0x309F),
  (0x30FF, 0x30FF), (0x3131, 0x3163), (0x3165, 0x318E), (0x3192, 0x319F), (0x3200, 0x321E),
  (0x3220, 0x3247), (0x3250, 0x3250), (0x3260, 0x327E), (0x3280, 0x32B0), (0x32C0, 0x33C1),
  (0x33C3, 0x33C6), (0x33C8, 0x33D7), (0x33D9, 0x33FF), (0xA69C, 0xA69D), (0xA779, 0xA779),
  (0xA77B, 0xA77B), (0xA77D, 0xA77E), (0xA78B, 0xA78B), (0xA78D, 0xA78D), (0xA790, 0xA790),
  (0xA792, 0xA792), (0xA7AA, 0xA7AE), (0xA7B0, 0xA7B4), (0xA7C4, 0xA7C7), (0xA7C9, 0xA7C9),
  (0xA7CB, 0xA7CC), (0xA7F5, 0xA7F5), (0xA7F8, 0xA7F9), (0xAB5C, 0xAB5F), (0xAB69, 0xAB69),
  (0xAB70, 0xABBF), (0xF900, 0xFA0D), (0xFA10, 0xFA10), (0xFA12, 0xFA12), (0xFA15, 0xFA1E),
  (0xFA20, 0xFA20), (0xFA22, 0xFA22), (0xFA25, 0xFA26), (0xFA2A, 0xFA6D), (0xFA70, 0xFAD9),
  (0xFB00, 0xFB06), (0xFB13, 0xFB17), (0xFB1D, 0xFB1D), (0xFB1F, 0xFB28), (0xFB2A, 0xFB36),
  (0xFB38, 0xFB3C), (0xFB3E, 0xFB3E), (0xFB40, 0xFB41), (0xFB43, 0xFB44), (0xFB46, 0xFBB1),
  (0xFBD3, 0xFC5D), (0xFC64, 0xFD3D), (0xFD50, 0xFD8F), (0xFD92, 0xFDC7), (0xFDF0, 0xFDF9),
  (0xFDFC, 0xFDFC), (0xFE11, 0xFE11), (0xFE17, 0xFE18), (0xFE31, 0xFE32), (0xFE39, 0xFE44),
  (0xFE51, 0xFE51), (0xFE58, 0xFE58), (0xFE5D, 0xFE5E), (0xFE71, 0xFE71), (0xFE7F, 0xFEFC),
  (0xFF5F, 0xFF60), (0xFF62, 0xFF9D), (0xFFA1, 0xFFBE), (0xFFC2, 0xFFC7), (0xFFCA, 0xFFCF),
  (0xFFD2, 0xFFD7), (0xFFDA, 0xFFDC), (0xFFE0, 0xFFE2), (0xFFE4, 0xFFE6), (0xFFE8, 0xFFEE),
  (0x10400, 0x10427), (0x104B0, 0x104D3), (0x10570, 0x1057A), (0x1057C, 0x1058A),
  (0x1058C, 0x10592), (0x10594, 0x10595), (0x10781, 0x10785), (0x10787, 0x107A4),
  (0x107A6, 0x107B0), (0x107B2, 0x107BA), (0x10C80, 0x10CB2), (0x10D50, 0x10D65),
  (0x118A0, 0x118BF), (0x16E40, 0x16E5F), (0x16EA0, 0x16EB8), (0x1D15E, 0x1D164),
  (0x1D1BB, 0x1D1C0), (0x1D6A4, 0x1D6A5), (0x1D6A8, 0x1D7CB), (0x1E030, 0x1E06D),
  (0x1E900, 0x1E921), (0x1EE00, 0x1EE03), (0x1EE05, 0x1EE1F), (0x1EE21, 0x1EE22),
  (0x1EE24, 0x1EE24), (0x1EE27, 0x1EE27), (0x1EE29, 0x1EE32), (0x1EE34, 0x1EE37),
  (0x1EE39, 0x1EE39), (0x1EE3B, 0x1EE3B), (0x1EE42, 0x1EE42), (0x1EE4D, 0x1EE4F),
  (0x1EE51, 0x1EE52), (0x1EE54, 0x1EE54), (0x1EE61, 0x1EE62), (0x1EE64, 0x1EE64),
  (0x1EE67, 0x1EE6A), (0x1EE6C, 0x1EE72), (0x1EE74, 0x1EE77), (0x1EE79, 0x1EE7C),
  (0x1EE7E, 0x1EE7E), (0x1EE80, 0x1EE89), (0x1EE8B, 0x1EE9B), (0x1EEA1, 0x1EEA3),
  (0x1EEA5, 0x1EEA9), (0x1EEAB, 0x1EEBB), (0x1F101, 0x1F10A), (0x1F110, 0x1F12A),
  (0x1F12D, 0x1F12E), (0x1F14A, 0x1F14F), (0x1F16A, 0x1F16C), (0x1F190, 0x1F190),
  (0x1F200, 0x1F202), (0x1F210, 0x1F23B), (0x1F240, 0x1F248), (0x1F250, 0x1F251),
  (0x2F800, 0x2FA1D)]

/-- The ranges of which every second character, from the first on, becomes another: the capitals of
alphabets that alternate between the cases. -/
def standingPairs : Ranges := [
  (0x100, 0x130), (0x139, 0x13D), (0x143, 0x147), (0x14C, 0x176), (0x1CF, 0x1DB), (0x1DE, 0x1EE),
  (0x1FA, 0x232), (0x248, 0x24E), (0x370, 0x376), (0x3D8, 0x3EE), (0x460, 0x480), (0x48A, 0x4BE),
  (0x4C3, 0x4CD), (0x4D0, 0x52E), (0x1E00, 0x1E94), (0x1E9E, 0x1EFE), (0x1F59, 0x1F5F),
  (0x1F71, 0x1F7D), (0x2C67, 0x2C6B), (0x2C82, 0x2CE2), (0xA640, 0xA66C), (0xA680, 0xA69A),
  (0xA722, 0xA72E), (0xA732, 0xA770), (0xA780, 0xA786), (0xA796, 0xA7A8), (0xA7B6, 0xA7C2),
  (0xA7CE, 0xA7DC), (0xFE77, 0xFE7D), (0x1EE47, 0x1EE4B), (0x1EE57, 0x1EE5F)]

/-- The number of a character within a run, counted from `first`. -/
def within (c : Char) : Nat × Nat × Nat → Option Nat
  | (low, high, first) =>
    if low ≤ c.toNat && c.toNat ≤ high then some (first + (c.toNat - low)) else none

/-- The spelling of a character, if it lies within a run. -/
def spelled (c : Char) : Nat × List String → Option String
  | (low, spellings) => if low ≤ c.toNat then spellings[c.toNat - low]? else none

/-- Whether a character becomes others outside ASCII, or is spelled. -/
def isStanding (c : Char) : Bool :=
  standing.has c || standingPairs.any fun (low, high) =>
    low ≤ c.toNat && c.toNat ≤ high && (c.toNat - low) % 2 == 0

/-- What becomes of a character of ASCII. -/
def foldAscii (c : Char) : Folding :=
  if c.toNat < 0x20 || delimiters.contains c then .refused
  else if c.isUpper then .becomes [c.toLower]
  else .kept

/-- What becomes of a character. -/
def fold (c : Char) : Folding :=
  if c.toNat < 0x80 then foldAscii c
  else if isRefused c then .refused
  else if droppedRanges.has c then .dropped
  else if isStanding c then
    match spellings.findSome? (spelled c) with
    | some s => .becomes s.toList
    | none => .stands
  else
    match replacements.findSome? (within c), circledNumbers.findSome? (within c) with
    | some n, _ => .becomes [Char.ofNat n]
    | none, some n => .becomes (Nat.toDigits 10 n)
    | none, none => .kept

end KnowledgeBase.Domain
