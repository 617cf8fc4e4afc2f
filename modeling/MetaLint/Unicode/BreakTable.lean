import MetaLint.Unicode.CharSet

/-!
# Characters at breaks

Sets of characters that the classes for breaks between clusters, words and sentences add to or take
from other sets, in edition 16.0 of the character database.
-/

set_option autoImplicit false

namespace MetaLint.Unicode.Break

/-- Unassigned code points that clusters treat as controls. -/
def clusterControl : CharSet :=
  [(0x2065, 0x2065), (0xfff0, 0xfff8), (0xe0000, 0xe0000), (0xe0002, 0xe001f), (0xe0080, 0xe00ff),
   (0xe01f0, 0xe0fff)]

def clusterNoControl : CharSet :=
  [(0xa, 0xa), (0xd, 0xd), (0x600, 0x605), (0x6dd, 0x6dd), (0x70f, 0x70f), (0x890, 0x891),
   (0x8e2, 0x8e2), (0x200c, 0x200d), (0x110bd, 0x110bd), (0x110cd, 0x110cd), (0xe0020, 0xe007f)]

def clusterSpacingMark : CharSet :=
  [(0xe33, 0xe33), (0xeb3, 0xeb3)]

def clusterNoSpacingMark : CharSet :=
  [(0x102b, 0x102c), (0x1038, 0x1038), (0x1062, 0x1064), (0x1067, 0x106d), (0x1083, 0x1083),
   (0x1087, 0x108c), (0x108f, 0x108f), (0x109a, 0x109c), (0x1a61, 0x1a61), (0x1a63, 0x1a64),
   (0xaa7b, 0xaa7b), (0xaa7d, 0xaa7d), (0x11720, 0x11721)]

def clusterPrepend : CharSet :=
  [(0x600, 0x605), (0x6dd, 0x6dd), (0x70f, 0x70f), (0x890, 0x891), (0x8e2, 0x8e2), (0xd4e, 0xd4e),
   (0x110bd, 0x110bd), (0x110cd, 0x110cd), (0x111c2, 0x111c3), (0x113d1, 0x113d1),
   (0x1193f, 0x1193f), (0x11941, 0x11941), (0x11a3a, 0x11a3a), (0x11a84, 0x11a89),
   (0x11d46, 0x11d46), (0x11f02, 0x11f02)]

def leadingJamo : CharSet :=
  [(0x1100, 0x115f), (0xa960, 0xa97c)]

def vowelJamo : CharSet :=
  [(0x1160, 0x11a7), (0xd7b0, 0xd7c6), (0x16d63, 0x16d63), (0x16d67, 0x16d6a)]

def trailingJamo : CharSet :=
  [(0x11a8, 0x11ff), (0xd7cb, 0xd7fb)]

def wordLetterMore : CharSet :=
  [(0xb8, 0xb8), (0x2c2, 0x2c5), (0x2d2, 0x2d7), (0x2de, 0x2df), (0x2e5, 0x2eb), (0x2ed, 0x2ed),
   (0x2ef, 0x2ff), (0x55a, 0x55c), (0x55e, 0x55e), (0x58a, 0x58a), (0x5f3, 0x5f3), (0x70f, 0x70f),
   (0xa708, 0xa716), (0xa720, 0xa721), (0xa789, 0xa78a), (0xab5b, 0xab5b)]

def wordLetterLess : CharSet :=
  [(0xe01, 0xe30), (0xe32, 0xe33), (0xe40, 0xe46), (0xe81, 0xe82), (0xe84, 0xe84), (0xe86, 0xe8a),
   (0xe8c, 0xea3), (0xea5, 0xea5), (0xea7, 0xeb0), (0xeb2, 0xeb3), (0xebd, 0xebd), (0xec0, 0xec4),
   (0xec6, 0xec6), (0xedc, 0xedf), (0x1000, 0x102a), (0x103f, 0x103f), (0x1050, 0x1055),
   (0x105a, 0x105d), (0x1061, 0x1061), (0x1065, 0x1066), (0x106e, 0x1070), (0x1075, 0x1081),
   (0x108e, 0x108e), (0x1780, 0x17b3), (0x17d7, 0x17d7), (0x17dc, 0x17dc), (0x1950, 0x196d),
   (0x1970, 0x1974), (0x1980, 0x19ab), (0x19b0, 0x19c9), (0x1a20, 0x1a54), (0x1aa7, 0x1aa7),
   (0xa9e0, 0xa9e4), (0xa9e6, 0xa9ef), (0xa9fa, 0xa9fe), (0xaa60, 0xaa76), (0xaa7a, 0xaa7a),
   (0xaa7e, 0xaaaf), (0xaab1, 0xaab1), (0xaab5, 0xaab6), (0xaab9, 0xaabd), (0xaac0, 0xaac0),
   (0xaac2, 0xaac2), (0xaadb, 0xaadd), (0xff9e, 0xff9f), (0x11700, 0x1171a), (0x11740, 0x11746)]

def wordNumberMore : CharSet :=
  [(0x600, 0x605), (0x66b, 0x66b), (0x6dd, 0x6dd), (0x890, 0x891), (0x8e2, 0x8e2), (0x19da, 0x19da),
   (0x110bd, 0x110bd), (0x110cd, 0x110cd)]

def wordKatakanaMore : CharSet :=
  [(0x3031, 0x3035), (0x309b, 0x309c), (0x30a0, 0x30a0), (0x30fc, 0x30fc), (0xff70, 0xff70)]

def wordNoFormat : CharSet :=
  [(0x600, 0x605), (0x6dd, 0x6dd), (0x70f, 0x70f), (0x890, 0x891), (0x8e2, 0x8e2), (0x200b, 0x200d),
   (0x110bd, 0x110bd), (0x110cd, 0x110cd), (0xe0020, 0xe007f)]

def midLetter : CharSet :=
  [(0x3a, 0x3a), (0xb7, 0xb7), (0x387, 0x387), (0x55f, 0x55f), (0x5f4, 0x5f4), (0x2027, 0x2027),
   (0xfe13, 0xfe13), (0xfe55, 0xfe55), (0xff1a, 0xff1a)]

def midNumber : CharSet :=
  [(0x2c, 0x2c), (0x3b, 0x3b), (0x37e, 0x37e), (0x589, 0x589), (0x60c, 0x60d), (0x66c, 0x66c),
   (0x7f8, 0x7f8), (0x2044, 0x2044), (0xfe10, 0xfe10), (0xfe14, 0xfe14), (0xfe50, 0xfe50),
   (0xfe54, 0xfe54), (0xff0c, 0xff0c), (0xff1b, 0xff1b)]

def midNumberOrLetter : CharSet :=
  [(0x2e, 0x2e), (0x2018, 0x2019), (0x2024, 0x2024), (0xfe52, 0xfe52), (0xff07, 0xff07),
   (0xff0e, 0xff0e)]

def extendsNumberOrLetter : CharSet :=
  [(0x5f, 0x5f), (0x202f, 0x202f), (0x203f, 0x2040), (0x2054, 0x2054), (0xfe33, 0xfe34),
   (0xfe4d, 0xfe4f), (0xff3f, 0xff3f)]

def wordNewline : CharSet :=
  [(0xb, 0xc), (0x85, 0x85), (0x2028, 0x2029)]

def sentenceNoFormat : CharSet :=
  [(0x600, 0x605), (0x6dd, 0x6dd), (0x890, 0x891), (0x8e2, 0x8e2), (0x200c, 0x200d),
   (0x110bd, 0x110bd), (0x110cd, 0x110cd), (0xe0020, 0xe007f)]

def georgianSmall : CharSet :=
  [(0x10d0, 0x10fa), (0x10fd, 0x10ff)]

def georgianCapital : CharSet :=
  [(0x1c90, 0x1cba), (0x1cbd, 0x1cbf)]

def sentenceNumberMore : CharSet :=
  [(0x600, 0x605), (0x66b, 0x66c), (0x6dd, 0x6dd), (0x890, 0x891), (0x8e2, 0x8e2), (0x19da, 0x19da),
   (0x110bd, 0x110bd), (0x110cd, 0x110cd)]

def sentenceSeparator : CharSet :=
  [(0x85, 0x85), (0x2028, 0x2029)]

def sentenceContinue : CharSet :=
  [(0x2c, 0x2d), (0x3a, 0x3b), (0x37e, 0x37e), (0x55d, 0x55d), (0x60c, 0x60d), (0x7f8, 0x7f8),
   (0x1802, 0x1802), (0x1808, 0x1808), (0x2013, 0x2014), (0x3001, 0x3001), (0xfe10, 0xfe11),
   (0xfe13, 0xfe14), (0xfe31, 0xfe32), (0xfe50, 0xfe51), (0xfe54, 0xfe55), (0xfe58, 0xfe58),
   (0xfe63, 0xfe63), (0xff0c, 0xff0d), (0xff1a, 0xff1b), (0xff64, 0xff64)]

def ambiguousTerminal : CharSet :=
  [(0x2e, 0x2e), (0x2024, 0x2024), (0xfe52, 0xfe52), (0xff0e, 0xff0e)]

def sentenceCloseMore : CharSet :=
  [(0x275b, 0x2760), (0x2e00, 0x2e01), (0x2e06, 0x2e08), (0x2e0b, 0x2e0b), (0x1f676, 0x1f678)]

end MetaLint.Unicode.Break
