/-!
Where a text may be broken across lines, by the Unicode line breaking algorithm (UAX #14,
Unicode 15.0).

Every character has a line breaking class; the classes that the algorithm leaves to the
implementation are resolved the usual way (ambiguous, unknown and surrogate characters are
alphabetic, conditional Japanese starters are nonstarters, complex-context characters are
combining marks when they are marks and alphabetic otherwise). `breakOpportunities` walks the
classes once, left to right, applying the pair rules with the little context some of them need:
the class before a run of spaces, the class before the previous one, and the length of a run of
regional indicators.
-/
namespace PgBinding
namespace Text

/-- The line breaking classes. -/
inductive BreakClass where
  | mandatory | carriageReturn | lineFeed | nextLine | space | zeroWidthSpace | zeroWidthJoiner
  | combiningMark | wordJoiner | glue | breakAfter | breakBefore | breakBoth | hyphen | contingent
  | closePunctuation | closeParenthesis | exclamation | inseparable | nonstarter
  | openPunctuation | quotation | infixSeparator | numeric | postfixNumeric | prefixNumeric | symbol
  | alphabetic | hebrewLetter | ideographic | emojiBase | emojiModifier
  | hangulLV | hangulLVT | hangulL | hangulV | hangulT | regionalIndicator
  deriving Repr, DecidableEq, BEq

/-- Line breaking classes, part 1 of 4. -/
def classRanges1 : List (Nat × Nat × BreakClass) := [
  (0x0, 0x8, .combiningMark), (0x9, 0x9, .breakAfter), (0xA, 0xA, .lineFeed),
  (0xB, 0xC, .mandatory), (0xD, 0xD, .carriageReturn), (0xE, 0x1F, .combiningMark),
  (0x20, 0x20, .space), (0x21, 0x21, .exclamation), (0x22, 0x22, .quotation),
  (0x24, 0x24, .prefixNumeric), (0x25, 0x25, .postfixNumeric), (0x27, 0x27, .quotation),
  (0x28, 0x28, .openPunctuation), (0x29, 0x29, .closeParenthesis), (0x2B, 0x2B, .prefixNumeric),
  (0x2C, 0x2C, .infixSeparator), (0x2D, 0x2D, .hyphen), (0x2E, 0x2E, .infixSeparator),
  (0x2F, 0x2F, .symbol), (0x30, 0x39, .numeric), (0x3A, 0x3B, .infixSeparator),
  (0x3F, 0x3F, .exclamation), (0x5B, 0x5B, .openPunctuation), (0x5C, 0x5C, .prefixNumeric),
  (0x5D, 0x5D, .closeParenthesis), (0x7B, 0x7B, .openPunctuation), (0x7C, 0x7C, .breakAfter),
  (0x7D, 0x7D, .closePunctuation), (0x7F, 0x84, .combiningMark), (0x85, 0x85, .nextLine),
  (0x86, 0x9F, .combiningMark), (0xA0, 0xA0, .glue), (0xA1, 0xA1, .openPunctuation),
  (0xA2, 0xA2, .postfixNumeric), (0xA3, 0xA5, .prefixNumeric), (0xAB, 0xAB, .quotation),
  (0xAD, 0xAD, .breakAfter), (0xB0, 0xB0, .postfixNumeric), (0xB1, 0xB1, .prefixNumeric),
  (0xB4, 0xB4, .breakBefore), (0xBB, 0xBB, .quotation), (0xBF, 0xBF, .openPunctuation),
  (0x2C8, 0x2C8, .breakBefore), (0x2CC, 0x2CC, .breakBefore), (0x2DF, 0x2DF, .breakBefore),
  (0x300, 0x34E, .combiningMark), (0x34F, 0x34F, .glue), (0x350, 0x35B, .combiningMark),
  (0x35C, 0x362, .glue), (0x363, 0x36F, .combiningMark), (0x37E, 0x37E, .infixSeparator),
  (0x483, 0x489, .combiningMark), (0x589, 0x589, .infixSeparator), (0x58A, 0x58A, .breakAfter),
  (0x58F, 0x58F, .prefixNumeric), (0x591, 0x5BD, .combiningMark), (0x5BE, 0x5BE, .breakAfter),
  (0x5BF, 0x5BF, .combiningMark), (0x5C1, 0x5C2, .combiningMark), (0x5C4, 0x5C5, .combiningMark),
  (0x5C6, 0x5C6, .exclamation), (0x5C7, 0x5C7, .combiningMark), (0x5D0, 0x5EA, .hebrewLetter),
  (0x5EF, 0x5F2, .hebrewLetter), (0x609, 0x60B, .postfixNumeric), (0x60C, 0x60D, .infixSeparator),
  (0x610, 0x61A, .combiningMark), (0x61B, 0x61B, .exclamation), (0x61C, 0x61C, .combiningMark),
  (0x61D, 0x61F, .exclamation), (0x64B, 0x65F, .combiningMark), (0x660, 0x669, .numeric),
  (0x66A, 0x66A, .postfixNumeric), (0x66B, 0x66C, .numeric), (0x670, 0x670, .combiningMark),
  (0x6D4, 0x6D4, .exclamation), (0x6D6, 0x6DC, .combiningMark), (0x6DF, 0x6E4, .combiningMark),
  (0x6E7, 0x6E8, .combiningMark), (0x6EA, 0x6ED, .combiningMark), (0x6F0, 0x6F9, .numeric),
  (0x711, 0x711, .combiningMark), (0x730, 0x74A, .combiningMark), (0x7A6, 0x7B0, .combiningMark),
  (0x7C0, 0x7C9, .numeric), (0x7EB, 0x7F3, .combiningMark), (0x7F8, 0x7F8, .infixSeparator),
  (0x7F9, 0x7F9, .exclamation), (0x7FD, 0x7FD, .combiningMark), (0x7FE, 0x7FF, .prefixNumeric),
  (0x816, 0x819, .combiningMark), (0x81B, 0x823, .combiningMark), (0x825, 0x827, .combiningMark),
  (0x829, 0x82D, .combiningMark), (0x859, 0x85B, .combiningMark), (0x898, 0x89F, .combiningMark),
  (0x8CA, 0x8E1, .combiningMark), (0x8E3, 0x903, .combiningMark), (0x93A, 0x93C, .combiningMark),
  (0x93E, 0x94F, .combiningMark), (0x951, 0x957, .combiningMark), (0x962, 0x963, .combiningMark),
  (0x964, 0x965, .breakAfter), (0x966, 0x96F, .numeric), (0x981, 0x983, .combiningMark),
  (0x9BC, 0x9BC, .combiningMark), (0x9BE, 0x9C4, .combiningMark), (0x9C7, 0x9C8, .combiningMark),
  (0x9CB, 0x9CD, .combiningMark), (0x9D7, 0x9D7, .combiningMark), (0x9E2, 0x9E3, .combiningMark),
  (0x9E6, 0x9EF, .numeric), (0x9F2, 0x9F3, .postfixNumeric), (0x9F9, 0x9F9, .postfixNumeric),
  (0x9FB, 0x9FB, .prefixNumeric), (0x9FE, 0x9FE, .combiningMark), (0xA01, 0xA03, .combiningMark),
  (0xA3C, 0xA3C, .combiningMark), (0xA3E, 0xA42, .combiningMark), (0xA47, 0xA48, .combiningMark),
  (0xA4B, 0xA4D, .combiningMark), (0xA51, 0xA51, .combiningMark), (0xA66, 0xA6F, .numeric),
  (0xA70, 0xA71, .combiningMark), (0xA75, 0xA75, .combiningMark), (0xA81, 0xA83, .combiningMark),
  (0xABC, 0xABC, .combiningMark), (0xABE, 0xAC5, .combiningMark), (0xAC7, 0xAC9, .combiningMark),
  (0xACB, 0xACD, .combiningMark), (0xAE2, 0xAE3, .combiningMark), (0xAE6, 0xAEF, .numeric),
  (0xAF1, 0xAF1, .prefixNumeric), (0xAFA, 0xAFF, .combiningMark), (0xB01, 0xB03, .combiningMark),
  (0xB3C, 0xB3C, .combiningMark), (0xB3E, 0xB44, .combiningMark), (0xB47, 0xB48, .combiningMark),
  (0xB4B, 0xB4D, .combiningMark), (0xB55, 0xB57, .combiningMark), (0xB62, 0xB63, .combiningMark),
  (0xB66, 0xB6F, .numeric), (0xB82, 0xB82, .combiningMark), (0xBBE, 0xBC2, .combiningMark),
  (0xBC6, 0xBC8, .combiningMark), (0xBCA, 0xBCD, .combiningMark), (0xBD7, 0xBD7, .combiningMark),
  (0xBE6, 0xBEF, .numeric), (0xBF9, 0xBF9, .prefixNumeric), (0xC00, 0xC04, .combiningMark),
  (0xC3C, 0xC3C, .combiningMark), (0xC3E, 0xC44, .combiningMark), (0xC46, 0xC48, .combiningMark),
  (0xC4A, 0xC4D, .combiningMark), (0xC55, 0xC56, .combiningMark), (0xC62, 0xC63, .combiningMark),
  (0xC66, 0xC6F, .numeric), (0xC77, 0xC77, .breakBefore), (0xC81, 0xC83, .combiningMark),
  (0xC84, 0xC84, .breakBefore), (0xCBC, 0xCBC, .combiningMark), (0xCBE, 0xCC4, .combiningMark),
  (0xCC6, 0xCC8, .combiningMark), (0xCCA, 0xCCD, .combiningMark), (0xCD5, 0xCD6, .combiningMark),
  (0xCE2, 0xCE3, .combiningMark), (0xCE6, 0xCEF, .numeric), (0xCF3, 0xCF3, .combiningMark),
  (0xD00, 0xD03, .combiningMark), (0xD3B, 0xD3C, .combiningMark), (0xD3E, 0xD44, .combiningMark),
  (0xD46, 0xD48, .combiningMark), (0xD4A, 0xD4D, .combiningMark), (0xD57, 0xD57, .combiningMark),
  (0xD62, 0xD63, .combiningMark), (0xD66, 0xD6F, .numeric), (0xD79, 0xD79, .postfixNumeric),
  (0xD81, 0xD83, .combiningMark), (0xDCA, 0xDCA, .combiningMark), (0xDCF, 0xDD4, .combiningMark),
  (0xDD6, 0xDD6, .combiningMark), (0xDD8, 0xDDF, .combiningMark), (0xDE6, 0xDEF, .numeric),
  (0xDF2, 0xDF3, .combiningMark), (0xE31, 0xE31, .combiningMark), (0xE34, 0xE3A, .combiningMark),
  (0xE3F, 0xE3F, .prefixNumeric), (0xE47, 0xE4E, .combiningMark), (0xE50, 0xE59, .numeric),
  (0xE5A, 0xE5B, .breakAfter), (0xEB1, 0xEB1, .combiningMark), (0xEB4, 0xEBC, .combiningMark),
  (0xEC8, 0xECE, .combiningMark), (0xED0, 0xED9, .numeric), (0xF01, 0xF04, .breakBefore),
  (0xF06, 0xF07, .breakBefore), (0xF08, 0xF08, .glue), (0xF09, 0xF0A, .breakBefore),
  (0xF0B, 0xF0B, .breakAfter), (0xF0C, 0xF0C, .glue), (0xF0D, 0xF11, .exclamation),
  (0xF12, 0xF12, .glue), (0xF14, 0xF14, .exclamation), (0xF18, 0xF19, .combiningMark),
  (0xF20, 0xF29, .numeric), (0xF34, 0xF34, .breakAfter), (0xF35, 0xF35, .combiningMark),
  (0xF37, 0xF37, .combiningMark), (0xF39, 0xF39, .combiningMark),
  (0xF3A, 0xF3A, .openPunctuation), (0xF3B, 0xF3B, .closePunctuation),
  (0xF3C, 0xF3C, .openPunctuation), (0xF3D, 0xF3D, .closePunctuation),
  (0xF3E, 0xF3F, .combiningMark), (0xF71, 0xF7E, .combiningMark), (0xF7F, 0xF7F, .breakAfter),
  (0xF80, 0xF84, .combiningMark), (0xF85, 0xF85, .breakAfter), (0xF86, 0xF87, .combiningMark),
  (0xF8D, 0xF97, .combiningMark), (0xF99, 0xFBC, .combiningMark), (0xFBE, 0xFBF, .breakAfter),
  (0xFC6, 0xFC6, .combiningMark), (0xFD0, 0xFD1, .breakBefore), (0xFD2, 0xFD2, .breakAfter),
  (0xFD3, 0xFD3, .breakBefore), (0xFD9, 0xFDA, .glue), (0x102B, 0x103E, .combiningMark),
  (0x1040, 0x1049, .numeric), (0x104A, 0x104B, .breakAfter), (0x1056, 0x1059, .combiningMark),
  (0x105E, 0x1060, .combiningMark), (0x1062, 0x1064, .combiningMark),
  (0x1067, 0x106D, .combiningMark), (0x1071, 0x1074, .combiningMark),
  (0x1082, 0x108D, .combiningMark), (0x108F, 0x108F, .combiningMark), (0x1090, 0x1099, .numeric),
  (0x109A, 0x109D, .combiningMark), (0x1100, 0x115F, .hangulL), (0x1160, 0x11A7, .hangulV),
  (0x11A8, 0x11FF, .hangulT), (0x135D, 0x135F, .combiningMark), (0x1361, 0x1361, .breakAfter),
  (0x1400, 0x1400, .breakAfter), (0x1680, 0x1680, .breakAfter),
  (0x169B, 0x169B, .openPunctuation), (0x169C, 0x169C, .closePunctuation),
  (0x16EB, 0x16ED, .breakAfter), (0x1712, 0x1715, .combiningMark),
  (0x1732, 0x1734, .combiningMark), (0x1735, 0x1736, .breakAfter),
  (0x1752, 0x1753, .combiningMark), (0x1772, 0x1773, .combiningMark),
  (0x17B4, 0x17D3, .combiningMark), (0x17D4, 0x17D5, .breakAfter), (0x17D6, 0x17D6, .nonstarter),
  (0x17D8, 0x17D8, .breakAfter), (0x17DA, 0x17DA, .breakAfter), (0x17DB, 0x17DB, .prefixNumeric),
  (0x17DD, 0x17DD, .combiningMark), (0x17E0, 0x17E9, .numeric), (0x1802, 0x1803, .exclamation),
  (0x1804, 0x1805, .breakAfter), (0x1806, 0x1806, .breakBefore), (0x1808, 0x1809, .exclamation),
  (0x180B, 0x180D, .combiningMark), (0x180E, 0x180E, .glue), (0x180F, 0x180F, .combiningMark),
  (0x1810, 0x1819, .numeric), (0x1885, 0x1886, .combiningMark), (0x18A9, 0x18A9, .combiningMark),
  (0x1920, 0x192B, .combiningMark), (0x1930, 0x193B, .combiningMark),
  (0x1944, 0x1945, .exclamation), (0x1946, 0x194F, .numeric), (0x19D0, 0x19D9, .numeric),
  (0x1A17, 0x1A1B, .combiningMark), (0x1A55, 0x1A5E, .combiningMark),
  (0x1A60, 0x1A7C, .combiningMark)]

/-- Line breaking classes, part 2 of 4. -/
def classRanges2 : List (Nat × Nat × BreakClass) := [
  (0x1A7F, 0x1A7F, .combiningMark), (0x1A80, 0x1A89, .numeric), (0x1A90, 0x1A99, .numeric),
  (0x1AB0, 0x1ACE, .combiningMark), (0x1B00, 0x1B04, .combiningMark),
  (0x1B34, 0x1B44, .combiningMark), (0x1B50, 0x1B59, .numeric), (0x1B5A, 0x1B5B, .breakAfter),
  (0x1B5D, 0x1B60, .breakAfter), (0x1B6B, 0x1B73, .combiningMark), (0x1B7D, 0x1B7E, .breakAfter),
  (0x1B80, 0x1B82, .combiningMark), (0x1BA1, 0x1BAD, .combiningMark), (0x1BB0, 0x1BB9, .numeric),
  (0x1BE6, 0x1BF3, .combiningMark), (0x1C24, 0x1C37, .combiningMark),
  (0x1C3B, 0x1C3F, .breakAfter), (0x1C40, 0x1C49, .numeric), (0x1C50, 0x1C59, .numeric),
  (0x1C7E, 0x1C7F, .breakAfter), (0x1CD0, 0x1CD2, .combiningMark),
  (0x1CD4, 0x1CE8, .combiningMark), (0x1CED, 0x1CED, .combiningMark),
  (0x1CF4, 0x1CF4, .combiningMark), (0x1CF7, 0x1CF9, .combiningMark),
  (0x1DC0, 0x1DCC, .combiningMark), (0x1DCD, 0x1DCD, .glue), (0x1DCE, 0x1DFB, .combiningMark),
  (0x1DFC, 0x1DFC, .glue), (0x1DFD, 0x1DFF, .combiningMark), (0x1FFD, 0x1FFD, .breakBefore),
  (0x2000, 0x2006, .breakAfter), (0x2007, 0x2007, .glue), (0x2008, 0x200A, .breakAfter),
  (0x200B, 0x200B, .zeroWidthSpace), (0x200C, 0x200C, .combiningMark),
  (0x200D, 0x200D, .zeroWidthJoiner), (0x200E, 0x200F, .combiningMark),
  (0x2010, 0x2010, .breakAfter), (0x2011, 0x2011, .glue), (0x2012, 0x2013, .breakAfter),
  (0x2014, 0x2014, .breakBoth), (0x2018, 0x2019, .quotation), (0x201A, 0x201A, .openPunctuation),
  (0x201B, 0x201D, .quotation), (0x201E, 0x201E, .openPunctuation), (0x201F, 0x201F, .quotation),
  (0x2024, 0x2026, .inseparable), (0x2027, 0x2027, .breakAfter), (0x2028, 0x2029, .mandatory),
  (0x202A, 0x202E, .combiningMark), (0x202F, 0x202F, .glue), (0x2030, 0x2037, .postfixNumeric),
  (0x2039, 0x203A, .quotation), (0x203C, 0x203D, .nonstarter), (0x2044, 0x2044, .infixSeparator),
  (0x2045, 0x2045, .openPunctuation), (0x2046, 0x2046, .closePunctuation),
  (0x2047, 0x2049, .nonstarter), (0x2056, 0x2056, .breakAfter), (0x2057, 0x2057, .postfixNumeric),
  (0x2058, 0x205B, .breakAfter), (0x205D, 0x205F, .breakAfter), (0x2060, 0x2060, .wordJoiner),
  (0x2066, 0x206F, .combiningMark), (0x207D, 0x207D, .openPunctuation),
  (0x207E, 0x207E, .closePunctuation), (0x208D, 0x208D, .openPunctuation),
  (0x208E, 0x208E, .closePunctuation), (0x20A0, 0x20A6, .prefixNumeric), (0x20A7, 0x20A7, .postfixNumeric),
  (0x20A8, 0x20B5, .prefixNumeric), (0x20B6, 0x20B6, .postfixNumeric), (0x20B7, 0x20BA, .prefixNumeric),
  (0x20BB, 0x20BB, .postfixNumeric), (0x20BC, 0x20BD, .prefixNumeric), (0x20BE, 0x20BE, .postfixNumeric),
  (0x20BF, 0x20BF, .prefixNumeric), (0x20C0, 0x20C0, .postfixNumeric), (0x20C1, 0x20CF, .prefixNumeric),
  (0x20D0, 0x20F0, .combiningMark), (0x2103, 0x2103, .postfixNumeric), (0x2109, 0x2109, .postfixNumeric),
  (0x2116, 0x2116, .prefixNumeric), (0x2212, 0x2213, .prefixNumeric), (0x22EF, 0x22EF, .inseparable),
  (0x2308, 0x2308, .openPunctuation), (0x2309, 0x2309, .closePunctuation),
  (0x230A, 0x230A, .openPunctuation), (0x230B, 0x230B, .closePunctuation),
  (0x231A, 0x231B, .ideographic), (0x2329, 0x2329, .openPunctuation),
  (0x232A, 0x232A, .closePunctuation), (0x23F0, 0x23F3, .ideographic),
  (0x2600, 0x2603, .ideographic), (0x2614, 0x2615, .ideographic), (0x2618, 0x2618, .ideographic),
  (0x261A, 0x261C, .ideographic), (0x261D, 0x261D, .emojiBase), (0x261E, 0x261F, .ideographic),
  (0x2639, 0x263B, .ideographic), (0x2668, 0x2668, .ideographic), (0x267F, 0x267F, .ideographic),
  (0x26BD, 0x26C8, .ideographic), (0x26CD, 0x26CD, .ideographic), (0x26CF, 0x26D1, .ideographic),
  (0x26D3, 0x26D4, .ideographic), (0x26D8, 0x26D9, .ideographic), (0x26DC, 0x26DC, .ideographic),
  (0x26DF, 0x26E1, .ideographic), (0x26EA, 0x26EA, .ideographic), (0x26F1, 0x26F5, .ideographic),
  (0x26F7, 0x26F8, .ideographic), (0x26F9, 0x26F9, .emojiBase), (0x26FA, 0x26FA, .ideographic),
  (0x26FD, 0x2704, .ideographic), (0x2708, 0x2709, .ideographic), (0x270A, 0x270D, .emojiBase),
  (0x275B, 0x2760, .quotation), (0x2762, 0x2763, .exclamation), (0x2764, 0x2764, .ideographic),
  (0x2768, 0x2768, .openPunctuation), (0x2769, 0x2769, .closePunctuation),
  (0x276A, 0x276A, .openPunctuation), (0x276B, 0x276B, .closePunctuation),
  (0x276C, 0x276C, .openPunctuation), (0x276D, 0x276D, .closePunctuation),
  (0x276E, 0x276E, .openPunctuation), (0x276F, 0x276F, .closePunctuation),
  (0x2770, 0x2770, .openPunctuation), (0x2771, 0x2771, .closePunctuation),
  (0x2772, 0x2772, .openPunctuation), (0x2773, 0x2773, .closePunctuation),
  (0x2774, 0x2774, .openPunctuation), (0x2775, 0x2775, .closePunctuation),
  (0x27C5, 0x27C5, .openPunctuation), (0x27C6, 0x27C6, .closePunctuation),
  (0x27E6, 0x27E6, .openPunctuation), (0x27E7, 0x27E7, .closePunctuation),
  (0x27E8, 0x27E8, .openPunctuation), (0x27E9, 0x27E9, .closePunctuation),
  (0x27EA, 0x27EA, .openPunctuation), (0x27EB, 0x27EB, .closePunctuation),
  (0x27EC, 0x27EC, .openPunctuation), (0x27ED, 0x27ED, .closePunctuation),
  (0x27EE, 0x27EE, .openPunctuation), (0x27EF, 0x27EF, .closePunctuation),
  (0x2983, 0x2983, .openPunctuation), (0x2984, 0x2984, .closePunctuation),
  (0x2985, 0x2985, .openPunctuation), (0x2986, 0x2986, .closePunctuation),
  (0x2987, 0x2987, .openPunctuation), (0x2988, 0x2988, .closePunctuation),
  (0x2989, 0x2989, .openPunctuation), (0x298A, 0x298A, .closePunctuation),
  (0x298B, 0x298B, .openPunctuation), (0x298C, 0x298C, .closePunctuation),
  (0x298D, 0x298D, .openPunctuation), (0x298E, 0x298E, .closePunctuation),
  (0x298F, 0x298F, .openPunctuation), (0x2990, 0x2990, .closePunctuation),
  (0x2991, 0x2991, .openPunctuation), (0x2992, 0x2992, .closePunctuation),
  (0x2993, 0x2993, .openPunctuation), (0x2994, 0x2994, .closePunctuation),
  (0x2995, 0x2995, .openPunctuation), (0x2996, 0x2996, .closePunctuation),
  (0x2997, 0x2997, .openPunctuation), (0x2998, 0x2998, .closePunctuation),
  (0x29D8, 0x29D8, .openPunctuation), (0x29D9, 0x29D9, .closePunctuation),
  (0x29DA, 0x29DA, .openPunctuation), (0x29DB, 0x29DB, .closePunctuation),
  (0x29FC, 0x29FC, .openPunctuation), (0x29FD, 0x29FD, .closePunctuation),
  (0x2CEF, 0x2CF1, .combiningMark), (0x2CF9, 0x2CF9, .exclamation), (0x2CFA, 0x2CFC, .breakAfter),
  (0x2CFE, 0x2CFE, .exclamation), (0x2CFF, 0x2CFF, .breakAfter), (0x2D70, 0x2D70, .breakAfter),
  (0x2D7F, 0x2D7F, .combiningMark), (0x2DE0, 0x2DFF, .combiningMark),
  (0x2E00, 0x2E0D, .quotation), (0x2E0E, 0x2E15, .breakAfter), (0x2E17, 0x2E17, .breakAfter),
  (0x2E18, 0x2E18, .openPunctuation), (0x2E19, 0x2E19, .breakAfter), (0x2E1C, 0x2E1D, .quotation),
  (0x2E20, 0x2E21, .quotation), (0x2E22, 0x2E22, .openPunctuation),
  (0x2E23, 0x2E23, .closePunctuation), (0x2E24, 0x2E24, .openPunctuation),
  (0x2E25, 0x2E25, .closePunctuation), (0x2E26, 0x2E26, .openPunctuation),
  (0x2E27, 0x2E27, .closePunctuation), (0x2E28, 0x2E28, .openPunctuation),
  (0x2E29, 0x2E29, .closePunctuation), (0x2E2A, 0x2E2D, .breakAfter),
  (0x2E2E, 0x2E2E, .exclamation), (0x2E30, 0x2E31, .breakAfter), (0x2E33, 0x2E34, .breakAfter),
  (0x2E3A, 0x2E3B, .breakBoth), (0x2E3C, 0x2E3E, .breakAfter), (0x2E40, 0x2E41, .breakAfter),
  (0x2E42, 0x2E42, .openPunctuation), (0x2E43, 0x2E4A, .breakAfter),
  (0x2E4C, 0x2E4C, .breakAfter), (0x2E4E, 0x2E4F, .breakAfter), (0x2E53, 0x2E54, .exclamation),
  (0x2E55, 0x2E55, .openPunctuation), (0x2E56, 0x2E56, .closePunctuation),
  (0x2E57, 0x2E57, .openPunctuation), (0x2E58, 0x2E58, .closePunctuation),
  (0x2E59, 0x2E59, .openPunctuation), (0x2E5A, 0x2E5A, .closePunctuation),
  (0x2E5B, 0x2E5B, .openPunctuation), (0x2E5C, 0x2E5C, .closePunctuation),
  (0x2E5D, 0x2E5D, .breakAfter), (0x2E80, 0x2E99, .ideographic), (0x2E9B, 0x2EF3, .ideographic),
  (0x2F00, 0x2FD5, .ideographic), (0x2FF0, 0x2FFB, .ideographic), (0x3000, 0x3000, .breakAfter),
  (0x3001, 0x3002, .closePunctuation), (0x3003, 0x3004, .ideographic),
  (0x3005, 0x3005, .nonstarter), (0x3006, 0x3007, .ideographic),
  (0x3008, 0x3008, .openPunctuation), (0x3009, 0x3009, .closePunctuation),
  (0x300A, 0x300A, .openPunctuation), (0x300B, 0x300B, .closePunctuation),
  (0x300C, 0x300C, .openPunctuation), (0x300D, 0x300D, .closePunctuation),
  (0x300E, 0x300E, .openPunctuation), (0x300F, 0x300F, .closePunctuation),
  (0x3010, 0x3010, .openPunctuation), (0x3011, 0x3011, .closePunctuation),
  (0x3012, 0x3013, .ideographic), (0x3014, 0x3014, .openPunctuation),
  (0x3015, 0x3015, .closePunctuation), (0x3016, 0x3016, .openPunctuation),
  (0x3017, 0x3017, .closePunctuation), (0x3018, 0x3018, .openPunctuation),
  (0x3019, 0x3019, .closePunctuation), (0x301A, 0x301A, .openPunctuation),
  (0x301B, 0x301B, .closePunctuation), (0x301C, 0x301C, .nonstarter),
  (0x301D, 0x301D, .openPunctuation), (0x301E, 0x301F, .closePunctuation),
  (0x3020, 0x3029, .ideographic), (0x302A, 0x302F, .combiningMark),
  (0x3030, 0x3034, .ideographic), (0x3035, 0x3035, .combiningMark),
  (0x3036, 0x303A, .ideographic), (0x303B, 0x303C, .nonstarter), (0x303D, 0x303F, .ideographic),
  (0x3041, 0x3041, .nonstarter), (0x3042, 0x3042, .ideographic), (0x3043, 0x3043, .nonstarter),
  (0x3044, 0x3044, .ideographic), (0x3045, 0x3045, .nonstarter), (0x3046, 0x3046, .ideographic),
  (0x3047, 0x3047, .nonstarter), (0x3048, 0x3048, .ideographic), (0x3049, 0x3049, .nonstarter),
  (0x304A, 0x3062, .ideographic), (0x3063, 0x3063, .nonstarter), (0x3064, 0x3082, .ideographic),
  (0x3083, 0x3083, .nonstarter), (0x3084, 0x3084, .ideographic), (0x3085, 0x3085, .nonstarter),
  (0x3086, 0x3086, .ideographic), (0x3087, 0x3087, .nonstarter), (0x3088, 0x308D, .ideographic),
  (0x308E, 0x308E, .nonstarter), (0x308F, 0x3094, .ideographic), (0x3095, 0x3096, .nonstarter),
  (0x3099, 0x309A, .combiningMark), (0x309B, 0x309E, .nonstarter)]

/-- Line breaking classes, part 3 of 4. -/
def classRanges3 : List (Nat × Nat × BreakClass) := [
  (0x309F, 0x309F, .ideographic), (0x30A0, 0x30A1, .nonstarter), (0x30A2, 0x30A2, .ideographic),
  (0x30A3, 0x30A3, .nonstarter), (0x30A4, 0x30A4, .ideographic), (0x30A5, 0x30A5, .nonstarter),
  (0x30A6, 0x30A6, .ideographic), (0x30A7, 0x30A7, .nonstarter), (0x30A8, 0x30A8, .ideographic),
  (0x30A9, 0x30A9, .nonstarter), (0x30AA, 0x30C2, .ideographic), (0x30C3, 0x30C3, .nonstarter),
  (0x30C4, 0x30E2, .ideographic), (0x30E3, 0x30E3, .nonstarter), (0x30E4, 0x30E4, .ideographic),
  (0x30E5, 0x30E5, .nonstarter), (0x30E6, 0x30E6, .ideographic), (0x30E7, 0x30E7, .nonstarter),
  (0x30E8, 0x30ED, .ideographic), (0x30EE, 0x30EE, .nonstarter), (0x30EF, 0x30F4, .ideographic),
  (0x30F5, 0x30F6, .nonstarter), (0x30F7, 0x30FA, .ideographic), (0x30FB, 0x30FE, .nonstarter),
  (0x30FF, 0x30FF, .ideographic), (0x3105, 0x312F, .ideographic), (0x3131, 0x318E, .ideographic),
  (0x3190, 0x31E3, .ideographic), (0x31F0, 0x31FF, .nonstarter), (0x3200, 0x321E, .ideographic),
  (0x3220, 0x3247, .ideographic), (0x3250, 0x4DBF, .ideographic), (0x4E00, 0xA014, .ideographic),
  (0xA015, 0xA015, .nonstarter), (0xA016, 0xA48C, .ideographic), (0xA490, 0xA4C6, .ideographic),
  (0xA4FE, 0xA4FF, .breakAfter), (0xA60D, 0xA60D, .breakAfter), (0xA60E, 0xA60E, .exclamation),
  (0xA60F, 0xA60F, .breakAfter), (0xA620, 0xA629, .numeric), (0xA66F, 0xA672, .combiningMark),
  (0xA674, 0xA67D, .combiningMark), (0xA69E, 0xA69F, .combiningMark),
  (0xA6F0, 0xA6F1, .combiningMark), (0xA6F3, 0xA6F7, .breakAfter),
  (0xA802, 0xA802, .combiningMark), (0xA806, 0xA806, .combiningMark),
  (0xA80B, 0xA80B, .combiningMark), (0xA823, 0xA827, .combiningMark),
  (0xA82C, 0xA82C, .combiningMark), (0xA838, 0xA838, .postfixNumeric), (0xA874, 0xA875, .breakBefore),
  (0xA876, 0xA877, .exclamation), (0xA880, 0xA881, .combiningMark),
  (0xA8B4, 0xA8C5, .combiningMark), (0xA8CE, 0xA8CF, .breakAfter), (0xA8D0, 0xA8D9, .numeric),
  (0xA8E0, 0xA8F1, .combiningMark), (0xA8FC, 0xA8FC, .breakBefore),
  (0xA8FF, 0xA8FF, .combiningMark), (0xA900, 0xA909, .numeric), (0xA926, 0xA92D, .combiningMark),
  (0xA92E, 0xA92F, .breakAfter), (0xA947, 0xA953, .combiningMark), (0xA960, 0xA97C, .hangulL),
  (0xA980, 0xA983, .combiningMark), (0xA9B3, 0xA9C0, .combiningMark),
  (0xA9C7, 0xA9C9, .breakAfter), (0xA9D0, 0xA9D9, .numeric), (0xA9E5, 0xA9E5, .combiningMark),
  (0xA9F0, 0xA9F9, .numeric), (0xAA29, 0xAA36, .combiningMark), (0xAA43, 0xAA43, .combiningMark),
  (0xAA4C, 0xAA4D, .combiningMark), (0xAA50, 0xAA59, .numeric), (0xAA5D, 0xAA5F, .breakAfter),
  (0xAA7B, 0xAA7D, .combiningMark), (0xAAB0, 0xAAB0, .combiningMark),
  (0xAAB2, 0xAAB4, .combiningMark), (0xAAB7, 0xAAB8, .combiningMark),
  (0xAABE, 0xAABF, .combiningMark), (0xAAC1, 0xAAC1, .combiningMark),
  (0xAAEB, 0xAAEF, .combiningMark), (0xAAF0, 0xAAF1, .breakAfter),
  (0xAAF5, 0xAAF6, .combiningMark), (0xABE3, 0xABEA, .combiningMark),
  (0xABEB, 0xABEB, .breakAfter), (0xABEC, 0xABED, .combiningMark), (0xABF0, 0xABF9, .numeric),
  (0xD7B0, 0xD7C6, .hangulV), (0xD7CB, 0xD7FB, .hangulT), (0xF900, 0xFAFF, .ideographic),
  (0xFB1D, 0xFB1D, .hebrewLetter), (0xFB1E, 0xFB1E, .combiningMark),
  (0xFB1F, 0xFB28, .hebrewLetter), (0xFB2A, 0xFB36, .hebrewLetter),
  (0xFB38, 0xFB3C, .hebrewLetter), (0xFB3E, 0xFB3E, .hebrewLetter),
  (0xFB40, 0xFB41, .hebrewLetter), (0xFB43, 0xFB44, .hebrewLetter),
  (0xFB46, 0xFB4F, .hebrewLetter), (0xFD3E, 0xFD3E, .closePunctuation),
  (0xFD3F, 0xFD3F, .openPunctuation), (0xFDFC, 0xFDFC, .postfixNumeric),
  (0xFE00, 0xFE0F, .combiningMark), (0xFE10, 0xFE10, .infixSeparator),
  (0xFE11, 0xFE12, .closePunctuation), (0xFE13, 0xFE14, .infixSeparator),
  (0xFE15, 0xFE16, .exclamation), (0xFE17, 0xFE17, .openPunctuation),
  (0xFE18, 0xFE18, .closePunctuation), (0xFE19, 0xFE19, .inseparable),
  (0xFE20, 0xFE2F, .combiningMark), (0xFE30, 0xFE34, .ideographic),
  (0xFE35, 0xFE35, .openPunctuation), (0xFE36, 0xFE36, .closePunctuation),
  (0xFE37, 0xFE37, .openPunctuation), (0xFE38, 0xFE38, .closePunctuation),
  (0xFE39, 0xFE39, .openPunctuation), (0xFE3A, 0xFE3A, .closePunctuation),
  (0xFE3B, 0xFE3B, .openPunctuation), (0xFE3C, 0xFE3C, .closePunctuation),
  (0xFE3D, 0xFE3D, .openPunctuation), (0xFE3E, 0xFE3E, .closePunctuation),
  (0xFE3F, 0xFE3F, .openPunctuation), (0xFE40, 0xFE40, .closePunctuation),
  (0xFE41, 0xFE41, .openPunctuation), (0xFE42, 0xFE42, .closePunctuation),
  (0xFE43, 0xFE43, .openPunctuation), (0xFE44, 0xFE44, .closePunctuation),
  (0xFE45, 0xFE46, .ideographic), (0xFE47, 0xFE47, .openPunctuation),
  (0xFE48, 0xFE48, .closePunctuation), (0xFE49, 0xFE4F, .ideographic),
  (0xFE50, 0xFE50, .closePunctuation), (0xFE51, 0xFE51, .ideographic),
  (0xFE52, 0xFE52, .closePunctuation), (0xFE54, 0xFE55, .nonstarter),
  (0xFE56, 0xFE57, .exclamation), (0xFE58, 0xFE58, .ideographic),
  (0xFE59, 0xFE59, .openPunctuation), (0xFE5A, 0xFE5A, .closePunctuation),
  (0xFE5B, 0xFE5B, .openPunctuation), (0xFE5C, 0xFE5C, .closePunctuation),
  (0xFE5D, 0xFE5D, .openPunctuation), (0xFE5E, 0xFE5E, .closePunctuation),
  (0xFE5F, 0xFE66, .ideographic), (0xFE68, 0xFE68, .ideographic), (0xFE69, 0xFE69, .prefixNumeric),
  (0xFE6A, 0xFE6A, .postfixNumeric), (0xFE6B, 0xFE6B, .ideographic), (0xFEFF, 0xFEFF, .wordJoiner),
  (0xFF01, 0xFF01, .exclamation), (0xFF02, 0xFF03, .ideographic), (0xFF04, 0xFF04, .prefixNumeric),
  (0xFF05, 0xFF05, .postfixNumeric), (0xFF06, 0xFF07, .ideographic), (0xFF08, 0xFF08, .openPunctuation),
  (0xFF09, 0xFF09, .closePunctuation), (0xFF0A, 0xFF0B, .ideographic),
  (0xFF0C, 0xFF0C, .closePunctuation), (0xFF0D, 0xFF0D, .ideographic),
  (0xFF0E, 0xFF0E, .closePunctuation), (0xFF0F, 0xFF19, .ideographic),
  (0xFF1A, 0xFF1B, .nonstarter), (0xFF1C, 0xFF1E, .ideographic), (0xFF1F, 0xFF1F, .exclamation),
  (0xFF20, 0xFF3A, .ideographic), (0xFF3B, 0xFF3B, .openPunctuation),
  (0xFF3C, 0xFF3C, .ideographic), (0xFF3D, 0xFF3D, .closePunctuation),
  (0xFF3E, 0xFF5A, .ideographic), (0xFF5B, 0xFF5B, .openPunctuation),
  (0xFF5C, 0xFF5C, .ideographic), (0xFF5D, 0xFF5D, .closePunctuation),
  (0xFF5E, 0xFF5E, .ideographic), (0xFF5F, 0xFF5F, .openPunctuation),
  (0xFF60, 0xFF61, .closePunctuation), (0xFF62, 0xFF62, .openPunctuation),
  (0xFF63, 0xFF64, .closePunctuation), (0xFF65, 0xFF65, .nonstarter),
  (0xFF66, 0xFF66, .ideographic), (0xFF67, 0xFF70, .nonstarter), (0xFF71, 0xFF9D, .ideographic),
  (0xFF9E, 0xFF9F, .nonstarter), (0xFFA0, 0xFFBE, .ideographic), (0xFFC2, 0xFFC7, .ideographic),
  (0xFFCA, 0xFFCF, .ideographic), (0xFFD2, 0xFFD7, .ideographic), (0xFFDA, 0xFFDC, .ideographic),
  (0xFFE0, 0xFFE0, .postfixNumeric), (0xFFE1, 0xFFE1, .prefixNumeric), (0xFFE2, 0xFFE4, .ideographic),
  (0xFFE5, 0xFFE6, .prefixNumeric), (0xFFF9, 0xFFFB, .combiningMark), (0xFFFC, 0xFFFC, .contingent),
  (0x10100, 0x10102, .breakAfter), (0x101FD, 0x101FD, .combiningMark),
  (0x102E0, 0x102E0, .combiningMark), (0x10376, 0x1037A, .combiningMark),
  (0x1039F, 0x1039F, .breakAfter), (0x103D0, 0x103D0, .breakAfter), (0x104A0, 0x104A9, .numeric),
  (0x10857, 0x10857, .breakAfter), (0x1091F, 0x1091F, .breakAfter),
  (0x10A01, 0x10A03, .combiningMark), (0x10A05, 0x10A06, .combiningMark),
  (0x10A0C, 0x10A0F, .combiningMark), (0x10A38, 0x10A3A, .combiningMark),
  (0x10A3F, 0x10A3F, .combiningMark), (0x10A50, 0x10A57, .breakAfter),
  (0x10AE5, 0x10AE6, .combiningMark), (0x10AF0, 0x10AF5, .breakAfter),
  (0x10AF6, 0x10AF6, .inseparable), (0x10B39, 0x10B3F, .breakAfter),
  (0x10D24, 0x10D27, .combiningMark), (0x10D30, 0x10D39, .numeric),
  (0x10EAB, 0x10EAC, .combiningMark), (0x10EAD, 0x10EAD, .breakAfter),
  (0x10EFD, 0x10EFF, .combiningMark), (0x10F46, 0x10F50, .combiningMark),
  (0x10F82, 0x10F85, .combiningMark), (0x11000, 0x11002, .combiningMark),
  (0x11038, 0x11046, .combiningMark), (0x11047, 0x11048, .breakAfter),
  (0x11066, 0x1106F, .numeric), (0x11070, 0x11070, .combiningMark),
  (0x11073, 0x11074, .combiningMark), (0x1107F, 0x11082, .combiningMark),
  (0x110B0, 0x110BA, .combiningMark), (0x110BE, 0x110C1, .breakAfter),
  (0x110C2, 0x110C2, .combiningMark), (0x110F0, 0x110F9, .numeric),
  (0x11100, 0x11102, .combiningMark), (0x11127, 0x11134, .combiningMark),
  (0x11136, 0x1113F, .numeric), (0x11140, 0x11143, .breakAfter),
  (0x11145, 0x11146, .combiningMark), (0x11173, 0x11173, .combiningMark),
  (0x11175, 0x11175, .breakBefore), (0x11180, 0x11182, .combiningMark),
  (0x111B3, 0x111C0, .combiningMark), (0x111C5, 0x111C6, .breakAfter),
  (0x111C8, 0x111C8, .breakAfter), (0x111C9, 0x111CC, .combiningMark),
  (0x111CE, 0x111CF, .combiningMark), (0x111D0, 0x111D9, .numeric),
  (0x111DB, 0x111DB, .breakBefore), (0x111DD, 0x111DF, .breakAfter),
  (0x1122C, 0x11237, .combiningMark), (0x11238, 0x11239, .breakAfter),
  (0x1123B, 0x1123C, .breakAfter), (0x1123E, 0x1123E, .combiningMark),
  (0x11241, 0x11241, .combiningMark), (0x112A9, 0x112A9, .breakAfter),
  (0x112DF, 0x112EA, .combiningMark), (0x112F0, 0x112F9, .numeric),
  (0x11300, 0x11303, .combiningMark), (0x1133B, 0x1133C, .combiningMark),
  (0x1133E, 0x11344, .combiningMark), (0x11347, 0x11348, .combiningMark),
  (0x1134B, 0x1134D, .combiningMark), (0x11357, 0x11357, .combiningMark),
  (0x11362, 0x11363, .combiningMark), (0x11366, 0x1136C, .combiningMark),
  (0x11370, 0x11374, .combiningMark), (0x11435, 0x11446, .combiningMark),
  (0x1144B, 0x1144E, .breakAfter), (0x11450, 0x11459, .numeric), (0x1145A, 0x1145B, .breakAfter),
  (0x1145E, 0x1145E, .combiningMark), (0x114B0, 0x114C3, .combiningMark),
  (0x114D0, 0x114D9, .numeric), (0x115AF, 0x115B5, .combiningMark),
  (0x115B8, 0x115C0, .combiningMark), (0x115C1, 0x115C1, .breakBefore),
  (0x115C2, 0x115C3, .breakAfter), (0x115C4, 0x115C5, .exclamation),
  (0x115C9, 0x115D7, .breakAfter)]

/-- Line breaking classes, part 4 of 4. -/
def classRanges4 : List (Nat × Nat × BreakClass) := [
  (0x115DC, 0x115DD, .combiningMark), (0x11630, 0x11640, .combiningMark),
  (0x11641, 0x11642, .breakAfter), (0x11650, 0x11659, .numeric), (0x11660, 0x1166C, .breakBefore),
  (0x116AB, 0x116B7, .combiningMark), (0x116C0, 0x116C9, .numeric),
  (0x1171D, 0x1172B, .combiningMark), (0x11730, 0x11739, .numeric),
  (0x1173C, 0x1173E, .breakAfter), (0x1182C, 0x1183A, .combiningMark),
  (0x118E0, 0x118E9, .numeric), (0x11930, 0x11935, .combiningMark),
  (0x11937, 0x11938, .combiningMark), (0x1193B, 0x1193E, .combiningMark),
  (0x11940, 0x11940, .combiningMark), (0x11942, 0x11943, .combiningMark),
  (0x11944, 0x11946, .breakAfter), (0x11950, 0x11959, .numeric),
  (0x119D1, 0x119D7, .combiningMark), (0x119DA, 0x119E0, .combiningMark),
  (0x119E2, 0x119E2, .breakBefore), (0x119E4, 0x119E4, .combiningMark),
  (0x11A01, 0x11A0A, .combiningMark), (0x11A33, 0x11A39, .combiningMark),
  (0x11A3B, 0x11A3E, .combiningMark), (0x11A3F, 0x11A3F, .breakBefore),
  (0x11A41, 0x11A44, .breakAfter), (0x11A45, 0x11A45, .breakBefore),
  (0x11A47, 0x11A47, .combiningMark), (0x11A51, 0x11A5B, .combiningMark),
  (0x11A8A, 0x11A99, .combiningMark), (0x11A9A, 0x11A9C, .breakAfter),
  (0x11A9E, 0x11AA0, .breakBefore), (0x11AA1, 0x11AA2, .breakAfter),
  (0x11B00, 0x11B09, .breakBefore), (0x11C2F, 0x11C36, .combiningMark),
  (0x11C38, 0x11C3F, .combiningMark), (0x11C41, 0x11C45, .breakAfter),
  (0x11C50, 0x11C59, .numeric), (0x11C70, 0x11C70, .breakBefore),
  (0x11C71, 0x11C71, .exclamation), (0x11C92, 0x11CA7, .combiningMark),
  (0x11CA9, 0x11CB6, .combiningMark), (0x11D31, 0x11D36, .combiningMark),
  (0x11D3A, 0x11D3A, .combiningMark), (0x11D3C, 0x11D3D, .combiningMark),
  (0x11D3F, 0x11D45, .combiningMark), (0x11D47, 0x11D47, .combiningMark),
  (0x11D50, 0x11D59, .numeric), (0x11D8A, 0x11D8E, .combiningMark),
  (0x11D90, 0x11D91, .combiningMark), (0x11D93, 0x11D97, .combiningMark),
  (0x11DA0, 0x11DA9, .numeric), (0x11EF3, 0x11EF6, .combiningMark),
  (0x11F00, 0x11F01, .combiningMark), (0x11F03, 0x11F03, .combiningMark),
  (0x11F34, 0x11F3A, .combiningMark), (0x11F3E, 0x11F42, .combiningMark),
  (0x11F43, 0x11F44, .breakAfter), (0x11F45, 0x11F4F, .ideographic), (0x11F50, 0x11F59, .numeric),
  (0x11FDD, 0x11FE0, .postfixNumeric), (0x11FFF, 0x11FFF, .breakAfter), (0x12470, 0x12474, .breakAfter),
  (0x13258, 0x1325A, .openPunctuation), (0x1325B, 0x1325D, .closePunctuation),
  (0x13282, 0x13282, .closePunctuation), (0x13286, 0x13286, .openPunctuation),
  (0x13287, 0x13287, .closePunctuation), (0x13288, 0x13288, .openPunctuation),
  (0x13289, 0x13289, .closePunctuation), (0x13379, 0x13379, .openPunctuation),
  (0x1337A, 0x1337B, .closePunctuation), (0x13430, 0x13436, .glue),
  (0x13437, 0x13437, .openPunctuation), (0x13438, 0x13438, .closePunctuation),
  (0x13439, 0x1343B, .glue), (0x1343C, 0x1343C, .openPunctuation),
  (0x1343D, 0x1343D, .closePunctuation), (0x1343E, 0x1343E, .openPunctuation),
  (0x1343F, 0x1343F, .closePunctuation), (0x13440, 0x13440, .combiningMark),
  (0x13447, 0x13455, .combiningMark), (0x145CE, 0x145CE, .openPunctuation),
  (0x145CF, 0x145CF, .closePunctuation), (0x16A60, 0x16A69, .numeric),
  (0x16A6E, 0x16A6F, .breakAfter), (0x16AC0, 0x16AC9, .numeric),
  (0x16AF0, 0x16AF4, .combiningMark), (0x16AF5, 0x16AF5, .breakAfter),
  (0x16B30, 0x16B36, .combiningMark), (0x16B37, 0x16B39, .breakAfter),
  (0x16B44, 0x16B44, .breakAfter), (0x16B50, 0x16B59, .numeric), (0x16E97, 0x16E98, .breakAfter),
  (0x16F4F, 0x16F4F, .combiningMark), (0x16F51, 0x16F87, .combiningMark),
  (0x16F8F, 0x16F92, .combiningMark), (0x16FE0, 0x16FE3, .nonstarter), (0x16FE4, 0x16FE4, .glue),
  (0x16FF0, 0x16FF1, .combiningMark), (0x17000, 0x187F7, .ideographic),
  (0x18800, 0x18AFF, .ideographic), (0x18D00, 0x18D08, .ideographic),
  (0x1B000, 0x1B122, .ideographic), (0x1B132, 0x1B132, .nonstarter),
  (0x1B150, 0x1B152, .nonstarter), (0x1B155, 0x1B155, .nonstarter),
  (0x1B164, 0x1B167, .nonstarter), (0x1B170, 0x1B2FB, .ideographic),
  (0x1BC9D, 0x1BC9E, .combiningMark), (0x1BC9F, 0x1BC9F, .breakAfter),
  (0x1BCA0, 0x1BCA3, .combiningMark), (0x1CF00, 0x1CF2D, .combiningMark),
  (0x1CF30, 0x1CF46, .combiningMark), (0x1D165, 0x1D169, .combiningMark),
  (0x1D16D, 0x1D182, .combiningMark), (0x1D185, 0x1D18B, .combiningMark),
  (0x1D1AA, 0x1D1AD, .combiningMark), (0x1D242, 0x1D244, .combiningMark),
  (0x1D7CE, 0x1D7FF, .numeric), (0x1DA00, 0x1DA36, .combiningMark),
  (0x1DA3B, 0x1DA6C, .combiningMark), (0x1DA75, 0x1DA75, .combiningMark),
  (0x1DA84, 0x1DA84, .combiningMark), (0x1DA87, 0x1DA8A, .breakAfter),
  (0x1DA9B, 0x1DA9F, .combiningMark), (0x1DAA1, 0x1DAAF, .combiningMark),
  (0x1E000, 0x1E006, .combiningMark), (0x1E008, 0x1E018, .combiningMark),
  (0x1E01B, 0x1E021, .combiningMark), (0x1E023, 0x1E024, .combiningMark),
  (0x1E026, 0x1E02A, .combiningMark), (0x1E08F, 0x1E08F, .combiningMark),
  (0x1E130, 0x1E136, .combiningMark), (0x1E140, 0x1E149, .numeric),
  (0x1E2AE, 0x1E2AE, .combiningMark), (0x1E2EC, 0x1E2EF, .combiningMark),
  (0x1E2F0, 0x1E2F9, .numeric), (0x1E2FF, 0x1E2FF, .prefixNumeric), (0x1E4EC, 0x1E4EF, .combiningMark),
  (0x1E4F0, 0x1E4F9, .numeric), (0x1E8D0, 0x1E8D6, .combiningMark),
  (0x1E944, 0x1E94A, .combiningMark), (0x1E950, 0x1E959, .numeric),
  (0x1E95E, 0x1E95F, .openPunctuation), (0x1ECAC, 0x1ECAC, .postfixNumeric),
  (0x1ECB0, 0x1ECB0, .postfixNumeric), (0x1F000, 0x1F0FF, .ideographic),
  (0x1F10D, 0x1F10F, .ideographic), (0x1F16D, 0x1F16F, .ideographic),
  (0x1F1AD, 0x1F1E5, .ideographic), (0x1F1E6, 0x1F1FF, .regionalIndicator),
  (0x1F200, 0x1F384, .ideographic), (0x1F385, 0x1F385, .emojiBase),
  (0x1F386, 0x1F39B, .ideographic), (0x1F39E, 0x1F3B4, .ideographic),
  (0x1F3B7, 0x1F3BB, .ideographic), (0x1F3BD, 0x1F3C1, .ideographic),
  (0x1F3C2, 0x1F3C4, .emojiBase), (0x1F3C5, 0x1F3C6, .ideographic),
  (0x1F3C7, 0x1F3C7, .emojiBase), (0x1F3C8, 0x1F3C9, .ideographic),
  (0x1F3CA, 0x1F3CC, .emojiBase), (0x1F3CD, 0x1F3FA, .ideographic),
  (0x1F3FB, 0x1F3FF, .emojiModifier), (0x1F400, 0x1F441, .ideographic),
  (0x1F442, 0x1F443, .emojiBase), (0x1F444, 0x1F445, .ideographic),
  (0x1F446, 0x1F450, .emojiBase), (0x1F451, 0x1F465, .ideographic),
  (0x1F466, 0x1F478, .emojiBase), (0x1F479, 0x1F47B, .ideographic),
  (0x1F47C, 0x1F47C, .emojiBase), (0x1F47D, 0x1F480, .ideographic),
  (0x1F481, 0x1F483, .emojiBase), (0x1F484, 0x1F484, .ideographic),
  (0x1F485, 0x1F487, .emojiBase), (0x1F488, 0x1F48E, .ideographic),
  (0x1F48F, 0x1F48F, .emojiBase), (0x1F490, 0x1F490, .ideographic),
  (0x1F491, 0x1F491, .emojiBase), (0x1F492, 0x1F49F, .ideographic),
  (0x1F4A1, 0x1F4A1, .ideographic), (0x1F4A3, 0x1F4A3, .ideographic),
  (0x1F4A5, 0x1F4A9, .ideographic), (0x1F4AA, 0x1F4AA, .emojiBase),
  (0x1F4AB, 0x1F4AE, .ideographic), (0x1F4B0, 0x1F4B0, .ideographic),
  (0x1F4B3, 0x1F4FF, .ideographic), (0x1F507, 0x1F516, .ideographic),
  (0x1F525, 0x1F531, .ideographic), (0x1F54A, 0x1F573, .ideographic),
  (0x1F574, 0x1F575, .emojiBase), (0x1F576, 0x1F579, .ideographic),
  (0x1F57A, 0x1F57A, .emojiBase), (0x1F57B, 0x1F58F, .ideographic),
  (0x1F590, 0x1F590, .emojiBase), (0x1F591, 0x1F594, .ideographic),
  (0x1F595, 0x1F596, .emojiBase), (0x1F597, 0x1F5D3, .ideographic),
  (0x1F5DC, 0x1F5F3, .ideographic), (0x1F5FA, 0x1F644, .ideographic),
  (0x1F645, 0x1F647, .emojiBase), (0x1F648, 0x1F64A, .ideographic),
  (0x1F64B, 0x1F64F, .emojiBase), (0x1F676, 0x1F678, .quotation), (0x1F679, 0x1F67B, .nonstarter),
  (0x1F680, 0x1F6A2, .ideographic), (0x1F6A3, 0x1F6A3, .emojiBase),
  (0x1F6A4, 0x1F6B3, .ideographic), (0x1F6B4, 0x1F6B6, .emojiBase),
  (0x1F6B7, 0x1F6BF, .ideographic), (0x1F6C0, 0x1F6C0, .emojiBase),
  (0x1F6C1, 0x1F6CB, .ideographic), (0x1F6CC, 0x1F6CC, .emojiBase),
  (0x1F6CD, 0x1F6FF, .ideographic), (0x1F774, 0x1F77F, .ideographic),
  (0x1F7D5, 0x1F7FF, .ideographic), (0x1F80C, 0x1F80F, .ideographic),
  (0x1F848, 0x1F84F, .ideographic), (0x1F85A, 0x1F85F, .ideographic),
  (0x1F888, 0x1F88F, .ideographic), (0x1F8AE, 0x1F8FF, .ideographic),
  (0x1F90C, 0x1F90C, .emojiBase), (0x1F90D, 0x1F90E, .ideographic),
  (0x1F90F, 0x1F90F, .emojiBase), (0x1F910, 0x1F917, .ideographic),
  (0x1F918, 0x1F91F, .emojiBase), (0x1F920, 0x1F925, .ideographic),
  (0x1F926, 0x1F926, .emojiBase), (0x1F927, 0x1F92F, .ideographic),
  (0x1F930, 0x1F939, .emojiBase), (0x1F93A, 0x1F93B, .ideographic),
  (0x1F93C, 0x1F93E, .emojiBase), (0x1F93F, 0x1F976, .ideographic),
  (0x1F977, 0x1F977, .emojiBase), (0x1F978, 0x1F9B4, .ideographic),
  (0x1F9B5, 0x1F9B6, .emojiBase), (0x1F9B7, 0x1F9B7, .ideographic),
  (0x1F9B8, 0x1F9B9, .emojiBase), (0x1F9BA, 0x1F9BA, .ideographic),
  (0x1F9BB, 0x1F9BB, .emojiBase), (0x1F9BC, 0x1F9CC, .ideographic),
  (0x1F9CD, 0x1F9CF, .emojiBase), (0x1F9D0, 0x1F9D0, .ideographic),
  (0x1F9D1, 0x1F9DD, .emojiBase), (0x1F9DE, 0x1F9FF, .ideographic),
  (0x1FA54, 0x1FAC2, .ideographic), (0x1FAC3, 0x1FAC5, .emojiBase),
  (0x1FAC6, 0x1FAEF, .ideographic), (0x1FAF0, 0x1FAF8, .emojiBase),
  (0x1FAF9, 0x1FAFF, .ideographic), (0x1FBF0, 0x1FBF9, .numeric),
  (0x1FC00, 0x1FFFD, .ideographic), (0x20000, 0x2FFFD, .ideographic),
  (0x30000, 0x3FFFD, .ideographic), (0xE0001, 0xE0001, .combiningMark),
  (0xE0020, 0xE007F, .combiningMark), (0xE0100, 0xE01EF, .combiningMark)]

/-- The classes of every character that is not alphabetic, by inclusive code point ranges,
sorted and disjoint; precomposed Hangul syllables are left out. -/
def classTable : Array (Nat × Nat × BreakClass) :=
  (classRanges1 ++ classRanges2 ++ classRanges3 ++ classRanges4).toArray

/-- The class listed for a code point in a sorted table of ranges, by binary search between
`lo` and `hi`. -/
def lookupClass (table : Array (Nat × Nat × BreakClass)) (n : Nat) (lo hi : Nat) :
    Option BreakClass :=
  if _h : lo < hi then
    let mid := (lo + hi) / 2
    match table[mid]? with
    | none => none
    | some (a, b, k) =>
      if n < a then lookupClass table n lo mid
      else if b < n then lookupClass table n (mid + 1) hi
      else some k
  else none
termination_by hi - lo

/-- The line breaking class of a character. Precomposed Hangul syllables are LV syllables at
the start of each block of 28 and LVT syllables otherwise. -/
def breakClass (c : Char) : BreakClass :=
  let n := c.toNat
  if 0xAC00 ≤ n ∧ n ≤ 0xD7A3 then
    if (n - 0xAC00) % 28 = 0 then .hangulLV else .hangulLVT
  else (lookupClass classTable n 0 classTable.size).getD .alphabetic

namespace BreakClass

/-- Classes after which the line always breaks. -/
def isHardBreak (k : BreakClass) : Bool :=
  k == .mandatory || k == .carriageReturn || k == .lineFeed || k == .nextLine

/-- Classes that a following combining mark does not attach to. -/
def refusesMarks (k : BreakClass) : Bool :=
  k.isHardBreak || k == .space || k == .zeroWidthSpace

/-- Alphabetic or Hebrew letters. -/
def isLetter (k : BreakClass) : Bool := k == .alphabetic || k == .hebrewLetter

/-- Ideographs and emoji bases and modifiers. -/
def isIdeographLike (k : BreakClass) : Bool :=
  k == .ideographic || k == .emojiBase || k == .emojiModifier

/-- Hangul jamo and syllables. -/
def isHangul (k : BreakClass) : Bool :=
  k == .hangulL || k == .hangulV || k == .hangulT || k == .hangulLV || k == .hangulLVT

end BreakClass

/-- What the scan of a text knows at a position: the class of the previous character cluster,
the class of the cluster before it, the class of the last cluster that was not a space, the
length of the run of regional indicators that ends at the previous cluster, and whether the
previous character was a zero width joiner. -/
structure BreakContext where
  previous : BreakClass
  beforePrevious : Option BreakClass
  beforeSpaces : Option BreakClass
  indicators : Nat
  afterJoiner : Bool

/-- Whether the rules forbid a break between a cluster of class `a` and one of class `b`, once
the rules about hard breaks, spaces and joiners have been applied (rules LB11 to LB30b). -/
def BreakContext.keepsTogether (ctx : BreakContext) (b : BreakClass) : Bool :=
  let a := ctx.previous
  let pair (x y : BreakClass) := a == x && b == y
  -- LB11, LB12, LB12a
  if b == .wordJoiner || a == .wordJoiner || a == .glue then true
  else if b == .glue && !(a == .space || a == .breakAfter || a == .hyphen) then true
  -- LB13
  else if b == .closePunctuation || b == .closeParenthesis || b == .exclamation ||
      b == .infixSeparator || b == .symbol then true
  -- LB14 to LB17: after an opening, and between some pairs even across spaces
  else if ctx.beforeSpaces == some .openPunctuation then true
  else if b == .openPunctuation && ctx.beforeSpaces == some .quotation then true
  else if b == .nonstarter && (ctx.beforeSpaces == some .closePunctuation ||
      ctx.beforeSpaces == some .closeParenthesis) then true
  else if b == .breakBoth && ctx.beforeSpaces == some .breakBoth then true
  -- LB18
  else if a == .space then false
  -- LB19, LB20
  else if b == .quotation || a == .quotation then true
  else if b == .contingent || a == .contingent then false
  -- LB21, LB21a, LB21b, LB22
  else if b == .breakAfter || b == .hyphen || b == .nonstarter || a == .breakBefore then true
  else if (a == .hyphen || a == .breakAfter) && ctx.beforePrevious == some .hebrewLetter then true
  else if pair .symbol .hebrewLetter then true
  else if b == .inseparable then true
  -- LB23, LB23a, LB24: letters, numbers and their prefixes and postfixes
  else if (a.isLetter && b == .numeric) || (a == .numeric && b.isLetter) then true
  else if (a == .prefixNumeric && b.isIdeographLike) || (a.isIdeographLike && b == .postfixNumeric) then true
  else if ((a == .prefixNumeric || a == .postfixNumeric) && b.isLetter) ||
      (a.isLetter && (b == .prefixNumeric || b == .postfixNumeric)) then true
  -- LB25: numbers
  else if pair .closePunctuation .postfixNumeric || pair .closeParenthesis .postfixNumeric ||
      pair .closePunctuation .prefixNumeric || pair .closeParenthesis .prefixNumeric ||
      pair .numeric .postfixNumeric || pair .numeric .prefixNumeric || pair .postfixNumeric .openPunctuation ||
      pair .postfixNumeric .numeric || pair .prefixNumeric .openPunctuation || pair .prefixNumeric .numeric ||
      pair .hyphen .numeric || pair .infixSeparator .numeric || pair .numeric .numeric ||
      pair .symbol .numeric then true
  -- LB26, LB27: Hangul
  else if a == .hangulL && (b == .hangulL || b == .hangulV || b == .hangulLV || b == .hangulLVT)
    then true
  else if (a == .hangulV || a == .hangulLV) && (b == .hangulV || b == .hangulT) then true
  else if (a == .hangulT || a == .hangulLVT) && b == .hangulT then true
  else if (a.isHangul && b == .postfixNumeric) || (a == .prefixNumeric && b.isHangul) then true
  -- LB28, LB29, LB30
  else if a.isLetter && b.isLetter then true
  else if a == .infixSeparator && b.isLetter then true
  else if ((a.isLetter || a == .numeric) && b == .openPunctuation) ||
      (a == .closeParenthesis && (b.isLetter || b == .numeric)) then true
  -- LB30a, LB30b
  else if pair .regionalIndicator .regionalIndicator && ctx.indicators % 2 = 1 then true
  else if pair .emojiBase .emojiModifier then true
  -- LB31
  else false

/-- Whether a text may break before a cluster of class `b` (rules LB4 to LB31). -/
def BreakContext.allows (ctx : BreakContext) (b : BreakClass) : Bool :=
  let a := ctx.previous
  -- LB4, LB5: after a hard break, always
  if a == .carriageReturn && b == .lineFeed then false
  else if a.isHardBreak then true
  -- LB6, LB7: never before a hard break or a space
  else if b.isHardBreak || b == .space || b == .zeroWidthSpace then false
  -- LB8, LB8a
  else if ctx.beforeSpaces == some .zeroWidthSpace then true
  else if ctx.afterJoiner then false
  else !ctx.keepsTogether b

/-- The context after a cluster of class `b` that starts at a character of class `raw`. -/
def BreakContext.next (ctx : BreakContext) (raw b : BreakClass) : BreakContext :=
  { previous := b
    beforePrevious := some ctx.previous
    beforeSpaces := if b == .space then ctx.beforeSpaces else some b
    indicators := if b == .regionalIndicator then
        (if ctx.previous == .regionalIndicator then ctx.indicators + 1 else 1)
      else 0
    afterJoiner := raw == .zeroWidthJoiner }

/-- The classes of a text's characters after the first, scanned from a context: for each, whether
the text may break before it. A combining mark or joiner stays with the cluster before it (LB9),
unless that cluster is a hard break or a space, in which case it counts as alphabetic (LB10). -/
def scanBreaks : BreakContext → List BreakClass → List Bool
  | _, [] => []
  | ctx, raw :: rest =>
    let isMark := raw == .combiningMark || raw == .zeroWidthJoiner
    if isMark && !ctx.previous.refusesMarks then
      false :: scanBreaks { ctx with afterJoiner := raw == .zeroWidthJoiner } rest
    else
      let b := if isMark then .alphabetic else raw
      ctx.allows b :: scanBreaks (ctx.next raw b) rest

/-- The context at the start of a text whose first character has class `raw`. -/
def BreakContext.start (raw : BreakClass) : BreakContext :=
  let b := if raw == .combiningMark || raw == .zeroWidthJoiner then .alphabetic else raw
  { previous := b
    beforePrevious := none
    beforeSpaces := if b == .space then none else some b
    indicators := if b == .regionalIndicator then 1 else 0
    afterJoiner := raw == .zeroWidthJoiner }

/-- The positions, counted in characters, where a text may be broken: never at the start, always
at the end (LB2, LB3), and between two characters as the rules say. -/
def breakOpportunities (cs : List Char) : List Nat :=
  match cs.map breakClass with
  | [] => [0]
  | first :: rest =>
    let inner := (scanBreaks (BreakContext.start first) rest).zipIdx.filterMap fun (b, i) =>
      if b then some (i + 1) else none
    inner ++ [cs.length]

end Text
end PgBinding
