/-!
# Letter case

Each character has a simple upper-case, lower-case and title-case form: one character, the
character itself when it has no other. The forms come from the Unicode Character Database,
version 17.0; characters whose full mapping is longer (`ß` to `SS`) keep their simple form.

The mapping is a table of code point ranges sorted by their first code point. In most ranges
every character moves by the same offsets to its three forms; in an `alternating` range upper
and lower case take turns, the first character being upper case, so the forms of a character
are found by setting or clearing the lowest bit of its distance from the range start.

A character is *cased* when case folding relates it to another character. That holds exactly
when one of its simple forms differs from it, except for the dotted capital and dotless small
`I` (U+0130, U+0131), which fold to nothing else, and the sharp `s` (U+00DF), which folds with
its capital U+1E9E.
-/

namespace DecimalMachine.Text

/-- How the characters of a range reach their case forms. -/
inductive CaseShift where
  /-- Each character moves by these offsets to its upper-, lower- and title-case forms. -/
  | offsets (upper lower title : Int)
  /-- Upper- and lower-case characters alternate, starting with an upper-case one. -/
  | alternating
  deriving Repr, Inhabited

/-- A range of code points `lo … hi` that reach their case forms the same way. -/
structure CaseRange where
  lo : Nat
  hi : Nat
  shift : CaseShift
  deriving Repr, Inhabited

/-- The ranges of the characters that have a case form other than themselves. -/
def caseRanges : Array CaseRange := #[
  ⟨0x41, 0x5A, .offsets 0 32 0⟩, ⟨0x61, 0x7A, .offsets (-32) 0 (-32)⟩, ⟨0xB5, 0xB5, .offsets 743 0 743⟩,
  ⟨0xC0, 0xD6, .offsets 0 32 0⟩, ⟨0xD8, 0xDE, .offsets 0 32 0⟩, ⟨0xE0, 0xF6, .offsets (-32) 0 (-32)⟩,
  ⟨0xF8, 0xFE, .offsets (-32) 0 (-32)⟩, ⟨0xFF, 0xFF, .offsets 121 0 121⟩, ⟨0x100, 0x12F, .alternating⟩,
  ⟨0x130, 0x130, .offsets 0 (-199) 0⟩, ⟨0x131, 0x131, .offsets (-232) 0 (-232)⟩, ⟨0x132, 0x137, .alternating⟩,
  ⟨0x139, 0x148, .alternating⟩, ⟨0x14A, 0x177, .alternating⟩, ⟨0x178, 0x178, .offsets 0 (-121) 0⟩,
  ⟨0x179, 0x17E, .alternating⟩, ⟨0x17F, 0x17F, .offsets (-300) 0 (-300)⟩, ⟨0x180, 0x180, .offsets 195 0 195⟩,
  ⟨0x181, 0x181, .offsets 0 210 0⟩, ⟨0x182, 0x185, .alternating⟩, ⟨0x186, 0x186, .offsets 0 206 0⟩,
  ⟨0x187, 0x187, .offsets 0 1 0⟩, ⟨0x188, 0x188, .offsets (-1) 0 (-1)⟩, ⟨0x189, 0x18A, .offsets 0 205 0⟩,
  ⟨0x18B, 0x18B, .offsets 0 1 0⟩, ⟨0x18C, 0x18C, .offsets (-1) 0 (-1)⟩, ⟨0x18E, 0x18E, .offsets 0 79 0⟩,
  ⟨0x18F, 0x18F, .offsets 0 202 0⟩, ⟨0x190, 0x190, .offsets 0 203 0⟩, ⟨0x191, 0x191, .offsets 0 1 0⟩,
  ⟨0x192, 0x192, .offsets (-1) 0 (-1)⟩, ⟨0x193, 0x193, .offsets 0 205 0⟩, ⟨0x194, 0x194, .offsets 0 207 0⟩,
  ⟨0x195, 0x195, .offsets 97 0 97⟩, ⟨0x196, 0x196, .offsets 0 211 0⟩, ⟨0x197, 0x197, .offsets 0 209 0⟩,
  ⟨0x198, 0x198, .offsets 0 1 0⟩, ⟨0x199, 0x199, .offsets (-1) 0 (-1)⟩, ⟨0x19A, 0x19A, .offsets 163 0 163⟩,
  ⟨0x19B, 0x19B, .offsets 42561 0 42561⟩, ⟨0x19C, 0x19C, .offsets 0 211 0⟩, ⟨0x19D, 0x19D, .offsets 0 213 0⟩,
  ⟨0x19E, 0x19E, .offsets 130 0 130⟩, ⟨0x19F, 0x19F, .offsets 0 214 0⟩, ⟨0x1A0, 0x1A5, .alternating⟩,
  ⟨0x1A6, 0x1A6, .offsets 0 218 0⟩, ⟨0x1A7, 0x1A7, .offsets 0 1 0⟩, ⟨0x1A8, 0x1A8, .offsets (-1) 0 (-1)⟩,
  ⟨0x1A9, 0x1A9, .offsets 0 218 0⟩, ⟨0x1AC, 0x1AC, .offsets 0 1 0⟩, ⟨0x1AD, 0x1AD, .offsets (-1) 0 (-1)⟩,
  ⟨0x1AE, 0x1AE, .offsets 0 218 0⟩, ⟨0x1AF, 0x1AF, .offsets 0 1 0⟩, ⟨0x1B0, 0x1B0, .offsets (-1) 0 (-1)⟩,
  ⟨0x1B1, 0x1B2, .offsets 0 217 0⟩, ⟨0x1B3, 0x1B6, .alternating⟩, ⟨0x1B7, 0x1B7, .offsets 0 219 0⟩,
  ⟨0x1B8, 0x1B8, .offsets 0 1 0⟩, ⟨0x1B9, 0x1B9, .offsets (-1) 0 (-1)⟩, ⟨0x1BC, 0x1BC, .offsets 0 1 0⟩,
  ⟨0x1BD, 0x1BD, .offsets (-1) 0 (-1)⟩, ⟨0x1BF, 0x1BF, .offsets 56 0 56⟩, ⟨0x1C4, 0x1C4, .offsets 0 2 1⟩,
  ⟨0x1C5, 0x1C5, .offsets (-1) 1 0⟩, ⟨0x1C6, 0x1C6, .offsets (-2) 0 (-1)⟩, ⟨0x1C7, 0x1C7, .offsets 0 2 1⟩,
  ⟨0x1C8, 0x1C8, .offsets (-1) 1 0⟩, ⟨0x1C9, 0x1C9, .offsets (-2) 0 (-1)⟩, ⟨0x1CA, 0x1CA, .offsets 0 2 1⟩,
  ⟨0x1CB, 0x1CB, .offsets (-1) 1 0⟩, ⟨0x1CC, 0x1CC, .offsets (-2) 0 (-1)⟩, ⟨0x1CD, 0x1DC, .alternating⟩,
  ⟨0x1DD, 0x1DD, .offsets (-79) 0 (-79)⟩, ⟨0x1DE, 0x1EF, .alternating⟩, ⟨0x1F1, 0x1F1, .offsets 0 2 1⟩,
  ⟨0x1F2, 0x1F2, .offsets (-1) 1 0⟩, ⟨0x1F3, 0x1F3, .offsets (-2) 0 (-1)⟩, ⟨0x1F4, 0x1F4, .offsets 0 1 0⟩,
  ⟨0x1F5, 0x1F5, .offsets (-1) 0 (-1)⟩, ⟨0x1F6, 0x1F6, .offsets 0 (-97) 0⟩, ⟨0x1F7, 0x1F7, .offsets 0 (-56) 0⟩,
  ⟨0x1F8, 0x21F, .alternating⟩, ⟨0x220, 0x220, .offsets 0 (-130) 0⟩, ⟨0x222, 0x233, .alternating⟩,
  ⟨0x23A, 0x23A, .offsets 0 10795 0⟩, ⟨0x23B, 0x23B, .offsets 0 1 0⟩, ⟨0x23C, 0x23C, .offsets (-1) 0 (-1)⟩,
  ⟨0x23D, 0x23D, .offsets 0 (-163) 0⟩, ⟨0x23E, 0x23E, .offsets 0 10792 0⟩, ⟨0x23F, 0x240, .offsets 10815 0 10815⟩,
  ⟨0x241, 0x241, .offsets 0 1 0⟩, ⟨0x242, 0x242, .offsets (-1) 0 (-1)⟩, ⟨0x243, 0x243, .offsets 0 (-195) 0⟩,
  ⟨0x244, 0x244, .offsets 0 69 0⟩, ⟨0x245, 0x245, .offsets 0 71 0⟩, ⟨0x246, 0x24F, .alternating⟩,
  ⟨0x250, 0x250, .offsets 10783 0 10783⟩, ⟨0x251, 0x251, .offsets 10780 0 10780⟩, ⟨0x252, 0x252, .offsets 10782 0 10782⟩,
  ⟨0x253, 0x253, .offsets (-210) 0 (-210)⟩, ⟨0x254, 0x254, .offsets (-206) 0 (-206)⟩, ⟨0x256, 0x257, .offsets (-205) 0 (-205)⟩,
  ⟨0x259, 0x259, .offsets (-202) 0 (-202)⟩, ⟨0x25B, 0x25B, .offsets (-203) 0 (-203)⟩, ⟨0x25C, 0x25C, .offsets 42319 0 42319⟩,
  ⟨0x260, 0x260, .offsets (-205) 0 (-205)⟩, ⟨0x261, 0x261, .offsets 42315 0 42315⟩, ⟨0x263, 0x263, .offsets (-207) 0 (-207)⟩,
  ⟨0x264, 0x264, .offsets 42343 0 42343⟩, ⟨0x265, 0x265, .offsets 42280 0 42280⟩, ⟨0x266, 0x266, .offsets 42308 0 42308⟩,
  ⟨0x268, 0x268, .offsets (-209) 0 (-209)⟩, ⟨0x269, 0x269, .offsets (-211) 0 (-211)⟩, ⟨0x26A, 0x26A, .offsets 42308 0 42308⟩,
  ⟨0x26B, 0x26B, .offsets 10743 0 10743⟩, ⟨0x26C, 0x26C, .offsets 42305 0 42305⟩, ⟨0x26F, 0x26F, .offsets (-211) 0 (-211)⟩,
  ⟨0x271, 0x271, .offsets 10749 0 10749⟩, ⟨0x272, 0x272, .offsets (-213) 0 (-213)⟩, ⟨0x275, 0x275, .offsets (-214) 0 (-214)⟩,
  ⟨0x27D, 0x27D, .offsets 10727 0 10727⟩, ⟨0x280, 0x280, .offsets (-218) 0 (-218)⟩, ⟨0x282, 0x282, .offsets 42307 0 42307⟩,
  ⟨0x283, 0x283, .offsets (-218) 0 (-218)⟩, ⟨0x287, 0x287, .offsets 42282 0 42282⟩, ⟨0x288, 0x288, .offsets (-218) 0 (-218)⟩,
  ⟨0x289, 0x289, .offsets (-69) 0 (-69)⟩, ⟨0x28A, 0x28B, .offsets (-217) 0 (-217)⟩, ⟨0x28C, 0x28C, .offsets (-71) 0 (-71)⟩,
  ⟨0x292, 0x292, .offsets (-219) 0 (-219)⟩, ⟨0x29D, 0x29D, .offsets 42261 0 42261⟩, ⟨0x29E, 0x29E, .offsets 42258 0 42258⟩,
  ⟨0x345, 0x345, .offsets 84 0 84⟩, ⟨0x370, 0x373, .alternating⟩, ⟨0x376, 0x376, .offsets 0 1 0⟩,
  ⟨0x377, 0x377, .offsets (-1) 0 (-1)⟩, ⟨0x37B, 0x37D, .offsets 130 0 130⟩, ⟨0x37F, 0x37F, .offsets 0 116 0⟩,
  ⟨0x386, 0x386, .offsets 0 38 0⟩, ⟨0x388, 0x38A, .offsets 0 37 0⟩, ⟨0x38C, 0x38C, .offsets 0 64 0⟩,
  ⟨0x38E, 0x38F, .offsets 0 63 0⟩, ⟨0x391, 0x3A1, .offsets 0 32 0⟩, ⟨0x3A3, 0x3AB, .offsets 0 32 0⟩,
  ⟨0x3AC, 0x3AC, .offsets (-38) 0 (-38)⟩, ⟨0x3AD, 0x3AF, .offsets (-37) 0 (-37)⟩, ⟨0x3B1, 0x3C1, .offsets (-32) 0 (-32)⟩,
  ⟨0x3C2, 0x3C2, .offsets (-31) 0 (-31)⟩, ⟨0x3C3, 0x3CB, .offsets (-32) 0 (-32)⟩, ⟨0x3CC, 0x3CC, .offsets (-64) 0 (-64)⟩,
  ⟨0x3CD, 0x3CE, .offsets (-63) 0 (-63)⟩, ⟨0x3CF, 0x3CF, .offsets 0 8 0⟩, ⟨0x3D0, 0x3D0, .offsets (-62) 0 (-62)⟩,
  ⟨0x3D1, 0x3D1, .offsets (-57) 0 (-57)⟩, ⟨0x3D5, 0x3D5, .offsets (-47) 0 (-47)⟩, ⟨0x3D6, 0x3D6, .offsets (-54) 0 (-54)⟩,
  ⟨0x3D7, 0x3D7, .offsets (-8) 0 (-8)⟩, ⟨0x3D8, 0x3EF, .alternating⟩, ⟨0x3F0, 0x3F0, .offsets (-86) 0 (-86)⟩,
  ⟨0x3F1, 0x3F1, .offsets (-80) 0 (-80)⟩, ⟨0x3F2, 0x3F2, .offsets 7 0 7⟩, ⟨0x3F3, 0x3F3, .offsets (-116) 0 (-116)⟩,
  ⟨0x3F4, 0x3F4, .offsets 0 (-60) 0⟩, ⟨0x3F5, 0x3F5, .offsets (-96) 0 (-96)⟩, ⟨0x3F7, 0x3F7, .offsets 0 1 0⟩,
  ⟨0x3F8, 0x3F8, .offsets (-1) 0 (-1)⟩, ⟨0x3F9, 0x3F9, .offsets 0 (-7) 0⟩, ⟨0x3FA, 0x3FA, .offsets 0 1 0⟩,
  ⟨0x3FB, 0x3FB, .offsets (-1) 0 (-1)⟩, ⟨0x3FD, 0x3FF, .offsets 0 (-130) 0⟩, ⟨0x400, 0x40F, .offsets 0 80 0⟩,
  ⟨0x410, 0x42F, .offsets 0 32 0⟩, ⟨0x430, 0x44F, .offsets (-32) 0 (-32)⟩, ⟨0x450, 0x45F, .offsets (-80) 0 (-80)⟩,
  ⟨0x460, 0x481, .alternating⟩, ⟨0x48A, 0x4BF, .alternating⟩, ⟨0x4C0, 0x4C0, .offsets 0 15 0⟩,
  ⟨0x4C1, 0x4CE, .alternating⟩, ⟨0x4CF, 0x4CF, .offsets (-15) 0 (-15)⟩, ⟨0x4D0, 0x52F, .alternating⟩,
  ⟨0x531, 0x556, .offsets 0 48 0⟩, ⟨0x561, 0x586, .offsets (-48) 0 (-48)⟩, ⟨0x10A0, 0x10C5, .offsets 0 7264 0⟩,
  ⟨0x10C7, 0x10C7, .offsets 0 7264 0⟩, ⟨0x10CD, 0x10CD, .offsets 0 7264 0⟩, ⟨0x10D0, 0x10FA, .offsets 3008 0 0⟩,
  ⟨0x10FD, 0x10FF, .offsets 3008 0 0⟩, ⟨0x13A0, 0x13EF, .offsets 0 38864 0⟩, ⟨0x13F0, 0x13F5, .offsets 0 8 0⟩,
  ⟨0x13F8, 0x13FD, .offsets (-8) 0 (-8)⟩, ⟨0x1C80, 0x1C80, .offsets (-6254) 0 (-6254)⟩, ⟨0x1C81, 0x1C81, .offsets (-6253) 0 (-6253)⟩,
  ⟨0x1C82, 0x1C82, .offsets (-6244) 0 (-6244)⟩, ⟨0x1C83, 0x1C84, .offsets (-6242) 0 (-6242)⟩, ⟨0x1C85, 0x1C85, .offsets (-6243) 0 (-6243)⟩,
  ⟨0x1C86, 0x1C86, .offsets (-6236) 0 (-6236)⟩, ⟨0x1C87, 0x1C87, .offsets (-6181) 0 (-6181)⟩, ⟨0x1C88, 0x1C88, .offsets 35266 0 35266⟩,
  ⟨0x1C89, 0x1C89, .offsets 0 1 0⟩, ⟨0x1C8A, 0x1C8A, .offsets (-1) 0 (-1)⟩, ⟨0x1C90, 0x1CBA, .offsets 0 (-3008) 0⟩,
  ⟨0x1CBD, 0x1CBF, .offsets 0 (-3008) 0⟩, ⟨0x1D79, 0x1D79, .offsets 35332 0 35332⟩, ⟨0x1D7D, 0x1D7D, .offsets 3814 0 3814⟩,
  ⟨0x1D8E, 0x1D8E, .offsets 35384 0 35384⟩, ⟨0x1E00, 0x1E95, .alternating⟩, ⟨0x1E9B, 0x1E9B, .offsets (-59) 0 (-59)⟩,
  ⟨0x1E9E, 0x1E9E, .offsets 0 (-7615) 0⟩, ⟨0x1EA0, 0x1EFF, .alternating⟩, ⟨0x1F00, 0x1F07, .offsets 8 0 8⟩,
  ⟨0x1F08, 0x1F0F, .offsets 0 (-8) 0⟩, ⟨0x1F10, 0x1F15, .offsets 8 0 8⟩, ⟨0x1F18, 0x1F1D, .offsets 0 (-8) 0⟩,
  ⟨0x1F20, 0x1F27, .offsets 8 0 8⟩, ⟨0x1F28, 0x1F2F, .offsets 0 (-8) 0⟩, ⟨0x1F30, 0x1F37, .offsets 8 0 8⟩,
  ⟨0x1F38, 0x1F3F, .offsets 0 (-8) 0⟩, ⟨0x1F40, 0x1F45, .offsets 8 0 8⟩, ⟨0x1F48, 0x1F4D, .offsets 0 (-8) 0⟩,
  ⟨0x1F51, 0x1F51, .offsets 8 0 8⟩, ⟨0x1F53, 0x1F53, .offsets 8 0 8⟩, ⟨0x1F55, 0x1F55, .offsets 8 0 8⟩,
  ⟨0x1F57, 0x1F57, .offsets 8 0 8⟩, ⟨0x1F59, 0x1F59, .offsets 0 (-8) 0⟩, ⟨0x1F5B, 0x1F5B, .offsets 0 (-8) 0⟩,
  ⟨0x1F5D, 0x1F5D, .offsets 0 (-8) 0⟩, ⟨0x1F5F, 0x1F5F, .offsets 0 (-8) 0⟩, ⟨0x1F60, 0x1F67, .offsets 8 0 8⟩,
  ⟨0x1F68, 0x1F6F, .offsets 0 (-8) 0⟩, ⟨0x1F70, 0x1F71, .offsets 74 0 74⟩, ⟨0x1F72, 0x1F75, .offsets 86 0 86⟩,
  ⟨0x1F76, 0x1F77, .offsets 100 0 100⟩, ⟨0x1F78, 0x1F79, .offsets 128 0 128⟩, ⟨0x1F7A, 0x1F7B, .offsets 112 0 112⟩,
  ⟨0x1F7C, 0x1F7D, .offsets 126 0 126⟩, ⟨0x1F80, 0x1F87, .offsets 8 0 8⟩, ⟨0x1F88, 0x1F8F, .offsets 0 (-8) 0⟩,
  ⟨0x1F90, 0x1F97, .offsets 8 0 8⟩, ⟨0x1F98, 0x1F9F, .offsets 0 (-8) 0⟩, ⟨0x1FA0, 0x1FA7, .offsets 8 0 8⟩,
  ⟨0x1FA8, 0x1FAF, .offsets 0 (-8) 0⟩, ⟨0x1FB0, 0x1FB1, .offsets 8 0 8⟩, ⟨0x1FB3, 0x1FB3, .offsets 9 0 9⟩,
  ⟨0x1FB8, 0x1FB9, .offsets 0 (-8) 0⟩, ⟨0x1FBA, 0x1FBB, .offsets 0 (-74) 0⟩, ⟨0x1FBC, 0x1FBC, .offsets 0 (-9) 0⟩,
  ⟨0x1FBE, 0x1FBE, .offsets (-7205) 0 (-7205)⟩, ⟨0x1FC3, 0x1FC3, .offsets 9 0 9⟩, ⟨0x1FC8, 0x1FCB, .offsets 0 (-86) 0⟩,
  ⟨0x1FCC, 0x1FCC, .offsets 0 (-9) 0⟩, ⟨0x1FD0, 0x1FD1, .offsets 8 0 8⟩, ⟨0x1FD8, 0x1FD9, .offsets 0 (-8) 0⟩,
  ⟨0x1FDA, 0x1FDB, .offsets 0 (-100) 0⟩, ⟨0x1FE0, 0x1FE1, .offsets 8 0 8⟩, ⟨0x1FE5, 0x1FE5, .offsets 7 0 7⟩,
  ⟨0x1FE8, 0x1FE9, .offsets 0 (-8) 0⟩, ⟨0x1FEA, 0x1FEB, .offsets 0 (-112) 0⟩, ⟨0x1FEC, 0x1FEC, .offsets 0 (-7) 0⟩,
  ⟨0x1FF3, 0x1FF3, .offsets 9 0 9⟩, ⟨0x1FF8, 0x1FF9, .offsets 0 (-128) 0⟩, ⟨0x1FFA, 0x1FFB, .offsets 0 (-126) 0⟩,
  ⟨0x1FFC, 0x1FFC, .offsets 0 (-9) 0⟩, ⟨0x2126, 0x2126, .offsets 0 (-7517) 0⟩, ⟨0x212A, 0x212A, .offsets 0 (-8383) 0⟩,
  ⟨0x212B, 0x212B, .offsets 0 (-8262) 0⟩, ⟨0x2132, 0x2132, .offsets 0 28 0⟩, ⟨0x214E, 0x214E, .offsets (-28) 0 (-28)⟩,
  ⟨0x2160, 0x216F, .offsets 0 16 0⟩, ⟨0x2170, 0x217F, .offsets (-16) 0 (-16)⟩, ⟨0x2183, 0x2183, .offsets 0 1 0⟩,
  ⟨0x2184, 0x2184, .offsets (-1) 0 (-1)⟩, ⟨0x24B6, 0x24CF, .offsets 0 26 0⟩, ⟨0x24D0, 0x24E9, .offsets (-26) 0 (-26)⟩,
  ⟨0x2C00, 0x2C2F, .offsets 0 48 0⟩, ⟨0x2C30, 0x2C5F, .offsets (-48) 0 (-48)⟩, ⟨0x2C60, 0x2C60, .offsets 0 1 0⟩,
  ⟨0x2C61, 0x2C61, .offsets (-1) 0 (-1)⟩, ⟨0x2C62, 0x2C62, .offsets 0 (-10743) 0⟩, ⟨0x2C63, 0x2C63, .offsets 0 (-3814) 0⟩,
  ⟨0x2C64, 0x2C64, .offsets 0 (-10727) 0⟩, ⟨0x2C65, 0x2C65, .offsets (-10795) 0 (-10795)⟩, ⟨0x2C66, 0x2C66, .offsets (-10792) 0 (-10792)⟩,
  ⟨0x2C67, 0x2C6C, .alternating⟩, ⟨0x2C6D, 0x2C6D, .offsets 0 (-10780) 0⟩, ⟨0x2C6E, 0x2C6E, .offsets 0 (-10749) 0⟩,
  ⟨0x2C6F, 0x2C6F, .offsets 0 (-10783) 0⟩, ⟨0x2C70, 0x2C70, .offsets 0 (-10782) 0⟩, ⟨0x2C72, 0x2C72, .offsets 0 1 0⟩,
  ⟨0x2C73, 0x2C73, .offsets (-1) 0 (-1)⟩, ⟨0x2C75, 0x2C75, .offsets 0 1 0⟩, ⟨0x2C76, 0x2C76, .offsets (-1) 0 (-1)⟩,
  ⟨0x2C7E, 0x2C7F, .offsets 0 (-10815) 0⟩, ⟨0x2C80, 0x2CE3, .alternating⟩, ⟨0x2CEB, 0x2CEE, .alternating⟩,
  ⟨0x2CF2, 0x2CF2, .offsets 0 1 0⟩, ⟨0x2CF3, 0x2CF3, .offsets (-1) 0 (-1)⟩, ⟨0x2D00, 0x2D25, .offsets (-7264) 0 (-7264)⟩,
  ⟨0x2D27, 0x2D27, .offsets (-7264) 0 (-7264)⟩, ⟨0x2D2D, 0x2D2D, .offsets (-7264) 0 (-7264)⟩, ⟨0xA640, 0xA66D, .alternating⟩,
  ⟨0xA680, 0xA69B, .alternating⟩, ⟨0xA722, 0xA72F, .alternating⟩, ⟨0xA732, 0xA76F, .alternating⟩,
  ⟨0xA779, 0xA77C, .alternating⟩, ⟨0xA77D, 0xA77D, .offsets 0 (-35332) 0⟩, ⟨0xA77E, 0xA787, .alternating⟩,
  ⟨0xA78B, 0xA78B, .offsets 0 1 0⟩, ⟨0xA78C, 0xA78C, .offsets (-1) 0 (-1)⟩, ⟨0xA78D, 0xA78D, .offsets 0 (-42280) 0⟩,
  ⟨0xA790, 0xA793, .alternating⟩, ⟨0xA794, 0xA794, .offsets 48 0 48⟩, ⟨0xA796, 0xA7A9, .alternating⟩,
  ⟨0xA7AA, 0xA7AA, .offsets 0 (-42308) 0⟩, ⟨0xA7AB, 0xA7AB, .offsets 0 (-42319) 0⟩, ⟨0xA7AC, 0xA7AC, .offsets 0 (-42315) 0⟩,
  ⟨0xA7AD, 0xA7AD, .offsets 0 (-42305) 0⟩, ⟨0xA7AE, 0xA7AE, .offsets 0 (-42308) 0⟩, ⟨0xA7B0, 0xA7B0, .offsets 0 (-42258) 0⟩,
  ⟨0xA7B1, 0xA7B1, .offsets 0 (-42282) 0⟩, ⟨0xA7B2, 0xA7B2, .offsets 0 (-42261) 0⟩, ⟨0xA7B3, 0xA7B3, .offsets 0 928 0⟩,
  ⟨0xA7B4, 0xA7C3, .alternating⟩, ⟨0xA7C4, 0xA7C4, .offsets 0 (-48) 0⟩, ⟨0xA7C5, 0xA7C5, .offsets 0 (-42307) 0⟩,
  ⟨0xA7C6, 0xA7C6, .offsets 0 (-35384) 0⟩, ⟨0xA7C7, 0xA7CA, .alternating⟩, ⟨0xA7CB, 0xA7CB, .offsets 0 (-42343) 0⟩,
  ⟨0xA7CC, 0xA7DB, .alternating⟩, ⟨0xA7DC, 0xA7DC, .offsets 0 (-42561) 0⟩, ⟨0xA7F5, 0xA7F5, .offsets 0 1 0⟩,
  ⟨0xA7F6, 0xA7F6, .offsets (-1) 0 (-1)⟩, ⟨0xAB53, 0xAB53, .offsets (-928) 0 (-928)⟩, ⟨0xAB70, 0xABBF, .offsets (-38864) 0 (-38864)⟩,
  ⟨0xFF21, 0xFF3A, .offsets 0 32 0⟩, ⟨0xFF41, 0xFF5A, .offsets (-32) 0 (-32)⟩, ⟨0x10400, 0x10427, .offsets 0 40 0⟩,
  ⟨0x10428, 0x1044F, .offsets (-40) 0 (-40)⟩, ⟨0x104B0, 0x104D3, .offsets 0 40 0⟩, ⟨0x104D8, 0x104FB, .offsets (-40) 0 (-40)⟩,
  ⟨0x10570, 0x1057A, .offsets 0 39 0⟩, ⟨0x1057C, 0x1058A, .offsets 0 39 0⟩, ⟨0x1058C, 0x10592, .offsets 0 39 0⟩,
  ⟨0x10594, 0x10595, .offsets 0 39 0⟩, ⟨0x10597, 0x105A1, .offsets (-39) 0 (-39)⟩, ⟨0x105A3, 0x105B1, .offsets (-39) 0 (-39)⟩,
  ⟨0x105B3, 0x105B9, .offsets (-39) 0 (-39)⟩, ⟨0x105BB, 0x105BC, .offsets (-39) 0 (-39)⟩, ⟨0x10C80, 0x10CB2, .offsets 0 64 0⟩,
  ⟨0x10CC0, 0x10CF2, .offsets (-64) 0 (-64)⟩, ⟨0x10D50, 0x10D65, .offsets 0 32 0⟩, ⟨0x10D70, 0x10D85, .offsets (-32) 0 (-32)⟩,
  ⟨0x118A0, 0x118BF, .offsets 0 32 0⟩, ⟨0x118C0, 0x118DF, .offsets (-32) 0 (-32)⟩, ⟨0x16E40, 0x16E5F, .offsets 0 32 0⟩,
  ⟨0x16E60, 0x16E7F, .offsets (-32) 0 (-32)⟩, ⟨0x16EA0, 0x16EB8, .offsets 0 27 0⟩, ⟨0x16EBB, 0x16ED3, .offsets (-27) 0 (-27)⟩,
  ⟨0x1E900, 0x1E921, .offsets 0 34 0⟩, ⟨0x1E922, 0x1E943, .offsets (-34) 0 (-34)⟩]

/-- Which of the three case forms is asked for. -/
inductive CaseForm where
  | upper
  | lower
  | title
  deriving DecidableEq

/-- How many of the ranges `lo … hi - 1`, together with the `lo` ranges before them, start at
or below `n`; `fuel` bounds the halvings. -/
def countCaseStarting (n : Nat) : Nat → Nat → Nat → Nat
  | 0, lo, _ => lo
  | fuel + 1, lo, hi =>
    if lo < hi then
      let mid := (lo + hi) / 2
      if caseRanges[mid]?.any (·.lo ≤ n) then countCaseStarting n fuel (mid + 1) hi
      else countCaseStarting n fuel lo mid
    else lo

/-- The code point of a case form of code point `n`. -/
def caseFormOf (form : CaseForm) (n : Nat) : Nat :=
  match caseRanges[countCaseStarting n 64 0 caseRanges.size - 1]? with
  | some r =>
    if r.lo ≤ n && n ≤ r.hi then
      match r.shift with
      | .offsets u l t =>
        let d : Int := match form with
          | .upper => u
          | .lower => l
          | .title => t
        ((n : Int) + d).toNat
      | .alternating =>
        -- the upper-case member of the pair `n` belongs to
        let first := r.lo + (n - r.lo) / 2 * 2
        if form == .lower then first + 1 else first
    else n
  | none => n

/-- The upper-case form of a character. -/
def toUpperCase (c : Char) : Char :=
  Char.ofNat (caseFormOf .upper c.toNat)

/-- The lower-case form of a character. -/
def toLowerCase (c : Char) : Char :=
  Char.ofNat (caseFormOf .lower c.toNat)

/-- The title-case form of a character. -/
def toTitleCase (c : Char) : Char :=
  Char.ofNat (caseFormOf .title c.toNat)

/-- Whether case folding relates a character to another one. -/
def isCased (c : Char) : Bool :=
  let n := c.toNat
  n == 0xDF || (n != 0x130 && n != 0x131 && (toUpperCase c != c || toLowerCase c != c))

/-- Title case of a character sequence: a character that follows a cased one goes to lower
case, any other to title case. Whether a character counts as following a cased one is decided
by the character written before it. -/
def titleCase (cs : List Char) : List Char :=
  go false cs
where
  /-- Convert, knowing whether the last character written was cased. -/
  go : Bool → List Char → List Char
    | _, [] => []
    | afterCased, c :: cs =>
      let c' := if afterCased then toLowerCase c else toTitleCase c
      c' :: go (isCased c') cs

end DecimalMachine.Text
