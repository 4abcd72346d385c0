import CommandTree.Text.Script.Basic

/-!
# Scripts out of use

The scripts that are found in historic documents or hardly at all, with the characters that
Unicode assigns to each.
-/

namespace CommandTree.Text.Script

/-- The scripts that are no longer in general use. -/
def historic : List Script :=
  [{ names := ["ahom"]
     own := [⟨0x11700, 0x1171A, 1⟩, ⟨0x1171D, 0x1172B, 1⟩, ⟨0x11730, 0x11746, 1⟩] },
    { names := ["anatolianhieroglyphs", "hluw"]
      own := [⟨0x14400, 0x14646, 1⟩] },
    { names := ["avestan", "avst"]
      own := [⟨0x10B00, 0x10B35, 1⟩, ⟨0x10B39, 0x10B3F, 1⟩] },
    { names := ["bassavah", "bass"]
      own := [⟨0x16AD0, 0x16AED, 1⟩, ⟨0x16AF0, 0x16AF5, 1⟩] },
    { names := ["bhaiksuki", "bhks"]
      own :=
        [⟨0x11C00, 0x11C08, 1⟩, ⟨0x11C0A, 0x11C36, 1⟩, ⟨0x11C38, 0x11C45, 1⟩,
         ⟨0x11C50, 0x11C6C, 1⟩] },
    { names := ["brahmi", "brah"]
      own := [⟨0x11000, 0x1104D, 1⟩, ⟨0x11052, 0x11075, 1⟩, ⟨0x1107F, 0x1107F, 1⟩] },
    { names := ["braille", "brai"]
      own := [⟨0x2800, 0x28FF, 1⟩] },
    { names := ["buginese", "bugi"]
      own := [⟨0x1A00, 0x1A1B, 1⟩, ⟨0x1A1E, 0x1A1F, 1⟩]
      shared := [⟨0xA9CF, 0xA9CF, 1⟩] },
    { names := ["buhid", "buhd"]
      own := [⟨0x1740, 0x1753, 1⟩]
      shared := [⟨0x1735, 0x1736, 1⟩] },
    { names := ["carian", "cari"]
      own := [⟨0x102A0, 0x102D0, 1⟩] },
    { names := ["caucasianalbanian", "aghb"]
      own := [⟨0x10530, 0x10563, 1⟩, ⟨0x1056F, 0x1056F, 1⟩] },
    { names := ["chorasmian", "chrs"]
      own := [⟨0x10FB0, 0x10FCB, 1⟩] },
    { names := ["coptic", "copt", "qaac"]
      own := [⟨0x3E2, 0x3EF, 1⟩, ⟨0x2C80, 0x2CF3, 1⟩, ⟨0x2CF9, 0x2CFF, 1⟩]
      shared := [⟨0x102E0, 0x102FB, 1⟩] },
    { names := ["cuneiform", "xsux"]
      own :=
        [⟨0x12000, 0x12399, 1⟩, ⟨0x12400, 0x1246E, 1⟩, ⟨0x12470, 0x12474, 1⟩,
         ⟨0x12480, 0x12543, 1⟩] },
    { names := ["cypriot", "cprt"]
      own :=
        [⟨0x10800, 0x10805, 1⟩, ⟨0x10808, 0x10808, 1⟩, ⟨0x1080A, 0x10835, 1⟩,
         ⟨0x10837, 0x10838, 1⟩, ⟨0x1083C, 0x1083C, 1⟩, ⟨0x1083F, 0x1083F, 1⟩]
      shared := [⟨0x10100, 0x10102, 1⟩, ⟨0x10107, 0x10133, 1⟩, ⟨0x10137, 0x1013F, 1⟩] },
    { names := ["cyprominoan", "cpmn"]
      own := [⟨0x12F90, 0x12FF2, 1⟩]
      shared := [⟨0x10100, 0x10101, 1⟩] },
    { names := ["deseret", "dsrt"]
      own := [⟨0x10400, 0x1044F, 1⟩] },
    { names := ["divesakuru", "diak"]
      own :=
        [⟨0x11900, 0x11906, 1⟩, ⟨0x11909, 0x11909, 1⟩, ⟨0x1190C, 0x11913, 1⟩,
         ⟨0x11915, 0x11916, 1⟩, ⟨0x11918, 0x11935, 1⟩, ⟨0x11937, 0x11938, 1⟩,
         ⟨0x1193B, 0x11946, 1⟩, ⟨0x11950, 0x11959, 1⟩] },
    { names := ["dogra", "dogr"]
      own := [⟨0x11800, 0x1183B, 1⟩]
      shared := [⟨0x964, 0x96F, 1⟩, ⟨0xA830, 0xA839, 1⟩] },
    { names := ["duployan", "dupl"]
      own :=
        [⟨0x1BC00, 0x1BC6A, 1⟩, ⟨0x1BC70, 0x1BC7C, 1⟩, ⟨0x1BC80, 0x1BC88, 1⟩,
         ⟨0x1BC90, 0x1BC99, 1⟩, ⟨0x1BC9C, 0x1BC9F, 1⟩]
      shared := [⟨0x1BCA0, 0x1BCA3, 1⟩] },
    { names := ["egyptianhieroglyphs", "egyp"]
      own := [⟨0x13000, 0x13455, 1⟩] },
    { names := ["elbasan", "elba"]
      own := [⟨0x10500, 0x10527, 1⟩] },
    { names := ["elymaic", "elym"]
      own := [⟨0x10FE0, 0x10FF6, 1⟩] },
    { names := ["glagolitic", "glag"]
      own :=
        [⟨0x2C00, 0x2C5F, 1⟩, ⟨0x1E000, 0x1E006, 1⟩, ⟨0x1E008, 0x1E018, 1⟩, ⟨0x1E01B, 0x1E021, 1⟩,
         ⟨0x1E023, 0x1E024, 1⟩, ⟨0x1E026, 0x1E02A, 1⟩]
      shared := [⟨0x484, 0x484, 1⟩, ⟨0x487, 0x487, 1⟩, ⟨0x2E43, 0x2E43, 1⟩, ⟨0xA66F, 0xA66F, 1⟩] },
    { names := ["gothic", "goth"]
      own := [⟨0x10330, 0x1034A, 1⟩] },
    { names := ["grantha", "gran"]
      own :=
        [⟨0x11300, 0x11303, 1⟩, ⟨0x11305, 0x1130C, 1⟩, ⟨0x1130F, 0x11310, 1⟩,
         ⟨0x11313, 0x11328, 1⟩, ⟨0x1132A, 0x11330, 1⟩, ⟨0x11332, 0x11333, 1⟩,
         ⟨0x11335, 0x11339, 1⟩, ⟨0x1133C, 0x11344, 1⟩, ⟨0x11347, 0x11348, 1⟩,
         ⟨0x1134B, 0x1134D, 1⟩, ⟨0x11350, 0x11350, 1⟩, ⟨0x11357, 0x11357, 1⟩,
         ⟨0x1135D, 0x11363, 1⟩, ⟨0x11366, 0x1136C, 1⟩, ⟨0x11370, 0x11374, 1⟩]
      shared :=
        [⟨0x951, 0x952, 1⟩, ⟨0x964, 0x965, 1⟩, ⟨0xBE6, 0xBF3, 1⟩, ⟨0x1CD0, 0x1CD0, 1⟩,
         ⟨0x1CD2, 0x1CD3, 1⟩, ⟨0x1CF2, 0x1CF4, 1⟩, ⟨0x1CF8, 0x1CF9, 1⟩, ⟨0x20F0, 0x20F0, 1⟩,
         ⟨0x1133B, 0x1133B, 1⟩, ⟨0x11FD0, 0x11FD1, 1⟩, ⟨0x11FD3, 0x11FD3, 1⟩] },
    { names := ["gunjalagondi", "gong"]
      own :=
        [⟨0x11D60, 0x11D65, 1⟩, ⟨0x11D67, 0x11D68, 1⟩, ⟨0x11D6A, 0x11D8E, 1⟩,
         ⟨0x11D90, 0x11D91, 1⟩, ⟨0x11D93, 0x11D98, 1⟩, ⟨0x11DA0, 0x11DA9, 1⟩]
      shared := [⟨0x964, 0x965, 1⟩] },
    { names := ["hanunoo", "hano"]
      own := [⟨0x1720, 0x1734, 1⟩]
      shared := [⟨0x1735, 0x1736, 1⟩] },
    { names := ["hatran", "hatr"]
      own := [⟨0x108E0, 0x108F2, 1⟩, ⟨0x108F4, 0x108F5, 1⟩, ⟨0x108FB, 0x108FF, 1⟩] },
    { names := ["imperialaramaic", "armi"]
      own := [⟨0x10840, 0x10855, 1⟩, ⟨0x10857, 0x1085F, 1⟩] },
    { names := ["inscriptionalpahlavi", "phli"]
      own := [⟨0x10B60, 0x10B72, 1⟩, ⟨0x10B78, 0x10B7F, 1⟩] },
    { names := ["inscriptionalparthian", "prti"]
      own := [⟨0x10B40, 0x10B55, 1⟩, ⟨0x10B58, 0x10B5F, 1⟩] },
    { names := ["kaithi", "kthi"]
      own := [⟨0x11080, 0x110C2, 1⟩, ⟨0x110CD, 0x110CD, 1⟩]
      shared := [⟨0x966, 0x96F, 1⟩, ⟨0xA830, 0xA839, 1⟩] },
    { names := ["kawi"]
      own := [⟨0x11F00, 0x11F10, 1⟩, ⟨0x11F12, 0x11F3A, 1⟩, ⟨0x11F3E, 0x11F59, 1⟩] },
    { names := ["kharoshthi", "khar"]
      own :=
        [⟨0x10A00, 0x10A03, 1⟩, ⟨0x10A05, 0x10A06, 1⟩, ⟨0x10A0C, 0x10A13, 1⟩,
         ⟨0x10A15, 0x10A17, 1⟩, ⟨0x10A19, 0x10A35, 1⟩, ⟨0x10A38, 0x10A3A, 1⟩,
         ⟨0x10A3F, 0x10A48, 1⟩, ⟨0x10A50, 0x10A58, 1⟩] },
    { names := ["khitansmallscript", "kits"]
      own := [⟨0x16FE4, 0x16FE4, 1⟩, ⟨0x18B00, 0x18CD5, 1⟩] },
    { names := ["khojki", "khoj"]
      own := [⟨0x11200, 0x11211, 1⟩, ⟨0x11213, 0x11241, 1⟩]
      shared := [⟨0xAE6, 0xAEF, 1⟩, ⟨0xA830, 0xA839, 1⟩] },
    { names := ["khudawadi", "sind"]
      own := [⟨0x112B0, 0x112EA, 1⟩, ⟨0x112F0, 0x112F9, 1⟩]
      shared := [⟨0x964, 0x965, 1⟩, ⟨0xA830, 0xA839, 1⟩] },
    { names := ["lineara", "lina"]
      own := [⟨0x10600, 0x10736, 1⟩, ⟨0x10740, 0x10755, 1⟩, ⟨0x10760, 0x10767, 1⟩]
      shared := [⟨0x10107, 0x10133, 1⟩] },
    { names := ["linearb", "linb"]
      own :=
        [⟨0x10000, 0x1000B, 1⟩, ⟨0x1000D, 0x10026, 1⟩, ⟨0x10028, 0x1003A, 1⟩,
         ⟨0x1003C, 0x1003D, 1⟩, ⟨0x1003F, 0x1004D, 1⟩, ⟨0x10050, 0x1005D, 1⟩,
         ⟨0x10080, 0x100FA, 1⟩]
      shared := [⟨0x10100, 0x10102, 1⟩, ⟨0x10107, 0x10133, 1⟩, ⟨0x10137, 0x1013F, 1⟩] },
    { names := ["lycian", "lyci"]
      own := [⟨0x10280, 0x1029C, 1⟩] },
    { names := ["lydian", "lydi"]
      own := [⟨0x10920, 0x10939, 1⟩, ⟨0x1093F, 0x1093F, 1⟩] },
    { names := ["mahajani", "mahj"]
      own := [⟨0x11150, 0x11176, 1⟩]
      shared := [⟨0x964, 0x96F, 1⟩, ⟨0xA830, 0xA839, 1⟩] },
    { names := ["makasar", "maka"]
      own := [⟨0x11EE0, 0x11EF8, 1⟩] },
    { names := ["manichaean", "mani"]
      own := [⟨0x10AC0, 0x10AE6, 1⟩, ⟨0x10AEB, 0x10AF6, 1⟩]
      shared := [⟨0x640, 0x640, 1⟩] },
    { names := ["marchen", "marc"]
      own := [⟨0x11C70, 0x11C8F, 1⟩, ⟨0x11C92, 0x11CA7, 1⟩, ⟨0x11CA9, 0x11CB6, 1⟩] },
    { names := ["masaramgondi", "gonm"]
      own :=
        [⟨0x11D00, 0x11D06, 1⟩, ⟨0x11D08, 0x11D09, 1⟩, ⟨0x11D0B, 0x11D36, 1⟩,
         ⟨0x11D3A, 0x11D3A, 1⟩, ⟨0x11D3C, 0x11D3D, 1⟩, ⟨0x11D3F, 0x11D47, 1⟩,
         ⟨0x11D50, 0x11D59, 1⟩]
      shared := [⟨0x964, 0x965, 1⟩] },
    { names := ["medefaidrin", "medf"]
      own := [⟨0x16E40, 0x16E9A, 1⟩] },
    { names := ["mendekikakui", "mend"]
      own := [⟨0x1E800, 0x1E8C4, 1⟩, ⟨0x1E8C7, 0x1E8D6, 1⟩] },
    { names := ["meroiticcursive", "merc"]
      own := [⟨0x109A0, 0x109B7, 1⟩, ⟨0x109BC, 0x109CF, 1⟩, ⟨0x109D2, 0x109FF, 1⟩] },
    { names := ["meroitichieroglyphs", "mero"]
      own := [⟨0x10980, 0x1099F, 1⟩] },
    { names := ["modi"]
      own := [⟨0x11600, 0x11644, 1⟩, ⟨0x11650, 0x11659, 1⟩]
      shared := [⟨0xA830, 0xA839, 1⟩] },
    { names := ["mongolian", "mong"]
      own :=
        [⟨0x1800, 0x1801, 1⟩, ⟨0x1804, 0x1804, 1⟩, ⟨0x1806, 0x1819, 1⟩, ⟨0x1820, 0x1878, 1⟩,
         ⟨0x1880, 0x18AA, 1⟩, ⟨0x11660, 0x1166C, 1⟩]
      shared := [⟨0x1802, 0x1803, 1⟩, ⟨0x1805, 0x1805, 1⟩, ⟨0x202F, 0x202F, 1⟩] },
    { names := ["mro", "mroo"]
      own := [⟨0x16A40, 0x16A5E, 1⟩, ⟨0x16A60, 0x16A69, 1⟩, ⟨0x16A6E, 0x16A6F, 1⟩] },
    { names := ["multani", "mult"]
      own :=
        [⟨0x11280, 0x11286, 1⟩, ⟨0x11288, 0x11288, 1⟩, ⟨0x1128A, 0x1128D, 1⟩,
         ⟨0x1128F, 0x1129D, 1⟩, ⟨0x1129F, 0x112A9, 1⟩]
      shared := [⟨0xA66, 0xA6F, 1⟩] },
    { names := ["nabataean", "nbat"]
      own := [⟨0x10880, 0x1089E, 1⟩, ⟨0x108A7, 0x108AF, 1⟩] },
    { names := ["nagmundari", "nagm"]
      own := [⟨0x1E4D0, 0x1E4F9, 1⟩] },
    { names := ["nandinagari", "nand"]
      own := [⟨0x119A0, 0x119A7, 1⟩, ⟨0x119AA, 0x119D7, 1⟩, ⟨0x119DA, 0x119E4, 1⟩]
      shared :=
        [⟨0x964, 0x965, 1⟩, ⟨0xCE6, 0xCEF, 1⟩, ⟨0x1CE9, 0x1CE9, 1⟩, ⟨0x1CF2, 0x1CF2, 1⟩,
         ⟨0x1CFA, 0x1CFA, 1⟩, ⟨0xA830, 0xA835, 1⟩] },
    { names := ["nushu", "nshu"]
      own := [⟨0x16FE1, 0x16FE1, 1⟩, ⟨0x1B170, 0x1B2FB, 1⟩] },
    { names := ["ogham", "ogam"]
      own := [⟨0x1680, 0x169C, 1⟩] },
    { names := ["oldhungarian", "hung"]
      own := [⟨0x10C80, 0x10CB2, 1⟩, ⟨0x10CC0, 0x10CF2, 1⟩, ⟨0x10CFA, 0x10CFF, 1⟩] },
    { names := ["olditalic", "ital"]
      own := [⟨0x10300, 0x10323, 1⟩, ⟨0x1032D, 0x1032F, 1⟩] },
    { names := ["oldnortharabian", "narb"]
      own := [⟨0x10A80, 0x10A9F, 1⟩] },
    { names := ["oldpermic", "perm"]
      own := [⟨0x10350, 0x1037A, 1⟩]
      shared := [⟨0x483, 0x483, 1⟩] },
    { names := ["oldpersian", "xpeo"]
      own := [⟨0x103A0, 0x103C3, 1⟩, ⟨0x103C8, 0x103D5, 1⟩] },
    { names := ["oldsogdian", "sogo"]
      own := [⟨0x10F00, 0x10F27, 1⟩] },
    { names := ["oldsoutharabian", "sarb"]
      own := [⟨0x10A60, 0x10A7F, 1⟩] },
    { names := ["oldturkic", "orkh"]
      own := [⟨0x10C00, 0x10C48, 1⟩] },
    { names := ["olduyghur", "ougr"]
      own := [⟨0x10F70, 0x10F89, 1⟩]
      shared := [⟨0x640, 0x640, 1⟩, ⟨0x10AF2, 0x10AF2, 1⟩] },
    { names := ["osmanya", "osma"]
      own := [⟨0x10480, 0x1049D, 1⟩, ⟨0x104A0, 0x104A9, 1⟩] },
    { names := ["pahawhhmong", "hmng"]
      own :=
        [⟨0x16B00, 0x16B45, 1⟩, ⟨0x16B50, 0x16B59, 1⟩, ⟨0x16B5B, 0x16B61, 1⟩,
         ⟨0x16B63, 0x16B77, 1⟩, ⟨0x16B7D, 0x16B8F, 1⟩] },
    { names := ["palmyrene", "palm"]
      own := [⟨0x10860, 0x1087F, 1⟩] },
    { names := ["paucinhau", "pauc"]
      own := [⟨0x11AC0, 0x11AF8, 1⟩] },
    { names := ["phagspa", "phag"]
      own := [⟨0xA840, 0xA877, 1⟩]
      shared := [⟨0x1802, 0x1803, 1⟩, ⟨0x1805, 0x1805, 1⟩] },
    { names := ["phoenician", "phnx"]
      own := [⟨0x10900, 0x1091B, 1⟩, ⟨0x1091F, 0x1091F, 1⟩] },
    { names := ["psalterpahlavi", "phlp"]
      own := [⟨0x10B80, 0x10B91, 1⟩, ⟨0x10B99, 0x10B9C, 1⟩, ⟨0x10BA9, 0x10BAF, 1⟩]
      shared := [⟨0x640, 0x640, 1⟩] },
    { names := ["rejang", "rjng"]
      own := [⟨0xA930, 0xA953, 1⟩, ⟨0xA95F, 0xA95F, 1⟩] },
    { names := ["runic", "runr"]
      own := [⟨0x16A0, 0x16EA, 1⟩, ⟨0x16EE, 0x16F8, 1⟩] },
    { names := ["samaritan", "samr"]
      own := [⟨0x800, 0x82D, 1⟩, ⟨0x830, 0x83E, 1⟩] },
    { names := ["sharada", "shrd"]
      own := [⟨0x11180, 0x111DF, 1⟩]
      shared :=
        [⟨0x951, 0x951, 1⟩, ⟨0x1CD7, 0x1CD7, 1⟩, ⟨0x1CD9, 0x1CD9, 1⟩, ⟨0x1CDC, 0x1CDD, 1⟩,
         ⟨0x1CE0, 0x1CE0, 1⟩] },
    { names := ["shavian", "shaw"]
      own := [⟨0x10450, 0x1047F, 1⟩] },
    { names := ["siddham", "sidd"]
      own := [⟨0x11580, 0x115B5, 1⟩, ⟨0x115B8, 0x115DD, 1⟩] },
    { names := ["signwriting", "sgnw"]
      own := [⟨0x1D800, 0x1DA8B, 1⟩, ⟨0x1DA9B, 0x1DA9F, 1⟩, ⟨0x1DAA1, 0x1DAAF, 1⟩] },
    { names := ["sogdian", "sogd"]
      own := [⟨0x10F30, 0x10F59, 1⟩]
      shared := [⟨0x640, 0x640, 1⟩] },
    { names := ["sorasompeng", "sora"]
      own := [⟨0x110D0, 0x110E8, 1⟩, ⟨0x110F0, 0x110F9, 1⟩] },
    { names := ["soyombo", "soyo"]
      own := [⟨0x11A50, 0x11AA2, 1⟩] },
    { names := ["tagalog", "tglg"]
      own := [⟨0x1700, 0x1715, 1⟩, ⟨0x171F, 0x171F, 1⟩]
      shared := [⟨0x1735, 0x1736, 1⟩] },
    { names := ["tagbanwa", "tagb"]
      own := [⟨0x1760, 0x176C, 1⟩, ⟨0x176E, 0x1770, 1⟩, ⟨0x1772, 0x1773, 1⟩]
      shared := [⟨0x1735, 0x1736, 1⟩] },
    { names := ["takri", "takr"]
      own := [⟨0x11680, 0x116B9, 1⟩, ⟨0x116C0, 0x116C9, 1⟩]
      shared := [⟨0x964, 0x965, 1⟩, ⟨0xA830, 0xA839, 1⟩] },
    { names := ["tangsa", "tnsa"]
      own := [⟨0x16A70, 0x16ABE, 1⟩, ⟨0x16AC0, 0x16AC9, 1⟩] },
    { names := ["tangut", "tang"]
      own :=
        [⟨0x16FE0, 0x16FE0, 1⟩, ⟨0x17000, 0x187F7, 1⟩, ⟨0x18800, 0x18AFF, 1⟩,
         ⟨0x18D00, 0x18D08, 1⟩] },
    { names := ["tirhuta", "tirh"]
      own := [⟨0x11480, 0x114C7, 1⟩, ⟨0x114D0, 0x114D9, 1⟩]
      shared := [⟨0x951, 0x952, 1⟩, ⟨0x964, 0x965, 1⟩, ⟨0x1CF2, 0x1CF2, 1⟩, ⟨0xA830, 0xA839, 1⟩] },
    { names := ["toto"]
      own := [⟨0x1E290, 0x1E2AE, 1⟩] },
    { names := ["ugaritic", "ugar"]
      own := [⟨0x10380, 0x1039D, 1⟩, ⟨0x1039F, 0x1039F, 1⟩] },
    { names := ["vithkuqi", "vith"]
      own :=
        [⟨0x10570, 0x1057A, 1⟩, ⟨0x1057C, 0x1058A, 1⟩, ⟨0x1058C, 0x10592, 1⟩,
         ⟨0x10594, 0x10595, 1⟩, ⟨0x10597, 0x105A1, 1⟩, ⟨0x105A3, 0x105B1, 1⟩,
         ⟨0x105B3, 0x105B9, 1⟩, ⟨0x105BB, 0x105BC, 1⟩] },
    { names := ["warangciti", "wara"]
      own := [⟨0x118A0, 0x118F2, 1⟩, ⟨0x118FF, 0x118FF, 1⟩] },
    { names := ["yezidi", "yezi"]
      own := [⟨0x10E80, 0x10EA9, 1⟩, ⟨0x10EAB, 0x10EAD, 1⟩, ⟨0x10EB0, 0x10EB1, 1⟩]
      shared := [⟨0x60C, 0x60C, 1⟩, ⟨0x61B, 0x61B, 1⟩, ⟨0x61F, 0x61F, 1⟩, ⟨0x660, 0x669, 1⟩] },
    { names := ["zanabazarsquare", "zanb"]
      own := [⟨0x11A00, 0x11A47, 1⟩] }]

end CommandTree.Text.Script
