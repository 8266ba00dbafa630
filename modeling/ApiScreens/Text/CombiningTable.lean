import ApiScreens.Text.Run

/-!
# Table of combining characters

The combining classes of Unicode that are not zero, and the pairs of characters that make up
another character.
-/

namespace ApiScreens.Text

/-- Combining classes, each with the characters from a first to a last one. -/
def combiningClasses : List (Nat × Nat × Nat) := [
  (230, 0x300, 0x314), (232, 0x315, 0x315), (220, 0x316, 0x319), (232, 0x31A, 0x31A),
  (216, 0x31B, 0x31B), (220, 0x31C, 0x320), (202, 0x321, 0x322), (220, 0x323, 0x326),
  (202, 0x327, 0x328), (220, 0x329, 0x333), (1, 0x334, 0x338), (220, 0x339, 0x33C),
  (230, 0x33D, 0x344), (240, 0x345, 0x345), (230, 0x346, 0x346), (220, 0x347, 0x349),
  (230, 0x34A, 0x34C), (220, 0x34D, 0x34E), (230, 0x350, 0x352), (220, 0x353, 0x356),
  (230, 0x357, 0x357), (232, 0x358, 0x358), (220, 0x359, 0x35A), (230, 0x35B, 0x35B),
  (233, 0x35C, 0x35C), (234, 0x35D, 0x35E), (233, 0x35F, 0x35F), (234, 0x360, 0x361),
  (233, 0x362, 0x362), (230, 0x363, 0x36F), (230, 0x483, 0x487), (220, 0x591, 0x591),
  (230, 0x592, 0x595), (220, 0x596, 0x596), (230, 0x597, 0x599), (222, 0x59A, 0x59A),
  (220, 0x59B, 0x59B), (230, 0x59C, 0x5A1), (220, 0x5A2, 0x5A7), (230, 0x5A8, 0x5A9),
  (220, 0x5AA, 0x5AA), (230, 0x5AB, 0x5AC), (222, 0x5AD, 0x5AD), (228, 0x5AE, 0x5AE),
  (230, 0x5AF, 0x5AF), (10, 0x5B0, 0x5B0), (11, 0x5B1, 0x5B1), (12, 0x5B2, 0x5B2),
  (13, 0x5B3, 0x5B3), (14, 0x5B4, 0x5B4), (15, 0x5B5, 0x5B5), (16, 0x5B6, 0x5B6),
  (17, 0x5B7, 0x5B7), (18, 0x5B8, 0x5B8), (19, 0x5B9, 0x5BA), (20, 0x5BB, 0x5BB),
  (21, 0x5BC, 0x5BC), (22, 0x5BD, 0x5BD), (23, 0x5BF, 0x5BF), (24, 0x5C1, 0x5C1),
  (25, 0x5C2, 0x5C2), (230, 0x5C4, 0x5C4), (220, 0x5C5, 0x5C5), (18, 0x5C7, 0x5C7),
  (230, 0x610, 0x617), (30, 0x618, 0x618), (31, 0x619, 0x619), (32, 0x61A, 0x61A),
  (27, 0x64B, 0x64B), (28, 0x64C, 0x64C), (29, 0x64D, 0x64D), (30, 0x64E, 0x64E),
  (31, 0x64F, 0x64F), (32, 0x650, 0x650), (33, 0x651, 0x651), (34, 0x652, 0x652),
  (230, 0x653, 0x654), (220, 0x655, 0x656), (230, 0x657, 0x65B), (220, 0x65C, 0x65C),
  (230, 0x65D, 0x65E), (220, 0x65F, 0x65F), (35, 0x670, 0x670), (230, 0x6D6, 0x6DC),
  (230, 0x6DF, 0x6E2), (220, 0x6E3, 0x6E3), (230, 0x6E4, 0x6E4), (230, 0x6E7, 0x6E8),
  (220, 0x6EA, 0x6EA), (230, 0x6EB, 0x6EC), (220, 0x6ED, 0x6ED), (36, 0x711, 0x711),
  (230, 0x730, 0x730), (220, 0x731, 0x731), (230, 0x732, 0x733), (220, 0x734, 0x734),
  (230, 0x735, 0x736), (220, 0x737, 0x739), (230, 0x73A, 0x73A), (220, 0x73B, 0x73C),
  (230, 0x73D, 0x73D), (220, 0x73E, 0x73E), (230, 0x73F, 0x741), (220, 0x742, 0x742),
  (230, 0x743, 0x743), (220, 0x744, 0x744), (230, 0x745, 0x745), (220, 0x746, 0x746),
  (230, 0x747, 0x747), (220, 0x748, 0x748), (230, 0x749, 0x74A), (230, 0x7EB, 0x7F1),
  (220, 0x7F2, 0x7F2), (230, 0x7F3, 0x7F3), (220, 0x7FD, 0x7FD), (230, 0x816, 0x819),
  (230, 0x81B, 0x823), (230, 0x825, 0x827), (230, 0x829, 0x82D), (220, 0x859, 0x85B),
  (230, 0x897, 0x898), (220, 0x899, 0x89B), (230, 0x89C, 0x89F), (230, 0x8CA, 0x8CE),
  (220, 0x8CF, 0x8D3), (230, 0x8D4, 0x8E1), (220, 0x8E3, 0x8E3), (230, 0x8E4, 0x8E5),
  (220, 0x8E6, 0x8E6), (230, 0x8E7, 0x8E8), (220, 0x8E9, 0x8E9), (230, 0x8EA, 0x8EC),
  (220, 0x8ED, 0x8EF), (27, 0x8F0, 0x8F0), (28, 0x8F1, 0x8F1), (29, 0x8F2, 0x8F2),
  (230, 0x8F3, 0x8F5), (220, 0x8F6, 0x8F6), (230, 0x8F7, 0x8F8), (220, 0x8F9, 0x8FA),
  (230, 0x8FB, 0x8FF), (7, 0x93C, 0x93C), (9, 0x94D, 0x94D), (230, 0x951, 0x951),
  (220, 0x952, 0x952), (230, 0x953, 0x954), (7, 0x9BC, 0x9BC), (9, 0x9CD, 0x9CD),
  (230, 0x9FE, 0x9FE), (7, 0xA3C, 0xA3C), (9, 0xA4D, 0xA4D), (7, 0xABC, 0xABC), (9, 0xACD, 0xACD),
  (7, 0xB3C, 0xB3C), (9, 0xB4D, 0xB4D), (9, 0xBCD, 0xBCD), (7, 0xC3C, 0xC3C), (9, 0xC4D, 0xC4D),
  (84, 0xC55, 0xC55), (91, 0xC56, 0xC56), (7, 0xCBC, 0xCBC), (9, 0xCCD, 0xCCD), (9, 0xD3B, 0xD3C),
  (9, 0xD4D, 0xD4D), (9, 0xDCA, 0xDCA), (103, 0xE38, 0xE39), (9, 0xE3A, 0xE3A),
  (107, 0xE48, 0xE4B), (118, 0xEB8, 0xEB9), (9, 0xEBA, 0xEBA), (122, 0xEC8, 0xECB),
  (220, 0xF18, 0xF19), (220, 0xF35, 0xF35), (220, 0xF37, 0xF37), (216, 0xF39, 0xF39),
  (129, 0xF71, 0xF71), (130, 0xF72, 0xF72), (132, 0xF74, 0xF74), (130, 0xF7A, 0xF7D),
  (130, 0xF80, 0xF80), (230, 0xF82, 0xF83), (9, 0xF84, 0xF84), (230, 0xF86, 0xF87),
  (220, 0xFC6, 0xFC6), (7, 0x1037, 0x1037), (9, 0x1039, 0x103A), (220, 0x108D, 0x108D),
  (230, 0x135D, 0x135F), (9, 0x1714, 0x1715), (9, 0x1734, 0x1734), (9, 0x17D2, 0x17D2),
  (230, 0x17DD, 0x17DD), (228, 0x18A9, 0x18A9), (222, 0x1939, 0x1939), (230, 0x193A, 0x193A),
  (220, 0x193B, 0x193B), (230, 0x1A17, 0x1A17), (220, 0x1A18, 0x1A18), (9, 0x1A60, 0x1A60),
  (230, 0x1A75, 0x1A7C), (220, 0x1A7F, 0x1A7F), (230, 0x1AB0, 0x1AB4), (220, 0x1AB5, 0x1ABA),
  (230, 0x1ABB, 0x1ABC), (220, 0x1ABD, 0x1ABD), (220, 0x1ABF, 0x1AC0), (230, 0x1AC1, 0x1AC2),
  (220, 0x1AC3, 0x1AC4), (230, 0x1AC5, 0x1AC9), (220, 0x1ACA, 0x1ACA), (230, 0x1ACB, 0x1ADC),
  (220, 0x1ADD, 0x1ADD), (230, 0x1AE0, 0x1AE5), (220, 0x1AE6, 0x1AE6), (230, 0x1AE7, 0x1AEA),
  (234, 0x1AEB, 0x1AEB), (7, 0x1B34, 0x1B34), (9, 0x1B44, 0x1B44), (230, 0x1B6B, 0x1B6B),
  (220, 0x1B6C, 0x1B6C), (230, 0x1B6D, 0x1B73), (9, 0x1BAA, 0x1BAB), (7, 0x1BE6, 0x1BE6),
  (9, 0x1BF2, 0x1BF3), (7, 0x1C37, 0x1C37), (230, 0x1CD0, 0x1CD2), (1, 0x1CD4, 0x1CD4),
  (220, 0x1CD5, 0x1CD9), (230, 0x1CDA, 0x1CDB), (220, 0x1CDC, 0x1CDF), (230, 0x1CE0, 0x1CE0),
  (1, 0x1CE2, 0x1CE8), (220, 0x1CED, 0x1CED), (230, 0x1CF4, 0x1CF4), (230, 0x1CF8, 0x1CF9),
  (230, 0x1DC0, 0x1DC1), (220, 0x1DC2, 0x1DC2), (230, 0x1DC3, 0x1DC9), (220, 0x1DCA, 0x1DCA),
  (230, 0x1DCB, 0x1DCC), (234, 0x1DCD, 0x1DCD), (214, 0x1DCE, 0x1DCE), (220, 0x1DCF, 0x1DCF),
  (202, 0x1DD0, 0x1DD0), (230, 0x1DD1, 0x1DF5), (232, 0x1DF6, 0x1DF6), (228, 0x1DF7, 0x1DF8),
  (220, 0x1DF9, 0x1DF9), (218, 0x1DFA, 0x1DFA), (230, 0x1DFB, 0x1DFB), (233, 0x1DFC, 0x1DFC),
  (220, 0x1DFD, 0x1DFD), (230, 0x1DFE, 0x1DFE), (220, 0x1DFF, 0x1DFF), (230, 0x20D0, 0x20D1),
  (1, 0x20D2, 0x20D3), (230, 0x20D4, 0x20D7), (1, 0x20D8, 0x20DA), (230, 0x20DB, 0x20DC),
  (230, 0x20E1, 0x20E1), (1, 0x20E5, 0x20E6), (230, 0x20E7, 0x20E7), (220, 0x20E8, 0x20E8),
  (230, 0x20E9, 0x20E9), (1, 0x20EA, 0x20EB), (220, 0x20EC, 0x20EF), (230, 0x20F0, 0x20F0),
  (230, 0x2CEF, 0x2CF1), (9, 0x2D7F, 0x2D7F), (230, 0x2DE0, 0x2DFF), (218, 0x302A, 0x302A),
  (228, 0x302B, 0x302B), (232, 0x302C, 0x302C), (222, 0x302D, 0x302D), (224, 0x302E, 0x302F),
  (8, 0x3099, 0x309A), (230, 0xA66F, 0xA66F), (230, 0xA674, 0xA67D), (230, 0xA69E, 0xA69F),
  (230, 0xA6F0, 0xA6F1), (9, 0xA806, 0xA806), (9, 0xA82C, 0xA82C), (9, 0xA8C4, 0xA8C4),
  (230, 0xA8E0, 0xA8F1), (220, 0xA92B, 0xA92D), (9, 0xA953, 0xA953), (7, 0xA9B3, 0xA9B3),
  (9, 0xA9C0, 0xA9C0), (230, 0xAAB0, 0xAAB0), (230, 0xAAB2, 0xAAB3), (220, 0xAAB4, 0xAAB4),
  (230, 0xAAB7, 0xAAB8), (230, 0xAABE, 0xAABF), (230, 0xAAC1, 0xAAC1), (9, 0xAAF6, 0xAAF6),
  (9, 0xABED, 0xABED), (26, 0xFB1E, 0xFB1E), (230, 0xFE20, 0xFE26), (220, 0xFE27, 0xFE2D),
  (230, 0xFE2E, 0xFE2F), (220, 0x101FD, 0x101FD), (220, 0x102E0, 0x102E0),
  (230, 0x10376, 0x1037A), (220, 0x10A0D, 0x10A0D), (230, 0x10A0F, 0x10A0F),
  (230, 0x10A38, 0x10A38), (1, 0x10A39, 0x10A39), (220, 0x10A3A, 0x10A3A), (9, 0x10A3F, 0x10A3F),
  (230, 0x10AE5, 0x10AE5), (220, 0x10AE6, 0x10AE6), (230, 0x10D24, 0x10D27),
  (230, 0x10D69, 0x10D6D), (230, 0x10EAB, 0x10EAC), (220, 0x10EFA, 0x10EFB),
  (220, 0x10EFD, 0x10EFF), (220, 0x10F46, 0x10F47), (230, 0x10F48, 0x10F4A),
  (220, 0x10F4B, 0x10F4B), (230, 0x10F4C, 0x10F4C), (220, 0x10F4D, 0x10F50),
  (230, 0x10F82, 0x10F82), (220, 0x10F83, 0x10F83), (230, 0x10F84, 0x10F84),
  (220, 0x10F85, 0x10F85), (9, 0x11046, 0x11046), (9, 0x11070, 0x11070), (9, 0x1107F, 0x1107F),
  (9, 0x110B9, 0x110B9), (7, 0x110BA, 0x110BA), (230, 0x11100, 0x11102), (9, 0x11133, 0x11134),
  (7, 0x11173, 0x11173), (9, 0x111C0, 0x111C0), (7, 0x111CA, 0x111CA), (9, 0x11235, 0x11235),
  (7, 0x11236, 0x11236), (7, 0x112E9, 0x112E9), (9, 0x112EA, 0x112EA), (7, 0x1133B, 0x1133C),
  (9, 0x1134D, 0x1134D), (230, 0x11366, 0x1136C), (230, 0x11370, 0x11374), (9, 0x113CE, 0x113D0),
  (9, 0x11442, 0x11442), (7, 0x11446, 0x11446), (230, 0x1145E, 0x1145E), (9, 0x114C2, 0x114C2),
  (7, 0x114C3, 0x114C3), (9, 0x115BF, 0x115BF), (7, 0x115C0, 0x115C0), (9, 0x1163F, 0x1163F),
  (9, 0x116B6, 0x116B6), (7, 0x116B7, 0x116B7), (9, 0x1172B, 0x1172B), (9, 0x11839, 0x11839),
  (7, 0x1183A, 0x1183A), (9, 0x1193D, 0x1193E), (7, 0x11943, 0x11943), (9, 0x119E0, 0x119E0),
  (9, 0x11A34, 0x11A34), (9, 0x11A47, 0x11A47), (9, 0x11A99, 0x11A99), (9, 0x11C3F, 0x11C3F),
  (7, 0x11D42, 0x11D42), (9, 0x11D44, 0x11D45), (9, 0x11D97, 0x11D97), (9, 0x11F41, 0x11F42),
  (9, 0x1612F, 0x1612F), (1, 0x16AF0, 0x16AF4), (230, 0x16B30, 0x16B36), (6, 0x16FF0, 0x16FF1),
  (1, 0x1BC9E, 0x1BC9E), (216, 0x1D165, 0x1D166), (1, 0x1D167, 0x1D169), (226, 0x1D16D, 0x1D16D),
  (216, 0x1D16E, 0x1D172), (220, 0x1D17B, 0x1D182), (230, 0x1D185, 0x1D189),
  (220, 0x1D18A, 0x1D18B), (230, 0x1D1AA, 0x1D1AD), (230, 0x1D242, 0x1D244),
  (230, 0x1E000, 0x1E006), (230, 0x1E008, 0x1E018), (230, 0x1E01B, 0x1E021),
  (230, 0x1E023, 0x1E024), (230, 0x1E026, 0x1E02A), (230, 0x1E08F, 0x1E08F),
  (230, 0x1E130, 0x1E136), (230, 0x1E2AE, 0x1E2AE), (230, 0x1E2EC, 0x1E2EF),
  (232, 0x1E4EC, 0x1E4ED), (220, 0x1E4EE, 0x1E4EE), (230, 0x1E4EF, 0x1E4EF),
  (230, 0x1E5EE, 0x1E5EE), (220, 0x1E5EF, 0x1E5EF), (230, 0x1E6E3, 0x1E6E3),
  (230, 0x1E6E6, 0x1E6E6), (230, 0x1E6EE, 0x1E6EF), (230, 0x1E6F5, 0x1E6F5),
  (220, 0x1E8D0, 0x1E8D6), (230, 0x1E944, 0x1E949), (7, 0x1E94A, 0x1E94A)]

/-- Compositions by their second character. The text goes through the first characters, each with
the character that the two make up. -/
def compositions : List (Nat × String) := [
  (0x300, "AÀEÈIÌNǸOÒUÙWẀYỲaàeèiìnǹoòuùwẁyỳ¨῭ÂẦÊỀÔỒÜǛâầêềôồüǜĂẰăằĒḔēḕŌṐōṑƠỜơờƯỪưừΑᾺΕῈΗῊΙῚΟῸΥῪΩῺαὰεὲ" ++
    "ηὴιὶοὸυὺωὼϊῒϋῢЕЀИЍеѐиѝἀἂἁἃἈἊἉἋἐἒἑἓἘἚἙἛἠἢἡἣἨἪἩἫἰἲἱἳἸἺἹἻὀὂὁὃὈὊὉὋὐὒὑὓὙὛὠὢὡὣὨὪὩὫ᾿῍῾῝"),
  (0x301, "AÁCĆEÉGǴIÍKḰLĹMḾNŃOÓPṔRŔSŚUÚWẂYÝZŹaácćeégǵiíkḱlĺmḿnńoópṕrŕsśuúwẃyýzź¨΅ÂẤÅǺÆǼÇḈÊẾÏḮÔỐÕṌØǾ" ++
    "ÜǗâấåǻæǽçḉêếïḯôốõṍøǿüǘĂẮăắĒḖēḗŌṒōṓŨṸũṹƠỚơớƯỨưứΑΆΕΈΗΉΙΊΟΌΥΎΩΏαάεέηήιίοόυύωώϊΐϋΰϒϓГЃКЌгѓкќ" ++
    "ἀἄἁἅἈἌἉἍἐἔἑἕἘἜἙἝἠἤἡἥἨἬἩἭἰἴἱἵἸἼἹἽὀὄὁὅὈὌὉὍὐὔὑὕὙὝὠὤὡὥὨὬὩὭ᾿῎῾῞"),
  (0x302, "AÂCĈEÊGĜHĤIÎJĴOÔSŜUÛWŴYŶZẐaâcĉeêgĝhĥiîjĵoôsŝuûwŵyŷzẑẠẬạậẸỆẹệỌỘọộ"),
  (0x303, "AÃEẼIĨNÑOÕUŨVṼYỸaãeẽiĩnñoõuũvṽyỹÂẪÊỄÔỖâẫêễôỗĂẴăẵƠỠơỡƯỮưữ"),
  (0x304, "AĀEĒGḠIĪOŌUŪYȲaāeēgḡiīoōuūyȳÄǞÆǢÕȬÖȪÜǕäǟæǣõȭöȫüǖǪǬǫǭȦǠȧǡȮȰȯȱΑᾹΙῙΥῩαᾱιῑυῡИӢУӮиӣуӯḶḸḷḹṚṜṛṝ"),
  (0x306, "AĂEĔGĞIĬOŎUŬaăeĕgğiĭoŏuŭȨḜȩḝΑᾸΙῘΥῨαᾰιῐυῠАӐЕӖЖӁИЙУЎаӑеӗжӂийуўẠẶạặ"),
  (0x307, "AȦBḂCĊDḊEĖFḞGĠHḢIİMṀNṄOȮPṖRṘSṠTṪWẆXẊYẎZŻaȧbḃcċdḋeėfḟgġhḣmṁnṅoȯpṗrṙsṡtṫwẇxẋyẏzżŚṤśṥŠṦšṧſẛ" ++
    "ṢṨṣṩ𐗒𐗉𐗚𐗤"),
  (0x308, "AÄEËHḦIÏOÖUÜWẄXẌYŸaäeëhḧiïoötẗuüwẅxẍyÿÕṎõṏŪṺūṻΙΪΥΫιϊυϋϒϔІЇАӒЕЁЖӜЗӞИӤОӦУӰЧӴЫӸЭӬаӓеёжӝзӟиӥ" ++
    "оӧуӱчӵыӹэӭіїӘӚәӛӨӪөӫ"),
  (0x309, "AẢEẺIỈOỎUỦYỶaảeẻiỉoỏuủyỷÂẨÊỂÔỔâẩêểôổĂẲăẳƠỞơởƯỬưử"),
  (0x30A, "AÅUŮaåuůwẘyẙ"),
  (0x30B, "OŐUŰoőuűУӲуӳ"),
  (0x30C, "AǍCČDĎEĚGǦHȞIǏKǨLĽNŇOǑRŘSŠTŤUǓZŽaǎcčdďeěgǧhȟiǐjǰkǩlľnňoǒrřsštťuǔzžÜǙüǚƷǮʒǯ"),
  (0x30F, "AȀEȄIȈOȌRȐUȔaȁeȅiȉoȍrȑuȕѴѶѵѷ"),
  (0x311, "AȂEȆIȊOȎRȒUȖaȃeȇiȋoȏrȓuȗ"),
  (0x313, "ΑἈΕἘΗἨΙἸΟὈΩὨαἀεἐηἠιἰοὀρῤυὐωὠ"),
  (0x314, "ΑἉΕἙΗἩΙἹΟὉΡῬΥὙΩὩαἁεἑηἡιἱοὁρῥυὑωὡ"),
  (0x31B, "OƠUƯoơuư"),
  (0x323, "AẠBḄDḌEẸHḤIỊKḲLḶMṂNṆOỌRṚSṢTṬUỤVṾWẈYỴZẒaạbḅdḍeẹhḥiịkḳlḷmṃnṇoọrṛsṣtṭuụvṿwẉyỵzẓƠỢơợƯỰưự"),
  (0x324, "UṲuṳ"),
  (0x325, "AḀaḁ"),
  (0x326, "SȘTȚsștț"),
  (0x327, "CÇDḐEȨGĢHḨKĶLĻNŅRŖSŞTŢcçdḑeȩgģhḩkķlļnņrŗsştţ"),
  (0x328, "AĄEĘIĮOǪUŲaąeęiįoǫuų"),
  (0x32D, "DḒEḘLḼNṊTṰUṶdḓeḙlḽnṋtṱuṷ"),
  (0x32E, "HḪhḫ"),
  (0x330, "EḚIḬUṴeḛiḭuṵ"),
  (0x331, "BḆDḎKḴLḺNṈRṞTṮZẔbḇdḏhẖkḵlḻnṉrṟtṯzẕ"),
  (0x338, "<≮=≠>≯←↚→↛↔↮⇐⇍⇒⇏⇔⇎∃∄∈∉∋∌∣∤∥∦∼≁≃≄≅≇≈≉≍≭≡≢≤≰≥≱≲≴≳≵≶≸≷≹≺⊀≻⊁≼⋠≽⋡⊂⊄⊃⊅⊆⊈⊇⊉⊑⋢⊒⋣⊢⊬⊨⊭⊩⊮⊫⊯⊲⋪⊳⋫⊴⋬⊵⋭"),
  (0x342, "¨῁αᾶηῆιῖυῦωῶϊῗϋῧἀἆἁἇἈἎἉἏἠἦἡἧἨἮἩἯἰἶἱἷἸἾἹἿὐὖὑὗὙὟὠὦὡὧὨὮὩὯ᾿῏῾῟"),
  (0x345, "ΑᾼΗῌΩῼάᾴήῄαᾳηῃωῳώῴἀᾀἁᾁἂᾂἃᾃἄᾄἅᾅἆᾆἇᾇἈᾈἉᾉἊᾊἋᾋἌᾌἍᾍἎᾎἏᾏἠᾐἡᾑἢᾒἣᾓἤᾔἥᾕἦᾖἧᾗἨᾘἩᾙἪᾚἫᾛἬᾜἭᾝἮᾞἯᾟὠᾠὡᾡὢᾢ" ++
    "ὣᾣὤᾤὥᾥὦᾦὧᾧὨᾨὩᾩὪᾪὫᾫὬᾬὭᾭὮᾮὯᾯὰᾲὴῂὼῲᾶᾷῆῇῶῷ"),
  (0x653, "اآ"),
  (0x654, "اأوؤيئہۂےۓەۀ"),
  (0x655, "اإ"),
  (0x93C, "नऩरऱळऴ"),
  (0x9BE, "\u09c7\u09cb"),
  (0x9D7, "\u09c7\u09cc"),
  (0xB3E, "\u0b47\u0b4b"),
  (0xB56, "\u0b47\u0b48"),
  (0xB57, "\u0b47\u0b4c"),
  (0xBBE, "\u0bc6\u0bca\u0bc7\u0bcb"),
  (0xBD7, "ஒஔ\u0bc6\u0bcc"),
  (0xC56, "\u0c46\u0c48"),
  (0xCC2, "\u0cc6\u0cca"),
  (0xCD5, "\u0cbf\u0cc0\u0cc6\u0cc7\u0cca\u0ccb"),
  (0xCD6, "\u0cc6\u0cc8"),
  (0xD3E, "\u0d46\u0d4a\u0d47\u0d4b"),
  (0xD57, "\u0d46\u0d4c"),
  (0xDCA, "\u0dd9\u0dda\u0ddc\u0ddd"),
  (0xDCF, "\u0dd9\u0ddc"),
  (0xDDF, "\u0dd9\u0dde"),
  (0x102E, "ဥဦ"),
  (0x1B35, "ᬅᬆᬇᬈᬉᬊᬋᬌᬍᬎᬑᬒ\u1b3a\u1b3b\u1b3c\u1b3d\u1b3e\u1b40\u1b3f\u1b41\u1b42\u1b43"),
  (0x3099, "うゔかがきぎくぐけげこごさざしじすずせぜそぞただちぢつづてでとどはばひびふぶへべほぼゝゞウヴカガキギクグケゲコゴサザシジスズセゼソゾタダチヂツヅテデトドハバヒビフブヘベホボワヷ" ++
    "ヰヸヱヹヲヺヽヾ"),
  (0x309A, "はぱひぴふぷへぺほぽハパヒピフプヘペホポ"),
  (0x110BA, "𑂙𑂚𑂛𑂜𑂥𑂫"),
  (0x11127, "𑄱𑄮𑄲𑄯"),
  (0x1133E, "𑍇𑍋"),
  (0x11357, "𑍇𑍌"),
  (0x113B8, "𑏅𑎸"),
  (0x113BB, "𑎄𑎅"),
  (0x113C2, "𑎋𑎎𑏅𑏂"),
  (0x113C9, "𑎂𑎃𑎐𑎑𑏅𑏉"),
  (0x114B0, "𑒹𑒼"),
  (0x114BA, "𑒹𑒻"),
  (0x114BD, "𑒹𑒾"),
  (0x115AF, "𑖸𑖺𑖹𑖻"),
  (0x11930, "𑤵𑤸"),
  (0x1611E, "𖄡𖄞"),
  (0x1611F, "𖄦𖄡𖄦𖄢𖄧𖄩𖄤"),
  (0x16120, "𖄨𖄡𖄨"),
  (0x16129, "𖄡𖄩"),
  (0x16D67, "𖵣𖵪𖵨𖵩𖵪")]

end ApiScreens.Text
