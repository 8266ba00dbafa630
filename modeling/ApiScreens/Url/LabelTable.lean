import ApiScreens.Text.Run

/-!
# Tables of directions and joining types

The characters of domains by the direction in which they are written, and letters by the sides on
which they join others.
-/

namespace ApiScreens.Url

open Text (Run)

/-- Letters of scripts that run from right to left. -/
def rightToLeftRuns : List Run := [
  ⟨0x5BE, 0x5C0, 2⟩, ⟨0x5C3, 0x5C3, 1⟩, ⟨0x5C6, 0x5C6, 1⟩, ⟨0x5D0, 0x5EA, 1⟩, ⟨0x5EF, 0x5F4, 1⟩,
  ⟨0x608, 0x608, 1⟩, ⟨0x60B, 0x60D, 2⟩, ⟨0x61B, 0x61B, 1⟩, ⟨0x61D, 0x64A, 1⟩, ⟨0x66D, 0x66F, 1⟩,
  ⟨0x671, 0x674, 1⟩, ⟨0x679, 0x6D5, 1⟩, ⟨0x6E5, 0x6E6, 1⟩, ⟨0x6EE, 0x6EF, 1⟩, ⟨0x6FA, 0x70D, 1⟩,
  ⟨0x710, 0x710, 1⟩, ⟨0x712, 0x72F, 1⟩, ⟨0x74D, 0x7A5, 1⟩, ⟨0x7B1, 0x7B1, 1⟩, ⟨0x7C0, 0x7EA, 1⟩,
  ⟨0x7F4, 0x7F5, 1⟩, ⟨0x7FA, 0x7FA, 1⟩, ⟨0x7FE, 0x815, 1⟩, ⟨0x81A, 0x81A, 1⟩, ⟨0x824, 0x824, 1⟩,
  ⟨0x828, 0x828, 1⟩, ⟨0x830, 0x83E, 1⟩, ⟨0x840, 0x858, 1⟩, ⟨0x85E, 0x85E, 1⟩, ⟨0x860, 0x86A, 1⟩,
  ⟨0x870, 0x88F, 1⟩, ⟨0x8A0, 0x8C9, 1⟩, ⟨0xFBB2, 0xFBC2, 1⟩, ⟨0xFE73, 0xFE73, 1⟩,
  ⟨0x10800, 0x10805, 1⟩, ⟨0x10808, 0x10808, 1⟩, ⟨0x1080A, 0x10835, 1⟩, ⟨0x10837, 0x10838, 1⟩,
  ⟨0x1083C, 0x1083C, 1⟩, ⟨0x1083F, 0x10855, 1⟩, ⟨0x10857, 0x1089E, 1⟩, ⟨0x108A7, 0x108AF, 1⟩,
  ⟨0x108E0, 0x108F2, 1⟩, ⟨0x108F4, 0x108F5, 1⟩, ⟨0x108FB, 0x1091B, 1⟩, ⟨0x10920, 0x10939, 1⟩,
  ⟨0x1093F, 0x10959, 1⟩, ⟨0x10980, 0x109B7, 1⟩, ⟨0x109BC, 0x109CF, 1⟩, ⟨0x109D2, 0x10A00, 1⟩,
  ⟨0x10A10, 0x10A13, 1⟩, ⟨0x10A15, 0x10A17, 1⟩, ⟨0x10A19, 0x10A35, 1⟩, ⟨0x10A40, 0x10A48, 1⟩,
  ⟨0x10A50, 0x10A58, 1⟩, ⟨0x10A60, 0x10A9F, 1⟩, ⟨0x10AC0, 0x10AE4, 1⟩, ⟨0x10AEB, 0x10AF6, 1⟩,
  ⟨0x10B00, 0x10B35, 1⟩, ⟨0x10B40, 0x10B55, 1⟩, ⟨0x10B58, 0x10B72, 1⟩, ⟨0x10B78, 0x10B91, 1⟩,
  ⟨0x10B99, 0x10B9C, 1⟩, ⟨0x10BA9, 0x10BAF, 1⟩, ⟨0x10C00, 0x10C48, 1⟩, ⟨0x10CC0, 0x10CF2, 1⟩,
  ⟨0x10CFA, 0x10D23, 1⟩, ⟨0x10D40, 0x10D4F, 1⟩, ⟨0x10D6F, 0x10D85, 1⟩, ⟨0x10D8E, 0x10D8F, 1⟩,
  ⟨0x10E80, 0x10EA9, 1⟩, ⟨0x10EAD, 0x10EAD, 1⟩, ⟨0x10EB0, 0x10EB1, 1⟩, ⟨0x10EC2, 0x10EC7, 1⟩,
  ⟨0x10ED0, 0x10ED0, 1⟩, ⟨0x10F00, 0x10F27, 1⟩, ⟨0x10F30, 0x10F45, 1⟩, ⟨0x10F51, 0x10F59, 1⟩,
  ⟨0x10F70, 0x10F81, 1⟩, ⟨0x10F86, 0x10F89, 1⟩, ⟨0x10FB0, 0x10FCB, 1⟩, ⟨0x10FE0, 0x10FF6, 1⟩,
  ⟨0x1E800, 0x1E8C4, 1⟩, ⟨0x1E8C7, 0x1E8CF, 1⟩, ⟨0x1E922, 0x1E943, 1⟩, ⟨0x1E94B, 0x1E94B, 1⟩,
  ⟨0x1E950, 0x1E959, 1⟩, ⟨0x1E95E, 0x1E95F, 1⟩, ⟨0x1EC71, 0x1ECB4, 1⟩, ⟨0x1ED01, 0x1ED3D, 1⟩]

/-- Digits of numbers in Arabic texts. -/
def arabicDigitRuns : List Run := [
  ⟨0x660, 0x669, 1⟩, ⟨0x66B, 0x66C, 1⟩, ⟨0x10D30, 0x10D39, 1⟩, ⟨0x10E60, 0x10E7E, 1⟩]

/-- Digits of other numbers whose direction follows the text. -/
def europeanDigitRuns : List Run := [
  ⟨0x30, 0x39, 1⟩, ⟨0x6F0, 0x6F9, 1⟩, ⟨0x102E1, 0x102FB, 1⟩]

/-- Characters without a direction of their own, marks apart. -/
def neutralRuns : List Run := [
  ⟨0x0, 0x8, 1⟩, ⟨0xE, 0x1B, 1⟩, ⟨0x21, 0x2F, 1⟩, ⟨0x3A, 0x40, 1⟩, ⟨0x5B, 0x60, 1⟩,
  ⟨0x7B, 0x7F, 1⟩, ⟨0xA1, 0xA7, 1⟩, ⟨0xA9, 0xA9, 1⟩, ⟨0xAB, 0xAC, 1⟩, ⟨0xAE, 0xAE, 1⟩,
  ⟨0xB0, 0xB1, 1⟩, ⟨0xB6, 0xB7, 1⟩, ⟨0xBB, 0xBB, 1⟩, ⟨0xBF, 0xBF, 1⟩, ⟨0xD7, 0xD7, 1⟩,
  ⟨0xF7, 0xF7, 1⟩, ⟨0x2B9, 0x2BA, 1⟩, ⟨0x2C2, 0x2CF, 1⟩, ⟨0x2D2, 0x2D7, 1⟩, ⟨0x2DE, 0x2DF, 1⟩,
  ⟨0x2E5, 0x2ED, 1⟩, ⟨0x2EF, 0x2FF, 1⟩, ⟨0x375, 0x375, 1⟩, ⟨0x3F6, 0x3F6, 1⟩, ⟨0x58A, 0x58A, 1⟩,
  ⟨0x58D, 0x58F, 1⟩, ⟨0x606, 0x607, 1⟩, ⟨0x609, 0x60A, 1⟩, ⟨0x60C, 0x60C, 1⟩, ⟨0x60E, 0x60F, 1⟩,
  ⟨0x66A, 0x66A, 1⟩, ⟨0x6DE, 0x6DE, 1⟩, ⟨0x6E9, 0x6E9, 1⟩, ⟨0x7F6, 0x7F9, 1⟩, ⟨0x9F2, 0x9F3, 1⟩,
  ⟨0x9FB, 0x9FB, 1⟩, ⟨0xAF1, 0xAF1, 1⟩, ⟨0xBF3, 0xBFA, 1⟩, ⟨0xC78, 0xC7E, 1⟩, ⟨0xE3F, 0xE3F, 1⟩,
  ⟨0xF3A, 0xF3D, 1⟩, ⟨0x1390, 0x1399, 1⟩, ⟨0x1400, 0x1400, 1⟩, ⟨0x169B, 0x169C, 1⟩,
  ⟨0x17DB, 0x17DB, 1⟩, ⟨0x17F0, 0x17F9, 1⟩, ⟨0x1800, 0x180A, 1⟩, ⟨0x1940, 0x1940, 1⟩,
  ⟨0x1944, 0x1945, 1⟩, ⟨0x19DE, 0x19FF, 1⟩, ⟨0x200C, 0x200D, 1⟩, ⟨0x2010, 0x2010, 1⟩,
  ⟨0x2012, 0x2016, 1⟩, ⟨0x2018, 0x2023, 1⟩, ⟨0x2027, 0x2027, 1⟩, ⟨0x2030, 0x2032, 1⟩,
  ⟨0x2035, 0x2035, 1⟩, ⟨0x2038, 0x203B, 1⟩, ⟨0x203D, 0x203D, 1⟩, ⟨0x203F, 0x2046, 1⟩,
  ⟨0x204A, 0x2056, 1⟩, ⟨0x2058, 0x205E, 1⟩, ⟨0x20A0, 0x20A7, 1⟩, ⟨0x20A9, 0x20C1, 1⟩,
  ⟨0x2104, 0x2104, 1⟩, ⟨0x2108, 0x2108, 1⟩, ⟨0x2114, 0x2114, 1⟩, ⟨0x2117, 0x2118, 1⟩,
  ⟨0x211E, 0x211F, 1⟩, ⟨0x2123, 0x2129, 2⟩, ⟨0x212E, 0x212E, 1⟩, ⟨0x213A, 0x213A, 1⟩,
  ⟨0x2141, 0x2144, 1⟩, ⟨0x214A, 0x214D, 1⟩, ⟨0x218A, 0x218B, 1⟩, ⟨0x2190, 0x222B, 1⟩,
  ⟨0x222E, 0x222E, 1⟩, ⟨0x2231, 0x2328, 1⟩, ⟨0x232B, 0x2335, 1⟩, ⟨0x237B, 0x2394, 1⟩,
  ⟨0x2396, 0x2429, 1⟩, ⟨0x2440, 0x244A, 1⟩, ⟨0x24EB, 0x26AB, 1⟩, ⟨0x26AD, 0x27FF, 1⟩,
  ⟨0x2900, 0x2A0B, 1⟩, ⟨0x2A0D, 0x2A73, 1⟩, ⟨0x2A77, 0x2ADB, 1⟩, ⟨0x2ADD, 0x2B73, 1⟩,
  ⟨0x2B76, 0x2BFF, 1⟩, ⟨0x2CE5, 0x2CEA, 1⟩, ⟨0x2CF9, 0x2CFF, 1⟩, ⟨0x2E00, 0x2E5D, 1⟩,
  ⟨0x2E80, 0x2E99, 1⟩, ⟨0x2E9B, 0x2E9E, 1⟩, ⟨0x2EA0, 0x2EF2, 1⟩, ⟨0x3001, 0x3001, 1⟩,
  ⟨0x3003, 0x3004, 1⟩, ⟨0x3008, 0x3020, 1⟩, ⟨0x3030, 0x3030, 1⟩, ⟨0x3037, 0x3037, 1⟩,
  ⟨0x303D, 0x303F, 1⟩, ⟨0x30A0, 0x30A0, 1⟩, ⟨0x30FB, 0x30FB, 1⟩, ⟨0x31C0, 0x31E5, 1⟩,
  ⟨0x4DC0, 0x4DFF, 1⟩, ⟨0xA490, 0xA4C6, 1⟩, ⟨0xA60D, 0xA60F, 1⟩, ⟨0xA673, 0xA673, 1⟩,
  ⟨0xA67E, 0xA67F, 1⟩, ⟨0xA700, 0xA721, 1⟩, ⟨0xA788, 0xA788, 1⟩, ⟨0xA828, 0xA82B, 1⟩,
  ⟨0xA838, 0xA839, 1⟩, ⟨0xA874, 0xA877, 1⟩, ⟨0xAB6A, 0xAB6B, 1⟩, ⟨0xFBC3, 0xFBD2, 1⟩,
  ⟨0xFD3E, 0xFD4F, 1⟩, ⟨0xFD90, 0xFD91, 1⟩, ⟨0xFDC8, 0xFDCF, 1⟩, ⟨0xFDFD, 0xFDFF, 1⟩,
  ⟨0xFE45, 0xFE46, 1⟩, ⟨0x10101, 0x10101, 1⟩, ⟨0x10140, 0x1018C, 1⟩, ⟨0x10190, 0x1019C, 1⟩,
  ⟨0x101A0, 0x101A0, 1⟩, ⟨0x1091F, 0x1091F, 1⟩, ⟨0x10B39, 0x10B3F, 1⟩, ⟨0x10D6E, 0x10D6E, 1⟩,
  ⟨0x10ED1, 0x10ED8, 1⟩, ⟨0x11052, 0x11065, 1⟩, ⟨0x11660, 0x1166C, 1⟩, ⟨0x11FD5, 0x11FF1, 1⟩,
  ⟨0x16FE2, 0x16FE2, 1⟩, ⟨0x1CC00, 0x1CCD5, 1⟩, ⟨0x1CCFA, 0x1CCFC, 1⟩, ⟨0x1CD00, 0x1CEB3, 1⟩,
  ⟨0x1CEBA, 0x1CED0, 1⟩, ⟨0x1CEE0, 0x1CEF0, 1⟩, ⟨0x1D1E9, 0x1D1EA, 1⟩, ⟨0x1D200, 0x1D241, 1⟩,
  ⟨0x1D245, 0x1D245, 1⟩, ⟨0x1D300, 0x1D356, 1⟩, ⟨0x1E2FF, 0x1E2FF, 1⟩, ⟨0x1EEF0, 0x1EEF1, 1⟩,
  ⟨0x1F000, 0x1F02B, 1⟩, ⟨0x1F030, 0x1F093, 1⟩, ⟨0x1F0A0, 0x1F0AE, 1⟩, ⟨0x1F0B1, 0x1F0BF, 1⟩,
  ⟨0x1F0C1, 0x1F0CF, 1⟩, ⟨0x1F0D1, 0x1F0F5, 1⟩, ⟨0x1F10B, 0x1F10F, 1⟩, ⟨0x1F12F, 0x1F12F, 1⟩,
  ⟨0x1F16D, 0x1F16F, 1⟩, ⟨0x1F1AD, 0x1F1AD, 1⟩, ⟨0x1F260, 0x1F265, 1⟩, ⟨0x1F300, 0x1F6D8, 1⟩,
  ⟨0x1F6DC, 0x1F6EC, 1⟩, ⟨0x1F6F0, 0x1F6FC, 1⟩, ⟨0x1F700, 0x1F7D9, 1⟩, ⟨0x1F7E0, 0x1F7EB, 1⟩,
  ⟨0x1F7F0, 0x1F7F0, 1⟩, ⟨0x1F800, 0x1F80B, 1⟩, ⟨0x1F810, 0x1F847, 1⟩, ⟨0x1F850, 0x1F859, 1⟩,
  ⟨0x1F860, 0x1F887, 1⟩, ⟨0x1F890, 0x1F8AD, 1⟩, ⟨0x1F8B0, 0x1F8BB, 1⟩, ⟨0x1F8C0, 0x1F8C1, 1⟩,
  ⟨0x1F8D0, 0x1F8D8, 1⟩, ⟨0x1F900, 0x1FA57, 1⟩, ⟨0x1FA60, 0x1FA6D, 1⟩, ⟨0x1FA70, 0x1FA7C, 1⟩,
  ⟨0x1FA80, 0x1FA8A, 1⟩, ⟨0x1FA8E, 0x1FAC6, 1⟩, ⟨0x1FAC8, 0x1FAC8, 1⟩, ⟨0x1FACD, 0x1FADC, 1⟩,
  ⟨0x1FADF, 0x1FAEA, 1⟩, ⟨0x1FAEF, 0x1FAF8, 1⟩, ⟨0x1FB00, 0x1FB92, 1⟩, ⟨0x1FB94, 0x1FBEF, 1⟩,
  ⟨0x1FBFA, 0x1FBFA, 1⟩]

/-- Letters that join others on both sides. -/
def dualJoiningRuns : List Run := [
  ⟨0x620, 0x620, 1⟩, ⟨0x626, 0x628, 2⟩, ⟨0x62A, 0x62E, 1⟩, ⟨0x633, 0x63F, 1⟩, ⟨0x641, 0x647, 1⟩,
  ⟨0x649, 0x64A, 1⟩, ⟨0x66E, 0x66F, 1⟩, ⟨0x678, 0x687, 1⟩, ⟨0x69A, 0x6BF, 1⟩, ⟨0x6C1, 0x6C2, 1⟩,
  ⟨0x6CC, 0x6CE, 2⟩, ⟨0x6D0, 0x6D1, 1⟩, ⟨0x6FA, 0x6FC, 1⟩, ⟨0x6FF, 0x6FF, 1⟩, ⟨0x712, 0x714, 1⟩,
  ⟨0x71A, 0x71D, 1⟩, ⟨0x71F, 0x727, 1⟩, ⟨0x729, 0x72B, 2⟩, ⟨0x72D, 0x72E, 1⟩, ⟨0x74E, 0x758, 1⟩,
  ⟨0x75C, 0x76A, 1⟩, ⟨0x76D, 0x770, 1⟩, ⟨0x772, 0x772, 1⟩, ⟨0x775, 0x777, 1⟩, ⟨0x77A, 0x77F, 1⟩,
  ⟨0x7CA, 0x7EA, 1⟩, ⟨0x841, 0x845, 1⟩, ⟨0x848, 0x848, 1⟩, ⟨0x84A, 0x853, 1⟩, ⟨0x855, 0x855, 1⟩,
  ⟨0x860, 0x860, 1⟩, ⟨0x862, 0x865, 1⟩, ⟨0x868, 0x868, 1⟩, ⟨0x886, 0x886, 1⟩, ⟨0x889, 0x88D, 1⟩,
  ⟨0x88F, 0x88F, 1⟩, ⟨0x8A0, 0x8A9, 1⟩, ⟨0x8AF, 0x8B0, 1⟩, ⟨0x8B3, 0x8B8, 1⟩, ⟨0x8BA, 0x8C8, 1⟩,
  ⟨0x1807, 0x1807, 1⟩, ⟨0x1820, 0x1878, 1⟩, ⟨0x1887, 0x18A8, 1⟩, ⟨0x18AA, 0x18AA, 1⟩,
  ⟨0xA840, 0xA871, 1⟩, ⟨0x10AC0, 0x10AC4, 1⟩, ⟨0x10AD3, 0x10AD6, 1⟩, ⟨0x10AD8, 0x10ADC, 1⟩,
  ⟨0x10ADE, 0x10AE0, 1⟩, ⟨0x10AEB, 0x10AEE, 1⟩, ⟨0x10B80, 0x10B82, 2⟩, ⟨0x10B86, 0x10B88, 1⟩,
  ⟨0x10B8A, 0x10B8B, 1⟩, ⟨0x10B8D, 0x10B8D, 1⟩, ⟨0x10B90, 0x10B90, 1⟩, ⟨0x10BAD, 0x10BAE, 1⟩,
  ⟨0x10D01, 0x10D21, 1⟩, ⟨0x10D23, 0x10D23, 1⟩, ⟨0x10EC3, 0x10EC4, 1⟩, ⟨0x10EC6, 0x10EC7, 1⟩,
  ⟨0x10F30, 0x10F32, 1⟩, ⟨0x10F34, 0x10F44, 1⟩, ⟨0x10F51, 0x10F53, 1⟩, ⟨0x10F70, 0x10F73, 1⟩,
  ⟨0x10F76, 0x10F81, 1⟩, ⟨0x10FB0, 0x10FB0, 1⟩, ⟨0x10FB2, 0x10FB3, 1⟩, ⟨0x10FB8, 0x10FB8, 1⟩,
  ⟨0x10FBB, 0x10FBC, 1⟩, ⟨0x10FBE, 0x10FBF, 1⟩, ⟨0x10FC1, 0x10FC1, 1⟩, ⟨0x10FC4, 0x10FC4, 1⟩,
  ⟨0x10FCA, 0x10FCA, 1⟩, ⟨0x1E900, 0x1E943, 1⟩]

/-- Letters that join the one after them only. -/
def leftJoiningRuns : List Run := [
  ⟨0xA872, 0xA872, 1⟩, ⟨0x10ACD, 0x10ACD, 1⟩, ⟨0x10AD7, 0x10AD7, 1⟩, ⟨0x10D00, 0x10D00, 1⟩,
  ⟨0x10FCB, 0x10FCB, 1⟩]

/-- Letters that join the one before them only. -/
def rightJoiningRuns : List Run := [
  ⟨0x622, 0x625, 1⟩, ⟨0x627, 0x629, 2⟩, ⟨0x62F, 0x632, 1⟩, ⟨0x648, 0x648, 1⟩, ⟨0x671, 0x673, 1⟩,
  ⟨0x675, 0x677, 1⟩, ⟨0x688, 0x699, 1⟩, ⟨0x6C0, 0x6C0, 1⟩, ⟨0x6C3, 0x6CB, 1⟩, ⟨0x6CD, 0x6CF, 2⟩,
  ⟨0x6D2, 0x6D3, 1⟩, ⟨0x6D5, 0x6D5, 1⟩, ⟨0x6EE, 0x6EF, 1⟩, ⟨0x710, 0x710, 1⟩, ⟨0x715, 0x719, 1⟩,
  ⟨0x71E, 0x71E, 1⟩, ⟨0x728, 0x72C, 2⟩, ⟨0x72F, 0x72F, 1⟩, ⟨0x74D, 0x74D, 1⟩, ⟨0x759, 0x75B, 1⟩,
  ⟨0x76B, 0x76C, 1⟩, ⟨0x771, 0x771, 1⟩, ⟨0x773, 0x774, 1⟩, ⟨0x778, 0x779, 1⟩, ⟨0x840, 0x840, 1⟩,
  ⟨0x846, 0x847, 1⟩, ⟨0x849, 0x849, 1⟩, ⟨0x854, 0x854, 1⟩, ⟨0x856, 0x858, 1⟩, ⟨0x867, 0x867, 1⟩,
  ⟨0x869, 0x86A, 1⟩, ⟨0x870, 0x882, 1⟩, ⟨0x88E, 0x88E, 1⟩, ⟨0x8AA, 0x8AC, 1⟩, ⟨0x8AE, 0x8AE, 1⟩,
  ⟨0x8B1, 0x8B2, 1⟩, ⟨0x8B9, 0x8B9, 1⟩, ⟨0x10AC5, 0x10AC7, 2⟩, ⟨0x10AC9, 0x10ACA, 1⟩,
  ⟨0x10ACE, 0x10AD2, 1⟩, ⟨0x10ADD, 0x10ADD, 1⟩, ⟨0x10AE1, 0x10AE1, 1⟩, ⟨0x10AE4, 0x10AE4, 1⟩,
  ⟨0x10AEF, 0x10AEF, 1⟩, ⟨0x10B81, 0x10B81, 1⟩, ⟨0x10B83, 0x10B85, 1⟩, ⟨0x10B89, 0x10B89, 1⟩,
  ⟨0x10B8C, 0x10B8C, 1⟩, ⟨0x10B8E, 0x10B8F, 1⟩, ⟨0x10B91, 0x10B91, 1⟩, ⟨0x10BA9, 0x10BAC, 1⟩,
  ⟨0x10D22, 0x10D22, 1⟩, ⟨0x10EC2, 0x10EC2, 1⟩, ⟨0x10F33, 0x10F33, 1⟩, ⟨0x10F54, 0x10F54, 1⟩,
  ⟨0x10F74, 0x10F75, 1⟩, ⟨0x10FB4, 0x10FB6, 1⟩, ⟨0x10FB9, 0x10FBA, 1⟩, ⟨0x10FBD, 0x10FBD, 1⟩,
  ⟨0x10FC2, 0x10FC3, 1⟩, ⟨0x10FC9, 0x10FC9, 1⟩]

/-- Marks that are written from left to right. -/
def leftToRightMarkRuns : List Run := [
  ⟨0xCBF, 0xCBF, 1⟩, ⟨0xCC6, 0xCC6, 1⟩, ⟨0x11A07, 0x11A08, 1⟩, ⟨0x11C3F, 0x11C3F, 1⟩]

end ApiScreens.Url
