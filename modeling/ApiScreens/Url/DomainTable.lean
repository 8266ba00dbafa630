import ApiScreens.Text.Run

/-!
# Table of characters in domains

What stands for the characters beyond ASCII in the name of a host, where that is not their
lower-case form.
-/

namespace ApiScreens.Url

open Text (Run)

/-- Characters that no domain may hold, besides controls and code points without a character.
Among them are those whose form has a blank. -/
def refusedRuns : List Run := [
  ⟨0xA0, 0xA0, 1⟩, ⟨0xA8, 0xA8, 1⟩, ⟨0xAF, 0xAF, 1⟩, ⟨0xB4, 0xB4, 1⟩, ⟨0xB8, 0xB8, 1⟩,
  ⟨0x2D8, 0x2DD, 1⟩, ⟨0x37A, 0x37A, 1⟩, ⟨0x384, 0x385, 1⟩, ⟨0x600, 0x605, 1⟩, ⟨0x61C, 0x61C, 1⟩,
  ⟨0x6DD, 0x6DD, 1⟩, ⟨0x70F, 0x70F, 1⟩, ⟨0x890, 0x891, 1⟩, ⟨0x8E2, 0x8E2, 1⟩, ⟨0x1680, 0x1680, 1⟩,
  ⟨0x1FBD, 0x1FBD, 1⟩, ⟨0x1FBF, 0x1FC1, 1⟩, ⟨0x1FCD, 0x1FCF, 1⟩, ⟨0x1FDD, 0x1FDF, 1⟩,
  ⟨0x1FED, 0x1FEE, 1⟩, ⟨0x1FFD, 0x1FFE, 1⟩, ⟨0x2000, 0x200A, 1⟩, ⟨0x200E, 0x200F, 1⟩,
  ⟨0x2017, 0x2017, 1⟩, ⟨0x2024, 0x2026, 1⟩, ⟨0x2028, 0x202F, 1⟩, ⟨0x203E, 0x203E, 1⟩,
  ⟨0x205F, 0x205F, 1⟩, ⟨0x2066, 0x2069, 1⟩, ⟨0x2488, 0x249B, 1⟩, ⟨0x2FF0, 0x3000, 1⟩,
  ⟨0x309B, 0x309C, 1⟩, ⟨0x31EF, 0x31EF, 1⟩, ⟨0x33C2, 0x33C2, 1⟩, ⟨0x33C7, 0x33C7, 1⟩,
  ⟨0x33D8, 0x33D8, 1⟩, ⟨0xFC5E, 0xFC63, 1⟩, ⟨0xFDFA, 0xFDFB, 1⟩, ⟨0xFE12, 0xFE12, 1⟩,
  ⟨0xFE19, 0xFE19, 1⟩, ⟨0xFE30, 0xFE30, 1⟩, ⟨0xFE49, 0xFE4C, 1⟩, ⟨0xFE52, 0xFE52, 1⟩,
  ⟨0xFE70, 0xFE7E, 2⟩, ⟨0xFFE3, 0xFFE3, 1⟩, ⟨0xFFF9, 0xFFFD, 1⟩, ⟨0x110BD, 0x110BD, 1⟩,
  ⟨0x110CD, 0x110CD, 1⟩, ⟨0x13430, 0x1343F, 1⟩, ⟨0x1F100, 0x1F100, 1⟩, ⟨0xE0001, 0xE0001, 1⟩,
  ⟨0xE0020, 0xE007F, 1⟩]

/-- Characters that a domain drops. -/
def ignoredRuns : List Run := [
  ⟨0xAD, 0xAD, 1⟩, ⟨0x34F, 0x34F, 1⟩, ⟨0x115F, 0x1160, 1⟩, ⟨0x17B4, 0x17B5, 1⟩,
  ⟨0x180B, 0x180F, 1⟩, ⟨0x200B, 0x200B, 1⟩, ⟨0x2060, 0x2064, 1⟩, ⟨0x206A, 0x206F, 1⟩,
  ⟨0x3164, 0x3164, 1⟩, ⟨0xFE00, 0xFE0F, 1⟩, ⟨0xFEFF, 0xFEFF, 1⟩, ⟨0xFFA0, 0xFFA0, 1⟩,
  ⟨0x1BCA0, 0x1BCA3, 1⟩, ⟨0x1D173, 0x1D17A, 1⟩, ⟨0xE0100, 0xE01EF, 1⟩]

/-- Capitals and small letters that domains tell apart: each stands for itself. -/
def distinctRuns : List Run := [⟨0x13A0, 0x13F5, 1⟩]

/-- Characters with other forms. The text has the forms of a run's characters in their order, with
a blank between any two. -/
def domainForms : List (Run × String) := [
  (⟨0xAA, 0xAA, 1⟩, "a"),
  (⟨0xB2, 0xB3, 1⟩, "2 3"),
  (⟨0xB5, 0xB5, 1⟩, "μ"),
  (⟨0xB9, 0xBA, 1⟩, "1 o"),
  (⟨0xBC, 0xBE, 1⟩, "1⁄4 1⁄2 3⁄4"),
  (⟨0x132, 0x133, 1⟩, "ij ij"),
  (⟨0x13F, 0x140, 1⟩, "l· l·"),
  (⟨0x149, 0x149, 1⟩, "ʼn"),
  (⟨0x17F, 0x17F, 1⟩, "s"),
  (⟨0x1C4, 0x1CC, 1⟩, "dž dž dž lj lj lj nj nj nj"),
  (⟨0x1F1, 0x1F3, 1⟩, "dz dz dz"),
  (⟨0x2B0, 0x2B8, 1⟩, "h ɦ j r ɹ ɻ ʁ w y"),
  (⟨0x2E0, 0x2E4, 1⟩, "ɣ l s x ʕ"),
  (⟨0x340, 0x341, 1⟩, "\u0300 \u0301"),
  (⟨0x343, 0x345, 1⟩, "\u0313 \u0308\u0301 ι"),
  (⟨0x374, 0x374, 1⟩, "ʹ"),
  (⟨0x37E, 0x37E, 1⟩, ";"),
  (⟨0x387, 0x387, 1⟩, "·"),
  (⟨0x3D0, 0x3D6, 1⟩, "β θ υ ύ ϋ φ π"),
  (⟨0x3F0, 0x3F2, 1⟩, "κ ρ σ"),
  (⟨0x3F5, 0x3F5, 1⟩, "ε"),
  (⟨0x3F9, 0x3F9, 1⟩, "σ"),
  (⟨0x587, 0x587, 1⟩, "եւ"),
  (⟨0x675, 0x678, 1⟩, "اٴ وٴ ۇٴ يٴ"),
  (⟨0x958, 0x95F, 1⟩, "क\u093c ख\u093c ग\u093c ज\u093c ड\u093c ढ\u093c फ\u093c य\u093c"),
  (⟨0x9DC, 0x9DD, 1⟩, "ড\u09bc ঢ\u09bc"),
  (⟨0x9DF, 0x9DF, 1⟩, "য\u09bc"),
  (⟨0xA33, 0xA33, 1⟩, "ਲ\u0a3c"),
  (⟨0xA36, 0xA36, 1⟩, "ਸ\u0a3c"),
  (⟨0xA59, 0xA5B, 1⟩, "ਖ\u0a3c ਗ\u0a3c ਜ\u0a3c"),
  (⟨0xA5E, 0xA5E, 1⟩, "ਫ\u0a3c"),
  (⟨0xB5C, 0xB5D, 1⟩, "ଡ\u0b3c ଢ\u0b3c"),
  (⟨0xE33, 0xE33, 1⟩, "\u0e4dา"),
  (⟨0xEB3, 0xEB3, 1⟩, "\u0ecdາ"),
  (⟨0xEDC, 0xEDD, 1⟩, "ຫນ ຫມ"),
  (⟨0xF0C, 0xF0C, 1⟩, "་"),
  (⟨0xF43, 0xF43, 1⟩, "ག\u0fb7"),
  (⟨0xF4D, 0xF4D, 1⟩, "ཌ\u0fb7"),
  (⟨0xF52, 0xF52, 1⟩, "ད\u0fb7"),
  (⟨0xF57, 0xF57, 1⟩, "བ\u0fb7"),
  (⟨0xF5C, 0xF5C, 1⟩, "ཛ\u0fb7"),
  (⟨0xF69, 0xF69, 1⟩, "ཀ\u0fb5"),
  (⟨0xF73, 0xF79, 2⟩, "\u0f71\u0f72 \u0f71\u0f74 \u0fb2\u0f71\u0f80 \u0fb3\u0f71\u0f80"),
  (⟨0xF76, 0xF76, 1⟩, "\u0fb2\u0f80"),
  (⟨0xF78, 0xF78, 1⟩, "\u0fb3\u0f80"),
  (⟨0xF81, 0xF81, 1⟩, "\u0f71\u0f80"),
  (⟨0xF93, 0xF93, 1⟩, "\u0f92\u0fb7"),
  (⟨0xF9D, 0xF9D, 1⟩, "\u0f9c\u0fb7"),
  (⟨0xFA2, 0xFA2, 1⟩, "\u0fa1\u0fb7"),
  (⟨0xFA7, 0xFA7, 1⟩, "\u0fa6\u0fb7"),
  (⟨0xFAC, 0xFAC, 1⟩, "\u0fab\u0fb7"),
  (⟨0xFB9, 0xFB9, 1⟩, "\u0f90\u0fb5"),
  (⟨0x10FC, 0x10FC, 1⟩, "ნ"),
  (⟨0x13F8, 0x13FD, 1⟩, "Ᏸ Ᏹ Ᏺ Ᏻ Ᏼ Ᏽ"),
  (⟨0x1C80, 0x1C88, 1⟩, "в д о с т т ъ ѣ ꙋ"),
  (⟨0x1D2C, 0x1D4C, 2⟩, "a b d ǝ h j l n o p t w ɐ ᴂ d ə ɜ"),
  (⟨0x1D2D, 0x1D2D, 1⟩, "æ"),
  (⟨0x1D31, 0x1D39, 2⟩, "e g i k m"),
  (⟨0x1D3D, 0x1D69, 2⟩, "ȣ r u a ɑ b e ɛ g k ŋ ɔ ᴗ t ᴝ v β δ χ r v γ φ"),
  (⟨0x1D50, 0x1D6A, 2⟩, "m o ᴖ p u ɯ ᴥ γ φ i u β ρ χ"),
  (⟨0x1D78, 0x1D78, 1⟩, "н"),
  (⟨0x1D9B, 0x1DBF, 1⟩, "ɒ c ɕ ð ɜ f ɟ ɡ ɥ ɨ ɩ ɪ ᵻ ʝ ɭ ᶅ ʟ ɱ ɰ ɲ ɳ ɴ ɵ ɸ ʂ ʃ ƫ ʉ ʊ ᴜ ʋ ʌ z ʐ ʑ ʒ θ"),
  (⟨0x1E9A, 0x1E9B, 1⟩, "aʾ ṡ"),
  (⟨0x1F71, 0x1F7D, 2⟩, "ά έ ή ί ό ύ ώ"),
  (⟨0x1F80, 0x1FAF, 1⟩, "ἀι ἁι ἂι ἃι ἄι ἅι ἆι ἇι ἀι ἁι ἂι ἃι ἄι ἅι ἆι ἇι ἠι ἡι ἢι ἣι ἤι ἥι ἦι ἧι ἠι ἡι ἢι ἣι ἤι " ++
    "ἥι ἦι ἧι ὠι ὡι ὢι ὣι ὤι ὥι ὦι ὧι ὠι ὡι ὢι ὣι ὤι ὥι ὦι ὧι"),
  (⟨0x1FB2, 0x1FB4, 1⟩, "ὰι αι άι"),
  (⟨0x1FB7, 0x1FB7, 1⟩, "ᾶι"),
  (⟨0x1FBB, 0x1FBC, 1⟩, "ά αι"),
  (⟨0x1FBE, 0x1FBE, 1⟩, "ι"),
  (⟨0x1FC2, 0x1FC4, 1⟩, "ὴι ηι ήι"),
  (⟨0x1FC7, 0x1FC7, 1⟩, "ῆι"),
  (⟨0x1FC9, 0x1FC9, 1⟩, "έ"),
  (⟨0x1FCB, 0x1FCC, 1⟩, "ή ηι"),
  (⟨0x1FD3, 0x1FD3, 1⟩, "ΐ"),
  (⟨0x1FDB, 0x1FDB, 1⟩, "ί"),
  (⟨0x1FE3, 0x1FE3, 1⟩, "ΰ"),
  (⟨0x1FEB, 0x1FEB, 1⟩, "ύ"),
  (⟨0x1FEF, 0x1FEF, 1⟩, "`"),
  (⟨0x1FF2, 0x1FF4, 1⟩, "ὼι ωι ώι"),
  (⟨0x1FF7, 0x1FF7, 1⟩, "ῶι"),
  (⟨0x1FF9, 0x1FF9, 1⟩, "ό"),
  (⟨0x1FFB, 0x1FFC, 1⟩, "ώ ωι"),
  (⟨0x2011, 0x2011, 1⟩, "‐"),
  (⟨0x2033, 0x2034, 1⟩, "′′ ′′′"),
  (⟨0x2036, 0x2037, 1⟩, "‵‵ ‵‵‵"),
  (⟨0x203C, 0x203C, 1⟩, "!!"),
  (⟨0x2047, 0x2049, 1⟩, "?? ?! !?"),
  (⟨0x2057, 0x2057, 1⟩, "′′′′"),
  (⟨0x2070, 0x2071, 1⟩, "0 i"),
  (⟨0x2074, 0x208E, 1⟩, "4 5 6 7 8 9 + − = ( ) n 0 1 2 3 4 5 6 7 8 9 + − = ( )"),
  (⟨0x2090, 0x209C, 1⟩, "a e o x ə h k l m n p s t"),
  (⟨0x20A8, 0x20A8, 1⟩, "rs"),
  (⟨0x2100, 0x2103, 1⟩, "a/c a/s c °c"),
  (⟨0x2105, 0x2115, 2⟩, "c/o ɛ °f h h ħ i l n"),
  (⟨0x2106, 0x2106, 1⟩, "c/u"),
  (⟨0x210A, 0x2112, 2⟩, "g h h i l"),
  (⟨0x2116, 0x2116, 1⟩, "no"),
  (⟨0x2119, 0x211D, 1⟩, "p q r r r"),
  (⟨0x2120, 0x2122, 1⟩, "sm tel tm"),
  (⟨0x2124, 0x2124, 1⟩, "z"),
  (⟨0x2128, 0x2128, 1⟩, "z"),
  (⟨0x212C, 0x212D, 1⟩, "b c"),
  (⟨0x212F, 0x213F, 2⟩, "e f m א ג i fax γ π"),
  (⟨0x2130, 0x2130, 1⟩, "e"),
  (⟨0x2134, 0x2134, 1⟩, "o"),
  (⟨0x2136, 0x2136, 1⟩, "ב"),
  (⟨0x2138, 0x2138, 1⟩, "ד"),
  (⟨0x213C, 0x213C, 1⟩, "π"),
  (⟨0x213E, 0x213E, 1⟩, "γ"),
  (⟨0x2140, 0x2140, 1⟩, "∑"),
  (⟨0x2145, 0x2149, 1⟩, "d d e i j"),
  (⟨0x2150, 0x217F, 1⟩, "1⁄7 1⁄9 1⁄10 1⁄3 2⁄3 1⁄5 2⁄5 3⁄5 4⁄5 1⁄6 5⁄6 1⁄8 3⁄8 5⁄8 7⁄8 1⁄ i ii iii iv v vi vii " ++
    "viii ix x xi xii l c d m i ii iii iv v vi vii viii ix x xi xii l c d m"),
  (⟨0x2189, 0x2189, 1⟩, "0⁄3"),
  (⟨0x222C, 0x222D, 1⟩, "∫∫ ∫∫∫"),
  (⟨0x222F, 0x2230, 1⟩, "∮∮ ∮∮∮"),
  (⟨0x2329, 0x232A, 1⟩, "〈 〉"),
  (⟨0x2460, 0x2487, 1⟩, "1 2 3 4 5 6 7 8 9 10 11 12 13 14 15 16 17 18 19 20 (1) (2) (3) (4) (5) (6) (7) (8) (9) " ++
    "(10) (11) (12) (13) (14) (15) (16) (17) (18) (19) (20)"),
  (⟨0x249C, 0x24EA, 1⟩, "(a) (b) (c) (d) (e) (f) (g) (h) (i) (j) (k) (l) (m) (n) (o) (p) (q) (r) (s) (t) (u) (v) " ++
    "(w) (x) (y) (z) a b c d e f g h i j k l m n o p q r s t u v w x y z a b c d e f g h i j " ++
    "k l m n o p q r s t u v w x y z 0"),
  (⟨0x2A0C, 0x2A0C, 1⟩, "∫∫∫∫"),
  (⟨0x2A74, 0x2A76, 1⟩, "::= == ==="),
  (⟨0x2ADC, 0x2ADC, 1⟩, "⫝\u0338"),
  (⟨0x2C7C, 0x2C7D, 1⟩, "j v"),
  (⟨0x2D6F, 0x2D6F, 1⟩, "ⵡ"),
  (⟨0x2E9F, 0x2E9F, 1⟩, "母"),
  (⟨0x2EF3, 0x2EF3, 1⟩, "龟"),
  (⟨0x2F00, 0x2FD5, 1⟩, "一 丨 丶 丿 乙 亅 二 亠 人 儿 入 八 冂 冖 冫 几 凵 刀 力 勹 匕 匚 匸 十 卜 卩 厂 厶 又 口 囗 土 士 夂 夊 夕 大 女 子 宀 寸 小 尢 尸 " ++
    "屮 山 巛 工 己 巾 干 幺 广 廴 廾 弋 弓 彐 彡 彳 心 戈 戶 手 支 攴 文 斗 斤 方 无 日 曰 月 木 欠 止 歹 殳 毋 比 毛 氏 气 水 火 爪 父 " ++
    "爻 爿 片 牙 牛 犬 玄 玉 瓜 瓦 甘 生 用 田 疋 疒 癶 白 皮 皿 目 矛 矢 石 示 禸 禾 穴 立 竹 米 糸 缶 网 羊 羽 老 而 耒 耳 聿 肉 臣 自 " ++
    "至 臼 舌 舛 舟 艮 色 艸 虍 虫 血 行 衣 襾 見 角 言 谷 豆 豕 豸 貝 赤 走 足 身 車 辛 辰 辵 邑 酉 釆 里 金 長 門 阜 隶 隹 雨 靑 非 面 " ++
    "革 韋 韭 音 頁 風 飛 食 首 香 馬 骨 高 髟 鬥 鬯 鬲 鬼 魚 鳥 鹵 鹿 麥 麻 黃 黍 黑 黹 黽 鼎 鼓 鼠 鼻 齊 齒 龍 龜 龠"),
  (⟨0x3002, 0x3002, 1⟩, "."),
  (⟨0x3036, 0x3036, 1⟩, "〒"),
  (⟨0x3038, 0x303A, 1⟩, "十 卄 卅"),
  (⟨0x309F, 0x309F, 1⟩, "より"),
  (⟨0x30FF, 0x30FF, 1⟩, "コト"),
  (⟨0x3131, 0x3163, 1⟩, "ᄀ ᄁ ᆪ ᄂ ᆬ ᆭ ᄃ ᄄ ᄅ ᆰ ᆱ ᆲ ᆳ ᆴ ᆵ ᄚ ᄆ ᄇ ᄈ ᄡ ᄉ ᄊ ᄋ ᄌ ᄍ ᄎ ᄏ ᄐ ᄑ ᄒ ᅡ ᅢ ᅣ ᅤ ᅥ ᅦ ᅧ ᅨ ᅩ ᅪ ᅫ ᅬ ᅭ ᅮ " ++
    "ᅯ ᅰ ᅱ ᅲ ᅳ ᅴ ᅵ"),
  (⟨0x3165, 0x318E, 1⟩, "ᄔ ᄕ ᇇ ᇈ ᇌ ᇎ ᇓ ᇗ ᇙ ᄜ ᇝ ᇟ ᄝ ᄞ ᄠ ᄢ ᄣ ᄧ ᄩ ᄫ ᄬ ᄭ ᄮ ᄯ ᄲ ᄶ ᅀ ᅇ ᅌ ᇱ ᇲ ᅗ ᅘ ᅙ ᆄ ᆅ ᆈ ᆑ ᆒ ᆔ ᆞ ᆡ"),
  (⟨0x3192, 0x319F, 1⟩, "一 二 三 四 上 中 下 甲 乙 丙 丁 天 地 人"),
  (⟨0x3200, 0x3246, 2⟩, "(ᄀ) (ᄃ) (ᄆ) (ᄉ) (ᄌ) (ᄏ) (ᄑ) (가) (다) (마) (사) (자) (카) (파) (주) (오후) (一) (三) (五) (七) (九) " ++
    "(月) (水) (金) (日) (有) (名) (財) (労) (呼) (監) (資) (祭) (自) 問 文"),
  (⟨0x3201, 0x321D, 2⟩, "(ᄂ) (ᄅ) (ᄇ) (ᄋ) (ᄎ) (ᄐ) (ᄒ) (나) (라) (바) (아) (차) (타) (하) (오전)"),
  (⟨0x3221, 0x3247, 2⟩, "(二) (四) (六) (八) (十) (火) (木) (土) (株) (社) (特) (祝) (代) (学) (企) (協) (休) (至) 幼 箏"),
  (⟨0x3250, 0x33C0, 2⟩, "pte 22 24 26 28 30 32 34 ᄀ ᄃ ᄆ ᄉ ᄌ ᄏ ᄑ 가 다 마 사 자 카 파 참고 우 一 三 五 七 九 月 水 金 日 有 名 財 労 男 適 " ++
    "印 項 写 上 下 右 宗 監 資 夜 37 39 41 43 45 47 49 1月 3月 5月 7月 9月 11月 hg ev ア ウ オ キ ケ サ ス ソ チ テ ナ " ++
    "ヌ ノ ヒ ヘ マ ム モ ユ ラ ル ロ ヰ ヲ アパート アンペア イニング ウォン エーカー オーム カラット ガロン ギガ キュリー キロ キロメートル グラム " ++
    "クルゼイロ ケース コーポ サンチーム センチ ダース ドル ナノ ハイツ パーツ ピアストル ピコ ファラッド ブッシェル ヘクタール ペニヒ ペンス ベータ ボルト " ++
    "ポンド ホーン マイル マルク ミクロン ミリバール メガトン ヤード ユアン リラ ルーブル レントゲン 0点 2点 4点 6点 8点 10点 12点 14点 16点 " ++
    "18点 20点 22点 24点 da bar pc dm2 iu 昭和 明治 pa μa ka mb cal pf μf mg hz mhz thz ml kl nm mm " ++
    "km cm2 km2 cm3 km3 m∕s2 kpa gpa rad∕s ps μs pv μv kv pw μw kw kω"),
  (⟨0x3251, 0x327D, 2⟩, "21 23 25 27 29 31 33 35 ᄂ ᄅ ᄇ ᄋ ᄎ ᄐ ᄒ 나 라 바 아 차 타 하 주의"),
  (⟨0x3281, 0x33C5, 2⟩, "二 四 六 八 十 火 木 土 株 社 特 祝 秘 女 優 注 休 正 中 左 医 学 企 協 36 38 40 42 44 46 48 50 2月 4月 6月 8月 10月 " ++
    "12月 erg ltd イ エ カ ク コ シ セ タ ツ ト ニ ネ ハ フ ホ ミ メ ヤ ヨ リ レ ワ ヱ 令和 アルファ アール インチ エスクード オンス カイリ " ++
    "カロリー ガンマ ギニー ギルダー キログラム キロワット グラムトン クローネ コルナ サイクル シリング セント デシ トン ノット パーセント バーレル ピクル ビル " ++
    "フィート フラン ペソ ヘルツ ページ ポイント ホン ホール マイクロ マッハ マンション ミリ メガ メートル ヤール リットル ルピー レム ワット 1点 3点 5点 " ++
    "7点 9点 11点 13点 15点 17点 19点 21点 23点 hpa au ov dm dm3 平成 大正 株式会社 na ma kb gb kcal nf μg kg " ++
    "khz ghz μl dl fm μm cm mm2 m2 mm3 m3 m∕s pa mpa rad rad∕s2 ns ms nv mv mv nw mw mw mω " ++
    "bq cd"),
  (⟨0x33C4, 0x33D6, 2⟩, "cc c∕kg db ha in km lm log mb mol"),
  (⟨0x33C9, 0x33FF, 2⟩, "gy hp kk kt ln lx mil ph ppm sr wb a∕m 2日 4日 6日 8日 10日 12日 14日 16日 18日 20日 22日 24日 26日 " ++
    "28日 30日 gal"),
  (⟨0x33DA, 0x33FE, 2⟩, "pr sv v∕m 1日 3日 5日 7日 9日 11日 13日 15日 17日 19日 21日 23日 25日 27日 29日 31日"),
  (⟨0xA69C, 0xA69D, 1⟩, "ъ ь"),
  (⟨0xA770, 0xA770, 1⟩, "ꝯ"),
  (⟨0xA7F1, 0xA7F4, 1⟩, "s c f q"),
  (⟨0xA7F8, 0xA7F9, 1⟩, "ħ œ"),
  (⟨0xAB5C, 0xAB5F, 1⟩, "ꜧ ꬷ ɫ ꭒ"),
  (⟨0xAB69, 0xAB69, 1⟩, "ʍ"),
  (⟨0xAB70, 0xABBF, 1⟩, "Ꭰ Ꭱ Ꭲ Ꭳ Ꭴ Ꭵ Ꭶ Ꭷ Ꭸ Ꭹ Ꭺ Ꭻ Ꭼ Ꭽ Ꭾ Ꭿ Ꮀ Ꮁ Ꮂ Ꮃ Ꮄ Ꮅ Ꮆ Ꮇ Ꮈ Ꮉ Ꮊ Ꮋ Ꮌ Ꮍ Ꮎ Ꮏ Ꮐ Ꮑ Ꮒ Ꮓ Ꮔ Ꮕ Ꮖ Ꮗ Ꮘ Ꮙ Ꮚ Ꮛ " ++
    "Ꮜ Ꮝ Ꮞ Ꮟ Ꮠ Ꮡ Ꮢ Ꮣ Ꮤ Ꮥ Ꮦ Ꮧ Ꮨ Ꮩ Ꮪ Ꮫ Ꮬ Ꮭ Ꮮ Ꮯ Ꮰ Ꮱ Ꮲ Ꮳ Ꮴ Ꮵ Ꮶ Ꮷ Ꮸ Ꮹ Ꮺ Ꮻ Ꮼ Ꮽ Ꮾ Ꮿ"),
  (⟨0xF900, 0xFA0D, 1⟩, "豈 更 車 賈 滑 串 句 龜 龜 契 金 喇 奈 懶 癩 羅 蘿 螺 裸 邏 樂 洛 烙 珞 落 酪 駱 亂 卵 欄 爛 蘭 鸞 嵐 濫 藍 襤 拉 臘 蠟 廊 朗 浪 狼 " ++
    "郎 來 冷 勞 擄 櫓 爐 盧 老 蘆 虜 路 露 魯 鷺 碌 祿 綠 菉 錄 鹿 論 壟 弄 籠 聾 牢 磊 賂 雷 壘 屢 樓 淚 漏 累 縷 陋 勒 肋 凜 凌 稜 綾 " ++
    "菱 陵 讀 拏 樂 諾 丹 寧 怒 率 異 北 磻 便 復 不 泌 數 索 參 塞 省 葉 說 殺 辰 沈 拾 若 掠 略 亮 兩 凉 梁 糧 良 諒 量 勵 呂 女 廬 旅 " ++
    "濾 礪 閭 驪 麗 黎 力 曆 歷 轢 年 憐 戀 撚 漣 煉 璉 秊 練 聯 輦 蓮 連 鍊 列 劣 咽 烈 裂 說 廉 念 捻 殮 簾 獵 令 囹 寧 嶺 怜 玲 瑩 羚 " ++
    "聆 鈴 零 靈 領 例 禮 醴 隸 惡 了 僚 寮 尿 料 樂 燎 療 蓼 遼 龍 暈 阮 劉 杻 柳 流 溜 琉 留 硫 紐 類 六 戮 陸 倫 崙 淪 輪 律 慄 栗 率 " ++
    "隆 利 吏 履 易 李 梨 泥 理 痢 罹 裏 裡 里 離 匿 溺 吝 燐 璘 藺 隣 鱗 麟 林 淋 臨 立 笠 粒 狀 炙 識 什 茶 刺 切 度 拓 糖 宅 洞 暴 輻 " ++
    "行 降 見 廓 兀 嗀"),
  (⟨0xFA10, 0xFA10, 1⟩, "塚"),
  (⟨0xFA12, 0xFA12, 1⟩, "晴"),
  (⟨0xFA15, 0xFA1E, 1⟩, "凞 猪 益 礼 神 祥 福 靖 精 羽"),
  (⟨0xFA20, 0xFA20, 1⟩, "蘒"),
  (⟨0xFA22, 0xFA22, 1⟩, "諸"),
  (⟨0xFA25, 0xFA26, 1⟩, "逸 都"),
  (⟨0xFA2A, 0xFA6D, 1⟩, "飯 飼 館 鶴 郞 隷 侮 僧 免 勉 勤 卑 喝 嘆 器 塀 墨 層 屮 悔 慨 憎 懲 敏 既 暑 梅 海 渚 漢 煮 爫 琢 碑 社 祉 祈 祐 祖 祝 禍 禎 穀 突 " ++
    "節 練 縉 繁 署 者 臭 艹 艹 著 褐 視 謁 謹 賓 贈 辶 逸 難 響 頻 恵 𤋮 舘"),
  (⟨0xFA70, 0xFAD9, 1⟩, "並 况 全 侀 充 冀 勇 勺 喝 啕 喙 嗢 塚 墳 奄 奔 婢 嬨 廒 廙 彩 徭 惘 慎 愈 憎 慠 懲 戴 揄 搜 摒 敖 晴 朗 望 杖 歹 殺 流 滛 滋 漢 瀞 " ++
    "煮 瞧 爵 犯 猪 瑱 甆 画 瘝 瘟 益 盛 直 睊 着 磌 窱 節 类 絛 練 缾 者 荒 華 蝹 襁 覆 視 調 諸 請 謁 諾 諭 謹 變 贈 輸 遲 醙 鉶 陼 難 " ++
    "靖 韛 響 頋 頻 鬒 龜 𢡊 𢡄 𣏕 㮝 䀘 䀹 𥉉 𥳐 𧻓 齃 龎"),
  (⟨0xFB00, 0xFB06, 1⟩, "ff fi fl ffi ffl st st"),
  (⟨0xFB13, 0xFB17, 1⟩, "մն մե մի վն մխ"),
  (⟨0xFB1D, 0xFB35, 2⟩, "י\u05b4 ײ\u05b7 א ה ל ר + ש\u05c2 ש\u05bc\u05c2 א\u05b8 ב\u05bc ד\u05bc ו\u05bc"),
  (⟨0xFB20, 0xFB40, 2⟩, "ע ד כ ם ת ש\u05c1 ש\u05bc\u05c1 א\u05b7 א\u05bc ג\u05bc ה\u05bc ז\u05bc ט\u05bc ך\u05bc " ++
    "ל\u05bc מ\u05bc נ\u05bc"),
  (⟨0xFB39, 0xFB39, 1⟩, "י\u05bc"),
  (⟨0xFB3B, 0xFB3B, 1⟩, "כ\u05bc"),
  (⟨0xFB41, 0xFB41, 1⟩, "ס\u05bc"),
  (⟨0xFB43, 0xFB44, 1⟩, "ף\u05bc פ\u05bc"),
  (⟨0xFB46, 0xFBB1, 1⟩, "צ\u05bc ק\u05bc ר\u05bc ש\u05bc ת\u05bc ו\u05b9 ב\u05bf כ\u05bf פ\u05bf אל ٱ ٱ ٻ ٻ ٻ ٻ " ++
    "پ پ پ پ ڀ ڀ ڀ ڀ ٺ ٺ ٺ ٺ ٿ ٿ ٿ ٿ ٹ ٹ ٹ ٹ ڤ ڤ ڤ ڤ ڦ ڦ ڦ ڦ ڄ ڄ ڄ ڄ ڃ ڃ ڃ ڃ چ چ چ چ ڇ ڇ ڇ ڇ " ++
    "ڍ ڍ ڌ ڌ ڎ ڎ ڈ ڈ ژ ژ ڑ ڑ ک ک ک ک گ گ گ گ ڳ ڳ ڳ ڳ ڱ ڱ ڱ ڱ ں ں ڻ ڻ ڻ ڻ ۀ ۀ ہ ہ ہ ہ ھ ھ ھ ھ " ++
    "ے ے ۓ ۓ"),
  (⟨0xFBD3, 0xFC5D, 1⟩, "ڭ ڭ ڭ ڭ ۇ ۇ ۆ ۆ ۈ ۈ ۇٴ ۋ ۋ ۅ ۅ ۉ ۉ ې ې ې ې ى ى ئا ئا ئە ئە ئو ئو ئۇ ئۇ ئۆ ئۆ ئۈ ئۈ ئې " ++
    "ئې ئې ئى ئى ئى ی ی ی ی ئج ئح ئم ئى ئي بج بح بخ بم بى بي تج تح تخ تم تى تي ثج ثم ثى ثي " ++
    "جح جم حج حم خج خح خم سج سح سخ سم صح صم ضج ضح ضخ ضم طح طم ظم عج عم غج غم فج فح فخ فم فى " ++
    "في قح قم قى قي كا كج كح كخ كل كم كى كي لج لح لخ لم لى لي مج مح مخ مم مى مي نج نح نخ نم " ++
    "نى ني هج هم هى هي يج يح يخ يم يى يي ذ\u0670 ر\u0670 ى\u0670"),
  (⟨0xFC64, 0xFD3D, 1⟩, "ئر ئز ئم ئن ئى ئي بر بز بم بن بى بي تر تز تم تن تى تي ثر ثز ثم ثن ثى ثي فى في قى قي كا " ++
    "كل كم كى كي لم لى لي ما مم نر نز نم نن نى ني ى\u0670 ير يز يم ين يى يي ئج ئح ئخ ئم ئه " ++
    "بج بح بخ بم به تج تح تخ تم ته ثم جح جم حج حم خج خم سج سح سخ سم صح صخ صم ضج ضح ضخ ضم طح " ++
    "ظم عج عم غج غم فج فح فخ فم قح قم كج كح كخ كل كم لج لح لخ لم له مج مح مخ مم نج نح نخ نم " ++
    "نه هج هم ه\u0670 يج يح يخ يم يه ئم ئه بم به تم ته ثم ثه سم سه شم شه كل كم لم نم نه يم " ++
    "يه ـ\u064e\u0651 ـ\u064f\u0651 ـ\u0650\u0651 طى طي عى عي غى غي سى سي شى شي حى حي جى جي " ++
    "خى خي صى صي ضى ضي شج شح شخ شم شر سر صر ضر طى طي عى عي غى غي سى سي شى شي حى حي جى جي خى " ++
    "خي صى صي ضى ضي شج شح شخ شم شر سر صر ضر شج شح شخ شم سه شه طم سج سح سخ شج شح شخ طم ظم " ++
    "ا\u064b ا\u064b"),
  (⟨0xFD50, 0xFD8F, 1⟩, "تجم تحج تحج تحم تخم تمج تمح تمخ جمح جمح حمي حمى سحج سجح سجى سمح سمح سمج سمم سمم صحح صحح " ++
    "صمم شحم شحم شجي شمخ شمخ شمم شمم ضحى ضخم ضخم طمح طمح طمم طمي عجم عمم عمم عمى غمم غمي غمى " ++
    "فخم فخم قمح قمم لحم لحي لحى لجج لجج لخم لخم لمح لمح محج محم محي مجح مجم مخج مخم"),
  (⟨0xFD92, 0xFDC7, 1⟩, "مجخ همج همم نحم نحى نجم نجم نجى نمي نمى يمم يمم بخي تجي تجى تخي تخى تمي تمى جمي جحى جمى " ++
    "سخى صحي شحي ضحي لجي لمي يحي يجي يمي ممي قمي نحي قمح لحم عمي كمي نجح مخي لجم كمم لجم نجح " ++
    "جحي حجي مجي فمي بحي كمم عجم صمم سخي نجي"),
  (⟨0xFDF0, 0xFDF9, 1⟩, "صلے قلے الله اكبر محمد صلعم رسول عليه وسلم صلى"),
  (⟨0xFDFC, 0xFDFC, 1⟩, "ریال"),
  (⟨0xFE10, 0xFE11, 1⟩, ", 、"),
  (⟨0xFE13, 0xFE18, 1⟩, ": ; ! ? 〖 〗"),
  (⟨0xFE31, 0xFE44, 1⟩, "— – _ _ ( ) \x7b \x7d 〔 〕 【 】 《 》 〈 〉 「 」 『 』"),
  (⟨0xFE47, 0xFE48, 1⟩, "[ ]"),
  (⟨0xFE4D, 0xFE51, 1⟩, "_ _ _ , 、"),
  (⟨0xFE54, 0xFE66, 1⟩, "; : ? ! — ( ) \x7b \x7d 〔 〕 # & * + - < > ="),
  (⟨0xFE68, 0xFE6B, 1⟩, "\\ $ % @"),
  (⟨0xFE71, 0xFE71, 1⟩, "ـ\u064b"),
  (⟨0xFE77, 0xFEFB, 2⟩, "ـ\u064e ـ\u064f ـ\u0650 ـ\u0651 ـ\u0652 آ أ ؤ إ ئ ئ ا ب ب ة ت ت ث ث ج ج ح ح خ خ د ذ ر ز " ++
    "س س ش ش ص ص ض ض ط ط ظ ظ ع ع غ غ ف ف ق ق ك ك ل ل م م ن ن ه ه و ى ي ي لآ لأ لإ لا"),
  (⟨0xFE80, 0xFEFC, 2⟩, "ء آ أ ؤ إ ئ ئ ا ب ب ة ت ت ث ث ج ج ح ح خ خ د ذ ر ز س س ش ش ص ص ض ض ط ط ظ ظ ع ع غ غ ف ف ق " ++
    "ق ك ك ل ل م م ن ن ه ه و ى ي ي لآ لأ لإ لا"),
  (⟨0xFF01, 0xFF9F, 1⟩, "! \" # $ % & ' ( ) * + , - . / 0 1 2 3 4 5 6 7 8 9 : ; < = > ? @ a b c d e f g h i j k " ++
    "l m n o p q r s t u v w x y z [ \\ ] ^ _ ` a b c d e f g h i j k l m n o p q r s t u v " ++
    "w x y z \x7b | \x7d ~ ⦅ ⦆ . 「 」 、 ・ ヲ ァ ィ ゥ ェ ォ ャ ュ ョ ッ ー ア イ ウ エ オ カ キ ク ケ コ サ シ ス セ ソ " ++
    "タ チ ツ テ ト ナ ニ ヌ ネ ノ ハ ヒ フ ヘ ホ マ ミ ム メ モ ヤ ユ ヨ ラ リ ル レ ロ ワ ン \u3099 \u309a"),
  (⟨0xFFA1, 0xFFBE, 1⟩, "ᄀ ᄁ ᆪ ᄂ ᆬ ᆭ ᄃ ᄄ ᄅ ᆰ ᆱ ᆲ ᆳ ᆴ ᆵ ᄚ ᄆ ᄇ ᄈ ᄡ ᄉ ᄊ ᄋ ᄌ ᄍ ᄎ ᄏ ᄐ ᄑ ᄒ"),
  (⟨0xFFC2, 0xFFC7, 1⟩, "ᅡ ᅢ ᅣ ᅤ ᅥ ᅦ"),
  (⟨0xFFCA, 0xFFCF, 1⟩, "ᅧ ᅨ ᅩ ᅪ ᅫ ᅬ"),
  (⟨0xFFD2, 0xFFD7, 1⟩, "ᅭ ᅮ ᅯ ᅰ ᅱ ᅲ"),
  (⟨0xFFDA, 0xFFDC, 1⟩, "ᅳ ᅴ ᅵ"),
  (⟨0xFFE0, 0xFFEE, 2⟩, "¢ ¬ ¦ ₩ │ ↑ ↓ ○"),
  (⟨0xFFE1, 0xFFE1, 1⟩, "£"),
  (⟨0xFFE5, 0xFFE5, 1⟩, "¥"),
  (⟨0xFFE9, 0xFFE9, 1⟩, "←"),
  (⟨0xFFEB, 0xFFEB, 1⟩, "→"),
  (⟨0xFFED, 0xFFED, 1⟩, "■"),
  (⟨0x10781, 0x107AF, 2⟩, "ː æ ɓ ʣ ʥ ɖ ᶑ ɞ ɤ ɠ ħ ɧ ʪ ɬ ꞎ 𝼅 𝼆 ɶ q 𝼈 ɾ ʨ ꭧ ʈ"),
  (⟨0x10782, 0x10782, 1⟩, "ˑ"),
  (⟨0x10784, 0x10784, 1⟩, "ʙ"),
  (⟨0x10788, 0x107BA, 2⟩, "ꭦ ʤ ɗ ɘ ʩ ɢ ʛ ʜ ʄ ʫ 𝼄 ɮ ʎ ø ɷ ɺ ɽ ʀ ʦ ʧ ⱱ ʏ ʢ ǀ ǂ 𝼞"),
  (⟨0x107B3, 0x107B9, 2⟩, "ʡ ʘ ǁ 𝼊"),
  (⟨0x1CCD6, 0x1CCF9, 1⟩, "a b c d e f g h i j k l m n o p q r s t u v w x y z 0 1 2 3 4 5 6 7 8 9"),
  (⟨0x1D15E, 0x1D164, 1⟩, "𝅗𝅥 𝅘𝅥 𝅘𝅥𝅮 𝅘𝅥𝅯 𝅘𝅥𝅰 𝅘𝅥𝅱 𝅘𝅥𝅲"),
  (⟨0x1D1BB, 0x1D1C0, 1⟩, "𝆹𝅥 𝆺𝅥 𝆹𝅥𝅮 𝆺𝅥𝅮 𝆹𝅥𝅯 𝆺𝅥𝅯"),
  (⟨0x1D400, 0x1D454, 1⟩, "a b c d e f g h i j k l m n o p q r s t u v w x y z a b c d e f g h i j k l m n o p q r " ++
    "s t u v w x y z a b c d e f g h i j k l m n o p q r s t u v w x y z a b c d e f g"),
  (⟨0x1D456, 0x1D49C, 1⟩, "i j k l m n o p q r s t u v w x y z a b c d e f g h i j k l m n o p q r s t u v w x y z " ++
    "a b c d e f g h i j k l m n o p q r s t u v w x y z a"),
  (⟨0x1D49E, 0x1D49F, 1⟩, "c d"),
  (⟨0x1D4A2, 0x1D4A2, 1⟩, "g"),
  (⟨0x1D4A5, 0x1D4A6, 1⟩, "j k"),
  (⟨0x1D4A9, 0x1D4AC, 1⟩, "n o p q"),
  (⟨0x1D4AE, 0x1D4B9, 1⟩, "s t u v w x y z a b c d"),
  (⟨0x1D4BB, 0x1D509, 2⟩, "f h j l n p r t v x z b d f h j l n p r t v x z b d f h j l n p r t v x z b d f"),
  (⟨0x1D4BE, 0x1D4BE, 1⟩, "i"),
  (⟨0x1D4C0, 0x1D4C0, 1⟩, "k"),
  (⟨0x1D4C2, 0x1D4C2, 1⟩, "m"),
  (⟨0x1D4C6, 0x1D504, 2⟩, "q s u w y a c e g i k m o q s u w y a c e g i k m o q s u w y a"),
  (⟨0x1D508, 0x1D508, 1⟩, "e"),
  (⟨0x1D50A, 0x1D50A, 1⟩, "g"),
  (⟨0x1D50D, 0x1D514, 1⟩, "j k l m n o p q"),
  (⟨0x1D516, 0x1D538, 2⟩, "s u w y a c e g i k m o q s u w y a"),
  (⟨0x1D517, 0x1D517, 1⟩, "t"),
  (⟨0x1D519, 0x1D519, 1⟩, "v"),
  (⟨0x1D51B, 0x1D51B, 1⟩, "x"),
  (⟨0x1D51F, 0x1D53D, 2⟩, "b d f h j l n p r t v x z b d f"),
  (⟨0x1D53C, 0x1D546, 2⟩, "e g i k m o"),
  (⟨0x1D541, 0x1D541, 1⟩, "j"),
  (⟨0x1D543, 0x1D543, 1⟩, "l"),
  (⟨0x1D54A, 0x1D6A4, 2⟩, "s u w y a c e g i k m o q s u w y a c e g i k m o q s u w y a c e g i k m o q s u w y a " ++
    "c e g i k m o q s u w y a c e g i k m o q s u w y a c e g i k m o q s u w y a c e g i k " ++
    "m o q s u w y a c e g i k m o q s u w y a c e g i k m o q s u w y a c e g i k m o q s u " ++
    "w y a c e g i k m o q s u w y a c e g i k m o q s u w y a c e g i k m o q s u w y ı"),
  (⟨0x1D54B, 0x1D54B, 1⟩, "t"),
  (⟨0x1D54D, 0x1D54D, 1⟩, "v"),
  (⟨0x1D54F, 0x1D54F, 1⟩, "x"),
  (⟨0x1D553, 0x1D6A5, 2⟩, "b d f h j l n p r t v x z b d f h j l n p r t v x z b d f h j l n p r t v x z b d f h j " ++
    "l n p r t v x z b d f h j l n p r t v x z b d f h j l n p r t v x z b d f h j l n p r t " ++
    "v x z b d f h j l n p r t v x z b d f h j l n p r t v x z b d f h j l n p r t v x z b d " ++
    "f h j l n p r t v x z b d f h j l n p r t v x z b d f h j l n p r t v x z ȷ"),
  (⟨0x1D6A8, 0x1D7CB, 1⟩, "α β γ δ ε ζ η θ ι κ λ μ ν ξ ο π ρ θ σ τ υ φ χ ψ ω ∇ α β γ δ ε ζ η θ ι κ λ μ ν ξ ο π ρ σ " ++
    "σ τ υ φ χ ψ ω ∂ ε θ κ φ ρ π α β γ δ ε ζ η θ ι κ λ μ ν ξ ο π ρ θ σ τ υ φ χ ψ ω ∇ α β γ δ " ++
    "ε ζ η θ ι κ λ μ ν ξ ο π ρ σ σ τ υ φ χ ψ ω ∂ ε θ κ φ ρ π α β γ δ ε ζ η θ ι κ λ μ ν ξ ο π " ++
    "ρ θ σ τ υ φ χ ψ ω ∇ α β γ δ ε ζ η θ ι κ λ μ ν ξ ο π ρ σ σ τ υ φ χ ψ ω ∂ ε θ κ φ ρ π α β " ++
    "γ δ ε ζ η θ ι κ λ μ ν ξ ο π ρ θ σ τ υ φ χ ψ ω ∇ α β γ δ ε ζ η θ ι κ λ μ ν ξ ο π ρ σ σ τ " ++
    "υ φ χ ψ ω ∂ ε θ κ φ ρ π α β γ δ ε ζ η θ ι κ λ μ ν ξ ο π ρ θ σ τ υ φ χ ψ ω ∇ α β γ δ ε ζ " ++
    "η θ ι κ λ μ ν ξ ο π ρ σ σ τ υ φ χ ψ ω ∂ ε θ κ φ ρ π ϝ ϝ"),
  (⟨0x1D7CE, 0x1D7FF, 1⟩, "0 1 2 3 4 5 6 7 8 9 0 1 2 3 4 5 6 7 8 9 0 1 2 3 4 5 6 7 8 9 0 1 2 3 4 5 6 7 8 9 0 1 2 3 " ++
    "4 5 6 7 8 9"),
  (⟨0x1E030, 0x1E06D, 1⟩, "а б в г д е ж з и к л м о п р с т у ф х ц ч ш ы э ю ꚉ ә і ј ө ү ӏ а б в г д е ж з и к л " ++
    "о п с у ф х ц ч ш ъ ы ґ і ѕ џ ҫ ꙑ ұ"),
  (⟨0x1EE00, 0x1EE03, 1⟩, "ا ب ج د"),
  (⟨0x1EE05, 0x1EE1F, 1⟩, "و ز ح ط ي ك ل م ن س ع ف ص ق ر ش ت ث خ ذ ض ظ غ ٮ ں ڡ ٯ"),
  (⟨0x1EE21, 0x1EE22, 1⟩, "ب ج"),
  (⟨0x1EE24, 0x1EE24, 1⟩, "ه"),
  (⟨0x1EE27, 0x1EE31, 2⟩, "ح ي ل ن ع ص"),
  (⟨0x1EE2A, 0x1EE36, 2⟩, "ك م س ف ق ش ث"),
  (⟨0x1EE35, 0x1EE3B, 2⟩, "ت خ ض غ"),
  (⟨0x1EE42, 0x1EE42, 1⟩, "ج"),
  (⟨0x1EE47, 0x1EE51, 2⟩, "ح ي ل ن ع ص"),
  (⟨0x1EE4E, 0x1EE4E, 1⟩, "س"),
  (⟨0x1EE52, 0x1EE52, 1⟩, "ق"),
  (⟨0x1EE54, 0x1EE54, 1⟩, "ش"),
  (⟨0x1EE57, 0x1EE61, 2⟩, "خ ض غ ں ٯ ب"),
  (⟨0x1EE62, 0x1EE62, 1⟩, "ج"),
  (⟨0x1EE64, 0x1EE64, 1⟩, "ه"),
  (⟨0x1EE67, 0x1EE6A, 1⟩, "ح ط ي ك"),
  (⟨0x1EE6C, 0x1EE72, 1⟩, "م ن س ع ف ص ق"),
  (⟨0x1EE74, 0x1EE77, 1⟩, "ش ت ث خ"),
  (⟨0x1EE79, 0x1EE7C, 1⟩, "ض ظ غ ٮ"),
  (⟨0x1EE7E, 0x1EE88, 2⟩, "ڡ ا ج ه ز ط"),
  (⟨0x1EE81, 0x1EE9B, 2⟩, "ب د و ح ي ل ن ع ص ر ت خ ض غ"),
  (⟨0x1EE8C, 0x1EE9A, 2⟩, "م س ف ق ش ث ذ ظ"),
  (⟨0x1EEA1, 0x1EEBB, 2⟩, "ب د و ح ي ل ن ع ص ر ت خ ض غ"),
  (⟨0x1EEA2, 0x1EEA2, 1⟩, "ج"),
  (⟨0x1EEA6, 0x1EEA6, 1⟩, "ز"),
  (⟨0x1EEA8, 0x1EEA8, 1⟩, "ط"),
  (⟨0x1EEAC, 0x1EEBA, 2⟩, "م س ف ق ش ث ذ ظ"),
  (⟨0x1F101, 0x1F10A, 1⟩, "0, 1, 2, 3, 4, 5, 6, 7, 8, 9,"),
  (⟨0x1F110, 0x1F14E, 2⟩, "(a) (c) (e) (g) (i) (k) (m) (o) (q) (s) (u) (w) (y) 〔s〕 r wz a c e g i k m o q s u w y " ++
    "hv sd ppv"),
  (⟨0x1F111, 0x1F12D, 2⟩, "(b) (d) (f) (h) (j) (l) (n) (p) (r) (t) (v) (x) (z) c cd"),
  (⟨0x1F131, 0x1F14F, 2⟩, "b d f h j l n p r t v x z mv ss wc"),
  (⟨0x1F16A, 0x1F16C, 1⟩, "mc md mr"),
  (⟨0x1F190, 0x1F190, 1⟩, "dj"),
  (⟨0x1F200, 0x1F202, 1⟩, "ほか ココ サ"),
  (⟨0x1F210, 0x1F23B, 1⟩, "手 字 双 デ 二 多 解 天 交 映 無 料 前 後 再 新 初 終 生 販 声 吹 演 投 捕 一 三 遊 左 中 右 指 走 打 禁 空 合 満 有 月 申 割 営 配"),
  (⟨0x1F240, 0x1F248, 1⟩, "〔本〕 〔三〕 〔二〕 〔安〕 〔点〕 〔打〕 〔盗〕 〔勝〕 〔敗〕"),
  (⟨0x1F250, 0x1F251, 1⟩, "得 可"),
  (⟨0x1FBF0, 0x1FBF9, 1⟩, "0 1 2 3 4 5 6 7 8 9"),
  (⟨0x2F800, 0x2FA1D, 1⟩, "丽 丸 乁 𠄢 你 侮 侻 倂 偺 備 僧 像 㒞 𠘺 免 兔 兤 具 𠔜 㒹 內 再 𠕋 冗 冤 仌 冬 况 𩇟 凵 刃 㓟 刻 剆 割 剷 㔕 勇 勉 勤 勺 包 匆 北 " ++
    "卉 卑 博 即 卽 卿 卿 卿 𠨬 灰 及 叟 𠭣 叫 叱 吆 咞 吸 呈 周 咢 哶 唐 啓 啣 善 善 喙 喫 喳 嗂 圖 嘆 圗 噑 噴 切 壮 城 埴 堍 型 堲 報 " ++
    "墬 𡓤 売 壷 夆 多 夢 奢 𡚨 𡛪 姬 娛 娧 姘 婦 㛮 㛼 嬈 嬾 嬾 𡧈 寃 寘 寧 寳 𡬘 寿 将 当 尢 㞁 屠 屮 峀 岍 𡷤 嵃 𡷦 嵮 嵫 嵼 巡 巢 㠯 " ++
    "巽 帨 帽 幩 㡢 𢆃 㡼 庰 庳 庶 廊 𪎒 廾 𢌱 𢌱 舁 弢 弢 㣇 𣊸 𦇚 形 彫 㣣 徚 忍 志 忹 悁 㤺 㤜 悔 𢛔 惇 慈 慌 慎 慌 慺 憎 憲 憤 憯 懞 " ++
    "懲 懶 成 戛 扝 抱 拔 捐 𢬌 挽 拼 捨 掃 揤 𢯱 搢 揅 掩 㨮 摩 摾 撝 摷 㩬 敏 敬 𣀊 旣 書 晉 㬙 暑 㬈 㫤 冒 冕 最 暜 肭 䏙 朗 望 朡 杞 " ++
    "杓 𣏃 㭉 柺 枅 桒 梅 𣑭 梎 栟 椔 㮝 楂 榣 槪 檨 𣚣 櫛 㰘 次 𣢧 歔 㱎 歲 殟 殺 殻 𣪍 𡴋 𣫺 汎 𣲼 沿 泍 汧 洖 派 海 流 浩 浸 涅 𣴞 洴 " ++
    "港 湮 㴳 滋 滇 𣻑 淹 潮 𣽞 𣾎 濆 瀹 瀞 瀛 㶖 灊 災 灷 炭 𠔥 煅 𤉣 熜 𤎫 爨 爵 牐 𤘈 犀 犕 𤜵 𤠔 獺 王 㺬 玥 㺸 㺸 瑇 瑜 瑱 璅 瓊 㼛 " ++
    "甤 𤰶 甾 𤲒 異 𢆟 瘐 𤾡 𤾸 𥁄 㿼 䀈 直 𥃳 𥃲 𥄙 𥄳 眞 真 真 睊 䀹 瞋 䁆 䂖 𥐝 硎 碌 磌 䃣 𥘦 祖 𥚚 𥛅 福 秫 䄯 穀 穊 穏 𥥼 𥪧 𥪧 竮 " ++
    "䈂 𥮫 篆 築 䈧 𥲀 糒 䊠 糨 糣 紀 𥾆 絣 䌁 緇 縂 繅 䌴 𦈨 𦉇 䍙 𦋙 罺 𦌾 羕 翺 者 𦓚 𦔣 聠 𦖨 聰 𣍟 䏕 育 脃 䐋 脾 媵 𦞧 𦞵 𣎓 𣎜 舁 " ++
    "舄 辞 䑫 芑 芋 芝 劳 花 芳 芽 苦 𦬼 若 茝 荣 莭 茣 莽 菧 著 荓 菊 菌 菜 𦰶 𦵫 𦳕 䔫 蓱 蓳 蔖 𧏊 蕤 𦼬 䕝 䕡 𦾱 𧃒 䕫 虐 虜 虧 虩 蚩 " ++
    "蚈 蜎 蛢 蝹 蜨 蝫 螆 䗗 蟡 蠁 䗹 衠 衣 𧙧 裗 裞 䘵 裺 㒻 𧢮 𧥦 䚾 䛇 誠 諭 變 豕 𧲨 貫 賁 贛 起 𧼯 𠠄 跋 趼 跰 𠣞 軔 輸 𨗒 𨗭 邔 郱 " ++
    "鄑 𨜮 鄛 鈸 鋗 鋘 鉼 鏹 鐕 𨯺 開 䦕 閷 𨵷 䧦 雃 嶲 霣 𩅅 𩈚 䩮 䩶 韠 𩐊 䪲 𩒖 頋 頋 頩 𩖶 飢 䬳 餩 馧 駂 駾 䯎 𩬰 鬒 鱀 鳽 䳎 䳭 鵧 " ++
    "𪃎 䳸 𪄅 𪈎 𪊑 麻 䵖 黹 黾 鼅 鼏 鼖 鼻 𪘀")]

end ApiScreens.Url
