import TweetHarvest.Text.Blank

/-!
# Plain forms of characters

What a domain name has instead of characters that are only other shapes of letters, digits and
ideographs: capitals, ligatures, numbers in circles, abbreviations in one character, ideographs with
a second code point.  An entry holds the first and the last code point of a block and, separated by
blanks, the plain form of each of its characters.

* `Domain.plainForm?`  the plain form of a character that has one in the table
-/

namespace TweetHarvest.Domain

/-- Letters, digits and signs. -/
def letterForms : List (Nat × Nat × String) :=
  [(0x00AA, 0x00AA, "a"), (0x00B2, 0x00B3, "2 3"), (0x00B5, 0x00B5, "μ"), (0x00B9, 0x00BA, "1 o"),
   (0x00BC, 0x00BE, "1⁄4 1⁄2 3⁄4"), (0x0130, 0x0130, "i\u0307"), (0x0132, 0x0134, "ij ij ĵ"),
   (0x0136, 0x0136, "ķ"), (0x013F, 0x0140, "l· l·"), (0x0149, 0x0149, "ʼn"), (0x0178, 0x0178, "ÿ"),
   (0x017F, 0x017F, "s"), (0x0181, 0x0182, "ɓ ƃ"), (0x0184, 0x0184, "ƅ"), (0x0186, 0x0187, "ɔ ƈ"),
   (0x0189, 0x018B, "ɖ ɗ ƌ"), (0x018E, 0x0191, "ǝ ə ɛ ƒ"), (0x0193, 0x0194, "ɠ ɣ"),
   (0x0196, 0x0198, "ɩ ɨ ƙ"), (0x019C, 0x019D, "ɯ ɲ"), (0x019F, 0x019F, "ɵ"),
   (0x01A6, 0x01A7, "ʀ ƨ"), (0x01A9, 0x01A9, "ʃ"), (0x01AC, 0x01AC, "ƭ"), (0x01AE, 0x01AF, "ʈ ư"),
   (0x01B1, 0x01B3, "ʊ ʋ ƴ"), (0x01B5, 0x01B5, "ƶ"), (0x01B7, 0x01B8, "ʒ ƹ"), (0x01BC, 0x01BC, "ƽ"),
   (0x01C4, 0x01CC, "dž dž dž lj lj lj nj nj nj"), (0x01F1, 0x01F4, "dz dz dz ǵ"),
   (0x01F6, 0x01F7, "ƕ ƿ"), (0x0220, 0x0220, "ƞ"), (0x023A, 0x023B, "ⱥ ȼ"), (0x023D, 0x023E, "ƚ ⱦ"),
   (0x0241, 0x0241, "ɂ"), (0x0243, 0x0245, "ƀ ʉ ʌ"), (0x02B0, 0x02B8, "h ɦ j r ɹ ɻ ʁ w y"),
   (0x02E0, 0x02E4, "ɣ l s x ʕ"), (0x0340, 0x0341, "\u0300 \u0301"),
   (0x0343, 0x0345, "\u0313 \u0308\u0301 ι"), (0x0370, 0x0370, "ͱ"), (0x0372, 0x0372, "ͳ"),
   (0x0374, 0x0374, "ʹ"), (0x0376, 0x0376, "ͷ"), (0x037E, 0x037F, "; ϳ"), (0x0386, 0x0387, "ά ·"),
   (0x038C, 0x038C, "ό"), (0x038E, 0x038F, "ύ ώ"), (0x03CF, 0x03D6, "ϗ β θ υ ύ ϋ φ π"),
   (0x03F0, 0x03F2, "κ ρ σ"), (0x03F4, 0x03F5, "θ ε"), (0x03F7, 0x03F7, "ϸ"),
   (0x03F9, 0x03FA, "σ ϻ"), (0x04C0, 0x04C0, "ӏ"), (0x0587, 0x0587, "եւ"),
   (0x0675, 0x0678, "اٴ وٴ ۇٴ يٴ"),
   (0x0958, 0x095F, "क\u093c ख\u093c ग\u093c ज\u093c ड\u093c ढ\u093c फ\u093c य\u093c"),
   (0x09DC, 0x09DD, "ড\u09bc ঢ\u09bc"), (0x09DF, 0x09DF, "য\u09bc"), (0x0A33, 0x0A33, "ਲ\u0a3c"),
   (0x0A36, 0x0A36, "ਸ\u0a3c"), (0x0A59, 0x0A5B, "ਖ\u0a3c ਗ\u0a3c ਜ\u0a3c"),
   (0x0A5E, 0x0A5E, "ਫ\u0a3c"), (0x0B5C, 0x0B5D, "ଡ\u0b3c ଢ\u0b3c"), (0x0E33, 0x0E33, "\u0e4dา"),
   (0x0EB3, 0x0EB3, "\u0ecdາ"), (0x0EDC, 0x0EDD, "ຫນ ຫມ"), (0x0F0C, 0x0F0C, "་"),
   (0x0F43, 0x0F43, "ག\u0fb7"), (0x0F4D, 0x0F4D, "ཌ\u0fb7"), (0x0F52, 0x0F52, "ད\u0fb7"),
   (0x0F57, 0x0F57, "བ\u0fb7"), (0x0F5C, 0x0F5C, "ཛ\u0fb7"), (0x0F69, 0x0F69, "ཀ\u0fb5"),
   (0x0F73, 0x0F73, "\u0f71\u0f72"),
   (0x0F75, 0x0F79, "\u0f71\u0f74 \u0fb2\u0f80 \u0fb2\u0f71\u0f80 \u0fb3\u0f80 \u0fb3\u0f71\u0f80"),
   (0x0F81, 0x0F81, "\u0f71\u0f80"), (0x0F93, 0x0F93, "\u0f92\u0fb7"),
   (0x0F9D, 0x0F9D, "\u0f9c\u0fb7"), (0x0FA2, 0x0FA2, "\u0fa1\u0fb7"),
   (0x0FA7, 0x0FA7, "\u0fa6\u0fb7"), (0x0FAC, 0x0FAC, "\u0fab\u0fb7"),
   (0x0FB9, 0x0FB9, "\u0f90\u0fb5"), (0x10C7, 0x10C7, "ⴧ"), (0x10CD, 0x10CD, "ⴭ"),
   (0x10FC, 0x10FC, "ნ"), (0x1C80, 0x1C89, "в д о с т т ъ ѣ ꙋ ᲊ"), (0x1D2C, 0x1D2E, "a æ b"),
   (0x1D30, 0x1D30, "d"), (0x1D32, 0x1D32, "ǝ"),
   (0x1D3C, 0x1D4D, "o ȣ p r t u w a ɐ ɑ ᴂ b d e ə ɛ ɜ g"),
   (0x1D4F, 0x1D5C, "k m ŋ o ɔ ᴖ ᴗ p t u ᴝ ɯ v ᴥ"), (0x1D60, 0x1D6A, "φ χ i r u v β γ ρ φ χ"),
   (0x1D78, 0x1D78, "н"), (0x1D9B, 0x1DA3, "ɒ c ɕ ð ɜ f ɟ ɡ ɥ"), (0x1DA7, 0x1DAD, "ᵻ ʝ ɭ ᶅ ʟ ɱ ɰ"),
   (0x1DB2, 0x1DBB, "ɸ ʂ ʃ ƫ ʉ ʊ ᴜ ʋ ʌ z"), (0x1DBF, 0x1DBF, "θ"), (0x1E9A, 0x1E9B, "aʾ ṡ"),
   (0x1E9E, 0x1E9E, "ß"), (0x1F71, 0x1F71, "ά"), (0x1F73, 0x1F73, "έ"), (0x1F75, 0x1F75, "ή"),
   (0x1F77, 0x1F77, "ί"), (0x1F79, 0x1F79, "ό"), (0x1F7B, 0x1F7B, "ύ"), (0x1F7D, 0x1F7D, "ώ"),
   (0x1F80, 0x1F98, "ἀι ἁι ἂι ἃι ἄι ἅι ἆι ἇι ἀι ἁι ἂι ἃι ἄι ἅι ἆι ἇι ἠι ἡι ἢι ἣι ἤι ἥι ἦι ἧι ἠι"),
   (0x1F99, 0x1FAF, "ἡι ἢι ἣι ἤι ἥι ἦι ἧι ὠι ὡι ὢι ὣι ὤι ὥι ὦι ὧι ὠι ὡι ὢι ὣι ὤι ὥι ὦι ὧι"),
   (0x1FB2, 0x1FB4, "ὰι αι άι"), (0x1FB7, 0x1FBC, "ᾶι ᾰ ᾱ ὰ ά αι"), (0x1FBE, 0x1FBE, "ι"),
   (0x1FC2, 0x1FC4, "ὴι ηι ήι"), (0x1FC7, 0x1FCC, "ῆι ὲ έ ὴ ή ηι"), (0x1FD3, 0x1FD3, "ΐ"),
   (0x1FD8, 0x1FDB, "ῐ ῑ ὶ ί"), (0x1FE3, 0x1FE3, "ΰ"), (0x1FE8, 0x1FEC, "ῠ ῡ ὺ ύ ῥ"),
   (0x1FEF, 0x1FEF, "\x60"), (0x1FF2, 0x1FF4, "ὼι ωι ώι"), (0x1FF7, 0x1FFC, "ῶι ὸ ό ὼ ώ ωι"),
   (0x2011, 0x2011, "‐"), (0x2033, 0x2034, "′′ ′′′"), (0x2036, 0x2037, "‵‵ ‵‵‵"),
   (0x203C, 0x203C, "!!"), (0x2057, 0x2057, "′′′′"), (0x2070, 0x2071, "0 i"),
   (0x207A, 0x207F, "+ − = ( ) n"), (0x208A, 0x208E, "+ − = ( )"), (0x2090, 0x2095, "a e o x ə h"),
   (0x209A, 0x209C, "p s t"), (0x20A8, 0x20A8, "rs"), (0x2102, 0x2103, "c °c"),
   (0x2107, 0x2107, "ɛ"), (0x2109, 0x2113, "°f g h h h h ħ i i l l"), (0x2115, 0x2116, "n no"),
   (0x211C, 0x211D, "r r"), (0x2120, 0x2122, "sm tel tm"), (0x2124, 0x2124, "z"),
   (0x2126, 0x2126, "ω"), (0x2128, 0x2128, "z"), (0x212A, 0x212D, "k å b c"),
   (0x212F, 0x2134, "e e f ⅎ m o"), (0x2139, 0x2139, "i"), (0x213B, 0x2140, "fax π γ γ π ∑"),
   (0x2145, 0x2149, "d d e i j"),
   (0x2150, 0x2163, "1⁄7 1⁄9 1⁄10 1⁄3 2⁄3 1⁄5 2⁄5 3⁄5 4⁄5 1⁄6 5⁄6 1⁄8 3⁄8 5⁄8 7⁄8 1⁄ i ii iii iv"),
   (0x2164, 0x217D, "v vi vii viii ix x xi xii l c d m i ii iii iv v vi vii viii ix x xi xii l c"),
   (0x217E, 0x217F, "d m"), (0x2183, 0x2183, "ↄ"), (0x2189, 0x2189, "0⁄3"),
   (0x222C, 0x222D, "∫∫ ∫∫∫"), (0x222F, 0x2230, "∮∮ ∮∮∮"), (0x2329, 0x232A, "〈 〉"),
   (0x2469, 0x247D, "10 11 12 13 14 15 16 17 18 19 20 (1) (2) (3) (4) (5) (6) (7) (8) (9) (10)"),
   (0x247E, 0x2487, "(11) (12) (13) (14) (15) (16) (17) (18) (19) (20)"),
   (0x249C, 0x24AE, "(a) (b) (c) (d) (e) (f) (g) (h) (i) (j) (k) (l) (m) (n) (o) (p) (q) (r) (s)"),
   (0x24AF, 0x24B5, "(t) (u) (v) (w) (x) (y) (z)"), (0x24EA, 0x24EA, "0"), (0x2A0C, 0x2A0C, "∫∫∫∫"),
   (0x2A75, 0x2A76, "== ==="), (0x2ADC, 0x2ADC, "⫝\u0338"), (0x2C60, 0x2C60, "ⱡ"),
   (0x2C62, 0x2C64, "ɫ ᵽ ɽ"), (0x2C6D, 0x2C70, "ɑ ɱ ɐ ɒ"), (0x2C72, 0x2C72, "ⱳ"),
   (0x2C75, 0x2C75, "ⱶ"), (0x2C7C, 0x2C7F, "j v ȿ ɀ"), (0x2CEB, 0x2CEB, "ⳬ"), (0x2CED, 0x2CED, "ⳮ"),
   (0x2CF2, 0x2CF2, "ⳳ"), (0x2D6F, 0x2D6F, "ⵡ")]

/-- Ideographs, syllables and what is written with them. -/
def asianForms : List (Nat × Nat × String) :=
  [(0x2E9F, 0x2E9F, "母"), (0x2EF3, 0x2EF3, "龟"),
   (0x2F00, 0x2F25, "一 丨 丶 丿 乙 亅 二 亠 人 儿 入 八 冂 冖 冫 几 凵 刀 力 勹 匕 匚 匸 十 卜 卩 厂 厶 又 口 囗 土 士 夂 夊 夕 大 女"),
   (0x2F26, 0x2F4B, "子 宀 寸 小 尢 尸 屮 山 巛 工 己 巾 干 幺 广 廴 廾 弋 弓 彐 彡 彳 心 戈 戶 手 支 攴 文 斗 斤 方 无 日 曰 月 木 欠"),
   (0x2F4C, 0x2F71, "止 歹 殳 毋 比 毛 氏 气 水 火 爪 父 爻 爿 片 牙 牛 犬 玄 玉 瓜 瓦 甘 生 用 田 疋 疒 癶 白 皮 皿 目 矛 矢 石 示 禸"),
   (0x2F72, 0x2F97, "禾 穴 立 竹 米 糸 缶 网 羊 羽 老 而 耒 耳 聿 肉 臣 自 至 臼 舌 舛 舟 艮 色 艸 虍 虫 血 行 衣 襾 見 角 言 谷 豆 豕"),
   (0x2F98, 0x2FBD, "豸 貝 赤 走 足 身 車 辛 辰 辵 邑 酉 釆 里 金 長 門 阜 隶 隹 雨 靑 非 面 革 韋 韭 音 頁 風 飛 食 首 香 馬 骨 高 髟"),
   (0x2FBE, 0x2FD5, "鬥 鬯 鬲 鬼 魚 鳥 鹵 鹿 麥 麻 黃 黍 黑 黹 黽 鼎 鼓 鼠 鼻 齊 齒 龍 龜 龠"), (0x3002, 0x3002, "."),
   (0x3036, 0x3036, "〒"), (0x3038, 0x303A, "十 卄 卅"), (0x309F, 0x309F, "より"), (0x30FF, 0x30FF, "コト"),
   (0x3131, 0x3136, "ᄀ ᄁ ᆪ ᄂ ᆬ ᆭ"), (0x3140, 0x3140, "ᄚ"), (0x3144, 0x3144, "ᄡ"),
   (0x3165, 0x3177, "ᄔ ᄕ ᇇ ᇈ ᇌ ᇎ ᇓ ᇗ ᇙ ᄜ ᇝ ᇟ ᄝ ᄞ ᄠ ᄢ ᄣ ᄧ ᄩ"), (0x317D, 0x3183, "ᄲ ᄶ ᅀ ᅇ ᅌ ᇱ ᇲ"),
   (0x3187, 0x318E, "ᆄ ᆅ ᆈ ᆑ ᆒ ᆔ ᆞ ᆡ"), (0x3192, 0x319F, "一 二 三 四 上 中 下 甲 乙 丙 丁 天 地 人"),
   (0x3200, 0x3212, "(ᄀ) (ᄂ) (ᄃ) (ᄅ) (ᄆ) (ᄇ) (ᄉ) (ᄋ) (ᄌ) (ᄎ) (ᄏ) (ᄐ) (ᄑ) (ᄒ) (가) (나) (다) (라) (마)"),
   (0x3213, 0x321E, "(바) (사) (아) (자) (차) (카) (타) (파) (하) (주) (오전) (오후)"),
   (0x3220, 0x3232, "(一) (二) (三) (四) (五) (六) (七) (八) (九) (十) (月) (火) (水) (木) (金) (土) (日) (株) (有)"),
   (0x3233, 0x3247, "(社) (名) (特) (財) (祝) (労) (代) (呼) (学) (監) (企) (資) (協) (祭) (休) (自) (至) 問 幼 文 箏"),
   (0x3250, 0x3262, "pte 21 22 23 24 25 26 27 28 29 30 31 32 33 34 35 ᄀ ᄂ ᄃ"),
   (0x3266, 0x3268, "ᄉ ᄋ ᄌ"), (0x326E, 0x327E, "가 나 다 라 마 바 사 아 자 차 카 타 파 하 참고 주의 우"),
   (0x3280, 0x32A5, "一 二 三 四 五 六 七 八 九 十 月 火 水 木 金 土 日 株 有 社 名 特 財 祝 労 秘 男 女 適 優 印 注 項 休 写 正 上 中"),
   (0x32A6, 0x32C2, "下 左 右 医 宗 学 監 企 資 協 夜 36 37 38 39 40 41 42 43 44 45 46 47 48 49 50 1月 2月 3月"),
   (0x32C3, 0x32DF, "4月 5月 6月 7月 8月 9月 10月 11月 12月 hg erg ev ltd ア イ ウ エ オ カ キ ク ケ コ サ シ ス セ ソ タ"),
   (0x32E0, 0x32E3, "チ ツ テ ト"), (0x32EA, 0x32ED, "ヒ フ ヘ ホ"), (0x32F3, 0x32F4, "ヤ ユ"),
   (0x32FF, 0x330F, "令和 アパート アルファ アンペア アール イニング インチ ウォン エスクード エーカー オンス オーム カイリ カラット カロリー ガロン ガンマ"),
   (0x3310, 0x331F, "ギガ ギニー キュリー ギルダー キロ キログラム キロメートル キロワット グラム グラムトン クルゼイロ クローネ ケース コルナ コーポ サイクル"),
   (0x3320, 0x3331, "サンチーム シリング センチ セント ダース デシ ドル トン ナノ ノット ハイツ パーセント パーツ バーレル ピアストル ピクル ピコ ビル"),
   (0x3332, 0x3342, "ファラッド フィート ブッシェル フラン ヘクタール ペソ ペニヒ ヘルツ ペンス ページ ベータ ポイント ボルト ホン ポンド ホール ホーン"),
   (0x3343, 0x3353, "マイクロ マイル マッハ マルク マンション ミクロン ミリ ミリバール メガ メガトン メートル ヤード ヤール ユアン リットル リラ ルピー"),
   (0x3354, 0x3368, "ルーブル レム レントゲン ワット 0点 1点 2点 3点 4点 5点 6点 7点 8点 9点 10点 11点 12点 13点 14点 15点 16点"),
   (0x3369, 0x337D, "17点 18点 19点 20点 21点 22点 23点 24点 hpa da au bar ov pc dm dm2 dm3 iu 平成 昭和 大正"),
   (0x337E, 0x3393, "明治 株式会社 pa na μa ma ka kb mb gb cal kcal pf nf μf μg mg kg hz khz mhz ghz"),
   (0x3394, 0x33A9, "thz μl ml dl kl fm nm μm mm cm km mm2 cm2 m2 km2 mm3 cm3 m3 km3 m∕s m∕s2 pa"),
   (0x33AA, 0x33BF, "kpa mpa gpa rad rad∕s rad∕s2 ps ns μs ms pv nv μv mv kv mv pw nw μw mw kw mw"),
   (0x33C0, 0x33C1, "kω mω"), (0x33C3, 0x33C6, "bq cc cd c∕kg"),
   (0x33C8, 0x33D7, "db gy ha hp in kk km kt lm ln log lx mb mil mol ph"),
   (0x33D9, 0x33EE, "ppm pr sr sv wb v∕m a∕m 1日 2日 3日 4日 5日 6日 7日 8日 9日 10日 11日 12日 13日 14日 15日"),
   (0x33EF, 0x33FF, "16日 17日 18日 19日 20日 21日 22日 23日 24日 25日 26日 27日 28日 29日 30日 31日 gal"),
   (0xA69C, 0xA69D, "ъ ь"), (0xA770, 0xA770, "ꝯ"), (0xA779, 0xA779, "ꝺ"), (0xA77B, 0xA77B, "ꝼ"),
   (0xA77D, 0xA77D, "ᵹ"), (0xA78B, 0xA78B, "ꞌ"), (0xA78D, 0xA78D, "ɥ"), (0xA790, 0xA790, "ꞑ"),
   (0xA792, 0xA792, "ꞓ"), (0xA7AA, 0xA7AE, "ɦ ɜ ɡ ɬ ɪ"), (0xA7B0, 0xA7B3, "ʞ ʇ ʝ ꭓ"),
   (0xA7C4, 0xA7C7, "ꞔ ʂ ᶎ ꟈ"), (0xA7C9, 0xA7C9, "ꟊ"), (0xA7CB, 0xA7CB, "ɤ"), (0xA7DC, 0xA7DC, "ƛ"),
   (0xA7F1, 0xA7F5, "s c f q ꟶ"), (0xA7F8, 0xA7F9, "ħ œ"), (0xAB5C, 0xAB5F, "ꜧ ꬷ ɫ ꭒ"),
   (0xAB69, 0xAB69, "ʍ")]

/-- Ideographs with a second code point. -/
def compatibleForms : List (Nat × Nat × String) :=
  [(0xF900, 0xF925, "豈 更 車 賈 滑 串 句 龜 龜 契 金 喇 奈 懶 癩 羅 蘿 螺 裸 邏 樂 洛 烙 珞 落 酪 駱 亂 卵 欄 爛 蘭 鸞 嵐 濫 藍 襤 拉"),
   (0xF926, 0xF94B, "臘 蠟 廊 朗 浪 狼 郎 來 冷 勞 擄 櫓 爐 盧 老 蘆 虜 路 露 魯 鷺 碌 祿 綠 菉 錄 鹿 論 壟 弄 籠 聾 牢 磊 賂 雷 壘 屢"),
   (0xF94C, 0xF971, "樓 淚 漏 累 縷 陋 勒 肋 凜 凌 稜 綾 菱 陵 讀 拏 樂 諾 丹 寧 怒 率 異 北 磻 便 復 不 泌 數 索 參 塞 省 葉 說 殺 辰"),
   (0xF972, 0xF997, "沈 拾 若 掠 略 亮 兩 凉 梁 糧 良 諒 量 勵 呂 女 廬 旅 濾 礪 閭 驪 麗 黎 力 曆 歷 轢 年 憐 戀 撚 漣 煉 璉 秊 練 聯"),
   (0xF998, 0xF9BD, "輦 蓮 連 鍊 列 劣 咽 烈 裂 說 廉 念 捻 殮 簾 獵 令 囹 寧 嶺 怜 玲 瑩 羚 聆 鈴 零 靈 領 例 禮 醴 隸 惡 了 僚 寮 尿"),
   (0xF9BE, 0xF9E3, "料 樂 燎 療 蓼 遼 龍 暈 阮 劉 杻 柳 流 溜 琉 留 硫 紐 類 六 戮 陸 倫 崙 淪 輪 律 慄 栗 率 隆 利 吏 履 易 李 梨 泥"),
   (0xF9E4, 0xFA09, "理 痢 罹 裏 裡 里 離 匿 溺 吝 燐 璘 藺 隣 鱗 麟 林 淋 臨 立 笠 粒 狀 炙 識 什 茶 刺 切 度 拓 糖 宅 洞 暴 輻 行 降"),
   (0xFA0A, 0xFA0D, "見 廓 兀 嗀"), (0xFA10, 0xFA10, "塚"), (0xFA12, 0xFA12, "晴"),
   (0xFA15, 0xFA1E, "凞 猪 益 礼 神 祥 福 靖 精 羽"), (0xFA20, 0xFA20, "蘒"), (0xFA22, 0xFA22, "諸"),
   (0xFA25, 0xFA26, "逸 都"),
   (0xFA2A, 0xFA4F, "飯 飼 館 鶴 郞 隷 侮 僧 免 勉 勤 卑 喝 嘆 器 塀 墨 層 屮 悔 慨 憎 懲 敏 既 暑 梅 海 渚 漢 煮 爫 琢 碑 社 祉 祈 祐"),
   (0xFA50, 0xFA6D, "祖 祝 禍 禎 穀 突 節 練 縉 繁 署 者 臭 艹 艹 著 褐 視 謁 謹 賓 贈 辶 逸 難 響 頻 恵 𤋮 舘"),
   (0xFA70, 0xFA95, "並 况 全 侀 充 冀 勇 勺 喝 啕 喙 嗢 塚 墳 奄 奔 婢 嬨 廒 廙 彩 徭 惘 慎 愈 憎 慠 懲 戴 揄 搜 摒 敖 晴 朗 望 杖 歹"),
   (0xFA96, 0xFABB, "殺 流 滛 滋 漢 瀞 煮 瞧 爵 犯 猪 瑱 甆 画 瘝 瘟 益 盛 直 睊 着 磌 窱 節 类 絛 練 缾 者 荒 華 蝹 襁 覆 視 調 諸 請"),
   (0xFABC, 0xFAD9, "謁 諾 諭 謹 變 贈 輸 遲 醙 鉶 陼 難 靖 韛 響 頋 頻 鬒 龜 𢡊 𢡄 𣏕 㮝 䀘 䀹 𥉉 𥳐 𧻓 齃 龎")]

/-- Letters in the shapes that they take in words. -/
def presentationForms : List (Nat × Nat × String) :=
  [(0xFB00, 0xFB06, "ff fi fl ffi ffl st st"), (0xFB13, 0xFB17, "մն մե մի վն մխ"),
   (0xFB1D, 0xFB1D, "י\u05b4"), (0xFB1F, 0xFB23, "ײ\u05b7 ע א ד ה"),
   (0xFB27, 0xFB30, "ר ת + ש\u05c1 ש\u05c2 ש\u05bc\u05c1 ש\u05bc\u05c2 א\u05b7 א\u05b8 א\u05bc"),
   (0xFB31, 0xFB36, "ב\u05bc ג\u05bc ד\u05bc ה\u05bc ו\u05bc ז\u05bc"),
   (0xFB38, 0xFB3C, "ט\u05bc י\u05bc ך\u05bc כ\u05bc ל\u05bc"), (0xFB3E, 0xFB3E, "מ\u05bc"),
   (0xFB40, 0xFB41, "נ\u05bc ס\u05bc"), (0xFB43, 0xFB44, "ף\u05bc פ\u05bc"),
   (0xFB46, 0xFB50, "צ\u05bc ק\u05bc ר\u05bc ש\u05bc ת\u05bc ו\u05b9 ב\u05bf כ\u05bf פ\u05bf אל ٱ"),
   (0xFB51, 0xFB76, "ٱ ٻ ٻ ٻ ٻ پ پ پ پ ڀ ڀ ڀ ڀ ٺ ٺ ٺ ٺ ٿ ٿ ٿ ٿ ٹ ٹ ٹ ٹ ڤ ڤ ڤ ڤ ڦ ڦ ڦ ڦ ڄ ڄ ڄ ڄ ڃ"),
   (0xFB77, 0xFB9C, "ڃ ڃ ڃ چ چ چ چ ڇ ڇ ڇ ڇ ڍ ڍ ڌ ڌ ڎ ڎ ڈ ڈ ژ ژ ڑ ڑ ک ک ک ک گ گ گ گ ڳ ڳ ڳ ڳ ڱ ڱ ڱ"),
   (0xFB9D, 0xFBB1, "ڱ ں ں ڻ ڻ ڻ ڻ ۀ ۀ ہ ہ ہ ہ ھ ھ ھ ھ ے ے ۓ ۓ"),
   (0xFBD3, 0xFBF3, "ڭ ڭ ڭ ڭ ۇ ۇ ۆ ۆ ۈ ۈ ۇٴ ۋ ۋ ۅ ۅ ۉ ۉ ې ې ې ې ى ى ئا ئا ئە ئە ئو ئو ئۇ ئۇ ئۆ ئۆ"),
   (0xFBF4, 0xFC0E, "ئۈ ئۈ ئې ئې ئې ئى ئى ئى ی ی ی ی ئج ئح ئم ئى ئي بج بح بخ بم بى بي تج تح تخ تم"),
   (0xFC0F, 0xFC27, "تى تي ثج ثم ثى ثي جح جم حج حم خج خح خم سج سح سخ سم صح صم ضج ضح ضخ ضم طح طم"),
   (0xFC28, 0xFC40, "ظم عج عم غج غم فج فح فخ فم فى في قح قم قى قي كا كج كح كخ كل كم كى كي لج لح"),
   (0xFC41, 0xFC59, "لخ لم لى لي مج مح مخ مم مى مي نج نح نخ نم نى ني هج هم هى هي يج يح يخ يم يى"),
   (0xFC5A, 0xFC5D, "يي ذ\u0670 ر\u0670 ى\u0670"),
   (0xFC64, 0xFC7C, "ئر ئز ئم ئن ئى ئي بر بز بم بن بى بي تر تز تم تن تى تي ثر ثز ثم ثن ثى ثي فى"),
   (0xFC7D, 0xFC94, "في قى قي كا كل كم كى كي لم لى لي ما مم نر نز نم نن نى ني ى\u0670 ير يز يم ين"),
   (0xFC95, 0xFCAD, "يى يي ئج ئح ئخ ئم ئه بج بح بخ بم به تج تح تخ تم ته ثم جح جم حج حم خج خم سج"),
   (0xFCAE, 0xFCC6, "سح سخ سم صح صخ صم ضج ضح ضخ ضم طح ظم عج عم غج غم فج فح فخ فم قح قم كج كح كخ"),
   (0xFCC7, 0xFCDE, "كل كم لج لح لخ لم له مج مح مخ مم نج نح نخ نم نه هج هم ه\u0670 يج يح يخ يم يه"),
   (0xFCDF, 0xFCF2, "ئم ئه بم به تم ته ثم ثه سم سه شم شه كل كم لم نم نه يم يه ـ\u064e\u0651"),
   (0xFCF3, 0xFD04, "ـ\u064f\u0651 ـ\u0650\u0651 طى طي عى عي غى غي سى سي شى شي حى حي جى جي خى خي"),
   (0xFD05, 0xFD1D, "صى صي ضى ضي شج شح شخ شم شر سر صر ضر طى طي عى عي غى غي سى سي شى شي حى حي جى"),
   (0xFD1E, 0xFD36, "جي خى خي صى صي ضى ضي شج شح شخ شم شر سر صر ضر شج شح شخ شم سه شه طم سج سح سخ"),
   (0xFD37, 0xFD3D, "شج شح شخ طم ظم ا\u064b ا\u064b"),
   (0xFD50, 0xFD62, "تجم تحج تحج تحم تخم تمج تمح تمخ جمح جمح حمي حمى سحج سجح سجى سمح سمح سمج سمم"),
   (0xFD63, 0xFD75, "سمم صحح صحح صمم شحم شحم شجي شمخ شمخ شمم شمم ضحى ضخم ضخم طمح طمح طمم طمي عجم"),
   (0xFD76, 0xFD88, "عمم عمم عمى غمم غمي غمى فخم فخم قمح قمم لحم لحي لحى لجج لجج لخم لخم لمح لمح"),
   (0xFD89, 0xFD8F, "محج محم محي مجح مجم مخج مخم"),
   (0xFD92, 0xFDA4, "مجخ همج همم نحم نحى نجم نجم نجى نمي نمى يمم يمم بخي تجي تجى تخي تخى تمي تمى"),
   (0xFDA5, 0xFDB7, "جمي جحى جمى سخى صحي شحي ضحي لجي لمي يحي يجي يمي ممي قمي نحي قمح لحم عمي كمي"),
   (0xFDB8, 0xFDC7, "نجح مخي لجم كمم لجم نجح جحي حجي مجي فمي بحي كمم عجم صمم سخي نجي"),
   (0xFDF0, 0xFDF9, "صلے قلے الله اكبر محمد صلعم رسول عليه وسلم صلى"), (0xFDFC, 0xFDFC, "ریال"),
   (0xFE10, 0xFE11, ", 、"), (0xFE14, 0xFE15, "; !"), (0xFE17, 0xFE18, "〖 〗"),
   (0xFE31, 0xFE40, "— – _ _ ( ) \x7b \x7d 〔 〕 【 】 《 》 〈 〉"), (0xFE4D, 0xFE51, "_ _ _ , 、"),
   (0xFE54, 0xFE54, ";"), (0xFE57, 0xFE5E, "! — ( ) \x7b \x7d 〔 〕"),
   (0xFE60, 0xFE66, "& * + - < > ="), (0xFE69, 0xFE69, "$"), (0xFE71, 0xFE71, "ـ\u064b"),
   (0xFE77, 0xFE77, "ـ\u064e"), (0xFE79, 0xFE79, "ـ\u064f"), (0xFE7B, 0xFE7B, "ـ\u0650"),
   (0xFE7D, 0xFE7D, "ـ\u0651"),
   (0xFE7F, 0xFEA1, "ـ\u0652 ء آ آ أ أ ؤ ؤ إ إ ئ ئ ئ ئ ا ا ب ب ب ب ة ة ت ت ت ت ث ث ث ث ج ج ج ج ح"),
   (0xFEA2, 0xFEC7, "ح ح ح خ خ خ خ د د ذ ذ ر ر ز ز س س س س ش ش ش ش ص ص ص ص ض ض ض ض ط ط ط ط ظ ظ ظ"),
   (0xFEC8, 0xFEED, "ظ ع ع ع ع غ غ غ غ ف ف ف ف ق ق ق ق ك ك ك ك ل ل ل ل م م م م ن ن ن ن ه ه ه ه و"),
   (0xFEEE, 0xFEFC, "و ى ى ي ي ي ي لآ لآ لأ لأ لإ لإ لا لا"),
   (0xFF5F, 0xFF84, "⦅ ⦆ . 「 」 、 ・ ヲ ァ ィ ゥ ェ ォ ャ ュ ョ ッ ー ア イ ウ エ オ カ キ ク ケ コ サ シ ス セ ソ タ チ ツ テ ト"),
   (0xFF8B, 0xFF8E, "ヒ フ ヘ ホ"), (0xFF94, 0xFF95, "ヤ ユ"), (0xFF9C, 0xFF9F, "ワ ン \u3099 \u309a"),
   (0xFFA1, 0xFFA6, "ᄀ ᄁ ᆪ ᄂ ᆬ ᆭ"), (0xFFB0, 0xFFB0, "ᄚ"), (0xFFB4, 0xFFB4, "ᄡ"),
   (0xFFE0, 0xFFE2, "¢ £ ¬"), (0xFFE4, 0xFFE6, "¦ ¥ ₩"), (0xFFE8, 0xFFE8, "│"),
   (0xFFED, 0xFFEE, "■ ○")]

/-- Characters above `U+FFFF`. -/
def highForms : List (Nat × Nat × String) :=
  [(0x10595, 0x10595, "𐖼"), (0x10781, 0x10785, "ː ˑ æ ʙ ɓ"),
   (0x10787, 0x107AB, "ʣ ꭦ ʥ ʤ ɖ ɗ ᶑ ɘ ɞ ʩ ɤ ɢ ɠ ʛ ħ ʜ ɧ ʄ ʪ ʫ ɬ 𝼄 ꞎ ɮ 𝼅 ʎ 𝼆 ø ɶ ɷ q ɺ 𝼈 ɽ ɾ ʀ ʨ"),
   (0x107AC, 0x107B0, "ʦ ꭧ ʧ ʈ ⱱ"), (0x107B2, 0x107B5, "ʏ ʡ ʢ ʘ"), (0x107B9, 0x107BA, "𝼊 𝼞"),
   (0x1D15E, 0x1D164, "𝅗𝅥 𝅘𝅥 𝅘𝅥𝅮 𝅘𝅥𝅯 𝅘𝅥𝅰 𝅘𝅥𝅱 𝅘𝅥𝅲"), (0x1D1BB, 0x1D1C0, "𝆹𝅥 𝆺𝅥 𝆹𝅥𝅮 𝆺𝅥𝅮 𝆹𝅥𝅯 𝆺𝅥𝅯"),
   (0x1D49C, 0x1D49C, "a"), (0x1D49E, 0x1D49F, "c d"), (0x1D4A2, 0x1D4A2, "g"),
   (0x1D4A5, 0x1D4A6, "j k"), (0x1D504, 0x1D504, "a"), (0x1D508, 0x1D508, "e"),
   (0x1D50A, 0x1D50A, "g"), (0x1D538, 0x1D538, "a"), (0x1D541, 0x1D541, "j"),
   (0x1D543, 0x1D543, "l"), (0x1D6A4, 0x1D6A5, "ı ȷ"), (0x1D6B9, 0x1D6B9, "θ"),
   (0x1D6C1, 0x1D6C1, "∇"), (0x1D6D3, 0x1D6D3, "σ"), (0x1D6DB, 0x1D6E1, "∂ ε θ κ φ ρ π"),
   (0x1D6F3, 0x1D6F3, "θ"), (0x1D6FB, 0x1D6FB, "∇"), (0x1D70D, 0x1D70D, "σ"),
   (0x1D715, 0x1D71B, "∂ ε θ κ φ ρ π"), (0x1D72D, 0x1D72D, "θ"), (0x1D735, 0x1D735, "∇"),
   (0x1D747, 0x1D747, "σ"), (0x1D74F, 0x1D755, "∂ ε θ κ φ ρ π"), (0x1D767, 0x1D767, "θ"),
   (0x1D76F, 0x1D76F, "∇"), (0x1D781, 0x1D781, "σ"), (0x1D789, 0x1D78F, "∂ ε θ κ φ ρ π"),
   (0x1D7A1, 0x1D7A1, "θ"), (0x1D7A9, 0x1D7A9, "∇"), (0x1D7BB, 0x1D7BB, "σ"),
   (0x1D7C3, 0x1D7CB, "∂ ε θ κ φ ρ π ϝ ϝ"), (0x1E047, 0x1E050, "ы э ю ꚉ ә і ј ө ү ӏ"),
   (0x1E05A, 0x1E05E, "к л о п с"), (0x1E065, 0x1E06D, "ъ ы ґ і ѕ џ ҫ ꙑ ұ"),
   (0x1EE00, 0x1EE03, "ا ب ج د"), (0x1EE05, 0x1EE09, "و ز ح ط ي"),
   (0x1EE0E, 0x1EE1F, "س ع ف ص ق ر ش ت ث خ ذ ض ظ غ ٮ ں ڡ ٯ"), (0x1EE21, 0x1EE22, "ب ج"),
   (0x1EE24, 0x1EE24, "ه"), (0x1EE27, 0x1EE27, "ح"), (0x1EE29, 0x1EE29, "ي"),
   (0x1EE2E, 0x1EE32, "س ع ف ص ق"), (0x1EE34, 0x1EE37, "ش ت ث خ"), (0x1EE39, 0x1EE39, "ض"),
   (0x1EE3B, 0x1EE3B, "غ"), (0x1EE42, 0x1EE42, "ج"), (0x1EE47, 0x1EE47, "ح"),
   (0x1EE49, 0x1EE49, "ي"), (0x1EE4B, 0x1EE4B, "ل"), (0x1EE4D, 0x1EE4F, "ن س ع"),
   (0x1EE51, 0x1EE52, "ص ق"), (0x1EE54, 0x1EE54, "ش"), (0x1EE57, 0x1EE57, "خ"),
   (0x1EE59, 0x1EE59, "ض"), (0x1EE5B, 0x1EE5B, "غ"), (0x1EE5D, 0x1EE5D, "ں"),
   (0x1EE5F, 0x1EE5F, "ٯ"), (0x1EE61, 0x1EE62, "ب ج"), (0x1EE64, 0x1EE64, "ه"),
   (0x1EE67, 0x1EE6A, "ح ط ي ك"), (0x1EE6C, 0x1EE72, "م ن س ع ف ص ق"),
   (0x1EE74, 0x1EE77, "ش ت ث خ"), (0x1EE79, 0x1EE7C, "ض ظ غ ٮ"), (0x1EE7E, 0x1EE7E, "ڡ"),
   (0x1EE80, 0x1EE89, "ا ب ج د ه و ز ح ط ي"), (0x1EE8E, 0x1EE9B, "س ع ف ص ق ر ش ت ث خ ذ ض ظ غ"),
   (0x1EEA1, 0x1EEA3, "ب ج د"), (0x1EEA5, 0x1EEA9, "و ز ح ط ي"),
   (0x1EEAE, 0x1EEBB, "س ع ف ص ق ر ش ت ث خ ذ ض ظ غ"),
   (0x1F101, 0x1F10A, "0, 1, 2, 3, 4, 5, 6, 7, 8, 9,"),
   (0x1F110, 0x1F121, "(a) (b) (c) (d) (e) (f) (g) (h) (i) (j) (k) (l) (m) (n) (o) (p) (q) (r)"),
   (0x1F122, 0x1F12E, "(s) (t) (u) (v) (w) (x) (y) (z) 〔s〕 c r cd wz"),
   (0x1F14A, 0x1F14F, "hv mv sd ss ppv wc"), (0x1F16A, 0x1F16C, "mc md mr"),
   (0x1F190, 0x1F190, "dj"), (0x1F200, 0x1F202, "ほか ココ サ"),
   (0x1F210, 0x1F234, "手 字 双 デ 二 多 解 天 交 映 無 料 前 後 再 新 初 終 生 販 声 吹 演 投 捕 一 三 遊 左 中 右 指 走 打 禁 空 合"),
   (0x1F235, 0x1F23B, "満 有 月 申 割 営 配"), (0x1F240, 0x1F248, "〔本〕 〔三〕 〔二〕 〔安〕 〔点〕 〔打〕 〔盗〕 〔勝〕 〔敗〕"),
   (0x1F250, 0x1F251, "得 可")]

/-- Ideographs above `U+FFFF` with a second code point. -/
def supplementForms : List (Nat × Nat × String) :=
  [(0x2F800, 0x2F824, "丽 丸 乁 𠄢 你 侮 侻 倂 偺 備 僧 像 㒞 𠘺 免 兔 兤 具 𠔜 㒹 內 再 𠕋 冗 冤 仌 冬 况 𩇟 凵 刃 㓟 刻 剆 割 剷 㔕"),
   (0x2F825, 0x2F849, "勇 勉 勤 勺 包 匆 北 卉 卑 博 即 卽 卿 卿 卿 𠨬 灰 及 叟 𠭣 叫 叱 吆 咞 吸 呈 周 咢 哶 唐 啓 啣 善 善 喙 喫 喳"),
   (0x2F84A, 0x2F86E, "嗂 圖 嘆 圗 噑 噴 切 壮 城 埴 堍 型 堲 報 墬 𡓤 売 壷 夆 多 夢 奢 𡚨 𡛪 姬 娛 娧 姘 婦 㛮 㛼 嬈 嬾 嬾 𡧈 寃 寘"),
   (0x2F86F, 0x2F893, "寧 寳 𡬘 寿 将 当 尢 㞁 屠 屮 峀 岍 𡷤 嵃 𡷦 嵮 嵫 嵼 巡 巢 㠯 巽 帨 帽 幩 㡢 𢆃 㡼 庰 庳 庶 廊 𪎒 廾 𢌱 𢌱 舁"),
   (0x2F894, 0x2F8B8, "弢 弢 㣇 𣊸 𦇚 形 彫 㣣 徚 忍 志 忹 悁 㤺 㤜 悔 𢛔 惇 慈 慌 慎 慌 慺 憎 憲 憤 憯 懞 懲 懶 成 戛 扝 抱 拔 捐 𢬌"),
   (0x2F8B9, 0x2F8DD, "挽 拼 捨 掃 揤 𢯱 搢 揅 掩 㨮 摩 摾 撝 摷 㩬 敏 敬 𣀊 旣 書 晉 㬙 暑 㬈 㫤 冒 冕 最 暜 肭 䏙 朗 望 朡 杞 杓 𣏃"),
   (0x2F8DE, 0x2F902, "㭉 柺 枅 桒 梅 𣑭 梎 栟 椔 㮝 楂 榣 槪 檨 𣚣 櫛 㰘 次 𣢧 歔 㱎 歲 殟 殺 殻 𣪍 𡴋 𣫺 汎 𣲼 沿 泍 汧 洖 派 海 流"),
   (0x2F903, 0x2F927, "浩 浸 涅 𣴞 洴 港 湮 㴳 滋 滇 𣻑 淹 潮 𣽞 𣾎 濆 瀹 瀞 瀛 㶖 灊 災 灷 炭 𠔥 煅 𤉣 熜 𤎫 爨 爵 牐 𤘈 犀 犕 𤜵 𤠔"),
   (0x2F928, 0x2F94C, "獺 王 㺬 玥 㺸 㺸 瑇 瑜 瑱 璅 瓊 㼛 甤 𤰶 甾 𤲒 異 𢆟 瘐 𤾡 𤾸 𥁄 㿼 䀈 直 𥃳 𥃲 𥄙 𥄳 眞 真 真 睊 䀹 瞋 䁆 䂖"),
   (0x2F94D, 0x2F971, "𥐝 硎 碌 磌 䃣 𥘦 祖 𥚚 𥛅 福 秫 䄯 穀 穊 穏 𥥼 𥪧 𥪧 竮 䈂 𥮫 篆 築 䈧 𥲀 糒 䊠 糨 糣 紀 𥾆 絣 䌁 緇 縂 繅 䌴"),
   (0x2F972, 0x2F996, "𦈨 𦉇 䍙 𦋙 罺 𦌾 羕 翺 者 𦓚 𦔣 聠 𦖨 聰 𣍟 䏕 育 脃 䐋 脾 媵 𦞧 𦞵 𣎓 𣎜 舁 舄 辞 䑫 芑 芋 芝 劳 花 芳 芽 苦"),
   (0x2F997, 0x2F9BB, "𦬼 若 茝 荣 莭 茣 莽 菧 著 荓 菊 菌 菜 𦰶 𦵫 𦳕 䔫 蓱 蓳 蔖 𧏊 蕤 𦼬 䕝 䕡 𦾱 𧃒 䕫 虐 虜 虧 虩 蚩 蚈 蜎 蛢 蝹"),
   (0x2F9BC, 0x2F9E0, "蜨 蝫 螆 䗗 蟡 蠁 䗹 衠 衣 𧙧 裗 裞 䘵 裺 㒻 𧢮 𧥦 䚾 䛇 誠 諭 變 豕 𧲨 貫 賁 贛 起 𧼯 𠠄 跋 趼 跰 𠣞 軔 輸 𨗒"),
   (0x2F9E1, 0x2FA05, "𨗭 邔 郱 鄑 𨜮 鄛 鈸 鋗 鋘 鉼 鏹 鐕 𨯺 開 䦕 閷 𨵷 䧦 雃 嶲 霣 𩅅 𩈚 䩮 䩶 韠 𩐊 䪲 𩒖 頋 頋 頩 𩖶 飢 䬳 餩 馧"),
   (0x2FA06, 0x2FA1D, "駂 駾 䯎 𩬰 鬒 鱀 鳽 䳎 䳭 鵧 𪃎 䳸 𪄅 𪈎 𪊑 麻 䵖 黹 黾 鼅 鼏 鼖 鼻 𪘀")]

/-- The plain forms of all blocks. -/
def formBlocks : List (Nat × Nat × String) :=
  letterForms ++ asianForms ++ compatibleForms ++ presentationForms ++ highForms ++ supplementForms

/-- The plain form of a character that has one in the table. -/
def plainForm? (c : Char) : Option (List Char) := do
  let n := c.toNat
  let (first, _, forms) ← formBlocks.find? fun (first, last, _) => first ≤ n && n ≤ last
  (Text.splitOn ' ' forms.toList)[n - first]?

end TweetHarvest.Domain
