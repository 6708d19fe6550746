/-!
# Composed characters

A letter and a mark may have a character of their own that stands for both.  The table holds the
pairs that Unicode composes, apart from those with characters that are always replaced by others
(capitals, for one).  Syllables of the Korean script are composed by rule: a leading consonant and a
vowel, and those two and a trailing consonant.

* `Text.compose?`  the character of a pair
* `Text.split?`    the pair of a character
-/

namespace TweetHarvest.Text

/-- The code point of a mark, with letters and what it makes of them. -/
def compositions : List (Nat × String × String) :=
  [(0x0300, "aeinouwyâêôüăēōơưαεηιουωϊϋеиἀἁἐἑἠἡἰἱ", "àèìǹòùẁỳầềồǜằḕṑờừὰὲὴὶὸὺὼῒῢѐѝἂἃἒἓἢἣἲἳ"),
   (0x0300, "ὀὁὐὑὠὡ", "ὂὃὒὓὢὣ"),
   (0x0301, "acegiklmnoprsuwyzâåæçêïôõøüăēōũơưαεη", "áćéǵíḱĺḿńóṕŕśúẃýźấǻǽḉếḯốṍǿǘắḗṓṹớứάέή"),
   (0x0301, "ιουωϊϋгкἀἁἐἑἠἡἰἱὀὁὐὑὠὡ", "ίόύώΐΰѓќἄἅἔἕἤἥἴἵὄὅὔὕὤὥ"),
   (0x0302, "aceghijosuwyzạẹọ", "âĉêĝĥîĵôŝûŵŷẑậệộ"), (0x0303, "aeinouvyâêôăơư", "ãẽĩñõũṽỹẫễỗẵỡữ"),
   (0x0304, "aegiouyäæõöüǫȧȯαιυиуḷṛ", "āēḡīōūȳǟǣȭȫǖǭǡȱᾱῑῡӣӯḹṝ"),
   (0x0306, "aegiouȩαιυаежиуạ", "ăĕğĭŏŭḝᾰῐῠӑӗӂйўặ"),
   (0x0307, "abcdefghmnoprstwxyzśšṣ𐗒𐗚", "ȧḃċḋėḟġḣṁṅȯṗṙṡṫẇẋẏżṥṧṩ𐗉𐗤"),
   (0x0308, "aehiotuwxyõūιυаежзиоучыэіәө", "äëḧïöẗüẅẍÿṏṻϊϋӓёӝӟӥӧӱӵӹӭїӛӫ"),
   (0x0309, "aeiouyâêôăơư", "ảẻỉỏủỷẩểổẳởử"), (0x030A, "auwy", "åůẘẙ"), (0x030B, "ouу", "őűӳ"),
   (0x030C, "acdeghijklnorstuzüʒ", "ǎčďěǧȟǐǰǩľňǒřšťǔžǚǯ"), (0x030F, "aeioruѵ", "ȁȅȉȍȑȕѷ"),
   (0x0311, "aeioru", "ȃȇȋȏȓȗ"), (0x0313, "αεηιορυω", "ἀἐἠἰὀῤὐὠ"), (0x0314, "αεηιορυω", "ἁἑἡἱὁῥὑὡ"),
   (0x031B, "ou", "ơư"), (0x0323, "abdehiklmnorstuvwyzơư", "ạḅḍẹḥịḳḷṃṇọṛṣṭụṿẉỵẓợự"),
   (0x0324, "u", "ṳ"), (0x0325, "a", "ḁ"), (0x0326, "st", "șț"),
   (0x0327, "cdeghklnrst", "çḑȩģḩķļņŗşţ"), (0x0328, "aeiou", "ąęįǫų"), (0x032D, "delntu", "ḓḙḽṋṱṷ"),
   (0x032E, "h", "ḫ"), (0x0330, "eiu", "ḛḭṵ"), (0x0331, "bdhklnrtz", "ḇḏẖḵḻṉṟṯẕ"),
   (0x0338, "<=>←→↔⇐⇒⇔∃∈∋∣∥∼≃≅≈≍≡≤≥≲≳≶≷≺≻≼≽⊂⊃⊆⊇⊑⊒", "≮≠≯↚↛↮⇍⇏⇎∄∉∌∤∦≁≄≇≉≭≢≰≱≴≵≸≹⊀⊁⋠⋡⊄⊅⊈⊉⋢⋣"),
   (0x0338, "⊢⊨⊩⊫⊲⊳⊴⊵", "⊬⊭⊮⊯⋪⋫⋬⋭"), (0x0342, "αηιυωϊϋἀἁἠἡἰἱὐὑὠὡ", "ᾶῆῖῦῶῗῧἆἇἦἧἶἷὖὗὦὧ"),
   (0x0653, "ا", "آ"), (0x0654, "اويہےە", "أؤئۂۓۀ"), (0x0655, "ا", "إ"), (0x093C, "नरळ", "ऩऱऴ"),
   (0x09BE, "\u09c7", "\u09cb"), (0x09D7, "\u09c7", "\u09cc"), (0x0B3E, "\u0b47", "\u0b4b"),
   (0x0B56, "\u0b47", "\u0b48"), (0x0B57, "\u0b47", "\u0b4c"),
   (0x0BBE, "\u0bc6\u0bc7", "\u0bca\u0bcb"), (0x0BD7, "ஒ\u0bc6", "ஔ\u0bcc"),
   (0x0C56, "\u0c46", "\u0c48"), (0x0CC2, "\u0cc6", "\u0cca"),
   (0x0CD5, "\u0cbf\u0cc6\u0cca", "\u0cc0\u0cc7\u0ccb"), (0x0CD6, "\u0cc6", "\u0cc8"),
   (0x0D3E, "\u0d46\u0d47", "\u0d4a\u0d4b"), (0x0D57, "\u0d46", "\u0d4c"),
   (0x0DCA, "\u0dd9\u0ddc", "\u0dda\u0ddd"), (0x0DCF, "\u0dd9", "\u0ddc"),
   (0x0DDF, "\u0dd9", "\u0dde"), (0x102E, "ဥ", "ဦ"),
   (0x1B35, "ᬅᬇᬉᬋᬍᬑ\u1b3a\u1b3c\u1b3e\u1b3f\u1b42", "ᬆᬈᬊᬌᬎᬒ\u1b3b\u1b3d\u1b40\u1b41\u1b43"),
   (0x3099, "うかきくけこさしすせそたちつてとはひふへほゝウカキクケコサシスセソタチツ", "ゔがぎぐげござじずぜぞだぢづでどばびぶべぼゞヴガギグゲゴザジズゼゾダヂヅ"),
   (0x3099, "テトハヒフヘホワヰヱヲヽ", "デドバビブベボヷヸヹヺヾ"), (0x309A, "はひふへほハヒフヘホ", "ぱぴぷぺぽパピプペポ"),
   (0x110BA, "𑂙𑂛𑂥", "𑂚𑂜𑂫"), (0x11127, "𑄱𑄲", "𑄮𑄯"), (0x1133E, "𑍇", "𑍋"), (0x11357, "𑍇", "𑍌"),
   (0x113B8, "𑏂", "𑏇"), (0x113BB, "𑎄", "𑎅"), (0x113C2, "𑎎", "𑎎𑏅"), (0x113C9, "𑎂𑎐𑏂", "𑎃𑎑𑏈"),
   (0x114B0, "𑒹", "𑒼"), (0x114BA, "𑒹", "𑒻"), (0x114BD, "𑒹", "𑒾"), (0x115AF, "𑖸𑖹", "𑖺𑖻"),
   (0x11930, "𑤵", "𑤸"), (0x1611E, "𖄞", "𖄡"), (0x1611F, "𖄡𖄡𖄩𖄩", "𖄣𖄦𖄧𖄤"), (0x16120, "𖄡𖄞", "𖄥𖄨"),
   (0x16129, "𖄞", "𖄢"), (0x16D67, "𖵩𖵩", "𖵪𖵧𖵪")]

/-- A block of the Korean script: its first code point and how many there are. -/
structure JamoBlock where
  first : Nat
  count : Nat

/-- Leading consonants. -/
def leads : JamoBlock := ⟨0x1100, 19⟩

/-- Vowels. -/
def vowels : JamoBlock := ⟨0x1161, 21⟩

/-- Trailing consonants, counted from the place of the one that is missing. -/
def trails : JamoBlock := ⟨0x11A7, 28⟩

/-- Composed syllables. -/
def syllables : JamoBlock := ⟨0xAC00, 11172⟩

/-- The place of a character in a block. -/
def JamoBlock.place? (b : JamoBlock) (c : Char) : Option Nat :=
  if b.first ≤ c.toNat && c.toNat < b.first + b.count then some (c.toNat - b.first) else none

/-- The character at a place of a block. -/
def JamoBlock.at (b : JamoBlock) (place : Nat) : Char := Char.ofNat (b.first + place)

/-- The Korean syllable of a pair. -/
def composeSyllable? (first second : Char) : Option Char :=
  match leads.place? first, vowels.place? second, syllables.place? first, trails.place? second with
  | some l, some v, _, _ => some (syllables.at ((l * vowels.count + v) * trails.count))
  | _, _, some s, some t =>
    if s % trails.count = 0 && t ≠ 0 then some (syllables.at (s + t)) else none
  | _, _, _, _ => none

/-- The pair of a Korean syllable. -/
def splitSyllable? (c : Char) : Option (Char × Char) := do
  let s ← syllables.place? c
  let t := s % trails.count
  if t = 0 then
    let block := s / trails.count
    return (leads.at (block / vowels.count), vowels.at (block % vowels.count))
  else return (syllables.at (s - t), trails.at t)

/-- The character that stands for `first` with `second` behind it. -/
def compose? (first second : Char) : Option Char :=
  if second.toNat < 0x0300 then none
  else composeSyllable? first second <|> compositions.findSome? fun (mark, letters, composed) =>
    if mark = second.toNat then (letters.toList.zip composed.toList).lookup first else none

/-- The pair that a character stands for. -/
def split? (c : Char) : Option (Char × Char) :=
  if c.toNat < 0x00C0 then none
  else splitSyllable? c <|> compositions.findSome? fun (mark, letters, composed) =>
    ((composed.toList.zip letters.toList).lookup c).map fun letter => (letter, Char.ofNat mark)

end TweetHarvest.Text
