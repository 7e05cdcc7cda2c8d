import PullReport.Text.CodePoints

/-!
# Compositions

Many characters that consist of a character and a mark on it are in the standard a second time, as
one character. This is the list of those that stand for the two: of all the spellings of such a
text, the one that uses them is the canonical one. Syllables of Hangul consist of two or three
letters in the same way, and are computed rather than listed.

## Main definitions

* `Text.letterCompositions`, `Text.signCompositions`: the listed ones.
* `Text.Hangul`: syllables and their letters.
* `Text.compose?`: the one character for two.
* `Text.parts?`: the two characters for one.
-/

namespace PullReport

namespace Text

/-! ### Listed compositions -/

/-- Compositions of letters and symbols: a second character, and a text in which every first
character is followed by what the two compose to. -/
def letterCompositions : List (Nat × String) :=
  [(0x300, "AÀEÈIÌOÒUÙaàeèiìoòuùÜǛüǜNǸnǹЕЀИЍеѐиѝĒḔēḕŌṐōṑWẀwẁÂẦâầĂẰăằÊỀêềÔỒôồƠỜơờƯỪưừYỲyỳἀἂἁἃἈἊἉἋ"),
   (0x300, "ἐἒἑἓἘἚἙἛἠἢἡἣἨἪἩἫἰἲἱἳἸἺἹἻὀὂὁὃὈὊὉὋὐὒὑὓὙὛὠὢὡὣὨὪὩὫαὰεὲηὴιὶοὸυὺωὼΑᾺΕῈΗῊ᾿῍ϊῒΙῚ῾῝ϋῢΥῪ¨῭ΟῸΩῺ"),
   (0x301, "AÁEÉIÍOÓUÚYÝaáeéiíoóuúyýCĆcćLĹlĺNŃnńRŔrŕSŚsśZŹzźÜǗüǘGǴgǵÅǺåǻÆǼæǽØǾøǿ¨΅ΑΆΕΈΗΉΙΊΟΌΥΎΩΏ"),
   (0x301, "ϊΐαάεέηήιίϋΰοόυύωώϒϓГЃКЌгѓкќÇḈçḉĒḖēḗÏḮïḯKḰkḱMḾmḿÕṌõṍŌṒōṓPṔpṕŨṸũṹWẂwẃÂẤâấĂẮăắÊẾêếÔỐôố"),
   (0x301, "ƠỚơớƯỨưứἀἄἁἅἈἌἉἍἐἔἑἕἘἜἙἝἠἤἡἥἨἬἩἭἰἴἱἵἸἼἹἽὀὄὁὅὈὌὉὍὐὔὑὕὙὝὠὤὡὥὨὬὩὭ᾿῎῾῞"),
   (0x302, "AÂEÊIÎOÔUÛaâeêiîoôuûCĈcĉGĜgĝHĤhĥJĴjĵSŜsŝWŴwŵYŶyŷZẐzẑẠẬạậẸỆẹệỌỘọộ"),
   (0x303, "AÃNÑOÕaãnñoõIĨiĩUŨuũVṼvṽÂẪâẫĂẴăẵEẼeẽÊỄêễÔỖôỗƠỠơỡƯỮưữYỸyỹ"),
   (0x304, "AĀaāEĒeēIĪiīOŌoōUŪuūÜǕüǖÄǞäǟȦǠȧǡÆǢæǣǪǬǫǭÖȪöȫÕȬõȭȮȰȯȱYȲyȳИӢиӣУӮуӯGḠgḡḶḸḷḹṚṜṛṝαᾱΑᾹιῑΙῙ"),
   (0x304, "υῡΥῩ"),
   (0x306, "AĂaăEĔeĕGĞgğIĬiĭOŎoŏUŬuŭУЎИЙийуўЖӁжӂАӐаӑЕӖеӗȨḜȩḝẠẶạặαᾰΑᾸιῐΙῘυῠΥῨ"),
   (0x307, "CĊcċEĖeėGĠgġIİZŻzżAȦaȧOȮoȯBḂbḃDḊdḋFḞfḟHḢhḣMṀmṁNṄnṅPṖpṗRṘrṙSṠsṡŚṤśṥŠṦšṧṢṨṣṩTṪtṫWẆwẇXẊ"),
   (0x307, "xẋYẎyẏſẛ𐗒𐗉𐗚𐗤"),
   (0x308, "AÄEËIÏOÖUÜaäeëiïoöuüyÿYŸΙΪΥΫιϊυϋϒϔЕЁІЇеёіїАӒаӓӘӚәӛЖӜжӝЗӞзӟИӤиӥОӦоӧӨӪөӫЭӬэӭУӰуӱЧӴчӵЫӸ"),
   (0x308, "ыӹHḦhḧÕṎõṏŪṺūṻWẄwẅXẌxẍtẗ"),
   (0x309, "AẢaảÂẨâẩĂẲăẳEẺeẻÊỂêểIỈiỉOỎoỏÔỔôổƠỞơởUỦuủƯỬưửYỶyỷ"),
   (0x30A, "AÅaåUŮuůwẘyẙ"),
   (0x30B, "OŐoőUŰuűУӲуӳ"),
   (0x30C, "CČcčDĎdďEĚeěLĽlľNŇnňRŘrřSŠsšTŤtťZŽzžAǍaǎIǏiǐOǑoǒUǓuǔÜǙüǚGǦgǧKǨkǩƷǮʒǯjǰHȞhȟ"),
   (0x30F, "AȀaȁEȄeȅIȈiȉOȌoȍRȐrȑUȔuȕѴѶѵѷ"),
   (0x311, "AȂaȃEȆeȇIȊiȋOȎoȏRȒrȓUȖuȗ"),
   (0x313, "αἀΑἈεἐΕἘηἠΗἨιἰΙἸοὀΟὈυὐωὠΩὨρῤ"),
   (0x314, "αἁΑἉεἑΕἙηἡΗἩιἱΙἹοὁΟὉυὑΥὙωὡΩὩρῥΡῬ"),
   (0x31B, "OƠoơUƯuư"),
   (0x323, "BḄbḅDḌdḍHḤhḥKḲkḳLḶlḷMṂmṃNṆnṇRṚrṛSṢsṣTṬtṭVṾvṿWẈwẉZẒzẓAẠaạEẸeẹIỊiịOỌoọƠỢơợUỤuụƯỰưựYỴyỵ"),
   (0x324, "UṲuṳ"),
   (0x325, "AḀaḁ"),
   (0x326, "SȘsșTȚtț"),
   (0x327, "CÇcçGĢgģKĶkķLĻlļNŅnņRŖrŗSŞsşTŢtţEȨeȩDḐdḑHḨhḩ"),
   (0x328, "AĄaąEĘeęIĮiįUŲuųOǪoǫ"),
   (0x32D, "DḒdḓEḘeḙLḼlḽNṊnṋTṰtṱUṶuṷ"),
   (0x32E, "HḪhḫ"),
   (0x330, "EḚeḛIḬiḭUṴuṵ"),
   (0x331, "BḆbḇDḎdḏKḴkḵLḺlḻNṈnṉRṞrṟTṮtṯZẔzẕhẖ"),
   (0x338, "←↚→↛↔↮⇐⇍⇔⇎⇒⇏∃∄∈∉∋∌∣∤∥∦∼≁≃≄≅≇≈≉=≠≡≢≍≭<≮>≯≤≰≥≱≲≴≳≵≶≸≷≹≺⊀≻⊁⊂⊄⊃⊅⊆⊈⊇⊉⊢⊬⊨⊭⊩⊮⊫⊯≼⋠≽⋡⊑⋢⊒⋣⊲⋪⊳⋫"),
   (0x338, "⊴⋬⊵⋭"),
   (0x342, "ἀἆἁἇἈἎἉἏἠἦἡἧἨἮἩἯἰἶἱἷἸἾἹἿὐὖὑὗὙὟὠὦὡὧὨὮὩὯαᾶ¨῁ηῆ᾿῏ιῖϊῗ῾῟υῦϋῧωῶ"),
   (0x345, "ἀᾀἁᾁἂᾂἃᾃἄᾄἅᾅἆᾆἇᾇἈᾈἉᾉἊᾊἋᾋἌᾌἍᾍἎᾎἏᾏἠᾐἡᾑἢᾒἣᾓἤᾔἥᾕἦᾖἧᾗἨᾘἩᾙἪᾚἫᾛἬᾜἭᾝἮᾞἯᾟὠᾠὡᾡὢᾢὣᾣὤᾤὥᾥὦᾦὧᾧὨᾨὩᾩ"),
   (0x345, "ὪᾪὫᾫὬᾬὭᾭὮᾮὯᾯὰᾲαᾳάᾴᾶᾷΑᾼὴῂηῃήῄῆῇΗῌὼῲωῳώῴῶῷΩῼ"),
   (0x653, "اآ"),
   (0x654, "اأوؤيئەۀہۂےۓ"),
   (0x655, "اإ"),
   (0x93C, "नऩरऱळऴ"),
   (0xBD7, "ஒஔ"),
   (0x102E, "ဥဦ"),
   (0x1B35, "ᬅᬆᬇᬈᬉᬊᬋᬌᬍᬎᬑᬒ"),
   (0x3099, "かがきぎくぐけげこごさざしじすずせぜそぞただちぢつづてでとどはばひびふぶへべほぼうゔゝゞカガキギクグケゲコゴサザシジスズセゼソゾタダチヂツヅテデトドハバヒビフブヘベ"),
   (0x3099, "ホボウヴワヷヰヸヱヹヲヺヽヾ"),
   (0x309A, "はぱひぴふぷへぺほぽハパヒピフプヘペホポ"),
   (0x110BA, "𑂙𑂚𑂛𑂜𑂥𑂫"),
   (0x113BB, "𑎄𑎅"),
   (0x113C2, "𑎋𑎎"),
   (0x113C9, "𑎂𑎃𑎐𑎑"),
   (0x16D67, "𖵨𖵧𖵣𖵩𖵩𖵪")]

/-- Compositions of signs that are themselves marks: the second character, the first one, and what
the two compose to. -/
def signCompositions : List (Nat × Nat × Nat) :=
  [(0x9BE, 0x9C7, 0x9CB), (0x9D7, 0x9C7, 0x9CC), (0xB3E, 0xB47, 0xB4B), (0xB56, 0xB47, 0xB48),
   (0xB57, 0xB47, 0xB4C), (0xBBE, 0xBC6, 0xBCA), (0xBBE, 0xBC7, 0xBCB), (0xBD7, 0xBC6, 0xBCC),
   (0xC56, 0xC46, 0xC48), (0xCC2, 0xCC6, 0xCCA), (0xCD5, 0xCBF, 0xCC0), (0xCD5, 0xCC6, 0xCC7),
   (0xCD5, 0xCCA, 0xCCB), (0xCD6, 0xCC6, 0xCC8), (0xD3E, 0xD46, 0xD4A), (0xD3E, 0xD47, 0xD4B),
   (0xD57, 0xD46, 0xD4C), (0xDCA, 0xDD9, 0xDDA), (0xDCA, 0xDDC, 0xDDD), (0xDCF, 0xDD9, 0xDDC),
   (0xDDF, 0xDD9, 0xDDE), (0x1B35, 0x1B3A, 0x1B3B), (0x1B35, 0x1B3C, 0x1B3D),
   (0x1B35, 0x1B3E, 0x1B40), (0x1B35, 0x1B3F, 0x1B41), (0x1B35, 0x1B42, 0x1B43),
   (0x11127, 0x11131, 0x1112E), (0x11127, 0x11132, 0x1112F), (0x1133E, 0x11347, 0x1134B),
   (0x11357, 0x11347, 0x1134C), (0x113B8, 0x113C2, 0x113C7), (0x113C2, 0x113C2, 0x113C5),
   (0x113C9, 0x113C2, 0x113C8), (0x114B0, 0x114B9, 0x114BC), (0x114BA, 0x114B9, 0x114BB),
   (0x114BD, 0x114B9, 0x114BE), (0x115AF, 0x115B8, 0x115BA), (0x115AF, 0x115B9, 0x115BB),
   (0x11930, 0x11935, 0x11938), (0x1611E, 0x1611E, 0x16121), (0x1611F, 0x1611E, 0x16123),
   (0x1611F, 0x16121, 0x16126), (0x1611F, 0x16122, 0x16127), (0x1611F, 0x16129, 0x16124),
   (0x16120, 0x1611E, 0x16125), (0x16120, 0x16121, 0x16128), (0x16129, 0x1611E, 0x16122)]

/-- The members of a text in pairs. -/
def pairs : List Char → List (Char × Char)
  | a :: b :: rest => (a, b) :: pairs rest
  | _ => []

/-- All listed compositions: the second character, the first one, and what the two compose to. -/
def compositions : List (Char × Char × Char) :=
  (letterCompositions.flatMap fun (second, text) =>
      (pairs text.toList).map fun (first, whole) => (Char.ofNat second, first, whole))
    ++ signCompositions.map fun (second, first, whole) =>
      (Char.ofNat second, Char.ofNat first, Char.ofNat whole)

/-! ### Syllables

A syllable of Hangul has a leading consonant, a vowel, and maybe a trailing consonant. The letters
of each sort form a run, and the syllables are ordered by their letters, so that their places are
numbers with one digit for each letter. The digit zero of the trailing consonants is their absence.
-/

namespace Hangul

/-- The place of a code point in a run of the given first code point and length. -/
def place? (first count n : Nat) : Option Nat :=
  if first ≤ n ∧ n < first + count then some (n - first) else none

/-- The place of a leading consonant. -/
def leading? (n : Nat) : Option Nat := place? 0x1100 19 n

/-- The place of a vowel. -/
def vowel? (n : Nat) : Option Nat := place? 0x1161 21 n

/-- The place of a trailing consonant, which is at least one. -/
def trailing? (n : Nat) : Option Nat := (place? 0x11A8 27 n).map (· + 1)

/-- The place of a syllable. -/
def syllable? (n : Nat) : Option Nat := place? 0xAC00 11172 n

/-- The syllable of two letters, or of a syllable without a trailing consonant and such a letter. -/
def compose? (first second : Char) : Option Char :=
  match leading? first.toNat, vowel? second.toNat with
  | some leading, some vowel => some (Char.ofNat (0xAC00 + 28 * (21 * leading + vowel)))
  | _, _ =>
    match syllable? first.toNat, trailing? second.toNat with
    | some syllable, some trailing =>
      if syllable % 28 = 0 then some (Char.ofNat (0xAC00 + syllable + trailing)) else none
    | _, _ => none

/-- What a syllable is composed of. -/
def parts? (whole : Char) : Option (Char × Char) :=
  (syllable? whole.toNat).map fun syllable =>
    if syllable % 28 = 0 then
      (Char.ofNat (0x1100 + syllable / 28 / 21), Char.ofNat (0x1161 + syllable / 28 % 21))
    else (Char.ofNat (0xAC00 + syllable / 28 * 28), Char.ofNat (0x11A7 + syllable % 28))

end Hangul

/-! ### Both -/

/-- The one character that two characters compose to. The second one is a mark or a letter of
Hangul, and there are none of these below U+0300. -/
def compose? (first second : Char) : Option Char :=
  if second.toNat < 0x300 then none
  else
    (Hangul.compose? first second).or
      ((compositions.find? fun entry => entry.1 == second && entry.2.1 == first).map (·.2.2))

/-- The two characters that a character is composed of. Below the Latin letters with marks there is
none. -/
def parts? (whole : Char) : Option (Char × Char) :=
  if whole.toNat < 0xC0 then none
  else
    (Hangul.parts? whole).or
      ((compositions.find? fun entry => entry.2.2 == whole).map fun entry =>
        (entry.2.1, entry.1))

end Text

end PullReport
