import TwinQuery.Text.Mark

/-!
# Composed characters

A letter with a mark can often be written in two ways: as one character, or as the letter and
the mark after it. The composed form of a text takes one character wherever there is one. To
find it, whatever is composed is taken apart, the marks of each letter are put in the order of
their classes, and letters are joined again with the marks that can reach them: a mark does not
pass another one of the same class. The syllables of the Korean script are composed by counting,
all others by a table.

Characters that only stand for another one, with no mark in between, are not in the table.
-/

namespace TwinQuery.Text

structure Composition where
  first : Char
  second : Char
  whole : Char
  deriving DecidableEq, Repr

/-- For each character that follows another one and joins it, the characters that it joins,
each with what they form. -/
def compositionTable : List (Nat × String) :=
  [
    (0x300, "AÀEÈIÌNǸOÒUÙWẀYỲaàeèiìnǹoòuùwẁyỳ¨῭ÂẦÊỀÔỒÜǛâầêềôồüǜĂẰăằĒḔēḕŌṐ"),
    (0x300, "ōṑƠỜơờƯỪưừΑᾺΕῈΗῊΙῚΟῸΥῪΩῺαὰεὲηὴιὶοὸυὺωὼϊῒϋῢЕЀИЍеѐиѝἀἂἁἃἈἊἉἋἐἒ"),
    (0x300, "ἑἓἘἚἙἛἠἢἡἣἨἪἩἫἰἲἱἳἸἺἹἻὀὂὁὃὈὊὉὋὐὒὑὓὙὛὠὢὡὣὨὪὩὫ᾿῍῾῝"),
    (0x301, "AÁCĆEÉGǴIÍKḰLĹMḾNŃOÓPṔRŔSŚUÚWẂYÝZŹaácćeégǵiíkḱlĺmḿnńoópṕrŕsś"),
    (0x301, "uúwẃyýzź¨΅ÂẤÅǺÆǼÇḈÊẾÏḮÔỐÕṌØǾÜǗâấåǻæǽçḉêếïḯôốõṍøǿüǘĂẮăắĒḖēḗŌṒ"),
    (0x301, "ōṓŨṸũṹƠỚơớƯỨưứΑΆΕΈΗΉΙΊΟΌΥΎΩΏαάεέηήιίοόυύωώϊΐϋΰϒϓГЃКЌгѓкќἀἄἁἅ"),
    (0x301, "ἈἌἉἍἐἔἑἕἘἜἙἝἠἤἡἥἨἬἩἭἰἴἱἵἸἼἹἽὀὄὁὅὈὌὉὍὐὔὑὕὙὝὠὤὡὥὨὬὩὭ᾿῎῾῞"),
    (0x302, "AÂCĈEÊGĜHĤIÎJĴOÔSŜUÛWŴYŶZẐaâcĉeêgĝhĥiîjĵoôsŝuûwŵyŷzẑẠẬạậẸỆẹệ"),
    (0x302, "ỌỘọộ"),
    (0x303, "AÃEẼIĨNÑOÕUŨVṼYỸaãeẽiĩnñoõuũvṽyỹÂẪÊỄÔỖâẫêễôỗĂẴăẵƠỠơỡƯỮưữ"),
    (0x304, "AĀEĒGḠIĪOŌUŪYȲaāeēgḡiīoōuūyȳÄǞÆǢÕȬÖȪÜǕäǟæǣõȭöȫüǖǪǬǫǭȦǠȧǡȮȰȯȱ"),
    (0x304, "ΑᾹΙῙΥῩαᾱιῑυῡИӢУӮиӣуӯḶḸḷḹṚṜṛṝ"),
    (0x306, "AĂEĔGĞIĬOŎUŬaăeĕgğiĭoŏuŭȨḜȩḝΑᾸΙῘΥῨαᾰιῐυῠАӐЕӖЖӁИЙУЎаӑеӗжӂийуў"),
    (0x306, "ẠẶạặ"),
    (0x307, "AȦBḂCĊDḊEĖFḞGĠHḢIİMṀNṄOȮPṖRṘSṠTṪWẆXẊYẎZŻaȧbḃcċdḋeėfḟgġhḣmṁnṅ"),
    (0x307, "oȯpṗrṙsṡtṫwẇxẋyẏzżŚṤśṥŠṦšṧſẛṢṨṣṩ𐗒𐗉𐗚𐗤"),
    (0x308, "AÄEËHḦIÏOÖUÜWẄXẌYŸaäeëhḧiïoötẗuüwẅxẍyÿÕṎõṏŪṺūṻΙΪΥΫιϊυϋϒϔІЇАӒ"),
    (0x308, "ЕЁЖӜЗӞИӤОӦУӰЧӴЫӸЭӬаӓеёжӝзӟиӥоӧуӱчӵыӹэӭіїӘӚәӛӨӪөӫ"),
    (0x309, "AẢEẺIỈOỎUỦYỶaảeẻiỉoỏuủyỷÂẨÊỂÔỔâẩêểôổĂẲăẳƠỞơởƯỬưử"),
    (0x30A, "AÅUŮaåuůwẘyẙ"),
    (0x30B, "OŐUŰoőuűУӲуӳ"),
    (0x30C, "AǍCČDĎEĚGǦHȞIǏKǨLĽNŇOǑRŘSŠTŤUǓZŽaǎcčdďeěgǧhȟiǐjǰkǩlľnňoǒrřsš"),
    (0x30C, "tťuǔzžÜǙüǚƷǮʒǯ"),
    (0x30F, "AȀEȄIȈOȌRȐUȔaȁeȅiȉoȍrȑuȕѴѶѵѷ"),
    (0x311, "AȂEȆIȊOȎRȒUȖaȃeȇiȋoȏrȓuȗ"),
    (0x313, "ΑἈΕἘΗἨΙἸΟὈΩὨαἀεἐηἠιἰοὀρῤυὐωὠ"),
    (0x314, "ΑἉΕἙΗἩΙἹΟὉΡῬΥὙΩὩαἁεἑηἡιἱοὁρῥυὑωὡ"),
    (0x31B, "OƠUƯoơuư"),
    (0x323, "AẠBḄDḌEẸHḤIỊKḲLḶMṂNṆOỌRṚSṢTṬUỤVṾWẈYỴZẒaạbḅdḍeẹhḥiịkḳlḷmṃnṇoọ"),
    (0x323, "rṛsṣtṭuụvṿwẉyỵzẓƠỢơợƯỰưự"),
    (0x324, "UṲuṳ"),
    (0x325, "AḀaḁ"),
    (0x326, "SȘTȚsștț"),
    (0x327, "CÇDḐEȨGĢHḨKĶLĻNŅRŖSŞTŢcçdḑeȩgģhḩkķlļnņrŗsştţ"),
    (0x328, "AĄEĘIĮOǪUŲaąeęiįoǫuų"),
    (0x32D, "DḒEḘLḼNṊTṰUṶdḓeḙlḽnṋtṱuṷ"),
    (0x32E, "HḪhḫ"),
    (0x330, "EḚIḬUṴeḛiḭuṵ"),
    (0x331, "BḆDḎKḴLḺNṈRṞTṮZẔbḇdḏhẖkḵlḻnṉrṟtṯzẕ"),
    (0x338, "<≮=≠>≯←↚→↛↔↮⇐⇍⇒⇏⇔⇎∃∄∈∉∋∌∣∤∥∦∼≁≃≄≅≇≈≉≍≭≡≢≤≰≥≱≲≴≳≵≶≸≷≹≺⊀≻⊁≼⋠≽⋡"),
    (0x338, "⊂⊄⊃⊅⊆⊈⊇⊉⊑⋢⊒⋣⊢⊬⊨⊭⊩⊮⊫⊯⊲⋪⊳⋫⊴⋬⊵⋭"),
    (0x342, "¨῁αᾶηῆιῖυῦωῶϊῗϋῧἀἆἁἇἈἎἉἏἠἦἡἧἨἮἩἯἰἶἱἷἸἾἹἿὐὖὑὗὙὟὠὦὡὧὨὮὩὯ᾿῏῾῟"),
    (0x345, "ΑᾼΗῌΩῼάᾴήῄαᾳηῃωῳώῴἀᾀἁᾁἂᾂἃᾃἄᾄἅᾅἆᾆἇᾇἈᾈἉᾉἊᾊἋᾋἌᾌἍᾍἎᾎἏᾏἠᾐἡᾑἢᾒἣᾓἤᾔ"),
    (0x345, "ἥᾕἦᾖἧᾗἨᾘἩᾙἪᾚἫᾛἬᾜἭᾝἮᾞἯᾟὠᾠὡᾡὢᾢὣᾣὤᾤὥᾥὦᾦὧᾧὨᾨὩᾩὪᾪὫᾫὬᾬὭᾭὮᾮὯᾯὰᾲὴῂὼῲ"),
    (0x345, "ᾶᾷῆῇῶῷ"),
    (0x653, "اآ"),
    (0x654, "اأوؤيئہۂےۓەۀ"),
    (0x655, "اإ"),
    (0x93C, "नऩरऱळऴ"),
    (0x9BE, "েো"),
    (0x9D7, "েৌ"),
    (0xB3E, "େୋ"),
    (0xB56, "େୈ"),
    (0xB57, "େୌ"),
    (0xBBE, "ெொேோ"),
    (0xBD7, "ஒஔெௌ"),
    (0xC56, "ెై"),
    (0xCC2, "ೆೊ"),
    (0xCD5, "ಿೀೆೇೊೋ"),
    (0xCD6, "ೆೈ"),
    (0xD3E, "െൊേോ"),
    (0xD57, "െൌ"),
    (0xDCA, "ෙේොෝ"),
    (0xDCF, "ෙො"),
    (0xDDF, "ෙෞ"),
    (0x102E, "ဥဦ"),
    (0x1B35, "ᬅᬆᬇᬈᬉᬊᬋᬌᬍᬎᬑᬒᬺᬻᬼᬽᬾᭀᬿᭁᭂᭃ"),
    (0x3099, "うゔかがきぎくぐけげこごさざしじすずせぜそぞただちぢつづてでとどはばひびふぶへべほぼゝゞウヴカガキギクグケゲコゴサザシジ"),
    (0x3099, "スズセゼソゾタダチヂツヅテデトドハバヒビフブヘベホボワヷヰヸヱヹヲヺヽヾ"),
    (0x309A, "はぱひぴふぷへぺほぽハパヒピフプヘペホポ"),
    (0x110BA, "𑂙𑂚𑂛𑂜𑂥𑂫"),
    (0x11127, "𑄱𑄮𑄲𑄯"),
    (0x1133E, "𑍇𑍋"),
    (0x11357, "𑍇𑍌"),
    (0x113B8, "𑏅𑎸"),
    (0x113BB, "𑎄𑎅"),
    (0x113C2, "𑎋𑎎𑏅𑏂"),
    (0x113C9, "𑎂𑎃𑎐𑎑𑏅𑏉"),
    (0x114B0, "𑒹𑒼"),
    (0x114BA, "𑒹𑒻"),
    (0x114BD, "𑒹𑒾"),
    (0x115AF, "𑖸𑖺𑖹𑖻"),
    (0x11930, "𑤵𑤸"),
    (0x1611E, "𖄡𖄞"),
    (0x1611F, "𖄦𖄡𖄦𖄢𖄧𖄩𖄤"),
    (0x16120, "𖄨𖄡𖄨"),
    (0x16129, "𖄡𖄩"),
    (0x16D67, "𖵣𖵪𖵨𖵩𖵪")]

def inPairs : List Char → List (Char × Char)
  | first :: second :: rest => (first, second) :: inPairs rest
  | _ => []

/-- All compositions that are not syllables of the Korean script. -/
def compositions : List Composition :=
  compositionTable.flatMap fun (second, text) =>
    (inPairs text.toList).map fun (first, whole) =>
      { first, second := Char.ofNat second, whole }

/-! ## Syllables of the Korean script -/

/-- The syllable of a leading consonant and a vowel, or of such a syllable and a final
consonant. There are twenty-one vowels, and twenty-eight ways to end a syllable. -/
def syllable? (first second : Char) : Option Char :=
  let a := first.toNat
  let b := second.toNat
  if 0x1100 ≤ a ∧ a < 0x1113 ∧ 0x1161 ≤ b ∧ b < 0x1176 then
    some (Char.ofNat (0xAC00 + ((a - 0x1100) * 21 + (b - 0x1161)) * 28))
  else if 0xAC00 ≤ a ∧ a < 0xD7A4 ∧ (a - 0xAC00) % 28 = 0 ∧ 0x11A7 < b ∧ b < 0x11C3 then
    some (Char.ofNat (a + (b - 0x11A7)))
  else none

def syllableParts? (c : Char) : Option (Char × Char) :=
  let n := c.toNat
  if 0xAC00 ≤ n ∧ n < 0xD7A4 then
    let place := n - 0xAC00
    if place % 28 = 0 then
      some (Char.ofNat (0x1100 + place / 28 / 21), Char.ofNat (0x1161 + place / 28 % 21))
    else some (Char.ofNat (n - place % 28), Char.ofNat (0x11A7 + place % 28))
  else none

/-! ## One step -/

def compose? (first second : Char) : Option Char :=
  match syllable? first second with
  | some whole => some whole
  | none =>
      (compositions.find? fun entry => entry.first == first && entry.second == second).map
        (·.whole)

def parts? (c : Char) : Option (Char × Char) :=
  match syllableParts? c with
  | some parts => some parts
  | none =>
      (compositions.find? (·.whole == c)).map fun entry => (entry.first, entry.second)

/-! ## Texts -/

/-- A character taken apart so many times. The second part is never composed. -/
def takeApart : (times : Nat) → Char → List Char
  | 0, c => [c]
  | times + 1, c =>
      match parts? c with
      | some (first, second) => takeApart times first ++ [second]
      | none => [c]

/-- Put a character before marks in the order of their classes: after those of a smaller
class, and before all when it does not move. -/
def insertMark (c : Char) : List Char → List Char
  | [] => [c]
  | next :: rest =>
      if combiningClass next ≠ 0 ∧ combiningClass next < combiningClass c then
        next :: insertMark c rest
      else c :: next :: rest

/-- A text with the marks of each letter in the order of their classes. -/
def orderMarks (cs : List Char) : List Char :=
  cs.foldr insertMark []

/-- A letter with what can join it from the text after it. `passed` holds the marks that did
not, the last one first. -/
def joinMarks (letter : Char) (passed : List Char) : List Char → List Char
  | [] => letter :: passed.reverse
  | c :: rest =>
      let blocked := passed.head?.any fun last => combiningClass c ≤ combiningClass last
      match if blocked then none else compose? letter c with
      | some whole => joinMarks whole passed rest
      | none =>
          if combiningClass c = 0 then letter :: passed.reverse ++ joinMarks c [] rest
          else joinMarks letter (c :: passed) rest

/-- A text whose letters are joined with the marks that can reach them. -/
def compose : List Char → List Char
  | [] => []
  | c :: rest => if combiningClass c = 0 then joinMarks c [] rest else c :: compose rest

/-- The composed form of a text. No character is composed of more than four. -/
def composed (cs : List Char) : List Char :=
  compose (orderMarks (cs.flatMap (takeApart 3)))

end TwinQuery.Text
