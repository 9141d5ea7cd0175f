import Rollout.Unicode.MarkClass

/-!
Composed texts: where a character and a mark behind it make up another character, that one is
written. Letters and marks of a text are first taken apart, and the marks of each letter put in the
order of their classes, so that texts that look alike come out alike.

The characters covered are those that names of hosts hold.
-/
namespace Rollout.Unicode

/-! ## Syllables of Hangul -/

def leads : Nat := 19
def vowels : Nat := 21
/-- Tails of a syllable. The one with number zero is no tail. -/
def tails : Nat := 28

def firstLead : Nat := 0x1100
def firstVowel : Nat := 0x1161
def noTail : Nat := 0x11A7
def firstSyllable : Nat := 0xAC00

/-- A lead with a vowel, or a syllable without a tail with one. -/
def syllable? (a b : Char) : Option Char :=
  let m := a.toNat
  let n := b.toNat
  if firstLead ≤ m ∧ m < firstLead + leads ∧ firstVowel ≤ n ∧ n < firstVowel + vowels then
    some (Char.ofNat (firstSyllable + ((m - firstLead) * vowels + (n - firstVowel)) * tails))
  else if firstSyllable ≤ m ∧ m < firstSyllable + leads * vowels * tails
      ∧ (m - firstSyllable) % tails = 0 ∧ noTail < n ∧ n < noTail + tails then
    some (Char.ofNat (m + (n - noTail)))
  else none

/-- The two parts that make up a syllable. -/
def syllableParts? (c : Char) : Option (Char × Char) :=
  let n := c.toNat - firstSyllable
  if firstSyllable ≤ c.toNat ∧ n < leads * vowels * tails then
    if n % tails = 0 then
      some (Char.ofNat (firstLead + n / tails / vowels),
        Char.ofNat (firstVowel + n / tails % vowels))
    else some (Char.ofNat (c.toNat - n % tails), Char.ofNat (noTail + n % tails))
  else none

/-! ## Other characters -/

/-- The code of a second part, and first parts, each with the character that the two make up. -/
def compositeRows : List (Nat × String) :=
  [(0x300, "aàeèiìnǹoòuùwẁyỳâầêềôồüǜăằēḕōṑơờưừαὰεὲηὴιὶοὸυὺωὼϊῒϋῢеѐиѝἀἂἁἃἐἒἑἓἠἢἡἣἰἲἱἳὀὂὁὃὐὒὑὓὠὢ"),
   (0x300, "ὡὣ"),
   (0x301, "aácćeégǵiíkḱlĺmḿnńoópṕrŕsśuúwẃyýzźâấåǻæǽçḉêếïḯôốõṍøǿüǘăắēḗōṓũṹơớưứαάεέηήιίοόυύωώϊΐ"),
   (0x301, "ϋΰгѓкќἀἄἁἅἐἔἑἕἠἤἡἥἰἴἱἵὀὄὁὅὐὔὑὕὠὤὡὥ"), (0x302, "aâcĉeêgĝhĥiîjĵoôsŝuûwŵyŷzẑạậẹệọộ"),
   (0x303, "aãeẽiĩnñoõuũvṽyỹâẫêễôỗăẵơỡưữ"), (0x304, "aāeēgḡiīoōuūyȳäǟæǣõȭöȫüǖǫǭȧǡȯȱαᾱιῑυῡиӣуӯḷḹṛṝ"),
   (0x306, "aăeĕgğiĭoŏuŭȩḝαᾰιῐυῠаӑеӗжӂийуўạặ"),
   (0x307, "aȧbḃcċdḋeėfḟgġhḣmṁnṅoȯpṗrṙsṡtṫwẇxẋyẏzżśṥšṧṣṩ𐗒𐗉𐗚𐗤"),
   (0x308, "aäeëhḧiïoötẗuüwẅxẍyÿõṏūṻιϊυϋаӓеёжӝзӟиӥоӧуӱчӵыӹэӭіїәӛөӫ"),
   (0x309, "aảeẻiỉoỏuủyỷâẩêểôổăẳơởưử"), (0x30a, "aåuůwẘyẙ"), (0x30b, "oőuűуӳ"),
   (0x30c, "aǎcčdďeěgǧhȟiǐjǰkǩlľnňoǒrřsštťuǔzžüǚʒǯ"), (0x30f, "aȁeȅiȉoȍrȑuȕѵѷ"),
   (0x311, "aȃeȇiȋoȏrȓuȗ"), (0x313, "αἀεἐηἠιἰοὀρῤυὐωὠ"), (0x314, "αἁεἑηἡιἱοὁρῥυὑωὡ"),
   (0x31b, "oơuư"), (0x323, "aạbḅdḍeẹhḥiịkḳlḷmṃnṇoọrṛsṣtṭuụvṿwẉyỵzẓơợưự"), (0x324, "uṳ"),
   (0x325, "aḁ"), (0x326, "sștț"), (0x327, "cçdḑeȩgģhḩkķlļnņrŗsştţ"), (0x328, "aąeęiįoǫuų"),
   (0x32d, "dḓeḙlḽnṋtṱuṷ"), (0x32e, "hḫ"), (0x330, "eḛiḭuṵ"), (0x331, "bḇdḏhẖkḵlḻnṉrṟtṯzẕ"),
   (0x338, "<≮=≠>≯←↚→↛↔↮⇐⇍⇒⇏⇔⇎∃∄∈∉∋∌∣∤∥∦∼≁≃≄≅≇≈≉≍≭≡≢≤≰≥≱≲≴≳≵≶≸≷≹≺⊀≻⊁≼⋠≽⋡⊂⊄⊃⊅⊆⊈⊇⊉⊑⋢⊒⋣⊢⊬⊨⊭⊩⊮⊫⊯⊲⋪"),
   (0x338, "⊳⋫⊴⋬⊵⋭"), (0x342, "αᾶηῆιῖυῦωῶϊῗϋῧἀἆἁἇἠἦἡἧἰἶἱἷὐὖὑὗὠὦὡὧ"), (0x653, "اآ"),
   (0x654, "اأوؤيئہۂےۓەۀ"), (0x655, "اإ"), (0x93c, "नऩरऱळऴ"), (0x9be, "েো"), (0x9d7, "েৌ"),
   (0xb3e, "େୋ"), (0xb56, "େୈ"), (0xb57, "େୌ"), (0xbbe, "ெொேோ"), (0xbd7, "ஒஔெௌ"), (0xc56, "ెై"),
   (0xcc2, "ೆೊ"), (0xcd5, "ಿೀೆೇೊೋ"), (0xcd6, "ೆೈ"), (0xd3e, "െൊേോ"), (0xd57, "െൌ"), (0xdca, "ෙේොෝ"),
   (0xdcf, "ෙො"), (0xddf, "ෙෞ"), (0x102e, "ဥဦ"), (0x1b35, "ᬅᬆᬇᬈᬉᬊᬋᬌᬍᬎᬑᬒᬺᬻᬼᬽᬾᭀᬿᭁᭂᭃ"),
   (0x3099, "うゔかがきぎくぐけげこごさざしじすずせぜそぞただちぢつづてでとどはばひびふぶへべほぼゝゞウヴカガキギクグケゲコゴサザシジスズセゼソゾタダチヂツヅテデトドハバヒビフブ"),
   (0x3099, "ヘベホボワヷヰヸヱヹヲヺヽヾ"), (0x309a, "はぱひぴふぷへぺほぽハパヒピフプヘペホポ"), (0x110ba, "𑂙𑂚𑂛𑂜𑂥𑂫"),
   (0x11127, "𑄱𑄮𑄲𑄯"), (0x1133e, "𑍇𑍋"), (0x11357, "𑍇𑍌"), (0x113b8, "𑏅𑎸"), (0x113bb, "𑎄𑎅"),
   (0x113c2, "𑎋𑎎𑏅𑏂"), (0x113c9, "𑎂𑎃𑎐𑎑𑏅𑏉"), (0x114b0, "𑒹𑒼"), (0x114ba, "𑒹𑒻"), (0x114bd, "𑒹𑒾"),
   (0x115af, "𑖸𑖺𑖹𑖻"), (0x11930, "𑤵𑤸"), (0x1611e, "𖄡𖄞"), (0x1611f, "𖄦𖄡𖄦𖄢𖄧𖄩𖄤"), (0x16120, "𖄨𖄡𖄨"),
   (0x16129, "𖄡𖄩"), (0x16d67, "𖵣𖵪𖵨𖵩𖵪")]

def pairsOf : List Char → List (Char × Char)
  | a :: c :: cs => (a, c) :: pairsOf cs
  | _ => []

def composites : List (Char × List (Char × Char)) :=
  compositeRows.map fun (second, row) => (Char.ofNat second, pairsOf row.toList)

/-- What two characters make up. -/
def compose? (a b : Char) : Option Char :=
  syllable? a b <|> composites.findSome? fun (second, pairs) =>
    if second == b then pairs.lookup a else none

/-- The two parts that make up a character. -/
def parts? (c : Char) : Option (Char × Char) :=
  syllableParts? c <|> composites.findSome? fun (second, pairs) =>
    (pairs.find? fun p => p.2 == c).map fun p => (p.1, second)

/-! ## Texts -/

/-- The most parts that a character is taken apart into, but for the first. -/
def maxParts : Nat := 3

/-- A character, taken apart as far as `steps` allow. -/
def apart : (steps : Nat) → Char → List Char
  | 0, c => [c]
  | steps + 1, c =>
    match parts? c with
    | some (a, b) => apart steps a ++ [b]
    | none => [c]

/-- Puts a character in front of a text whose marks are in order. A mark goes behind those of
smaller classes. -/
def place (c : Char) : List Char → List Char
  | [] => [c]
  | d :: ds =>
    if 0 < markClass d && markClass d < markClass c then d :: place c ds else c :: d :: ds

def arrange (cs : List Char) : List Char := cs.foldr place []

/-- Joins what follows a letter to it. `kept` are the marks behind the letter that could not be
joined, in reverse, and `last` is the class of the last of them; a mark of the same class cannot be
joined past them. -/
def joinTo (letter : Char) (kept : List Char) (last : Nat) : List Char → List Char
  | [] => letter :: kept.reverse
  | c :: cs =>
    let k := markClass c
    match if kept.isEmpty || last < k then compose? letter c else none with
    | some joined => joinTo joined kept last cs
    | none =>
      if k = 0 then letter :: kept.reverse ++ joinTo c [] 0 cs
      else joinTo letter (c :: kept) k cs

/-- Joins the letters of a text with what follows them. -/
def joined : List Char → List Char
  | [] => []
  | c :: cs => if markClass c = 0 then joinTo c [] 0 cs else c :: joined cs

def composed (cs : List Char) : List Char := joined (arrange (cs.flatMap (apart maxParts)))

end Rollout.Unicode
