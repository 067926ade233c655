/-!
# Character properties in patterns

A pattern may name a set of characters by a Unicode property: by a binary property, a general
category or a script alone, or by a property and its value.  Names are compared without regard to
case, spaces, hyphens and underscores, and a leading `is` counts for nothing.

## Main definitions

* `normalizeName name` — what of `name` is compared.
* `isProperty name`, `isPropertyValue name value` — whether there is a set of that name.
-/

namespace GatewayCompiler.Pattern

/-! ### The sets -/

/-- The names of the general categories, and of three sets that are named like them. -/
def generalCategories : List (List String) :=
  [["any"], ["ascii"], ["assigned"], ["lc", "casedletter"], ["pe", "closepunctuation"],
   ["cc", "control", "cntrl"], ["m", "mark", "combiningmark"], ["pc", "connectorpunctuation"],
   ["sc", "currencysymbol"], ["pd", "dashpunctuation"], ["nd", "decimalnumber", "digit"],
   ["me", "enclosingmark"], ["pf", "finalpunctuation"], ["cf", "format"],
   ["pi", "initialpunctuation"], ["l", "letter"], ["nl", "letternumber"], ["zl", "lineseparator"],
   ["ll", "lowercaseletter"], ["sm", "mathsymbol"], ["lm", "modifierletter"],
   ["sk", "modifiersymbol"], ["mn", "nonspacingmark"], ["n", "number"], ["ps", "openpunctuation"],
   ["c", "other"], ["lo", "otherletter"], ["no", "othernumber"], ["po", "otherpunctuation"],
   ["so", "othersymbol"], ["zp", "paragraphseparator"], ["co", "privateuse"],
   ["p", "punctuation", "punct"], ["z", "separator"], ["zs", "spaceseparator"],
   ["mc", "spacingmark"], ["s", "symbol"], ["lt", "titlecaseletter"], ["cn", "unassigned"],
   ["lu", "uppercaseletter"]]

/-- The names of the scripts. -/
def scripts : List (List String) :=
  [["adlm", "adlam"], ["ahom"], ["hluw", "anatolianhieroglyphs"], ["arab", "arabic"],
   ["armn", "armenian"], ["avst", "avestan"], ["bali", "balinese"], ["bamu", "bamum"],
   ["bass", "bassavah"], ["batk", "batak"], ["beng", "bengali"], ["bhks", "bhaiksuki"],
   ["bopo", "bopomofo"], ["brah", "brahmi"], ["brai", "braille"], ["bugi", "buginese"],
   ["buhd", "buhid"], ["cans", "canadianaboriginal"], ["cari", "carian"],
   ["aghb", "caucasianalbanian"], ["cakm", "chakma"], ["cham"], ["cher", "cherokee"],
   ["chrs", "chorasmian"], ["zyyy", "common"], ["xsux", "cuneiform"], ["cprt", "cypriot"],
   ["cpmn", "cyprominoan"], ["cyrl", "cyrillic"], ["dsrt", "deseret"], ["deva", "devanagari"],
   ["diak", "divesakuru"], ["dogr", "dogra"], ["dupl", "duployan"], ["egyp", "egyptianhieroglyphs"],
   ["elba", "elbasan"], ["elym", "elymaic"], ["ethi", "ethiopic"], ["gara", "garay"],
   ["geor", "georgian"], ["glag", "glagolitic"], ["goth", "gothic"], ["gran", "grantha"],
   ["grek", "greek"], ["gujr", "gujarati"], ["gong", "gunjalagondi"], ["guru", "gurmukhi"],
   ["gukh", "gurungkhema"], ["hani", "han"], ["hang", "hangul"], ["rohg", "hanifirohingya"],
   ["hano", "hanunoo"], ["hatr", "hatran"], ["hebr", "hebrew"], ["hira", "hiragana"],
   ["armi", "imperialaramaic"], ["phli", "inscriptionalpahlavi"], ["prti", "inscriptionalparthian"],
   ["java", "javanese"], ["kthi", "kaithi"], ["knda", "kannada"], ["kana", "katakana"], ["kawi"],
   ["kali", "kayahli"], ["khar", "kharoshthi"], ["kits", "khitansmallscript"], ["khmr", "khmer"],
   ["khoj", "khojki"], ["sind", "khudawadi"], ["krai", "kiratrai"], ["laoo", "lao"],
   ["latn", "latin"], ["lepc", "lepcha"], ["limb", "limbu"], ["lina", "lineara"],
   ["linb", "linearb"], ["lisu"], ["lyci", "lycian"], ["lydi", "lydian"], ["mahj", "mahajani"],
   ["maka", "makasar"], ["mlym", "malayalam"], ["mand", "mandaic"], ["mani", "manichaean"],
   ["marc", "marchen"], ["gonm", "masaramgondi"], ["medf", "medefaidrin"], ["mtei", "meeteimayek"],
   ["mend", "mendekikakui"], ["merc", "meroiticcursive"], ["mero", "meroitichieroglyphs"],
   ["plrd", "miao"], ["modi"], ["mong", "mongolian"], ["mroo", "mro"], ["mult", "multani"],
   ["mymr", "myanmar"], ["nbat", "nabataean"], ["nagm", "nagmundari"], ["nand", "nandinagari"],
   ["newa"], ["talu", "newtailue"], ["nkoo", "nko"], ["nshu", "nushu"],
   ["hmnp", "nyiakengpuachuehmong"], ["ogam", "ogham"], ["olck", "olchiki"],
   ["hung", "oldhungarian"], ["ital", "olditalic"], ["narb", "oldnortharabian"],
   ["perm", "oldpermic"], ["xpeo", "oldpersian"], ["sogo", "oldsogdian"],
   ["sarb", "oldsoutharabian"], ["orkh", "oldturkic"], ["ougr", "olduyghur"], ["onao", "olonal"],
   ["orya", "oriya"], ["osge", "osage"], ["osma", "osmanya"], ["hmng", "pahawhhmong"],
   ["palm", "palmyrene"], ["pauc", "paucinhau"], ["phag", "phagspa"], ["phnx", "phoenician"],
   ["phlp", "psalterpahlavi"], ["copt", "coptic", "qaac"], ["zinh", "inherited", "qaai"],
   ["rjng", "rejang"], ["runr", "runic"], ["samr", "samaritan"], ["saur", "saurashtra"],
   ["shrd", "sharada"], ["shaw", "shavian"], ["sidd", "siddham"], ["sgnw", "signwriting"],
   ["sinh", "sinhala"], ["sogd", "sogdian"], ["sora", "sorasompeng"], ["soyo", "soyombo"],
   ["sund", "sundanese"], ["sunu", "sunuwar"], ["sylo", "sylotinagri"], ["syrc", "syriac"],
   ["tglg", "tagalog"], ["tagb", "tagbanwa"], ["tale", "taile"], ["lana", "taitham"],
   ["tavt", "taiviet"], ["takr", "takri"], ["taml", "tamil"], ["tnsa", "tangsa"],
   ["tang", "tangut"], ["telu", "telugu"], ["thaa", "thaana"], ["thai"], ["tibt", "tibetan"],
   ["tfng", "tifinagh"], ["tirh", "tirhuta"], ["todr", "todhri"], ["toto"],
   ["tutg", "tulutigalari"], ["ugar", "ugaritic"], ["vaii", "vai"], ["vith", "vithkuqi"],
   ["wcho", "wancho"], ["wara", "warangciti"], ["yezi", "yezidi"], ["yiii", "yi"],
   ["zanb", "zanabazarsquare"]]

/-- The names of the binary properties. -/
def binaryProperties : List (List String) :=
  [["alpha", "alphabetic"], ["ahex", "asciihexdigit"], ["bidic", "bidicontrol"], ["cased"],
   ["ci", "caseignorable"], ["cwcf", "changeswhencasefolded"], ["cwcm", "changeswhencasemapped"],
   ["cwl", "changeswhenlowercased"], ["cwt", "changeswhentitlecased"],
   ["cwu", "changeswhenuppercased"], ["dash"], ["di", "defaultignorablecodepoint"],
   ["dep", "deprecated"], ["dia", "diacritic"], ["emoji"], ["ecomp", "emojicomponent"],
   ["emod", "emojimodifier"], ["ebase", "emojimodifierbase"], ["epres", "emojipresentation"],
   ["extpict", "extendedpictographic"], ["ext", "extender"], ["grbase", "graphemebase"],
   ["grext", "graphemeextend"], ["grlink", "graphemelink"], ["hex", "hexdigit"], ["hyphen"],
   ["idcompatmathcontinue"], ["idcompatmathstart"], ["idc", "idcontinue"], ["ideo", "ideographic"],
   ["idsb", "idsbinaryoperator"], ["ids", "idstart"], ["idst", "idstrinaryoperator"],
   ["idsu", "idsunaryoperator"], ["joinc", "joincontrol"], ["loe", "logicalorderexception"],
   ["lower", "lowercase"], ["math"], ["mcm", "modifiercombiningmark"],
   ["nchar", "noncharactercodepoint"], ["oalpha", "otheralphabetic"],
   ["odi", "otherdefaultignorablecodepoint"], ["ogrext", "othergraphemeextend"],
   ["oidc", "otheridcontinue"], ["oids", "otheridstart"], ["olower", "otherlowercase"],
   ["omath", "othermath"], ["oupper", "otheruppercase"], ["patsyn", "patternsyntax"],
   ["patws", "patternwhitespace"], ["pcm", "prependedconcatenationmark"],
   ["qmark", "quotationmark"], ["radical"], ["ri", "regionalindicator"],
   ["sterm", "sentenceterminal"], ["sd", "softdotted"], ["wspace", "whitespace", "space"],
   ["term", "terminalpunctuation"], ["uideo", "unifiedideograph"], ["upper", "uppercase"],
   ["vs", "variationselector"], ["xidc", "xidcontinue"], ["xids", "xidstart"]]

/-- The versions in which characters were added. -/
def ages : List (List String) :=
  [["1.1", "v11"], ["2.0", "v20"], ["2.1", "v21"], ["3.0", "v30"], ["3.1", "v31"], ["3.2", "v32"],
   ["4.0", "v40"], ["4.1", "v41"], ["5.0", "v50"], ["5.1", "v51"], ["5.2", "v52"], ["6.0", "v60"],
   ["6.1", "v61"], ["6.2", "v62"], ["6.3", "v63"], ["7.0", "v70"], ["8.0", "v80"], ["9.0", "v90"],
   ["10.0", "v100"], ["11.0", "v110"], ["12.0", "v120"], ["12.1", "v121"], ["13.0", "v130"],
   ["14.0", "v140"], ["15.0", "v150"], ["15.1", "v151"], ["16.0", "v160"]]

/-- The roles of characters in grapheme clusters. -/
def graphemeClusterBreaks : List (List String) :=
  [["cn", "control"], ["cr"], ["ex", "extend"], ["l"], ["lf"], ["lv"], ["lvt"], ["pp", "prepend"],
   ["ri", "regionalindicator"], ["sm", "spacingmark"], ["t"], ["v"], ["zwj"]]

/-- The roles of characters in words. -/
def wordBreaks : List (List String) :=
  [["cr"], ["dq", "doublequote"], ["ex", "extendnumlet"], ["extend"], ["fo", "format"],
   ["hl", "hebrewletter"], ["ka", "katakana"], ["le", "aletter"], ["lf"], ["mb", "midnumlet"],
   ["ml", "midletter"], ["mn", "midnum"], ["nl", "newline"], ["nu", "numeric"],
   ["ri", "regionalindicator"], ["sq", "singlequote"], ["wsegspace"], ["zwj"]]

/-- The roles of characters in sentences. -/
def sentenceBreaks : List (List String) :=
  [["at", "aterm"], ["cl", "close"], ["cr"], ["ex", "extend"], ["fo", "format"], ["le", "oletter"],
   ["lf"], ["lo", "lower"], ["nu", "numeric"], ["sc", "scontinue"], ["se", "sep"], ["sp"],
   ["st", "sterm"], ["up", "upper"]]

/-! ### Names -/

/-- `isNameChar c` says that a character of a name is compared. -/
def isNameChar (c : Char) : Bool := c.toNat < 0x80 && c ≠ ' ' && c ≠ '_' && c ≠ '-'

/-- `foldName name` are the characters of a name that are compared, in lower case. -/
def foldName (name : List Char) : List Char := (name.filter isNameChar).map Char.toLower

/-- What of a name is compared.  A leading `is` is dropped unless only a `c` would be left, which
together with it is the name of a property on comments. -/
def normalizeName (name : List Char) : String :=
  match name with
  | a :: b :: rest =>
    if (a = 'i' ∨ a = 'I') ∧ (b = 's' ∨ b = 'S') then
      match foldName rest with
      | ['c'] => "isc"
      | folded => String.ofList folded
    else String.ofList (foldName name)
  | _ => String.ofList (foldName name)

/-- Whether `name` is among the names of one of the `sets`. -/
def isListed (sets : List (List String)) (name : String) : Bool := sets.any (·.contains name)

/-- Whether `name` alone stands for a set. -/
def isProperty (name : List Char) : Bool :=
  isListed (binaryProperties ++ generalCategories ++ scripts) (normalizeName name)

/-- The names of the values of a property, by its normalized `name`. -/
def propertyValues? (name : String) : Option (List (List String)) :=
  match name with
  | "gc" | "generalcategory" => some generalCategories
  | "sc" | "script" | "scx" | "scriptextensions" => some scripts
  | "age" => some ages
  | "gcb" | "graphemeclusterbreak" => some graphemeClusterBreaks
  | "wb" | "wordbreak" => some wordBreaks
  | "sb" | "sentencebreak" => some sentenceBreaks
  | _ => none

/-- Whether the property `name` may have the given `value`. -/
def isPropertyValue (name value : List Char) : Bool :=
  (propertyValues? (normalizeName name)).any fun sets => isListed sets (normalizeName value)

end GatewayCompiler.Pattern
