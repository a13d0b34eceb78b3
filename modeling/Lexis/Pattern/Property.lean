import Lexis.Pattern.Flags
import Lexis.Text.Ages
import Lexis.Text.Scripts

/-!
# Classes by properties

The classes that properties of characters give, and the names they go by. A name alone stands for a
property that holds or not, for a general category or for a script; other values are named together
with their property. Of a name only the letters, digits and points count.

The derived properties follow the rules of the Unicode standard, from categories, listed properties
and exceptions.
-/

namespace Lexis.Pattern

open Text CharSet

/-! ## Sets -/

/-- The characters of the general categories. -/
def ofCategories (categories : List String) : CharSet :=
  .table (categoryRanges categories)

/-- The characters of the code points. -/
def ofCodes (codes : List Nat) : CharSet :=
  .table (codes.map fun n => (n, n))

/-- What is in the first set and not in the second one. -/
def without (a b : CharSet) : CharSet :=
  .op .without a b

def lowercase : CharSet :=
  union (ofCategories ["Ll"]) (table otherLowercase)

def uppercase : CharSet :=
  union (ofCategories ["Lu"]) (table otherUppercase)

def titlecase : CharSet :=
  ofCategories ["Lt"]

def alphabetic : CharSet :=
  unions [lowercase, uppercase, ofCategories ["Lt", "Lm", "Lo", "Nl"], table otherAlphabetic]

def graphemeExtend : CharSet :=
  union (ofCategories ["Me", "Mn"]) (table otherGraphemeExtend)

def graphemeBase : CharSet :=
  .compl (union (ofCategories ["Cc", "Cf", "Cs", "Co", "Cn", "Zl", "Zp"]) graphemeExtend)

def defaultIgnorable : CharSet :=
  without (unions [table otherDefaultIgnorable, ofCategories ["Cf"], table variationSelector])
    (unions [table whiteSpace, table [(0xFFF9, 0xFFFB), (0x13430, 0x13440)],
      table prependedConcatenationMark])

def changesWhenLowercased : CharSet :=
  without (union uppercase titlecase) (table unlowered)

def changesWhenUppercased : CharSet :=
  without (union lowercase titlecase) (table unraised)

def changesWhenTitlecased : CharSet :=
  union (without changesWhenUppercased (table titlecased)) (table digraphCapitals)

def changesWhenCasefolded : CharSet :=
  union (without changesWhenLowercased (table capitalFolded)) (table foldedSmall)

/-- What syntax of patterns keeps out of identifiers. -/
def patternSigns : CharSet :=
  union (table patternSyntax) (table patternWhiteSpace)

def idStart : CharSet :=
  without (unions [ofCategories ["Lu", "Ll", "Lt", "Lm", "Lo", "Nl"], table otherIdStart])
    patternSigns

def idContinue : CharSet :=
  without (unions [idStart, ofCategories ["Mn", "Mc", "Nd", "Pc"], table otherIdContinue])
    patternSigns

/-- Signs in the middle of a word, and of a word or number. -/
def midLetter : CharSet :=
  ofCodes [0x3A, 0xB7, 0x387, 0x55F, 0x5F4, 0x2027, 0xFE13, 0xFE55, 0xFF1A]

def midNumberLetter : CharSet :=
  ofCodes [0x2E, 0x2018, 0x2019, 0x2024, 0xFE52, 0xFF07, 0xFF0E]

def caseIgnorable : CharSet :=
  unions [ofCategories ["Mn", "Me", "Cf", "Lm", "Sk"], midLetter, midNumberLetter, single '\'']

/-- What is listed under a name. -/
def lookup? {α : Type} (name : List Char) (entries : List (List String × α)) : Option α :=
  (entries.find? fun entry => entry.1.any fun n => n.toList == name).map Prod.snd

/-! ## Properties that hold or not -/

/-- The sets of the properties, after their names in normal form. -/
def binaryProperties : List (List String × CharSet) :=
  [(["ahex", "asciihexdigit"], table asciiHexDigit),
   (["alpha", "alphabetic"], alphabetic),
   (["bidic", "bidicontrol"], table bidiControl),
   (["bidim", "bidimirrored"], table bidiMirrored),
   (["cased"], unions [lowercase, uppercase, titlecase]),
   (["ci", "caseignorable"], caseIgnorable),
   (["cwcf", "changeswhencasefolded"], changesWhenCasefolded),
   (["cwcm", "changeswhencasemapped"],
     unions [changesWhenLowercased, changesWhenUppercased, changesWhenTitlecased]),
   (["cwl", "changeswhenlowercased"], changesWhenLowercased),
   (["cwt", "changeswhentitlecased"], changesWhenTitlecased),
   (["cwu", "changeswhenuppercased"], changesWhenUppercased),
   (["dash"], table dash),
   (["dep", "deprecated"], table deprecated),
   (["di", "defaultignorablecodepoint"], defaultIgnorable),
   (["dia", "diacritic"], table diacritic),
   (["ebase", "emojimodifierbase"], table emojiModifierBase),
   (["ecomp", "emojicomponent"], table emojiComponent),
   (["emod", "emojimodifier"], table emojiModifier),
   (["emoji"], table emoji),
   (["epres", "emojipresentation"], table emojiPresentation),
   (["ext", "extender"], table extender),
   (["extpict", "extendedpictographic"], table extendedPictographic),
   (["grbase", "graphemebase"], graphemeBase),
   (["grext", "graphemeextend"], graphemeExtend),
   (["grlink", "graphemelink"], table graphemeLink),
   (["hex", "hexdigit"], table hexDigit),
   (["hyphen"], table hyphen),
   (["idc", "idcontinue"], idContinue),
   (["ideo", "ideographic"], table ideographic),
   (["ids", "idstart"], idStart),
   (["idsb", "idsbinaryoperator"], table idsBinaryOperator),
   (["idst", "idstrinaryoperator"], table idsTrinaryOperator),
   (["joinc", "joincontrol"], table joinControl),
   (["loe", "logicalorderexception"], table logicalOrderException),
   (["lower", "lowercase"], lowercase),
   (["math"], union (ofCategories ["Sm"]) (table otherMath)),
   (["nchar", "noncharactercodepoint"], table noncharacterCodePoint),
   (["oalpha", "otheralphabetic"], table otherAlphabetic),
   (["odi", "otherdefaultignorablecodepoint"], table otherDefaultIgnorable),
   (["ogrext", "othergraphemeextend"], table otherGraphemeExtend),
   (["oidc", "otheridcontinue"], table otherIdContinue),
   (["oids", "otheridstart"], table otherIdStart),
   (["olower", "otherlowercase"], table otherLowercase),
   (["omath", "othermath"], table otherMath),
   (["oupper", "otheruppercase"], table otherUppercase),
   (["patsyn", "patternsyntax"], table patternSyntax),
   (["patws", "patternwhitespace"], table patternWhiteSpace),
   (["pcm", "prependedconcatenationmark"], table prependedConcatenationMark),
   (["qmark", "quotationmark"], table quotationMark),
   (["radical"], table radical),
   (["ri", "regionalindicator"], table regionalIndicator),
   (["sd", "softdotted"], table softDotted),
   (["sterm", "sentenceterminal"], table sentenceTerminal),
   (["term", "terminalpunctuation"], table terminalPunctuation),
   (["uideo", "unifiedideograph"], table unifiedIdeograph),
   (["upper", "uppercase"], uppercase),
   (["vs", "variationselector"], table variationSelector),
   (["wspace", "whitespace", "space"], table whiteSpace),
   (["xidc", "xidcontinue"], without idContinue (table unstableContinue)),
   (["xids", "xidstart"], without idStart (table unstableStart))]

/-! ## Categories, scripts and ages -/

/-- The categories and groups of categories, after their names in normal form. -/
def categories : List (List String × List String) :=
  [(["c", "other"], ["Cc", "Cf", "Cn", "Co"]),
   (["cc", "control", "cntrl"], ["Cc"]),
   (["cf", "format"], ["Cf"]),
   (["cn", "unassigned"], ["Cn"]),
   (["co", "privateuse"], ["Co"]),
   (["l", "letter"], ["Lu", "Ll", "Lt", "Lm", "Lo"]),
   (["lc", "casedletter"], ["Lu", "Ll", "Lt"]),
   (["ll", "lowercaseletter"], ["Ll"]),
   (["lm", "modifierletter"], ["Lm"]),
   (["lo", "otherletter"], ["Lo"]),
   (["lt", "titlecaseletter"], ["Lt"]),
   (["lu", "uppercaseletter"], ["Lu"]),
   (["m", "mark", "combiningmark"], ["Mn", "Mc", "Me"]),
   (["mc", "spacingmark"], ["Mc"]),
   (["me", "enclosingmark"], ["Me"]),
   (["mn", "nonspacingmark"], ["Mn"]),
   (["n", "number"], ["Nd", "Nl", "No"]),
   (["nd", "decimalnumber", "digit"], ["Nd"]),
   (["nl", "letternumber"], ["Nl"]),
   (["no", "othernumber"], ["No"]),
   (["p", "punctuation", "punct"], ["Pc", "Pd", "Ps", "Pe", "Pi", "Pf", "Po"]),
   (["pc", "connectorpunctuation"], ["Pc"]),
   (["pd", "dashpunctuation"], ["Pd"]),
   (["pe", "closepunctuation"], ["Pe"]),
   (["pf", "finalpunctuation"], ["Pf"]),
   (["pi", "initialpunctuation"], ["Pi"]),
   (["po", "otherpunctuation"], ["Po"]),
   (["ps", "openpunctuation"], ["Ps"]),
   (["s", "symbol"], ["Sm", "Sc", "Sk", "So"]),
   (["sc", "currencysymbol"], ["Sc"]),
   (["sk", "modifiersymbol"], ["Sk"]),
   (["sm", "mathsymbol"], ["Sm"]),
   (["so", "othersymbol"], ["So"]),
   (["z", "separator"], ["Zs", "Zl", "Zp"]),
   (["zl", "lineseparator"], ["Zl"]),
   (["zp", "paragraphseparator"], ["Zp"]),
   (["zs", "spaceseparator"], ["Zs"])]

/-- The set of a general category. -/
def category? (name : List Char) : Option CharSet :=
  if name = "any".toList then some .everything
  else if name = "ascii".toList then some (.interval '\x00' '\x7f')
  else if name = "assigned".toList then some (.compl (ofCategories ["Cn"]))
  else (lookup? name categories).map ofCategories

/-- The code of a script. -/
def scriptCode? (name : List Char) : Option String :=
  (scripts.find? fun names => names.any fun n => n.toList.map Char.toLower == name).bind List.head?

/-- The set of a script. -/
def ofScript (code : String) : CharSet :=
  .table (rangesOf [code] scriptRuns)

/-- The characters that are used with a script. -/
def ofExtendedScript (code : String) : CharSet :=
  let shared := (scriptExtensions.filter fun entry => entry.1.contains code).flatMap Prod.snd
  union (table shared) (without (ofScript code) (table (scriptExtensions.flatMap Prod.snd)))

/-- The characters that were assigned up to a version. -/
def age? (name : List Char) : Option CharSet :=
  (ages.findIdx? fun names => names.any fun n => n.toList == name).map fun i =>
    let letters := (List.range (i + 1)).map fun k => String.singleton (Char.ofNat ('A'.toNat + k))
    .table (rangesOf letters ageRuns)

/-! ## Kinds of characters next to which a text breaks -/

/-- The first syllable of Hangul, and the last one. -/
def hangulFirst : Nat := 0xAC00
def hangulLast : Nat := 0xD7A3

/-- Every 28th syllable of Hangul has no final consonant. -/
def hangulOpen : CharSet :=
  ofCodes ((List.range ((hangulLast - hangulFirst) / 28 + 1)).map fun k => hangulFirst + 28 * k)

/-- The kinds that matter to breaks between graphemes. -/
def graphemeBreaks : List (List String × CharSet) :=
  let extend := union graphemeExtend (table emojiModifier)
  [(["cn", "control"],
     without
       (union (ofCategories ["Zl", "Zp", "Cc", "Cf"])
         (.op .both (ofCategories ["Cn"]) defaultIgnorable))
       (unions [ofCodes [0x0D, 0x0A, 0x200C, 0x200D], table prependedConcatenationMark, extend])),
   (["cr"], single '\r'),
   (["ex", "extend"], extend),
   (["l"], table [(0x1100, 0x115F), (0xA960, 0xA97C)]),
   (["lf"], single '\n'),
   (["lv"], hangulOpen),
   (["lvt"], without (table [(hangulFirst, hangulLast)]) hangulOpen),
   (["pp", "prepend"], table prependedMarks),
   (["ri", "regionalindicator"], table regionalIndicator),
   (["sm", "spacingmark"],
     without (union (ofCategories ["Mc"]) (ofCodes [0xE33, 0xEB3]))
       (union extend (table detachedMarks))),
   (["t"], table [(0x11A8, 0x11FF), (0xD7CB, 0xD7FB)]),
   (["v"], table [(0x1160, 0x11A7), (0xD7B0, 0xD7C6)]),
   (["zwj"], ofCodes [0x200D])]

/-- The kinds that matter to breaks between words. -/
def wordBreaks : List (List String × CharSet) :=
  let extend := unions [graphemeExtend, ofCategories ["Mc"], table emojiModifier]
  let hebrew := .op .both (ofScript "Hebr") (ofCategories ["Lo"])
  [(["cr"], single '\r'),
   (["dq", "doublequote"], single '"'),
   (["ex", "extendnumlet"], union (ofCategories ["Pc"]) (ofCodes [0x202F])),
   (["extend"], extend),
   (["fo", "format"],
     without (ofCategories ["Cf"]) (union (ofCodes [0x200B, 0x200C, 0x200D]) extend)),
   (["hl", "hebrewletter"], hebrew),
   (["ka", "katakana"], table katakana),
   (["le", "aletter"],
     union (table signLetters)
       (without alphabetic
         (unions [table ideographic, table katakana, ofScript "Hira", hebrew, extend,
           table dictionaryLetters]))),
   (["lf"], single '\n'),
   (["mb", "midnumlet"], midNumberLetter),
   (["ml", "midletter"], midLetter),
   (["mn", "midnum"],
     ofCodes [0x2C, 0x3B, 0x37E, 0x589, 0x60C, 0x60D, 0x66C, 0x7F8, 0x2044, 0xFE10, 0xFE14, 0xFE50,
       0xFE54, 0xFF0C, 0xFF1B]),
   (["nl", "newline"], ofCodes [0x0B, 0x0C, 0x85, 0x2028, 0x2029]),
   (["nu", "numeric"], union (ofCategories ["Nd"]) (ofCodes [0x66B])),
   (["ri", "regionalindicator"], table regionalIndicator),
   (["sq", "singlequote"], single '\''),
   (["wsegspace"],
     table [(0x20, 0x20), (0x1680, 0x1680), (0x2000, 0x2006), (0x2008, 0x200A), (0x205F, 0x205F),
       (0x3000, 0x3000)]),
   (["zwj"], ofCodes [0x200D])]

/-- The kinds that matter to breaks between sentences. -/
def sentenceBreaks : List (List String × CharSet) :=
  let extend := unions [graphemeExtend, ofCategories ["Mc"], ofCodes [0x200D]]
  let lower :=
    without lowercase (union graphemeExtend (table [(0x10D0, 0x10FA), (0x10FD, 0x10FF)]))
  let upper := without (union uppercase titlecase) (table [(0x1C90, 0x1CBA), (0x1CBD, 0x1CBF)])
  let stops := [0x2E, 0x2024, 0xFE52, 0xFF0E]
  [(["at", "aterm"], ofCodes stops),
   (["cl", "close"], union (ofCategories ["Ps", "Pe", "Pi", "Pf"]) (table closingSigns)),
   (["cr"], single '\r'),
   (["ex", "extend"], extend),
   (["fo", "format"], without (ofCategories ["Cf"]) (union (ofCodes [0x200C]) extend)),
   (["le", "oletter"],
     without (union alphabetic (ofCodes [0x5F3])) (unions [lower, upper, extend])),
   (["lf"], single '\n'),
   (["lo", "lower"], lower),
   (["nu", "numeric"], union (ofCategories ["Nd"]) (ofCodes [0x66B, 0x66C])),
   (["sc", "scontinue"], table sentenceContinuers),
   (["se", "sep"], ofCodes [0x85, 0x2028, 0x2029]),
   (["sp"], without (table whiteSpace) (ofCodes [0x0A, 0x0D, 0x85, 0x2028, 0x2029])),
   (["st", "sterm"], without (table sentenceTerminal) (ofCodes stops)),
   (["up", "upper"], upper)]

/-! ## Names -/

/-- A name in normal form: its ASCII characters without blanks, low lines and hyphens, in lower case
and without `is` at the start; but `isc` is a name of its own. -/
def normalName (name : List Char) : List Char :=
  let kept (s : List Char) : List Char :=
    (s.filter fun c => c.toNat < 128 && c != ' ' && c != '_' && c != '-').map Char.toLower
  match name with
  | i :: s :: rest =>
    if i.toLower = 'i' ∧ s.toLower = 's' then
      if kept rest = ['c'] then ['i', 's', 'c'] else kept rest
    else kept name
  | _ => kept name

/-- The set that a name alone stands for. -/
def setNamed? (name : List Char) : Option CharSet :=
  ((lookup? name binaryProperties).or (category? name)).or ((scriptCode? name).map ofScript)

/-- How a property with several values gives a set for the name of a value. -/
def valuedProperties : List (List String × (List Char → Option CharSet)) :=
  [(["gc", "generalcategory"], category?),
   (["sc", "script"], fun value => (scriptCode? value).map ofScript),
   (["scx", "scriptextensions"], fun value => (scriptCode? value).map ofExtendedScript),
   (["age"], age?),
   (["gcb", "graphemeclusterbreak"], fun value => lookup? value graphemeBreaks),
   (["wb", "wordbreak"], fun value => lookup? value wordBreaks),
   (["sb", "sentencebreak"], fun value => lookup? value sentenceBreaks)]

/-- What stands before the first place of a sign, and what follows it. -/
def cut? (sign : List Char) : List Char → Option (List Char × List Char)
  | [] => none
  | c :: s =>
    if sign.isPrefixOf (c :: s) then some ([], (c :: s).drop sign.length)
    else (cut? sign s).map fun r => (c :: r.1, r.2)

/-- The set that a name stands for, or a name and a value with a sign between them. -/
def propertySet? (name : List Char) : Option CharSet :=
  match ((cut? ['!', '='] name).or (cut? [':'] name)).or (cut? ['='] name) with
  | some (property, value) =>
    (lookup? (normalName property) valuedProperties).bind fun sets => sets (normalName value)
  | none => setNamed? (normalName name)

/-- The class of a property, or its complement, as the flags have it. -/
def propertySet (f : Flags) (negated : Bool) (name : List Char) : Except Defect CharSet :=
  match f.wide, propertySet? name with
  | true, some s => f.settle negated s
  | _, _ => .error .badProperty

end Lexis.Pattern
