import Lexis.Text.Runs

/-!
# Properties of characters

Properties that hold of the characters of a list, as of Unicode 15.0: the listed ones, what is added
to the categories by the rules of the derived ones, and the exceptions to these rules.
-/

namespace Lexis.Text

/-! ## Additions to the categories -/

/-- Alphabetic characters by decision, not by category. -/
def otherAlphabetic : List (Nat × Nat) :=
  members
    ["N837YN618Y14NYNY2NY2NYN72Y11N48Y13NY7N16YN101Y7N4Y4N2Y2N4YN35YN30Y16N102Y11N101Y2N3Y9NY3NY4N",
     "167Y12N3Y7N6Y20N54Y2N2Y15NY2N5Y3N10Y2N29Y3N58Y7N2Y2N2Y2N10YN10Y2N29Y3N58Y5N4Y2N2Y2N4YN30Y2N3",
     "YN11Y3N58Y8NY3NY2N21Y2N22Y3N4Y3N58Y7N2Y2N2Y2N9Y2N10Y2N30YN59Y5N3Y3NY3N10YN40Y5N57Y7NY3NY3N8Y",
     "2N11Y2N29Y3N58Y7NY3NY3N8Y2N11Y2N15YN12Y4N58Y7NY3NY3N10YN10Y2N29Y3N75Y6NYNY8N18Y2N61YN2Y7N18Y",
     "N99YN2Y6NY2N16YN163Y19N9Y11NY36N110Y12NYN2Y4N23Y4N4Y3NY3N2Y7N3Y4N13Y12NYN10Y4N1652Y2N30Y2N30",
     "Y2N30Y2N66Y19N188Y2N34YN118Y12N4Y9N222Y5N57Y10N2Y20N74Y2N11Y3N49Y5N48Y15N60Y3N30Y9N2Y2N57Y11",
     "N50Y19N432Y14N1729Y52N2294Y32N30836Y8N34Y2N354YN8YN23Y5N88Y2N50Y16NYN57YN38Y5N28Y12N45Y4N48Y",
     "12N37YN67Y14N12YN8Y2N45Y3N50YNY3N2Y2N5YN44Y5N5YN237Y8N20275YN2135Y5N1670Y3NY2N5Y4N788Y4N387Y",
     "2N339Y3N53Y14N45Y2N11Y3N45Y9N9YN61Y3N36Y12N18Y2N57Y3N48Y13N14Y2N92Y9N2YN6YN2YN157Y10N23Y4N58",
     "Y7N2Y2N2Y2N10YN10Y2N209Y13NY3N106Y18N237Y7N2Y7N29Y2N82Y15NYN106Y11N103Y14N257Y13N247Y6NY2N2Y",
     "2N3YNYN142Y7N2Y6N4YN28Y10N42Y5NY4N18Y11N46Y14N407Y8NY7N83Y22NY14N122Y6N3YNY2NY3NYN3YN66Y5NY2",
     "NY4N348Y4N9Y2NYN48Y7N3Y3N20494YNY55N7Y4N93Y2N19628YN9057Y7NY17N2Y7NY2NY5N100YN2231YN2024Y26N",
     "6Y26N6Y26"]

/-- Small letters by decision. -/
def otherLowercase : List (Nat × Nat) :=
  members
    ["N170YN15YN501Y9N7Y2N30Y5N96YN52YN3457YN3119Y63N13YN34Y37N689YN13YN16Y13N211Y16N848Y26N1938Y2",
     "N31262Y2N210YN129Y3N3Y2N866Y4N9YN23574YN2Y3NY42NY9N55413Y62"]

/-- Capitals by decision. -/
def otherUppercase : List (Nat × Nat) :=
  [(0x2160, 0x216F), (0x24B6, 0x24CF), (0x1F130, 0x1F149), (0x1F150, 0x1F169), (0x1F170, 0x1F189)]

def otherMath : List (Nat × Nat) :=
  members
    ["N94YN881Y3N2YN26Y2N2Y2N7200YN27Y3N11YN32Y4N24Y2N14Y2N65Y13N4YN3Y2N4Y5N18YN4YN2Y10NYN3Y5N6YN3",
     "Y2N2Y2NY3NY6N3Y4N5Y5N75Y5N2Y4NY2NY2NYNY5N2Y2N4Y2N4Y18N2Y2NYNY7NYN6Y2N290Y4N168Y2NYN24YN17YN4",
     "45Y2N12Y9N5Y5N5Y2N2Y2N3Y5N14YNYN2Y6N24Y2N57YNYN29Y4N9Y2N342Y2N31Y10N403Y22N63Y4N32Y2N54371YN",
     "YN4YN211YNYN54465Y85NY71NY2N2YN2Y2N2Y4NY12NYNY7NY65NY4N2Y8NY7NY28NY4NY5NYN3Y7NY340N2Y25NY25N",
     "Y31NY25NY31NY25NY31NY25NY31NY25NY8N2Y50N5632Y4NY27NY2NYN2YNY10NY4NYNYN6YN4YNYNYNY3NY2NYN2YNY",
     "NYNYNYNY2NYN2Y4NY7NY4NY4NYNY10NY17N5Y3NY5NY17"]

def otherDefaultIgnorable : List (Nat × Nat) :=
  [(0x34F, 0x34F), (0x115F, 0x1160), (0x17B4, 0x17B5), (0x2065, 0x2065), (0x3164, 0x3164),
   (0xFFA0, 0xFFA0), (0xFFF0, 0xFFF8), (0xE0000, 0xE0000), (0xE0002, 0xE001F), (0xE0080, 0xE00FF),
   (0xE01F0, 0xE0FFF)]

/-- Characters beside the marks that extend a grapheme. -/
def otherGraphemeExtend : List (Nat × Nat) :=
  members
    ["N2494YN24YN358YN24YN102YN24YN234YN18Y2N103YN24YN119YN15YN3413YN1238YN4129Y2N53102Y2N5022YN24",
     "YN344YN12YN241YN896YN47156YN8Y5N798381Y96"]

def otherIdStart : List (Nat × Nat) :=
  [(0x1885, 0x1886), (0x2118, 0x2118), (0x212E, 0x212E), (0x309B, 0x309C)]

def otherIdContinue : List (Nat × Nat) :=
  [(0xB7, 0xB7), (0x387, 0x387), (0x1369, 0x1371), (0x19DA, 0x19DA)]

/-! ## Listed properties -/

def whiteSpace : List (Nat × Nat) :=
  [(0x9, 0xD), (0x20, 0x20), (0x85, 0x85), (0xA0, 0xA0), (0x1680, 0x1680), (0x2000, 0x200A),
   (0x2028, 0x2029), (0x202F, 0x202F), (0x205F, 0x205F), (0x3000, 0x3000)]

def joinControl : List (Nat × Nat) :=
  [(0x200C, 0x200D)]

def asciiHexDigit : List (Nat × Nat) :=
  [(0x30, 0x39), (0x41, 0x46), (0x61, 0x66)]

def bidiControl : List (Nat × Nat) :=
  [(0x61C, 0x61C), (0x200E, 0x200F), (0x202A, 0x202E), (0x2066, 0x2069)]

def bidiMirrored : List (Nat × Nat) :=
  members
    ["N40Y2N18YNYN28YNYN29YNYN45YN15YN3710Y4N1885Y2N2460Y2N10Y2N54Y2N14Y2N177YN192Y4N3Y6N3YN3Y2N3Y",
     "4NY4NYNYN4Y9N5YNY18N5Y4N9Y2NYNY8N2Y31N2Y4N5YN9Y2N2Y19N5Y2N9Y5N2Y2N4Y24N2Y16N8Y4N20Y2N7Y2N108",
     "5Y14N74YN2Y4NY2NY3N5Y4N5Y3N3Y14N403Y22N2Y6NY14N8YN7Y6N3YN4Y5NY2N2Y5N4YNY3N2Y2N10Y6N2Y2N12Y19",
     "NY4N2YNYN2YNY4N5Y2N6Y3N24Y2N11Y2N4Y4NY2N2Y2N4Y43N2Y8NY40N5YNYN3Y5N5Y3N4YN3Y5NYN256YN515Y4N3Y",
     "2NY2N14Y2N2Y10N43Y8N427Y10N2Y8N52797Y6N5Y2N162Y2N18YNYN28YNYN29YNYNY2NY2N55159YN57YN57YN57YN",
     "57Y"]

def dash : List (Nat × Nat) :=
  members
    ["N45YN1372YN51YN3649YN1029YN2057Y6N61YN39YN15YN390YN3076YN2YN31Y2N4YN28YN446YN19YN111YN52624Y",
     "2N37YN10YN169YN3999Y"]

def deprecated : List (Nat × Nat) :=
  [(0x149, 0x149), (0x673, 0x673), (0xF77, 0xF77), (0xF79, 0xF79), (0x17A3, 0x17A4),
   (0x206A, 0x206F), (0x2329, 0x232A), (0xE0001, 0xE0001)]

def diacritic : List (Nat × Nat) :=
  members
    ["N94YNYN71YN6YN4YN2Y2N503Y159NY8N5Y6N17Y2N4YN9Y2N253Y5N209YN55Y17NY27NYNY2NYN134Y8N4Y2N134Y2N",
     "4Y2N3Y3N67Y27N91Y11N58Y11N34Y2N126Y8N41Y10N16Y28N61YN16YN3Y4N28YN74YN16YN110YN16YN110YN16YN4",
     "7Y3N60YN16YN7YN119YN110YN16YN110YN16YN109Y2N16YN124YN124Y6NYN107YN13Y5N75Y2N27YNYNYN4Y2N66Y3",
     "NY2N62YN112YNY2N40Y2N4Y5N25Y7NYN10Y2N705Y3N948Y2N179Y11N9YN347Y3N313Y8N2YN48Y15N2Y11N104YN15",
     "YN38Y9N54Y2N138Y2N64Y6N82Y25N4YN6YN2Y3N50Y63N89Y12N37Y11N445YNY3N11Y3N13Y3N13Y3N13Y2N3312Y3N",
     "317YN506Y6N105Y4N95YN30066YN12Y2NYN28Y2N82Y2N14Y34N102Y3N109Y2N202YN27Y18N57Y4N36YN95YN12YN3",
     "6YN149Y3N65Y4N51YN100Y5N9Y3N128Y2N20272YN769Y16N270YNYN47YN45Y2N67YN764YN1183Y6NY42NY9N810Y2",
     "N571Y6N469Y3N70Y11N49Y4N192YN41YN72Y2N120Y2N62YN76YN9Y3N104Y2N178Y2N81YN16YN24Y7N3Y5N205YN3Y",
     "N123Y2N251Y2N126YN118Y2N115YN269Y2N258Y2N4YN156YN83YN18YN81YN421YN258YNY2N81YN5807Y15N13978Y",
     "5N59Y7N1112Y17N80Y2N16382Y4NY7NY2N7937Y46N2Y23N544Y3N3Y6N8Y8N2Y7N30Y4N3714Y62N194Y7N375YN61Y",
     "4N1504Y7N109Y3NY3"]

def emoji : List (Nat × Nat) :=
  members
    ["N35YN6YN5Y10N111YN4YN8077YN12YN216YN22YN90Y6N15Y2N367Y2N12YN166YN25Y11N4Y3N199YN231Y2N10YN9Y",
     "N58Y4NY5N9YN2YN2Y2N2YN4YN2YNY2N2YN3YN3Y2N8Y3N5YNYN5Y12N11Y2N2YNY2NYN18YN2Y2N18Y6NYNY2N3Y2N5Y",
     "N2Y2N4Y2N11Y2N5Y2N2YN5Y2NYNY2N20Y2N5Y6NY4N2YN4YN2YN2Y6NYN2YNYNYN6YN3YN6YN10Y2N15YN2YN4YNYN4Y",
     "3NYN11Y2N48Y3N9YN14YN14YN372Y2N463Y3N19Y2N51YN4YN1242YN12YN601YNYN114026YN202YN160Y2N12Y2N14",
     "YN2Y10N75Y26NY2N23YN20YN2Y9N21Y2N174Y34N2Y112N2Y2NY3N2Y83N2Y3NY263NY63N11Y6NY24N7Y2N2Y8N12YN",
     "2Y4N2YN4Y2N13Y2N2YN8Y2N9YN5Y3N12Y3N8Y3N2YNYN4YN6YN3YN6Y86N48Y70N5Y8N2Y3N4Y10N3YNY2N3YN2Y10N2",
     "27Y12N4YN283Y47NY10NY185N112Y13N3Y9N7Y46NY7N8Y14N4Y9N7Y9"]

def emojiComponent : List (Nat × Nat) :=
  [(0x23, 0x23), (0x2A, 0x2A), (0x30, 0x39), (0x200D, 0x200D), (0x20E3, 0x20E3), (0xFE0F, 0xFE0F),
   (0x1F1E6, 0x1F1FF), (0x1F3FB, 0x1F3FF), (0x1F9B0, 0x1F9B3), (0xE0020, 0xE007F)]

def emojiModifier : List (Nat × Nat) :=
  [(0x1F3FB, 0x1F3FF)]

def emojiModifierBase : List (Nat × Nat) :=
  members
    ["N9757YN219YN16Y4N117879YN60Y3N2YN2Y3N117Y2N2Y11N21Y19N3YN4Y3NY3N7YNYN24YN201Y2N4YN21YN4Y2N17",
     "4Y3N3Y5N83YN16Y3N9YN11YN575YN2YN8Y8N6YN9Y10N2Y3N56YN61Y2NY2NYN17Y3NY13N229Y3N42Y9"]

def emojiPresentation : List (Nat × Nat) :=
  members
    ["N8986Y2N205Y4N3YN2YN521Y2N21Y2N50Y12N43YN19YN13YN8Y2N17Y2N5Y2N8YN5YN21YN7Y2NYN4YN2YN7YN4Y2N2",
     "8YN35YNYN4Y3NYN61Y3N24YN14YN859Y2N51YN4YN115886YN202YN190YN2Y10N75Y26NYN24YN20YN2Y5NY3N21Y2N",
     "174Y33N12Y9NY70NY22N12Y43N4Y5N12Y17N3YN3Y71NYNY187N2Y63N13Y4NY24N18YN26Y2N13YN86Y85N48Y70N6Y",
     "N3Y3N2Y3N4Y4N11Y2N7Y9N227Y12N4YN283Y47NY10NY185N112Y13N3Y9N7Y46NY7N8Y14N4Y9N7Y9"]

def extendedPictographic : List (Nat × Nat) :=
  members
    ["N169YN4YN8077YN12YN216YN22YN90Y6N15Y2N367Y2N12YN95YN70YN25Y11N4Y3N199YN231Y2N10YN9YN58Y4NY6N",
     "Y12NY114N10Y118N2Y11NYNYN6YN3YN6YN10Y2N15YN2YN4YNYN4Y3NYN11Y5N45Y3N9YN14YN14YN372Y2N463Y3N19",
     "Y2N51YN4YN1242YN12YN601YNYN114022Y256N13Y3N31YN60Y6N12Y2N14YN2Y10N18Y57N27Y15N10YN20YN2Y9NY4",
     "N9Y434N5Y318N8Y266N48Y128N116Y12N85Y43N12Y4N56Y8N10Y6N40Y8N30Y82N12Y47NY10NY441N256Y1022"]

def extender : List (Nat × Nat) :=
  members
    ["N183YN536Y2N878YN441YN858YN752YN127YN2371YN56YN611YN398YN68YN5001YN43Y5N103Y2N93Y3N28438YN15",
     "26YN962YN22YN137YN108YN21Y2N21627YN2064Y2N3034YN616Y3N1231YN20649Y2N1180Y2NYN29016Y2N2054Y3"]

def hexDigit : List (Nat × Nat) :=
  [(0x30, 0x39), (0x41, 0x46), (0x61, 0x66), (0xFF10, 0xFF19), (0xFF21, 0xFF26), (0xFF41, 0xFF46)]

def hyphen : List (Nat × Nat) :=
  [(0x2D, 0x2D), (0xAD, 0xAD), (0x58A, 0x58A), (0x1806, 0x1806), (0x2010, 0x2011), (0x2E17, 0x2E17),
   (0x30FB, 0x30FB), (0xFE63, 0xFE63), (0xFF0D, 0xFF0D), (0xFF65, 0xFF65)]

def idsBinaryOperator : List (Nat × Nat) :=
  [(0x2FF0, 0x2FF1), (0x2FF4, 0x2FFB)]

def idsTrinaryOperator : List (Nat × Nat) :=
  [(0x2FF2, 0x2FF3)]

def ideographic : List (Nat × Nat) :=
  members
    ["N12294Y2N25Y9N14Y3N965Y6592N64Y20992N22784Y366N2Y106N29962YN27Y6136N8Y1238N42Y9N9319Y396N197",
     "16Y42720N32Y4154N6Y222N2Y5762N14Y7473N3103Y542N1506Y4939N5Y4192"]

def logicalOrderException : List (Nat × Nat) :=
  [(0xE40, 0xE44), (0xEC0, 0xEC4), (0x19B5, 0x19B7), (0x19BA, 0x19BA), (0xAAB5, 0xAAB6),
   (0xAAB9, 0xAAB9), (0xAABB, 0xAABC)]

def noncharacterCodePoint : List (Nat × Nat) :=
  members
    ["N64976Y32N526Y2N65534Y2N65534Y2N65534Y2N65534Y2N65534Y2N65534Y2N65534Y2N65534Y2N65534Y2N6553",
     "4Y2N65534Y2N65534Y2N65534Y2N65534Y2N65534Y2N65534Y2"]

def patternSyntax : List (Nat × Nat) :=
  members
    ["N33Y15N10Y7N26Y4NYN26Y4N34Y7NYNY2NYNY2N4YN4YN3YN23YN31YN7960Y24N8Y15N2Y19NY10N305Y720N160Y63",
     "0N30Y1132N512Y128N385Y3N4Y25N15YN52493Y2N261Y2"]

def patternWhiteSpace : List (Nat × Nat) :=
  [(0x9, 0xD), (0x20, 0x20), (0x85, 0x85), (0x200E, 0x200F), (0x2028, 0x2029)]

def prependedConcatenationMark : List (Nat × Nat) :=
  [(0x600, 0x605), (0x6DD, 0x6DD), (0x70F, 0x70F), (0x890, 0x891), (0x8E2, 0x8E2),
   (0x110BD, 0x110BD), (0x110CD, 0x110CD)]

def quotationMark : List (Nat × Nat) :=
  [(0x22, 0x22), (0x27, 0x27), (0xAB, 0xAB), (0xBB, 0xBB), (0x2018, 0x201F), (0x2039, 0x203A),
   (0x2E42, 0x2E42), (0x300C, 0x300F), (0x301D, 0x301F), (0xFE41, 0xFE44), (0xFF02, 0xFF02),
   (0xFF07, 0xFF07), (0xFF62, 0xFF63)]

def radical : List (Nat × Nat) :=
  [(0x2E80, 0x2E99), (0x2E9B, 0x2EF3), (0x2F00, 0x2FD5)]

def regionalIndicator : List (Nat × Nat) :=
  [(0x1F1E6, 0x1F1FF)]

def sentenceTerminal : List (Nat × Nat) :=
  members
    ["N33YN12YN16YN1353YN147Y3N180YN43Y3N246YN61YNYN3Y2N293Y2N1764Y2N790YN4Y2N773YN198Y2N204YN5YN3",
     "14Y2N354Y4N174Y2N2Y2N29Y2N188Y2N65Y2N956Y2N9Y3N3556YN13YN22Y2N429YN29948YN270Y2N227YN3YN382Y",
     "2N86Y2N95YN152Y2N147Y3N144Y2N249YN21094YN3Y2N169YN12YN16YN65YN2804Y2N1277Y5N44Y4N189Y2N117Y4",
     "N127Y3N129Y2N6YN16Y2N88Y2NY2N108YN417Y2N373Y2N5Y15N105Y2N249Y3N517YNYN251Y2N87Y2N420Y2N692Y2",
     "N74Y2N19241Y2N133YN65Y2N11YN851YN19974YN7656Y"]

def softDotted : List (Nat × Nat) :=
  members
    ["N105Y2N196YN281YN30YN52YN20YN320YN98YNYN6409YN51YN13YN3YN132YN157YN421YN214Y2N2866YN108453Y2",
     "N50Y2N50Y2N50Y2N50Y2N50Y2N50Y2N50Y2N50Y2N50Y2N50Y2N50Y2N50Y2N2182YN305Y2N26Y"]

def terminalPunctuation : List (Nat × Nat) :=
  members
    ["N33YN10YNYN11Y2N3YN830YN8YN513YN57YN72YN14YNY3N180YN43Y11NYN235Y2N54Y15N31YN261Y2N1268Y2N172",
     "YN4Y6N311Y2N789Y8N773YN124Y3N71Y2N157Y3N3YN39Y4N2Y2N314Y2N354Y4N174Y2NY3N29Y2N188Y5N62Y2N956",
     "Y2N9Y3N3556YN13YN4YN10YNY2N3Y2N428Y2N29947Y2N269Y3N227Y5N382Y2N86Y2N95YN151Y3N147Y3N127YN16Y",
     "2N249YN21092Y3NY4N169YN10YNYN11Y2N3YN65YN2YN1082YN48YN1158YN199YN310Y2N152Y6N68Y6N89Y4N952Y5",
     "N44Y4N189Y7N112Y4N127Y3N129Y2N6YN16Y2N88Y5N108YN417Y3N12Y2N358Y4N3Y15N105Y2N249Y3N517YNYN251",
     "Y2N87Y2N4Y2N414Y3N45YN645Y2N74Y2N1323Y5N17913Y2N133YN65Y3N10YN850Y2N19974YN7655Y4"]

def unifiedIdeograph : List (Nat × Nat) :=
  [(0x3400, 0x4DBF), (0x4E00, 0x9FFF), (0xFA0E, 0xFA0F), (0xFA11, 0xFA11), (0xFA13, 0xFA14),
   (0xFA1F, 0xFA1F), (0xFA21, 0xFA21), (0xFA23, 0xFA24), (0xFA27, 0xFA29), (0x20000, 0x2A6DF),
   (0x2A700, 0x2B739), (0x2B740, 0x2B81D), (0x2B820, 0x2CEA1), (0x2CEB0, 0x2EBE0),
   (0x30000, 0x3134A), (0x31350, 0x323AF)]

def variationSelector : List (Nat × Nat) :=
  [(0x180B, 0x180D), (0x180F, 0x180F), (0xFE00, 0xFE0F), (0xE0100, 0xE01EF)]

/-- The viramas. -/
def graphemeLink : List (Nat × Nat) :=
  members
    ["N2381YN127YN127YN127YN127YN127YN127YN127YN109Y2N16YN124YN111YN127YN201YN180Y2N1753Y2N30YN157",
     "YN653YN227YN101Y2N70Y2N4491YN31366YN37YN151YN142YN108YN309YN246YN24145YN1542YN41YN14YN57YN12",
     "1Y2N139YN116YN180YN98YN244YN127YN252YN127YN118YN116YN269YN259Y2N161YN83YN18YN81YN421YN260Y2N",
     "81YN425Y2"]

/-! ## Exceptions to the rules of derived properties -/

/-- Capitals and title case letters that no small letter belongs to. -/
def unlowered : List (Nat × Nat) :=
  members
    ["N978Y3N7469YN4YN3Y3N2Y3N2YN3Y5N6YN3YN3Y2N2Y2NYN10Y2N5YN111290Y26N26Y26N26Y26N26YNY2N2YN2Y2N2",
     "Y4NY8N26Y26N26Y2NY4N2Y8NY7N27Y2NY4NY5NYN3Y7N27Y26N26Y26N26Y26N26Y26N26Y26N26Y26N30Y25N33Y25N",
     "33Y25N33Y25N33Y25N33YN6501Y26N6Y26N6Y26"]

/-- Small and title case letters that no capital belongs to. -/
def unraised : List (Nat × Nat) :=
  members
    ["N170YN15YN125YN84YN13YN14Y2N14YN3YN98YN18Y6N27YN2YNYN2Y3N2YNYN2YN5Y2NYN2Y2NY7NY2NYN2Y3N6Y5NY",
     "NY8N2Y26N7Y2N30Y5N149YN129YN355YN39YN2931YN3075Y121NY3NY16NY49N220Y2NYN465YN13YN16Y13N109YN3",
     "Y2N3YN27YN4YN4YN2Y2N8Y4N2855YN2YN2Y7N102YN31159Y2N146Y2N62Y9N21YN6YN25YN35YNYN28Y3N3Y3N821Y3",
     "5NY7NY14N23574YN2Y3NY42NY9N52319Y26N26Y7NY18N26Y26N26Y4NYNY7NY11N26Y26N26Y26N26Y26N26Y26N26Y",
     "26N26Y26N26Y26N26Y26N26Y28N28Y25NY6N26Y25NY6N26Y25NY6N26Y25NY6N26Y25NY6NYN1844Y10NY20N6Y6N26",
     "1Y62"]

/-- Characters with another capital that are their own title case. -/
def titlecased : List (Nat × Nat) :=
  [(0x1C5, 0x1C5), (0x1C8, 0x1C8), (0x1CB, 0x1CB), (0x1F2, 0x1F2), (0x10D0, 0x10FA),
   (0x10FD, 0x10FF), (0x1F88, 0x1F8F), (0x1F98, 0x1F9F), (0x1FA8, 0x1FAF), (0x1FBC, 0x1FBC),
   (0x1FCC, 0x1FCC), (0x1FFC, 0x1FFC)]

/-- Capitals with a title case of their own. -/
def digraphCapitals : List (Nat × Nat) :=
  [(0x1C4, 0x1C4), (0x1C7, 0x1C7), (0x1CA, 0x1CA), (0x1F1, 0x1F1)]

/-- Characters that case folding changes though they have no other small letter. -/
def foldedSmall : List (Nat × Nat) :=
  members
    ["N181YN41YN105YN53YN453YN124YN13Y2N3Y2N25Y2N3YN401YN3696Y6N2178Y9N529Y2N228Y8N8Y8N8Y8N10Y3N2Y",
     "N10Y3N2YN42Y3N2YN35704Y80N20288Y7N12Y5"]

/-- Capitals that case folding leaves alone. -/
def capitalFolded : List (Nat × Nat) :=
  [(0x13A0, 0x13F5)]

/-- Starts of identifiers that compatibility normalization turns into something else. -/
def unstableStart : List (Nat × Nat) :=
  [(0x37A, 0x37A), (0xE33, 0xE33), (0xEB3, 0xEB3), (0x309B, 0x309C), (0xFC5E, 0xFC63),
   (0xFDFA, 0xFDFB), (0xFE70, 0xFE70), (0xFE72, 0xFE72), (0xFE74, 0xFE74), (0xFE76, 0xFE76),
   (0xFE78, 0xFE78), (0xFE7A, 0xFE7A), (0xFE7C, 0xFE7C), (0xFE7E, 0xFE7E), (0xFF9E, 0xFF9F)]

/-- Parts of identifiers that compatibility normalization turns into something else. -/
def unstableContinue : List (Nat × Nat) :=
  [(0x37A, 0x37A), (0x309B, 0x309C), (0xFC5E, 0xFC63), (0xFDFA, 0xFDFB), (0xFE70, 0xFE70),
   (0xFE72, 0xFE72), (0xFE74, 0xFE74), (0xFE76, 0xFE76), (0xFE78, 0xFE78), (0xFE7A, 0xFE7A),
   (0xFE7C, 0xFE7C), (0xFE7E, 0xFE7E)]

/-- Letters of scripts that do not divide words. -/
def dictionaryLetters : List (Nat × Nat) :=
  members
    ["N3585Y48NY2N12Y7N58Y2NYNY5NY24NYNY10NY2N9YN2Y5NYN21Y4N288Y43N20YN16Y6N4Y4N3YN3Y2N7Y3N4Y13N12",
     "YN1777Y52N35YN4YN371Y30N2Y5N11Y44N4Y26N86Y53N82YN36664Y5NY10N10Y5N97Y23N3YN3Y50NYN3Y2N2Y5N2Y",
     "NYN24Y3N27682Y27N37Y7"]

/-- Signs that stand in words like letters. -/
def signLetters : List (Nat × Nat) :=
  [(0x2C2, 0x2C5), (0x2D2, 0x2D7), (0x2DE, 0x2DF), (0x2E5, 0x2EB), (0x2ED, 0x2ED), (0x2EF, 0x2FF),
   (0x55A, 0x55C), (0x55E, 0x55E), (0x58A, 0x58A), (0x5F3, 0x5F3), (0xA708, 0xA716),
   (0xA720, 0xA721), (0xA789, 0xA78A), (0xAB5B, 0xAB5B)]

/-- Characters that belong to what follows them. -/
def prependedMarks : List (Nat × Nat) :=
  [(0x600, 0x605), (0x6DD, 0x6DD), (0x70F, 0x70F), (0x890, 0x891), (0x8E2, 0x8E2), (0xD4E, 0xD4E),
   (0x110BD, 0x110BD), (0x110CD, 0x110CD), (0x111C2, 0x111C3), (0x1193F, 0x1193F),
   (0x11941, 0x11941), (0x11A3A, 0x11A3A), (0x11A84, 0x11A89), (0x11D46, 0x11D46),
   (0x11F02, 0x11F02)]

/-- Spacing marks that do not belong to what they follow. -/
def detachedMarks : List (Nat × Nat) :=
  [(0x102B, 0x102C), (0x1038, 0x1038), (0x1062, 0x1064), (0x1067, 0x106D), (0x1083, 0x1083),
   (0x1087, 0x108C), (0x108F, 0x108F), (0x109A, 0x109C), (0x1A61, 0x1A61), (0x1A63, 0x1A64),
   (0xAA7B, 0xAA7B), (0xAA7D, 0xAA7D), (0x11720, 0x11721)]

/-- Signs after which a sentence goes on. -/
def sentenceContinuers : List (Nat × Nat) :=
  members
    ["N44Y2N12YN1314YN174Y2N490YN4105YN5YN2058Y2N4076YN52750Y2NYN29Y2N29Y2N3YN2YN10YN168Y2N12YN73Y"]

/-- Quotation signs that are no brackets. -/
def closingSigns : List (Nat × Nat) :=
  [(0x22, 0x22), (0x27, 0x27), (0x275B, 0x2760), (0x2E00, 0x2E01), (0x2E06, 0x2E08),
   (0x2E0B, 0x2E0B), (0x1F676, 0x1F678)]

def katakana : List (Nat × Nat) :=
  [(0x3031, 0x3035), (0x309B, 0x309C), (0x30A0, 0x30FA), (0x30FC, 0x30FF), (0x31F0, 0x31FF),
   (0x32D0, 0x32FE), (0x3300, 0x3357), (0xFF66, 0xFF9D), (0x1AFF0, 0x1AFF3), (0x1AFF5, 0x1AFFB),
   (0x1AFFD, 0x1AFFE), (0x1B000, 0x1B000), (0x1B120, 0x1B122), (0x1B155, 0x1B155),
   (0x1B164, 0x1B167)]

end Lexis.Text
