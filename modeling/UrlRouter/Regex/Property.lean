import UrlRouter.Regex.Segmentation
import UrlRouter.Unicode.Age
import UrlRouter.Unicode.Alphabetic
import UrlRouter.Unicode.Category.Letter
import UrlRouter.Unicode.Category.Mark
import UrlRouter.Unicode.Category.Number
import UrlRouter.Unicode.Category.Other
import UrlRouter.Unicode.Category.Punctuation
import UrlRouter.Unicode.Category.Symbol
import UrlRouter.Unicode.GraphemeExtend
import UrlRouter.Unicode.Lowercase
import UrlRouter.Unicode.Property
import UrlRouter.Unicode.Script
import UrlRouter.Unicode.WhiteSpace

namespace UrlRouter.Regex

open Unicode

/-- A name without case, blanks, dashes, underscores and an `is` at its start. -/
def looseName (name : List Char) : String :=
  let (rest, cutOff) :=
    match name with
    | 'i' :: 's' :: cs | 'I' :: 's' :: cs | 'i' :: 'S' :: cs | 'I' :: 'S' :: cs => (cs, true)
    | cs => (cs, false)
  let kept :=
    (rest.filter fun c => c.toNat < 0x80 && c != ' ' && c != '_' && c != '-').map Char.toLower
  String.ofList (if cutOff && kept == ['c'] then ['i', 's', 'c'] else kept)

namespace CharClass

def moves (runs : List Run) : CharClass :=
  ofRanges ((runs.flatMap Run.covered).map fun n => (n, n))

def letter : CharClass :=
  ofTables [uppercaseLetter, lowercaseLetter, titlecaseLetter, modifierLetter, otherLetter]

def mark : CharClass := ofTables [nonspacingMark, spacingMark, enclosingMark]

def idStart : CharClass :=
  (letter.union (ofTables [letterNumber, otherIdStart])).diff (ofSorted patternSyntax)

def idContinue : CharClass :=
  idStart.union
    (ofTables [nonspacingMark, spacingMark, decimalNumber, connectorPunctuation, otherIdContinue])

def changesWhenLowercased : CharClass := (moves lowercaseRuns).union (range 0x130 0x130)

def changesWhenTitlecased : CharClass :=
  ((ofSorted changesWhenUppercased).diff (ofSorted changesWhenUppercasedOnly)).union
    (ofSorted changesWhenTitlecasedOnly)

def idCompatMathContinue : CharClass :=
  (ofSorted idCompatMathStart).union
    (ofSorted
      [(0xB2, 0xB3), (0xB9, 0xB9), (0x2070, 0x2070), (0x2074, 0x207E), (0x2080, 0x208E)])

/-- Alphabetic characters that neither case nor category makes so, and some in spite of it. -/
def otherAlphabetic : CharClass :=
  ((ofSorted alphabetic).diff
      (unions [lowercase, uppercase, ofTables [titlecaseLetter, modifierLetter, otherLetter],
        ofSorted letterNumber])).union
    (ofSorted
      [(0x345, 0x345), (0x24B6, 0x24E9), (0x1F130, 0x1F149), (0x1F150, 0x1F169),
        (0x1F170, 0x1F189)])

end CharClass

open CharClass

def propertyClass? (name : String) : Option CharClass :=
  match name with
  | "ahex" | "asciihexdigit" => some (ofSorted asciiHexDigit)
  | "alpha" | "alphabetic" => some (ofSorted alphabetic)
  | "bidic" | "bidicontrol" => some (ofSorted bidiControl)
  | "bidim" | "bidimirrored" => some (ofSorted bidiMirrored)
  | "ci" | "caseignorable" =>
      some (ofTables
        [nonspacingMark, enclosingMark, format, modifierLetter, modifierSymbol, otherCaseIgnorable])
  | "cased" => some (unions [lowercase, uppercase, ofSorted titlecaseLetter])
  | "cwcf" | "changeswhencasefolded" =>
      some (((moves foldingRuns).union (ofSorted fullyFolded)).diff (ofSorted foldedDecomposed))
  | "cwcm" | "changeswhencasemapped" =>
      some (unions [changesWhenLowercased, ofSorted changesWhenUppercased, changesWhenTitlecased])
  | "cwl" | "changeswhenlowercased" => some changesWhenLowercased
  | "cwt" | "changeswhentitlecased" => some changesWhenTitlecased
  | "cwu" | "changeswhenuppercased" => some (ofSorted changesWhenUppercased)
  | "dash" => some (ofSorted dash)
  | "di" | "defaultignorablecodepoint" => some (ofSorted defaultIgnorableCodePoint)
  | "dep" | "deprecated" => some (ofSorted deprecated)
  | "dia" | "diacritic" => some (ofSorted diacritic)
  | "emoji" => some (ofSorted emoji)
  | "ecomp" | "emojicomponent" => some (ofSorted emojiComponent)
  | "emod" | "emojimodifier" => some (ofSorted emojiModifier)
  | "ebase" | "emojimodifierbase" => some (ofSorted emojiModifierBase)
  | "epres" | "emojipresentation" => some (ofSorted emojiPresentation)
  | "extpict" | "extendedpictographic" => some (ofSorted extendedPictographic)
  | "ext" | "extender" => some (ofSorted extender)
  | "grbase" | "graphemebase" =>
      some (compl (ofTables
        [control, format, privateUse, unassigned, lineSeparator, paragraphSeparator,
          graphemeExtend]))
  | "grext" | "graphemeextend" => some (ofSorted graphemeExtend)
  | "grlink" | "graphemelink" => some (ofSorted graphemeLink)
  | "hex" | "hexdigit" => some (ofSorted hexDigit)
  | "hyphen" => some (ofSorted hyphen)
  | "idcompatmathstart" => some (ofSorted idCompatMathStart)
  | "idcompatmathcontinue" => some idCompatMathContinue
  | "idsb" | "idsbinaryoperator" => some (ofSorted idsBinaryOperator)
  | "idst" | "idstrinaryoperator" => some (ofSorted idsTrinaryOperator)
  | "idsu" | "idsunaryoperator" => some (ofSorted idsUnaryOperator)
  | "idc" | "idcontinue" => some idContinue
  | "ids" | "idstart" => some idStart
  | "ideo" | "ideographic" => some (ofSorted ideographic)
  | "joinc" | "joincontrol" => some (ofSorted joinControl)
  | "loe" | "logicalorderexception" => some (ofSorted logicalOrderException)
  | "lower" | "lowercase" => some lowercase
  | "math" => some (ofSorted math)
  | "mcm" | "modifiercombiningmark" => some (ofSorted modifierCombiningMark)
  | "nchar" | "noncharactercodepoint" => some (ofSorted noncharacterCodePoint)
  | "oalpha" | "otheralphabetic" => some otherAlphabetic
  | "odi" | "otherdefaultignorablecodepoint" => some (ofSorted otherDefaultIgnorableCodePoint)
  | "ogrext" | "othergraphemeextend" =>
      some ((ofSorted graphemeExtend).diff (ofTables [nonspacingMark, enclosingMark]))
  | "oidc" | "otheridcontinue" => some (ofSorted otherIdContinue)
  | "oids" | "otheridstart" => some (ofSorted otherIdStart)
  | "olower" | "otherlowercase" => some (ofSorted otherLowercase)
  | "omath" | "othermath" => some ((ofSorted math).diff (ofSorted mathSymbol))
  | "oupper" | "otheruppercase" => some (ofSorted otherUppercase)
  | "patsyn" | "patternsyntax" => some (ofSorted patternSyntax)
  | "patws" | "patternwhitespace" => some (ofSorted patternWhiteSpace)
  | "pcm" | "prependedconcatenationmark" => some (ofSorted prependedConcatenationMark)
  | "qmark" | "quotationmark" => some (ofSorted quotationMark)
  | "radical" => some (ofSorted radical)
  | "ri" | "regionalindicator" => some (ofSorted regionalIndicator)
  | "sterm" | "sentenceterminal" => some (ofSorted sentenceTerminal)
  | "sd" | "softdotted" => some (ofSorted softDotted)
  | "term" | "terminalpunctuation" => some (ofSorted terminalPunctuation)
  | "uideo" | "unifiedideograph" => some (ofSorted unifiedIdeograph)
  | "upper" | "uppercase" => some uppercase
  | "vs" | "variationselector" => some (ofSorted variationSelector)
  | "wspace" | "space" | "whitespace" => some (ofSorted whiteSpace)
  | "xidc" | "xidcontinue" => some (idContinue.diff (ofSorted notXidContinue))
  | "xids" | "xidstart" => some (idStart.diff (ofSorted notXidStart))
  | _ => none

def categoryClass? (name : String) : Option CharClass :=
  match name with
  | "any" => some any
  | "ascii" => some (range 0 0x7F)
  | "assigned" => some (compl (ofSorted unassigned))
  | "c" | "other" => some (ofTables [control, format, privateUse, unassigned])
  | "cc" | "control" | "cntrl" => some (ofSorted control)
  | "cf" | "format" => some (ofSorted format)
  | "cn" | "unassigned" => some (ofSorted unassigned)
  | "co" | "privateuse" => some (ofSorted privateUse)
  | "l" | "letter" => some letter
  | "lc" | "casedletter" => some (ofTables [uppercaseLetter, lowercaseLetter, titlecaseLetter])
  | "ll" | "lowercaseletter" => some (ofSorted lowercaseLetter)
  | "lm" | "modifierletter" => some (ofSorted modifierLetter)
  | "lo" | "otherletter" => some (ofSorted otherLetter)
  | "lt" | "titlecaseletter" => some (ofSorted titlecaseLetter)
  | "lu" | "uppercaseletter" => some (ofSorted uppercaseLetter)
  | "m" | "mark" | "combiningmark" => some mark
  | "mc" | "spacingmark" => some (ofSorted spacingMark)
  | "me" | "enclosingmark" => some (ofSorted enclosingMark)
  | "mn" | "nonspacingmark" => some (ofSorted nonspacingMark)
  | "n" | "number" => some (ofTables [decimalNumber, letterNumber, otherNumber])
  | "nd" | "decimalnumber" | "digit" => some (ofSorted decimalNumber)
  | "nl" | "letternumber" => some (ofSorted letterNumber)
  | "no" | "othernumber" => some (ofSorted otherNumber)
  | "p" | "punctuation" | "punct" =>
      some (ofTables
        [connectorPunctuation, dashPunctuation, openPunctuation, closePunctuation,
          initialPunctuation, finalPunctuation, otherPunctuation])
  | "pc" | "connectorpunctuation" => some (ofSorted connectorPunctuation)
  | "pd" | "dashpunctuation" => some (ofSorted dashPunctuation)
  | "pe" | "closepunctuation" => some (ofSorted closePunctuation)
  | "pf" | "finalpunctuation" => some (ofSorted finalPunctuation)
  | "pi" | "initialpunctuation" => some (ofSorted initialPunctuation)
  | "po" | "otherpunctuation" => some (ofSorted otherPunctuation)
  | "ps" | "openpunctuation" => some (ofSorted openPunctuation)
  | "s" | "symbol" => some (ofTables [mathSymbol, currencySymbol, modifierSymbol, otherSymbol])
  | "sc" | "currencysymbol" => some (ofSorted currencySymbol)
  | "sk" | "modifiersymbol" => some (ofSorted modifierSymbol)
  | "sm" | "mathsymbol" => some (ofSorted mathSymbol)
  | "so" | "othersymbol" => some (ofSorted otherSymbol)
  | "z" | "separator" => some (ofTables [spaceSeparator, lineSeparator, paragraphSeparator])
  | "zl" | "lineseparator" => some (ofSorted lineSeparator)
  | "zp" | "paragraphseparator" => some (ofSorted paragraphSeparator)
  | "zs" | "spaceseparator" => some (ofSorted spaceSeparator)
  | _ => none

def script? (name : String) : Option Script := scripts.find? (·.names.contains name)

def scriptClass? (name : String) : Option CharClass := (script? name).map fun s => ofSorted s.own

def scriptUseClass? (name : String) : Option CharClass :=
  (script? name).map fun s =>
    if s.names.contains "zyyy" then ofSorted commonOnly
    else if s.names.contains "zinh" then ofSorted inheritedOnly
    else ofTables [s.own, s.shared]

def editionNames (number : String) : List String :=
  [number, String.ofList ('v' :: number.toList.filter (· != '.'))]

def ageClass? (name : String) : Option CharClass :=
  (editions.findIdx? fun (number, _) => (editionNames number).contains name).map fun i =>
    ofTables ((editions.take (i + 1)).map (·.2))

def namedClass? (name : List Char) : Option CharClass :=
  let name := looseName name
  (propertyClass? name).or ((categoryClass? name).or (scriptClass? name))

def valuedClass? (property value : List Char) : Option CharClass :=
  let value := looseName value
  match looseName property with
  | "gc" | "generalcategory" => categoryClass? value
  | "sc" | "script" => scriptClass? value
  | "scx" | "scriptextensions" => scriptUseClass? value
  | "age" => ageClass? value
  | "gcb" | "graphemeclusterbreak" => graphemeClass? value
  | "wb" | "wordbreak" => wordBreakClass? value
  | "sb" | "sentencebreak" => sentenceClass? value
  | _ => none

end UrlRouter.Regex
