import UrlRouter.Regex.CharClass
import UrlRouter.Unicode.Alphabetic
import UrlRouter.Unicode.Boundary
import UrlRouter.Unicode.Category.Letter
import UrlRouter.Unicode.Category.Mark
import UrlRouter.Unicode.Category.Number
import UrlRouter.Unicode.Category.Other
import UrlRouter.Unicode.Category.Punctuation
import UrlRouter.Unicode.GraphemeExtend
import UrlRouter.Unicode.Property
import UrlRouter.Unicode.Script
import UrlRouter.Unicode.WhiteSpace

/-!
The classes by which text is divided into graphemes, words and sentences. Each character is in at
most one class of each kind; those in none have no name here.
-/

namespace UrlRouter.Regex

open Unicode

namespace CharClass

def ofTables (ts : List Ranges) : CharClass := unions (ts.map ofSorted)

def ofCode (n : Nat) : CharClass := range n n

def lowercase : CharClass := ofTables [lowercaseLetter, otherLowercase]

def uppercase : CharClass := ofTables [uppercaseLetter, otherUppercase]

def joining : CharClass := ofTables [graphemeExtend, emojiModifier]

def joiner : CharClass := ofCode 0x200D

/-- Hangul syllables, every 28th of which has no trailing consonant. -/
def syllables (trailing : Bool) : CharClass :=
  let plain := ofSorted ((List.range' 0xAC00 399 28).map fun n => (n, n))
  if trailing then (range 0xAC00 0xD7A3).diff plain else plain

end CharClass

open CharClass

def graphemeClass? (name : String) : Option CharClass :=
  match name with
  | "cr" => some (ofCode 0xD)
  | "lf" => some (ofCode 0xA)
  | "cn" | "control" =>
      some (((ofTables [lineSeparator, paragraphSeparator, control, format]).union
          ((ofSorted unassigned).inter (ofSorted defaultIgnorableCodePoint))).diff
        (unions [ofTables [[(0xA, 0xA), (0xD, 0xD)], [(0x200C, 0x200D)],
          prependedConcatenationMark], joining]))
  | "ex" | "extend" => some joining
  | "zwj" => some joiner
  | "pp" | "prepend" => some (ofTables [prependedConsonant, prependedConcatenationMark])
  | "sm" | "spacingmark" =>
      some ((((ofSorted spacingMark).diff joining).union
          (ofSorted [(0xE33, 0xE33), (0xEB3, 0xEB3)])).diff (ofSorted standaloneVowel))
  | "l" => some (ofSorted leadingJamo)
  | "v" => some (ofSorted vowelJamo)
  | "t" => some (ofSorted trailingJamo)
  | "lv" => some (syllables false)
  | "lvt" => some (syllables true)
  | "ri" | "regionalindicator" => some (ofSorted regionalIndicator)
  | _ => none

namespace CharClass

def wordJoining : CharClass :=
  (ofTables [graphemeExtend, spacingMark, emojiModifier]).diff joiner

def wordNumeric : CharClass := (ofTables [decimalNumber, numericSign]).diff (ofCode 0x66C)

def wordKatakana : CharClass :=
  ofTables [katakanaScript.own,
    [(0x3031, 0x3035), (0x309B, 0x309C), (0x30A0, 0x30A0), (0x30FC, 0x30FC), (0xFF70, 0xFF70)]]

def hebrewLetter : CharClass := (ofSorted hebrewScript.own).inter (ofSorted otherLetter)

end CharClass

def wordBreakClass? (name : String) : Option CharClass :=
  match name with
  | "cr" => some (ofCode 0xD)
  | "lf" => some (ofCode 0xA)
  | "nl" | "newline" => some (ofSorted [(0xB, 0xC), (0x85, 0x85), (0x2028, 0x2029)])
  | "dq" | "doublequote" => some (ofCode 0x22)
  | "sq" | "singlequote" => some (ofCode 0x27)
  | "hl" | "hebrewletter" => some hebrewLetter
  | "zwj" => some joiner
  | "ri" | "regionalindicator" => some (ofSorted regionalIndicator)
  | "extend" => some wordJoining
  | "nu" | "numeric" => some wordNumeric
  | "fo" | "format" =>
      some ((ofSorted format).diff
        (unions [wordJoining, wordNumeric, ofSorted [(0x70F, 0x70F), (0x200B, 0x200D)]]))
  | "ka" | "katakana" => some wordKatakana
  | "ex" | "extendnumlet" => some (ofTables [connectorPunctuation, [(0x202F, 0x202F)]])
  | "wsegspace" =>
      some ((ofSorted spaceSeparator).diff
        (ofSorted [(0xA0, 0xA0), (0x2007, 0x2007), (0x202F, 0x202F)]))
  | "mb" | "midnumlet" =>
      some (ofSorted
        [(0x2E, 0x2E), (0x2018, 0x2019), (0x2024, 0x2024), (0xFE52, 0xFE52), (0xFF07, 0xFF07),
          (0xFF0E, 0xFF0E)])
  | "ml" | "midletter" =>
      some (ofSorted
        [(0x3A, 0x3A), (0xB7, 0xB7), (0x387, 0x387), (0x55F, 0x55F), (0x5F4, 0x5F4),
          (0x2027, 0x2027), (0xFE13, 0xFE13), (0xFE55, 0xFE55), (0xFF1A, 0xFF1A)])
  | "mn" | "midnum" => some (ofSorted numberSeparator)
  | "le" | "aletter" =>
      some ((ofTables [alphabetic, letterLike]).diff
        (unions
          [ofTables [ideographic, southeastAsian, hiraganaScript.own], wordKatakana, wordJoining,
            hebrewLetter, wordNumeric]))
  | _ => none

namespace CharClass

def sentenceJoining : CharClass :=
  unions [ofTables [graphemeExtend, spacingMark], joiner]

def sentenceNumeric : CharClass := ofTables [decimalNumber, numericSign]

/-- Georgian capital letters, and the small ones that they capitalize, are caseless in sentences. -/
def sentenceLower : CharClass :=
  lowercase.diff (ofTables [graphemeExtend, [(0x10D0, 0x10FA), (0x10FD, 0x10FF)]])

def sentenceUpper : CharClass :=
  ((ofSorted titlecaseLetter).union uppercase).diff (ofSorted [(0x1C90, 0x1CBA), (0x1CBD, 0x1CBF)])

def fullStop : CharClass :=
  ofSorted [(0x2E, 0x2E), (0x2024, 0x2024), (0xFE52, 0xFE52), (0xFF0E, 0xFF0E)]

end CharClass

def sentenceClass? (name : String) : Option CharClass :=
  match name with
  | "cr" => some (ofCode 0xD)
  | "lf" => some (ofCode 0xA)
  | "se" | "sep" => some (ofSorted [(0x85, 0x85), (0x2028, 0x2029)])
  | "ex" | "extend" => some sentenceJoining
  | "fo" | "format" =>
      some ((ofSorted format).diff
        (unions [sentenceJoining, sentenceNumeric, ofSorted [(0x200C, 0x200D)]]))
  | "sp" =>
      some ((ofSorted whiteSpace).diff
        (ofSorted [(0xA, 0xA), (0xD, 0xD), (0x85, 0x85), (0x2028, 0x2029)]))
  | "lo" | "lower" => some sentenceLower
  | "up" | "upper" => some sentenceUpper
  | "nu" | "numeric" => some sentenceNumeric
  | "le" | "oletter" =>
      some ((ofTables [alphabetic, [(0x5F3, 0x5F3)]]).diff
        (unions [sentenceLower, sentenceUpper, sentenceJoining]))
  | "at" | "aterm" => some fullStop
  | "st" | "sterm" => some ((ofSorted sentenceTerminal).diff fullStop)
  | "sc" | "scontinue" => some (ofSorted clauseSeparator)
  | "cl" | "close" =>
      some ((ofTables
          [openPunctuation, closePunctuation, initialPunctuation, finalPunctuation,
            otherQuotation]).diff
        (unions [ofSorted [(0x5F3, 0x5F3)], ofSorted sentenceTerminal, fullStop]))
  | _ => none

end UrlRouter.Regex
