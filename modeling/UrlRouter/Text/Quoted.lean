import UrlRouter.Unicode.Addition
import UrlRouter.Unicode.Category.Letter
import UrlRouter.Unicode.Category.Other
import UrlRouter.Unicode.GraphemeExtend
import UrlRouter.Unicode.Property

/-!
Quoted text for messages: what cannot be seen, and marks that would join the quote, are written by
code point.
-/

namespace UrlRouter.Text

open Unicode

def isAssigned (c : Char) : Bool :=
  !unassigned.contains c.toNat || addedCharacters.contains c.toNat

/-- Characters that show: no separator but the space, no control or format character, none of private
use, none unassigned and none that is ignored where it cannot be shown. -/
def isPrintable (c : Char) : Bool :=
  c = ' ' ||
    (isAssigned c &&
      !(control.contains c.toNat || format.contains c.toNat || privateUse.contains c.toNat ||
        spaceSeparator.contains c.toNat || lineSeparator.contains c.toNat ||
        paragraphSeparator.contains c.toNat || defaultIgnorableCodePoint.contains c.toNat))

/-- Marks that join the character before them. Letters that do so show by themselves as well. -/
def joinsPrevious (c : Char) : Bool :=
  (graphemeExtend.contains c.toNat || addedGraphemeExtend.contains c.toNat) &&
    !modifierLetter.contains c.toNat

def lowerHex (n : Nat) : List Char := Nat.toDigits 16 n

def quoteChar (c : Char) : List Char :=
  if c = '"' then ['\\', '"']
  else if c = '\\' then ['\\', '\\']
  else if c = '\n' then ['\\', 'n']
  else if c = '\r' then ['\\', 'r']
  else if c = '\t' then ['\\', 't']
  else if c = '\x00' then ['\\', '0']
  else if joinsPrevious c || !isPrintable c then
    ['\\', 'u', '\x7b'] ++ lowerHex c.toNat ++ ['\x7d']
  else [c]

def quoted (s : String) : String :=
  String.ofList ('"' :: s.toList.flatMap quoteChar ++ ['"'])

end UrlRouter.Text
