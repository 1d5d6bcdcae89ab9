import UrlRouter.Unicode.Addition
import UrlRouter.Unicode.Alphabetic
import UrlRouter.Unicode.Category.Number

namespace UrlRouter.Unicode

def isAlphabetic (c : Char) : Bool :=
  alphabetic.contains c.toNat || addedAlphabetic.contains c.toNat

def isNumeric (c : Char) : Bool :=
  decimalNumber.contains c.toNat || letterNumber.contains c.toNat || otherNumber.contains c.toNat ||
    addedNumeric.contains c.toNat

def isAlphanumeric (c : Char) : Bool := isAlphabetic c || isNumeric c

end UrlRouter.Unicode
