import UrlRouter.Decimal.Binary64

namespace UrlRouter

def spanDigits (cs : List Char) : List Char × List Char :=
  (cs.takeWhile Char.isDigit, cs.dropWhile Char.isDigit)

def digitsValue (ds : List Char) : Nat :=
  ds.foldl (fun n c => 10 * n + (c.toNat - '0'.toNat)) 0

/-- The nearest number to `digits * 10 ^ exponent`, `none` beyond the largest one. Exponents far
outside of the range of the format are decided without computing the power. -/
def nearest (negative : Bool) (digits : Nat) (exponent : Int) : Option Binary64 :=
  let places : Int := (Nat.toDigits 10 digits).length + exponent
  if digits = 0 ∨ places < -400 then some { Binary64.zero with negative }
  else if 400 < places then none
  else Binary64.ofDecimal negative digits exponent

def readExponent (cs : List Char) : Option Int :=
  let (negative, cs) :=
    match cs with
    | '-' :: cs => (true, cs)
    | '+' :: cs => (false, cs)
    | cs => (false, cs)
  match spanDigits cs with
  | ([], _) | (_, _ :: _) => none
  | (ds, []) => some (if negative then -(digitsValue ds : Int) else digitsValue ds)

def readUnsignedFraction (negative : Bool) (cs : List Char) : Option Binary64 :=
  let (whole, cs) := spanDigits cs
  let (fraction, cs) :=
    match cs with
    | '.' :: cs => spanDigits cs
    | cs => ([], cs)
  if whole = [] ∧ fraction = [] then none
  else
    let exponent :=
      match cs with
      | [] => some 0
      | 'e' :: cs | 'E' :: cs => readExponent cs
      | _ => none
    exponent.bind fun e => nearest negative (digitsValue (whole ++ fraction)) (e - fraction.length)

def finite? : List Char → Option Binary64
  | '-' :: cs => readUnsignedFraction true cs
  | '+' :: cs => readUnsignedFraction false cs
  | cs => readUnsignedFraction false cs

end UrlRouter
