import UrlRouter.Decimal.Shortest

namespace UrlRouter

def natText (n : Nat) : List Char := Nat.toDigits 10 n

def intText (n : Int) : List Char :=
  if n < 0 then '-' :: natText n.natAbs else natText n.natAbs

namespace Decimal

/-- The digits without zeros at their end, and how many digits stand before the point. -/
def positional (d : Decimal) : List Char × Int :=
  let ds := natText d.digits
  ((ds.reverse.dropWhile (· = '0')).reverse, ds.length + d.exponent)

/-- From six places behind the point to sixteen before it a number is written out, always with a
point; outside of that with an exponent. -/
def text (d : Decimal) : List Char :=
  let (ds, point) := d.positional
  if -5 < point ∧ point ≤ 16 then
    if point ≤ 0 then ['0', '.'] ++ List.replicate (-point).toNat '0' ++ ds
    else if ds.length ≤ point.toNat then
      ds ++ List.replicate (point.toNat - ds.length) '0' ++ ['.', '0']
    else ds.take point.toNat ++ '.' :: ds.drop point.toNat
  else
    let mantissa :=
      match ds with
      | [] => ['0']
      | [c] => [c]
      | c :: cs => c :: '.' :: cs
    mantissa ++ 'e' :: (if point ≤ 0 then '-' else '+') :: natText (point - 1).natAbs

end Decimal

def Binary64.text (x : Binary64) : List Char :=
  (if x.negative then ['-'] else []) ++ (if x.isZero then ['0', '.', '0'] else x.shortest.text)

example : (Binary64.ofDecimal false 1 (-1)).map Binary64.text = some "0.1".toList := by
  decide +kernel
example : (Binary64.ofDecimal true 123456789012345678 0).map Binary64.text =
    some "-1.2345678901234568e+17".toList := by
  decide +kernel
example : (Binary64.ofDecimal false 1 (-5)).map Binary64.text = some "0.00001".toList := by
  decide +kernel
example : (Binary64.ofDecimal false 1 15).map Binary64.text =
    some "1000000000000000.0".toList := by
  decide +kernel
example : (Binary64.ofDecimal false 5 (-324)).map Binary64.text = some "5e-324".toList := by
  decide +kernel

end UrlRouter
