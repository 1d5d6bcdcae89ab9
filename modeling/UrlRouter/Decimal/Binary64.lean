namespace UrlRouter

def roundHalfEven (num den : Nat) : Nat :=
  let quotient := num / den
  let twice := 2 * (num % den)
  if twice < den ∨ twice = den ∧ quotient % 2 = 0 then quotient else quotient + 1

/-- The sign, and the position of the absolute value among all absolute values in their order:
the eleven bits of the exponent followed by the 52 bits of the fraction. -/
structure Binary64 where
  negative : Bool
  magnitude : Nat
  finite : magnitude < 2047 * Nat.pow 2 52
  deriving DecidableEq

namespace Binary64

def zero : Binary64 := ⟨false, 0, by decide⟩

instance : Inhabited Binary64 := ⟨zero⟩

/-- The absolute value is `significand * 2 ^ exponent`. -/
def significand (x : Binary64) : Nat :=
  let field : Nat := x.magnitude / Nat.pow 2 52
  let fraction := x.magnitude % Nat.pow 2 52
  if field = 0 then fraction else Nat.pow 2 52 + fraction

def exponent (x : Binary64) : Int :=
  let field : Nat := x.magnitude / Nat.pow 2 52
  if field = 0 then -1074 else (field : Int) - 1075

def numerator (x : Binary64) : Nat := x.significand * Nat.pow 2 x.exponent.toNat

def denominator (x : Binary64) : Nat := Nat.pow 2 (-x.exponent).toNat

def same (x y : Binary64) : Bool :=
  x.magnitude == y.magnitude && (x.negative == y.negative || x.magnitude == 0)

/-- The exponent at which the quotient has 53 bits, or the least one. -/
def exponentOf (num den : Nat) : Int :=
  let guess : Int := (Nat.log2 num : Int) - Nat.log2 den - 52
  let short := num * Nat.pow 2 (-(guess + 52)).toNat < den * Nat.pow 2 (guess + 52).toNat
  max (-1074) (if short then guess - 1 else guess)

def ofRatio (negative : Bool) (num den : Nat) : Option Binary64 :=
  if num = 0 then some ⟨negative, 0, by decide⟩
  else
    let e := exponentOf num den
    let units := roundHalfEven (num * Nat.pow 2 (-e).toNat) (den * Nat.pow 2 e.toNat)
    let magnitude := (e + 1074).toNat * Nat.pow 2 52 + units
    if h : magnitude < 2047 * Nat.pow 2 52 then some ⟨negative, magnitude, h⟩ else none

def ofDecimal (negative : Bool) (digits : Nat) (exponent : Int) : Option Binary64 :=
  ofRatio negative (digits * Nat.pow 10 exponent.toNat) (Nat.pow 10 (-exponent).toNat)

def mul (x y : Binary64) : Option Binary64 :=
  ofRatio (x.negative != y.negative) (x.numerator * y.numerator) (x.denominator * y.denominator)

def div (x y : Binary64) : Option Binary64 :=
  ofRatio (x.negative != y.negative) (x.numerator * y.denominator) (x.denominator * y.numerator)

def isZero (x : Binary64) : Bool := x.magnitude == 0

example : (ofRatio false 1 10).map magnitude = some 0x3FB999999999999A := by decide +kernel
example : (ofDecimal false 5 (-324)).map magnitude = some 1 := by decide +kernel
example : (ofDecimal false 17976931348623157 292).map magnitude = some 0x7FEFFFFFFFFFFFFF := by
  decide +kernel
example : ofDecimal false 2 308 = none := by decide +kernel

end Binary64

end UrlRouter
