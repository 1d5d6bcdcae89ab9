import UrlRouter.Decimal.Binary64

/-!
The shortest decimal that reads back as a given number, and among the shortest the nearest one.
-/

namespace UrlRouter

/-- The number `digits * 10 ^ exponent`. -/
structure Decimal where
  digits : Nat
  exponent : Int
  deriving DecidableEq, Repr

namespace Binary64

def readsBack (x : Binary64) (d : Decimal) : Bool :=
  decide (ofDecimal x.negative d.digits d.exponent = some x)

/-- The least `k` with the absolute value below `10 ^ k`, searched from `k` on. -/
def scaleFrom (x : Binary64) : Nat → Int → Int
  | 0, k => k
  | steps + 1, k =>
      if x.numerator * Nat.pow 10 (-k).toNat < x.denominator * Nat.pow 10 k.toNat then k
      else scaleFrom x steps (k + 1)

def scale (x : Binary64) : Int :=
  let bits : Int := (Nat.log2 x.significand : Int) + x.exponent
  scaleFrom x 4 (bits * 30103 / 100000 - 1)

/-- The neighbours of the absolute value on the grid of the multiples of `10 ^ exponent`. -/
def below (x : Binary64) (exponent : Int) : Nat :=
  x.numerator * Nat.pow 10 (-exponent).toNat / (x.denominator * Nat.pow 10 exponent.toNat)

/-- The absolute value is nearer to the upper neighbour, or halfway with an odd lower one. -/
def prefersAbove (x : Binary64) (exponent : Int) : Bool :=
  let low := x.below exponent
  let twice := 2 * (x.numerator * Nat.pow 10 (-exponent).toNat)
  let middle := (2 * low + 1) * (x.denominator * Nat.pow 10 exponent.toNat)
  decide (middle < twice) || (decide (middle = twice) && low % 2 == 1)

def onGrid? (x : Binary64) (exponent : Int) : Option Decimal :=
  let low : Decimal := ⟨x.below exponent, exponent⟩
  let high : Decimal := ⟨x.below exponent + 1, exponent⟩
  match x.readsBack low, x.readsBack high with
  | true, true => some (if x.prefersAbove exponent then high else low)
  | true, false => some low
  | false, true => some high
  | false, false => none

/-- The shortest decimal of a number other than zero: the coarsest grid with a neighbour that
reads back. Seventeen digits always do. -/
def shortest (x : Binary64) : Decimal :=
  let k := x.scale
  ((List.range 17).findSome? fun n => x.onGrid? (k - (n + 1 : Nat))).getD
    ⟨x.below (k - 17), k - 17⟩

end Binary64

end UrlRouter
