import UrlRouter.Document.Basic

/-!
Numbers in JSON text. An integer of 64 bits, signed or unsigned, is kept; any other number becomes
a binary64 number from the digits that fit into 64 bits and a power of ten.
-/

namespace UrlRouter.Json

def digitValue (c : Char) : Nat := c.toNat - '0'.toNat

def isDigit (c : Char) : Bool := decide ('0' ≤ c) && decide (c ≤ '9')

def natOfDigits (ds : List Char) : Nat := ds.foldl (fun n c => 10 * n + digitValue c) 0

structure Numeral where
  negative : Bool
  integer : List Char
  fraction : List Char
  /-- whether the power is below zero, and its digits -/
  power : Option (Bool × List Char)

structure Leading where
  value : Nat
  power : Int
  full : Bool

def Leading.integerDigit (l : Leading) (c : Char) : Leading :=
  let next := 10 * l.value + digitValue c
  if l.full ∨ Nat.pow 2 64 ≤ next then { l with power := l.power + 1, full := true }
  else { l with value := next }

def Leading.fractionDigit (l : Leading) (c : Char) : Leading :=
  let next := 10 * l.value + digitValue c
  if l.full ∨ Nat.pow 2 64 ≤ next then { l with full := true }
  else { l with value := next, power := l.power - 1 }

/-- `value * 10 ^ power`, rounded once for the value and once for each factor. -/
def scaled (negative : Bool) (value : Nat) (power : Int) : Option Binary64 := do
  let start ← Binary64.ofRatio negative value 1
  let tens (n : Nat) := Binary64.ofRatio false (Nat.pow 10 n) 1
  if start.isZero then some start
  else if 0 ≤ power then
    if power ≤ 308 then start.mul (← tens power.toNat) else none
  else if -308 ≤ power then start.div (← tens power.natAbs)
  else if -616 ≤ power then (← start.div (← tens 308)).div (← tens (power + 308).natAbs)
  else some { Binary64.zero with negative }

namespace Numeral

def isInteger (n : Numeral) : Bool := n.fraction.isEmpty && n.power.isNone

def value (n : Numeral) : Document :=
  let leading := n.integer.foldl Leading.integerDigit ⟨0, 0, false⟩
  let ofScaled (value : Nat) (power : Int) : Document :=
    match scaled n.negative value power with
    | some x => .float x
    | none => .unusable
  if n.isInteger ∧ ¬ leading.full then
    if ¬ n.negative then .int leading.value
    else if 0 < leading.value ∧ leading.value ≤ Nat.pow 2 63 then .int (-leading.value)
    else ofScaled leading.value 0
  else
    let leading := n.fraction.foldl Leading.fractionDigit { leading with full := false }
    match n.power with
    | none => ofScaled leading.value leading.power
    | some (below, ds) =>
        let power := natOfDigits ds
        if power < Nat.pow 2 31 then
          ofScaled leading.value (leading.power + if below then -(power : Int) else power)
        else if below ∨ leading.value = 0 then .float { Binary64.zero with negative := n.negative }
        else .unusable

end Numeral

def digits? (cs : List Char) : Option (List Char × List Char) :=
  match cs.takeWhile isDigit with
  | [] => none
  | ds => some (ds, cs.dropWhile isDigit)

def readUnsigned (negative : Bool) (cs : List Char) : Option (Numeral × List Char) := do
  let (integer, cs) ← digits? cs
  if integer.head? = some '0' ∧ integer.length ≠ 1 then none
  let (fraction, cs) ←
    match cs with
    | '.' :: cs => digits? cs
    | cs => some ([], cs)
  let (power, cs) ←
    match cs with
    | 'e' :: cs | 'E' :: cs =>
        let (below, cs) :=
          match cs with
          | '-' :: cs => (true, cs)
          | '+' :: cs => (false, cs)
          | cs => (false, cs)
        (digits? cs).map fun (ds, cs) => (some (below, ds), cs)
    | cs => some (none, cs)
  some (⟨negative, integer, fraction, power⟩, cs)

def readNumber : List Char → Option (Numeral × List Char)
  | '-' :: cs => readUnsigned true cs
  | cs => readUnsigned false cs

end UrlRouter.Json
