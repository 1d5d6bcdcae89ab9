import UrlRouter.Text.Utf8

/-!
Positions in the bytes of a text. A part of a text begins and ends at borders of characters: there
is no slice from or to any other position.
-/

namespace UrlRouter.Text

def isBoundary (bs : List UInt8) (i : Nat) : Bool :=
  match bs[i]? with
  | some b => !isContinuation b
  | none => decide (i = bs.length)

def slice? (bs : List UInt8) (i j : Nat) : Option (List UInt8) :=
  if i ≤ j ∧ isBoundary bs i = true ∧ isBoundary bs j = true then some ((bs.take j).drop i)
  else none

def position? (needle : List UInt8) : List UInt8 → Option Nat
  | [] => if needle = [] then some 0 else none
  | b :: bs =>
      if needle.isPrefixOf (b :: bs) then some 0 else (position? needle bs).map (· + 1)

theorem le_length_of_isBoundary {bs : List UInt8} {i : Nat} (h : isBoundary bs i = true) :
    i ≤ bs.length := by
  unfold isBoundary at h
  split at h
  · next hget => exact Nat.le_of_lt (List.getElem?_eq_some_iff.1 hget).1
  · exact Nat.le_of_eq (of_decide_eq_true h)

theorem length_of_slice? {bs part : List UInt8} {i j : Nat} (h : slice? bs i j = some part) :
    i + part.length = j ∧ j ≤ bs.length := by
  unfold slice? at h
  split at h
  · next hij =>
    cases h
    have hj := le_length_of_isBoundary hij.2.2
    rw [List.length_drop, List.length_take]
    omega
  · cases h

end UrlRouter.Text
