namespace UrlRouter

inductive IntegerError where
  | empty
  | invalidDigit
  | tooLarge
  | tooSmall
  deriving DecidableEq, Repr

def IntegerError.message : IntegerError → String
  | .empty => "cannot parse integer from empty string"
  | .invalidDigit => "invalid digit found in string"
  | .tooLarge => "number too large to fit in target type"
  | .tooSmall => "number too small to fit in target type"

def digit? (c : Char) : Option Nat := if c.isDigit then some (c.toNat - '0'.toNat) else none

/-- Reads digits behind a value whose absolute value is at most `limit`. The first digit that is
none, or that leaves the limit, decides. -/
def readDigits (limit : Nat) (beyond : IntegerError) : Nat → List Char → Except IntegerError Nat
  | value, [] => .ok value
  | value, c :: cs =>
      match digit? c with
      | none => .error .invalidDigit
      | some d =>
          if 10 * value + d ≤ limit then readDigits limit beyond (10 * value + d) cs
          else .error beyond

def readInt64 (cs : List Char) : Except IntegerError Int :=
  match cs with
  | [] => .error .empty
  | ['+'] | ['-'] => .error .invalidDigit
  | '-' :: cs => (readDigits (Nat.pow 2 63) .tooSmall 0 cs).map fun n => -(n : Int)
  | '+' :: cs => (readDigits (Nat.pow 2 63 - 1) .tooLarge 0 cs).map Int.ofNat
  | cs => (readDigits (Nat.pow 2 63 - 1) .tooLarge 0 cs).map Int.ofNat

def int64? (cs : List Char) : Option Int := (readInt64 cs).toOption

theorem readDigits_le {limit value n : Nat} {beyond : IntegerError} {cs : List Char}
    (hv : value ≤ limit) (h : readDigits limit beyond value cs = .ok n) : n ≤ limit := by
  induction cs generalizing value with
  | nil => simp only [readDigits, Except.ok.injEq] at h; omega
  | cons c cs ih =>
      simp only [readDigits] at h
      split at h
      · cases h
      · split at h
        · exact ih (by assumption) h
        · cases h

end UrlRouter
