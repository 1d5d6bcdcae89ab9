import UrlRouter.Text.Split
import UrlRouter.Text.Utf8

/-!
Form encoding of names and values: spaces are plus signs, and all bytes but letters, digits and
`*`, `-`, `.`, `_` are written in hexadecimal.
-/

namespace UrlRouter.Form

open Text

def isPlain (b : UInt8) : Bool :=
  let c := Char.ofNat b.toNat
  decide (b < 0x80) && (c.isAlphanum || c == '*' || c == '-' || c == '.' || c == '_')

def upperHex (n : Nat) : Char := (Nat.digitChar n).toUpper

def encodeByte (b : UInt8) : List Char :=
  if b = 0x20 then ['+']
  else if isPlain b then [Char.ofNat b.toNat]
  else ['%', upperHex (b.toNat / 16), upperHex (b.toNat % 16)]

def encode (cs : List Char) : List Char := (utf8 cs).flatMap encodeByte

def encodePair (name value : List Char) : List Char := encode name ++ '=' :: encode value

def encodePairs (pairs : List (String × String)) : String :=
  String.ofList (['&'].intercalate (pairs.map fun (n, v) => encodePair n.toList v.toList))

def hex? (c : Char) : Option Nat :=
  if '0' ≤ c ∧ c ≤ '9' then some (c.toNat - '0'.toNat)
  else if 'a' ≤ c ∧ c ≤ 'f' then some (c.toNat - 'a'.toNat + 10)
  else if 'A' ≤ c ∧ c ≤ 'F' then some (c.toNat - 'A'.toNat + 10)
  else none

/-- The bytes of a text; a percent sign without two hexadecimal digits stands for itself. -/
def decodeBytes : List Char → List UInt8
  | [] => []
  | '%' :: a :: b :: cs =>
      match hex? a, hex? b with
      | some x, some y => UInt8.ofNat (16 * x + y) :: decodeBytes cs
      | _, _ => 0x25 :: decodeBytes (a :: b :: cs)
  | '+' :: cs => 0x20 :: decodeBytes cs
  | c :: cs => String.utf8EncodeChar c ++ decodeBytes cs

def decode (cs : List Char) : List Char := ofUtf8 (decodeBytes cs)

def decodePair (cs : List Char) : String × String :=
  match cut ['='] cs with
  | some (name, value) => (String.ofList (decode name), String.ofList (decode value))
  | none => (String.ofList (decode cs), "")

def decodePairs (s : String) : List (String × String) :=
  ((pieces '&' s.toList).filter (· ≠ [])).map decodePair

def find? (pairs : List (String × String)) (name : String) : Option String :=
  (pairs.find? (·.1 == name)).map (·.2)

def valueOf? (name : String) (piece : List Char) : Option String :=
  if piece = [] then none
  else
    match decodePair piece with
    | (n, value) => if n = name then some value else none

/-- The first value of a name in a text, of which no more is decoded than the pairs up to it. -/
def seek? (name : String) (s : String) : Option String :=
  (pieces '&' s.toList).findSome? (valueOf? name)

end UrlRouter.Form
