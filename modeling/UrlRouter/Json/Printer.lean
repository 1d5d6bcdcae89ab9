import UrlRouter.Decimal.Notation
import UrlRouter.Json.Basic

/-!
The canonical text of a JSON value: no blanks, fields in their order, and as few escapes as JSON
allows.
-/

namespace UrlRouter.Json

def hexDigit (n : Nat) : Char := Nat.digitChar n

def escape (c : Char) : List Char :=
  if c = '"' then ['\\', '"']
  else if c = '\\' then ['\\', '\\']
  else if c = '\x08' then ['\\', 'b']
  else if c = '\t' then ['\\', 't']
  else if c = '\n' then ['\\', 'n']
  else if c = '\x0c' then ['\\', 'f']
  else if c = '\r' then ['\\', 'r']
  else if c.toNat < 0x20 then
    ['\\', 'u', '0', '0', hexDigit (c.toNat / 16), hexDigit (c.toNat % 16)]
  else [c]

def stringText (s : String) : List Char := '"' :: s.toList.flatMap escape ++ ['"']

mutual

def render : Json → List Char
  | .null => ['n', 'u', 'l', 'l']
  | .bool true => ['t', 'r', 'u', 'e']
  | .bool false => ['f', 'a', 'l', 's', 'e']
  | .int n => intText n
  | .float x => x.text
  | .str s => stringText s
  | .arr [] => ['[', ']']
  | .arr (x :: xs) => '[' :: x.render ++ renderElements xs
  | .obj [] => ['\x7b', '\x7d']
  | .obj ((k, x) :: fs) => '\x7b' :: stringText k ++ ':' :: x.render ++ renderFields fs

def renderElements : List Json → List Char
  | [] => [']']
  | x :: xs => ',' :: x.render ++ renderElements xs

def renderFields : List (String × Json) → List Char
  | [] => ['\x7d']
  | (k, x) :: fs => ',' :: stringText k ++ ':' :: x.render ++ renderFields fs

end

def text (j : Json) : String := String.ofList j.render

def valueText? : Json → Option String
  | .null => none
  | .str s => some s
  | j => some j.text

theorem valueText?_eq_none_iff {j : Json} : j.valueText? = none ↔ j = .null := by
  cases j <;> simp [valueText?]

end UrlRouter.Json
