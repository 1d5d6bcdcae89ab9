import UrlRouter.Json.Number

/-!
Reading of JSON text. Numbers out of range, escapes for half a character and values inside more
than 127 arrays or objects are well formed and unusable.
-/

namespace UrlRouter.Json

def isBlank (c : Char) : Bool := c = ' ' || c = '\t' || c = '\n' || c = '\r'

def skipBlanks (cs : List Char) : List Char := cs.dropWhile isBlank

/-- A part of a string: a character, or sixteen bits given in hexadecimal. -/
inductive StringPart where
  | char (c : Char)
  | unit (n : Nat)

def hexValue? (c : Char) : Option Nat :=
  if isDigit c then some (digitValue c)
  else if 'a' ≤ c ∧ c ≤ 'f' then some (c.toNat - 'a'.toNat + 10)
  else if 'A' ≤ c ∧ c ≤ 'F' then some (c.toNat - 'A'.toNat + 10)
  else none

def fourHex? (a b c d : Char) : Option Nat := do
  let a ← hexValue? a
  let b ← hexValue? b
  let c ← hexValue? c
  let d ← hexValue? d
  some (((a * 16 + b) * 16 + c) * 16 + d)

def simpleEscape? : Char → Option Char
  | '"' => some '"'
  | '\\' => some '\\'
  | '/' => some '/'
  | 'b' => some '\x08'
  | 'f' => some '\x0c'
  | 'n' => some '\n'
  | 'r' => some '\r'
  | 't' => some '\t'
  | _ => none

def readParts : List Char → Option (List StringPart × List Char)
  | [] => none
  | '"' :: cs => some ([], cs)
  | '\\' :: 'u' :: a :: b :: c :: d :: cs => do
      let n ← fourHex? a b c d
      let (ps, cs) ← readParts cs
      some (.unit n :: ps, cs)
  | '\\' :: c :: cs => do
      let e ← simpleEscape? c
      let (ps, cs) ← readParts cs
      some (.char e :: ps, cs)
  | c :: cs =>
      if c.toNat < 0x20 ∨ c = '\\' then none
      else do
        let (ps, cs) ← readParts cs
        some (.char c :: ps, cs)

/-- The characters of the parts; two units make one character beyond the first 65536. -/
def joinParts : List StringPart → Option (List Char)
  | [] => some []
  | .char c :: ps => (joinParts ps).map (c :: ·)
  | .unit n :: .unit m :: ps =>
      if 0xD800 ≤ n ∧ n < 0xDC00 then
        if 0xDC00 ≤ m ∧ m < 0xE000 then
          (joinParts ps).map (Char.ofNat (0x10000 + (n - 0xD800) * 0x400 + (m - 0xDC00)) :: ·)
        else none
      else if 0xDC00 ≤ n ∧ n < 0xE000 then none
      else (joinParts (.unit m :: ps)).map (Char.ofNat n :: ·)
  | .unit n :: ps =>
      if 0xD800 ≤ n ∧ n < 0xE000 then none else (joinParts ps).map (Char.ofNat n :: ·)

/-- A string from behind its opening quote; `none` inside when it has half a character. -/
def readString (cs : List Char) : Option (Option String × List Char) :=
  (readParts cs).map fun (ps, cs) => ((joinParts ps).map String.ofList, cs)

def nested (depth : Nat) (d : Document) : Document := if depth < 127 then d else .unusable

def ofFields (fields : List (Option String × Document)) : Document :=
  match fields.mapM fun (k, d) => k.map fun k => (k, d) with
  | some fields => .obj fields
  | none => .unusable

mutual

/-- One value and what follows it. The first argument bounds the number of steps. -/
def readValue : Nat → Nat → List Char → Option (Document × List Char)
  | 0, _, _ => none
  | steps + 1, depth, cs =>
      match skipBlanks cs with
      | 'n' :: 'u' :: 'l' :: 'l' :: cs => some (.null, cs)
      | 't' :: 'r' :: 'u' :: 'e' :: cs => some (.bool true, cs)
      | 'f' :: 'a' :: 'l' :: 's' :: 'e' :: cs => some (.bool false, cs)
      | '"' :: cs =>
          (readString cs).map fun (s, cs) => (match s with | some s => .str s | none => .unusable, cs)
      | '[' :: cs =>
          match skipBlanks cs with
          | ']' :: cs => some (nested depth (.arr []), cs)
          | cs =>
              (readElements steps (depth + 1) cs).map fun (xs, cs) => (nested depth (.arr xs), cs)
      | '\x7b' :: cs =>
          match skipBlanks cs with
          | '\x7d' :: cs => some (nested depth (.obj []), cs)
          | cs =>
              (readFields steps (depth + 1) cs).map fun (fs, cs) => (nested depth (ofFields fs), cs)
      | cs => (readNumber cs).map fun (n, cs) => (n.value, cs)

def readElements : Nat → Nat → List Char → Option (List Document × List Char)
  | 0, _, _ => none
  | steps + 1, depth, cs => do
      let (x, cs) ← readValue steps depth cs
      match skipBlanks cs with
      | ',' :: cs => (readElements steps depth cs).map fun (xs, cs) => (x :: xs, cs)
      | ']' :: cs => some ([x], cs)
      | _ => none

def readFields : Nat → Nat → List Char → Option (List (Option String × Document) × List Char)
  | 0, _, _ => none
  | steps + 1, depth, cs =>
      match skipBlanks cs with
      | '"' :: cs => do
          let (k, cs) ← readString cs
          match skipBlanks cs with
          | ':' :: cs => do
              let (x, cs) ← readValue steps depth cs
              match skipBlanks cs with
              | ',' :: cs => (readFields steps depth cs).map fun (fs, cs) => ((k, x) :: fs, cs)
              | '\x7d' :: cs => some ([(k, x)], cs)
              | _ => none
          | _ => none
      | _ => none

end

def readDocument (s : String) : Option Document :=
  let cs := s.toList
  match readValue (2 * cs.length + 2) 0 cs with
  | some (d, rest) => if (skipBlanks rest).isEmpty then some d else none
  | none => none

def read? (s : String) : Option Json := (readDocument s).bind Document.toJson?

end UrlRouter.Json
