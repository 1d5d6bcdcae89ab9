import UrlRouter.Toml.Number
import UrlRouter.Toml.Table

namespace UrlRouter.Toml

mutual

/-- One value and what follows it, inside `depth` arrays and tables. The first argument bounds the
number of steps. -/
def readValue : Nat → Nat → List Char → Option (Document × List Char)
  | 0, _, _ => none
  | steps + 1, depth, cs =>
      match cs with
      | '"' :: _ | '\'' :: _ => (readString cs).map fun (s, cs) => (.str (String.ofList s), cs)
      | '[' :: cs =>
          if depthLimit ≤ depth then none
          else (readElements steps (depth + 1) cs).map fun (xs, cs) => (.arr xs, cs)
      | '\x7b' :: cs =>
          if depthLimit ≤ depth then none
          else
            match skipSpace cs with
            | '\x7d' :: cs => some (.obj [], cs)
            | cs => do
                let (pairs, cs) ← readPairs steps (depth + 1) cs
                let fields ← Fields.insertValues pairs []
                some (.obj (fieldsToDocument fields), cs)
      | 't' :: 'r' :: 'u' :: 'e' :: cs => some (.bool true, cs)
      | 'f' :: 'a' :: 'l' :: 's' :: 'e' :: cs => some (.bool false, cs)
      | cs => (readNumberOrMoment cs).or (readSpecial cs)

def readElements : Nat → Nat → List Char → Option (List Document × List Char)
  | 0, _, _ => none
  | steps + 1, depth, cs =>
      match skipTrivia false cs with
      | ']' :: cs => some ([], cs)
      | cs => do
          let (x, cs) ← readValue steps depth cs
          match skipTrivia false cs with
          | ',' :: cs => (readElements steps depth cs).map fun (xs, cs) => (x :: xs, cs)
          | ']' :: cs => some ([x], cs)
          | _ => none

def readPairs : Nat → Nat → List Char → Option (List (Key × Document) × List Char)
  | 0, _, _ => none
  | steps + 1, depth, cs => do
      let (key, cs) ← readKey cs
      let cs ← readChar? '=' cs
      let (d, cs) ← readValue steps depth (skipSpace cs)
      match skipSpace cs with
      | ',' :: cs => (readPairs steps depth cs).map fun (ps, cs) => ((key, d) :: ps, cs)
      | '\x7d' :: cs => some ([(key, d)], cs)
      | _ => none

end

inductive Line where
  | header (h : Header)
  | pair (key : Key) (d : Document)

def readHeader : List Char → Option (Header × List Char)
  | '[' :: '[' :: cs => do
      let (key, cs) ← readKey cs
      let cs ← readChar? ']' cs
      let cs ← readChar? ']' cs
      some (.element key, cs)
  | '[' :: cs => do
      let (key, cs) ← readKey cs
      let cs ← readChar? ']' cs
      some (.table key, cs)
  | _ => none

def readLine (cs : List Char) : Option (Line × List Char) :=
  match cs with
  | '[' :: _ => (readHeader cs).map fun (h, cs) => (.header h, cs)
  | cs => do
      let (key, cs) ← readKey cs
      let cs ← readChar? '=' cs
      let cs := skipSpace cs
      let (d, cs) ← readValue (2 * cs.length + 2) 0 cs
      some (.pair key d, cs)

def readLines : Nat → List Char → Option (List Line)
  | 0, _ => none
  | steps + 1, cs =>
      match skipTrivia false cs with
      | [] => some []
      | cs => do
          let (line, cs) ← readLine cs
          let cs ← lineEnd? cs
          (readLines steps cs).map (line :: ·)

def parts : List Line → List Part
  | [] => [⟨.root, []⟩]
  | line :: lines =>
      match line, parts lines with
      | .pair key d, p :: ps => { p with pairs := (key, d) :: p.pairs } :: ps
      | .header h, p :: ps => ⟨.root, []⟩ :: { p with header := h } :: ps
      | _, [] => []

def readDocument (s : String) : Option Document :=
  let cs :=
    match s.toList with
    | '\ufeff' :: cs => cs
    | cs => cs
  (readLines (cs.length + 1) cs).bind fun lines => documentOfParts? (parts lines)

end UrlRouter.Toml
