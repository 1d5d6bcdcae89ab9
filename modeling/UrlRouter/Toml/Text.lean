import UrlRouter.Text.Split

namespace UrlRouter.Toml

def isSpace (c : Char) : Bool := c == ' ' || c == '\t'

def skipSpace (cs : List Char) : List Char := cs.dropWhile isSpace

def isVisible (c : Char) : Bool := c == '\t' || (decide (0x20 ≤ c.toNat) && c.toNat != 0x7F)

def newline? : List Char → Option (List Char)
  | '\n' :: cs => some cs
  | '\r' :: '\n' :: cs => some cs
  | _ => none

/-- Skips spaces, line ends and comments; the argument says whether a comment has begun. -/
def skipTrivia (comment : Bool) : List Char → List Char
  | [] => []
  | c :: cs =>
      if comment && isVisible c then skipTrivia true cs
      else if isSpace c || c == '\n' then skipTrivia false cs
      else if c == '#' then skipTrivia true cs
      else if c == '\r' && cs.head? == some '\n' then skipTrivia false cs
      else c :: cs

def lineEnd? (cs : List Char) : Option (List Char) :=
  let cs :=
    match skipSpace cs with
    | '#' :: cs => cs.dropWhile isVisible
    | cs => cs
  match cs with
  | [] => some []
  | cs => newline? cs

def hexDigit? (c : Char) : Option Nat :=
  if c.isDigit then some (c.toNat - '0'.toNat)
  else if 'a' ≤ c ∧ c ≤ 'f' then some (c.toNat - 'a'.toNat + 10)
  else if 'A' ≤ c ∧ c ≤ 'F' then some (c.toNat - 'A'.toNat + 10)
  else none

def scalar? (cs : List Char) : Option Char := do
  let ds ← cs.mapM hexDigit?
  let n := ds.foldl (fun n d => 16 * n + d) 0
  if n.isValidChar then some (Char.ofNat n) else none

def escape? : Char → Option Char
  | 'b' => some '\x08'
  | 't' => some '\t'
  | 'n' => some '\n'
  | 'f' => some '\x0c'
  | 'r' => some '\r'
  | '"' => some '"'
  | '\\' => some '\\'
  | _ => none

def prepend (c : Option Char) (r : Option (List Char × List Char)) :
    Option (List Char × List Char) :=
  match c, r with
  | some c, some (cs, rest) => some (c :: cs, rest)
  | _, _ => none

def readBasic : List Char → Option (List Char × List Char)
  | [] => none
  | '"' :: cs => some ([], cs)
  | '\\' :: 'u' :: a :: b :: c :: d :: cs => prepend (scalar? [a, b, c, d]) (readBasic cs)
  | '\\' :: 'U' :: a :: b :: c :: d :: e :: f :: g :: h :: cs =>
      prepend (scalar? [a, b, c, d, e, f, g, h]) (readBasic cs)
  | '\\' :: c :: cs => prepend (escape? c) (readBasic cs)
  | c :: cs => if isVisible c && c != '\\' then prepend (some c) (readBasic cs) else none

def readLiteral : List Char → Option (List Char × List Char)
  | [] => none
  | '\'' :: cs => some ([], cs)
  | c :: cs => if isVisible c then prepend (some c) (readLiteral cs) else none

/-- Up to two quotes that belong to a string of several lines, although they follow its closing
quotes. -/
def trailingQuotes (quote : Char) : List Char → List Char × List Char
  | a :: b :: cs =>
      if a == quote && b == quote then ([a, b], cs)
      else if a == quote then ([a], b :: cs)
      else ([], a :: b :: cs)
  | [a] => if a == quote then ([a], []) else ([], [a])
  | [] => ([], [])

/-- A string of several lines with escapes, from behind its first line end. A backslash at the end
of a line skips the line end and all blanks that follow; the argument says whether it does. -/
def readBasicLines (skipping : Bool) : List Char → Option (List Char × List Char)
  | [] => none
  | '"' :: '"' :: '"' :: cs => some (trailingQuotes '"' cs)
  | '\\' :: 'u' :: a :: b :: c :: d :: cs =>
      prepend (scalar? [a, b, c, d]) (readBasicLines false cs)
  | '\\' :: 'U' :: a :: b :: c :: d :: e :: f :: g :: h :: cs =>
      prepend (scalar? [a, b, c, d, e, f, g, h]) (readBasicLines false cs)
  | '\\' :: c :: cs =>
      if (newline? (skipSpace (c :: cs))).isSome then readBasicLines true (c :: cs)
      else prepend (escape? c) (readBasicLines false cs)
  | '\r' :: '\n' :: cs =>
      if skipping then readBasicLines true cs else prepend (some '\n') (readBasicLines false cs)
  | c :: cs =>
      if skipping && (isSpace c || c == '\n') then readBasicLines true cs
      else if (isVisible c || c == '\n') && c != '\\' then
        prepend (some c) (readBasicLines false cs)
      else none

def readLiteralLines : List Char → Option (List Char × List Char)
  | [] => none
  | '\'' :: '\'' :: '\'' :: cs => some (trailingQuotes '\'' cs)
  | '\r' :: '\n' :: cs => prepend (some '\n') (readLiteralLines cs)
  | c :: cs =>
      if isVisible c || c == '\n' then prepend (some c) (readLiteralLines cs) else none

def skipFirstNewline (cs : List Char) : List Char := (newline? cs).getD cs

def readString : List Char → Option (List Char × List Char)
  | '"' :: '"' :: '"' :: cs => readBasicLines false (skipFirstNewline cs)
  | '"' :: cs => readBasic cs
  | '\'' :: '\'' :: '\'' :: cs => readLiteralLines (skipFirstNewline cs)
  | '\'' :: cs => readLiteral cs
  | _ => none

def isBare (c : Char) : Bool := c.isAlphanum || c == '-' || c == '_'

def readSimpleKey : List Char → Option (List Char × List Char)
  | '"' :: cs => readBasic cs
  | '\'' :: cs => readLiteral cs
  | cs =>
      match cs.takeWhile isBare with
      | [] => none
      | key => some (key, cs.dropWhile isBare)

/-- The most that keys may have of parts, and values of arrays and tables around each other. -/
def depthLimit : Nat := 79

def readKeyParts : Nat → List Char → Option (List String × List Char)
  | 0, _ => none
  | parts + 1, cs => do
      let (key, cs) ← readSimpleKey (skipSpace cs)
      match skipSpace cs with
      | '.' :: cs => (readKeyParts parts cs).map fun (keys, cs) => (String.ofList key :: keys, cs)
      | cs => some ([String.ofList key], cs)

structure Key where
  parents : List String
  name : String
  deriving DecidableEq, Repr

def readKey (cs : List Char) : Option (Key × List Char) := do
  let (parts, cs) ← readKeyParts depthLimit cs
  let name ← parts.getLast?
  some (⟨parts.dropLast, name⟩, cs)

end UrlRouter.Toml
