import UrlRouter.Calendar.Reader
import UrlRouter.Decimal.Fraction
import UrlRouter.Document.Basic
import UrlRouter.Toml.Text

namespace UrlRouter.Toml

/-- Digits with single underscores between them, which are left out. -/
def digitRun (isDigit : Char → Bool) : List Char → List Char × List Char
  | '_' :: c :: cs =>
      if isDigit c then
        let (ds, rest) := digitRun isDigit cs
        (c :: ds, rest)
      else ([], '_' :: c :: cs)
  | c :: cs =>
      if isDigit c then
        let (ds, rest) := digitRun isDigit cs
        (c :: ds, rest)
      else ([], c :: cs)
  | [] => ([], [])

def digits? (isDigit : Char → Bool) (cs : List Char) : Option (List Char × List Char) :=
  match cs with
  | c :: _ => if isDigit c then some (digitRun isDigit cs) else none
  | [] => none

def splitSign : List Char → List Char × List Char
  | '+' :: cs => (['+'], cs)
  | '-' :: cs => (['-'], cs)
  | cs => ([], cs)

def readWhole (cs : List Char) : Option (List Char × List Char) :=
  let (sign, cs) := splitSign cs
  match cs with
  | '0' :: cs => some (sign ++ ['0'], cs)
  | cs => (digits? Char.isDigit cs).map fun (ds, cs) => (sign ++ ds, cs)

def readRadix (radix : Nat) (cs : List Char) : Option (Document × List Char) := do
  let (ds, cs) ← digits? (fun c => (hexDigit? c).any fun d => decide (d < radix)) cs
  let n := (ds.filterMap hexDigit?).foldl (fun n d => radix * n + d) 0
  if n < Nat.pow 2 63 then some (.int n, cs) else none

def readInteger (cs : List Char) : Option (Document × List Char) :=
  match cs with
  | '0' :: 'x' :: cs => readRadix 16 cs
  | '0' :: 'o' :: cs => readRadix 8 cs
  | '0' :: 'b' :: cs => readRadix 2 cs
  | cs => do
      let (ds, cs) ← readWhole cs
      let n ← int64? ds
      some (.int n, cs)

def readExponent (cs : List Char) : Option (List Char × List Char) :=
  match cs with
  | 'e' :: cs | 'E' :: cs =>
      let (sign, cs) := splitSign cs
      (digits? Char.isDigit cs).map fun (ds, cs) => ('e' :: sign ++ ds, cs)
  | _ => none

def readFractional (cs : List Char) : Option (List Char × List Char) := do
  let (whole, cs) ← readWhole cs
  match cs with
  | '.' :: cs =>
      let (ds, cs) ← digits? Char.isDigit cs
      match cs with
      | 'e' :: _ | 'E' :: _ =>
          (readExponent cs).map fun (e, cs) => (whole ++ '.' :: ds ++ e, cs)
      | cs => some (whole ++ '.' :: ds, cs)
  | cs => (readExponent cs).map fun (e, cs) => (whole ++ e, cs)

def readSpecial (cs : List Char) : Option (Document × List Char) :=
  match (splitSign cs).2 with
  | 'i' :: 'n' :: 'f' :: cs | 'n' :: 'a' :: 'n' :: cs => some (.nonFinite, cs)
  | _ => none

/-- A number beyond the greatest is refused, and one below the least is infinite. -/
def readFloat (cs : List Char) : Option (Document × List Char) :=
  match readFractional cs with
  | some (text, rest) =>
      match finite? text with
      | some x => some (.float x, rest)
      | none => if text.head? = some '-' then some (.nonFinite, rest) else none
  | none => readSpecial cs

def readTwo (cs : List Char) (most : Nat) : Option (Nat × List Char) := do
  let (n, cs) ← readNumber? 2 (some 2) cs
  if n ≤ most then some (n, cs) else none

def readFullDate (cs : List Char) : Option (List Char × List Char) := do
  let (year, cs) ← readNumber? 4 (some 4) cs
  let cs ← readChar? '-' cs
  let (month, cs) ← readTwo cs 12
  let cs ← readChar? '-' cs
  let (day, cs) ← readTwo cs 31
  if month = 0 ∨ day = 0 ∨ daysInMonth year month < day then none
  some (padded 4 year ++ '-' :: padded 2 month ++ '-' :: padded 2 day, cs)

/-- A fraction of a second: nine digits count, and zeros at their end do not show. -/
def readSecondFraction (cs : List Char) : Option (List Char × List Char) :=
  match cs with
  | '.' :: cs =>
      match cs.takeWhile Char.isDigit with
      | [] => none
      | ds =>
          let shown := Text.dropEndWhile (· == '0') (ds.take 9)
          some (if shown = [] then [] else '.' :: shown, cs.dropWhile Char.isDigit)
  | cs => some ([], cs)

def readTimeOfDay (cs : List Char) : Option (List Char × List Char) := do
  let (hour, cs) ← readTwo cs 23
  let cs ← readChar? ':' cs
  let (minute, cs) ← readTwo cs 59
  let cs ← readChar? ':' cs
  let (second, cs) ← readTwo cs 60
  let (fraction, cs) ← readSecondFraction cs
  some (padded 2 hour ++ ':' :: padded 2 minute ++ ':' :: padded 2 second ++ fraction, cs)

/-- An offset from universal time, which may be left out; no offset is negative zero. -/
def readTimeOffset (cs : List Char) : Option (List Char × List Char) :=
  let signed (sign : Char) (cs : List Char) : Option (List Char × List Char) := do
    let (hours, cs) ← readTwo cs 23
    let cs ← readChar? ':' cs
    let (minutes, cs) ← readTwo cs 59
    let sign := if hours = 0 ∧ minutes = 0 then '+' else sign
    some (sign :: padded 2 hours ++ ':' :: padded 2 minutes, cs)
  match cs with
  | 'Z' :: cs | 'z' :: cs => some (['Z'], cs)
  | '+' :: cs => signed '+' cs
  | '-' :: cs => signed '-' cs
  | cs => some ([], cs)

def isTimeDelimiter (c : Char) : Bool := c == 'T' || c == 't' || c == ' '

def readMomentText (cs : List Char) : Option (List Char × List Char) :=
  match readFullDate cs with
  | none => readTimeOfDay cs
  | some (date, []) => some (date, [])
  | some (date, c :: cs) =>
      match if isTimeDelimiter c then readTimeOfDay cs else none with
      | none => some (date, c :: cs)
      | some (time, cs) =>
          (readTimeOffset cs).map fun (offset, cs) => (date ++ 'T' :: time ++ offset, cs)

/-- The field under which a date or a time is found where any value may stand. -/
def momentField : String := "$__toml_private_datetime"

def readMoment (cs : List Char) : Option (Document × List Char) :=
  (readMomentText cs).map fun (text, cs) => (.obj [(momentField, .str (String.ofList text))], cs)

def readNumberOrMoment (cs : List Char) : Option (Document × List Char) :=
  (readMoment cs).or ((readFloat cs).or (readInteger cs))

end UrlRouter.Toml
