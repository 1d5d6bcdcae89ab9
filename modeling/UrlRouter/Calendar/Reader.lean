import UrlRouter.Calendar.DateTime
import UrlRouter.Decimal.Integer
import UrlRouter.Json.Basic
import UrlRouter.Text.Split

namespace UrlRouter

open Text

def readNumber? (least : Nat) (most : Option Nat) (cs : List Char) : Option (Nat × List Char) :=
  let ds := (match most with | some n => cs.take n | none => cs).takeWhile Char.isDigit
  if ds.length < least then none
  else some (ds.foldl (fun n c => 10 * n + (c.toNat - '0'.toNat)) 0, cs.drop ds.length)

def readChar? (c : Char) : List Char → Option (List Char)
  | [] => none
  | d :: cs => if d = c then some cs else none

def readPair? (cs : List Char) : Option (Nat × List Char) := readNumber? 1 (some 2) (trimStart cs)

def readYear? (cs : List Char) : Option (Int × List Char) :=
  match trimStart cs with
  | '-' :: cs => (readNumber? 1 none cs).map fun (n, cs) => (-(n : Int), cs)
  | '+' :: cs => (readNumber? 1 none cs).map fun (n, cs) => ((n : Int), cs)
  | cs => (readNumber? 1 (some 4) cs).map fun (n, cs) => ((n : Int), cs)

def readDate? (cs : List Char) : Option (Date × List Char) := do
  let (year, cs) ← readYear? cs
  let cs ← readChar? '-' cs
  let (month, cs) ← readPair? cs
  let cs ← readChar? '-' cs
  let (day, cs) ← readPair? cs
  let date ← Date.of? year month day
  some (date, cs)

/-- The time of the day; second 60 is a leap second. -/
def timeOf? (date : Date) (hour minute second nano : Nat) : Option DateTime :=
  if 23 < hour ∨ 59 < minute ∨ 60 < second then none
  else if second = 60 then some ⟨date, (hour * 60 + minute) * 60 + 59, 1000000000 + nano⟩
  else some ⟨date, (hour * 60 + minute) * 60 + second, nano⟩

def readTime? (date : Date) (cs : List Char) : Option (DateTime × List Char) := do
  let (hour, cs) ← readPair? cs
  let cs ← readChar? ':' cs
  let (minute, cs) ← readPair? cs
  let cs ← readChar? ':' cs
  let (second, cs) ← readPair? cs
  let time ← timeOf? date hour minute second 0
  some (time, cs)

def whole? {α : Type} (r : Option (α × List Char)) : Option α :=
  match r with
  | some (a, []) => some a
  | _ => none

def date? (cs : List Char) : Option Date := whole? (readDate? cs)

def spacedTime? (cs : List Char) : Option DateTime :=
  whole? ((readDate? cs).bind fun (d, cs) => readTime? d (trimStart cs))

def letteredTime? (cs : List Char) : Option DateTime := do
  let (d, cs) ← readDate? cs
  let cs ← readChar? 'T' cs
  whole? (readTime? d cs)

/-- A fraction of a second in nanoseconds; digits beyond the ninth are dropped. -/
def readFraction? (cs : List Char) : Option (Nat × List Char) := do
  let (value, rest) ← readNumber? 1 (some 9) cs
  some (value * Nat.pow 10 (9 - (cs.length - rest.length)), rest.dropWhile Char.isDigit)

def readOffset? (cs : List Char) : Option (Int × List Char) := do
  let signed (negative : Bool) (cs : List Char) : Option (Int × List Char) := do
    let (hours, cs) ← readNumber? 2 (some 2) cs
    let cs ← readChar? ':' cs
    let (minutes, cs) ← readNumber? 2 (some 2) cs
    if 23 < hours ∨ 59 < minutes then none
    let seconds : Int := ((hours * 60 + minutes) * 60 : Nat)
    some (if negative then -seconds else seconds, cs)
  match cs with
  | 'Z' :: cs | 'z' :: cs => some (0, cs)
  | '+' :: cs => signed false cs
  | '-' :: cs => signed true cs
  | '\u2212' :: cs => signed true cs
  | _ => none

def internetTime? (cs : List Char) : Option DateTime := do
  let (year, cs) ← readNumber? 4 (some 4) cs
  let cs ← readChar? '-' cs
  let (month, cs) ← readNumber? 2 (some 2) cs
  let cs ← readChar? '-' cs
  let (day, cs) ← readNumber? 2 (some 2) cs
  let cs ←
    match cs with
    | 't' :: cs | 'T' :: cs | ' ' :: cs => some cs
    | _ => none
  let (hour, cs) ← readNumber? 2 (some 2) cs
  let cs ← readChar? ':' cs
  let (minute, cs) ← readNumber? 2 (some 2) cs
  let cs ← readChar? ':' cs
  let (second, cs) ← readNumber? 2 (some 2) cs
  let (nano, cs) ←
    match cs with
    | '.' :: cs => readFraction? cs
    | cs => some (0, cs)
  let offset ← whole? (readOffset? cs)
  let date ← Date.of? year month day
  let time ← timeOf? date hour minute second nano
  time.earlier? offset

def timestamp? (cs : List Char) : Option DateTime := (int64? cs).bind DateTime.ofTimestamp?

def dateTimeOfText? (cs : List Char) : Option DateTime :=
  (internetTime? cs).or ((spacedTime? cs).or ((letteredTime? cs).or
    (((date? cs).map DateTime.midnight).or (timestamp? cs))))

def dateTime? : Json → Option DateTime
  | .int n => ((Json.int n).asInt64?).bind DateTime.ofTimestamp?
  | .str s => dateTimeOfText? (trim s.toList)
  | _ => none

end UrlRouter
