import UrlRouter.Calendar.Date

namespace UrlRouter

structure DateTime where
  date : Date
  /-- seconds since midnight -/
  second : Nat
  /-- nanoseconds since the start of the second; a leap second has twice as many -/
  nano : Nat
  deriving DecidableEq

namespace DateTime

def midnight (d : Date) : DateTime := ⟨d, 0, 0⟩

def ofTimestamp? (seconds : Int) : Option DateTime :=
  (Date.ofDays? (seconds / 86400)).map fun d => ⟨d, (seconds % 86400).toNat, 0⟩

/-- The time so many seconds earlier; a leap second stays one. -/
def earlier? (t : DateTime) (seconds : Int) : Option DateTime :=
  let shifted := t.date.toDays * 86400 + t.second - seconds
  (ofTimestamp? shifted).map fun s => { s with nano := t.nano }

def fractionText (nano : Nat) : List Char :=
  if nano = 0 then []
  else if nano % 1000000 = 0 then '.' :: padded 3 (nano / 1000000)
  else if nano % 1000 = 0 then '.' :: padded 6 (nano / 1000)
  else '.' :: padded 9 nano

def text (t : DateTime) : List Char :=
  let leap := 1000000000 ≤ t.nano
  let second := t.second % 60 + if leap then 1 else 0
  let nano := if leap then t.nano - 1000000000 else t.nano
  t.date.text ++ ' ' :: padded 2 (t.second / 3600) ++ ':' :: padded 2 (t.second / 60 % 60) ++
    ':' :: padded 2 second ++ fractionText nano

end DateTime

end UrlRouter
