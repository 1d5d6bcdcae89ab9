import UrlRouter.Decimal.Notation

namespace UrlRouter

def isLeapYear (year : Int) : Bool := year % 4 == 0 && (year % 100 != 0 || year % 400 == 0)

def daysInMonth (year : Int) : Nat → Nat
  | 2 => if isLeapYear year then 29 else 28
  | 4 | 6 | 9 | 11 => 30
  | _ => 31

def leastYear : Int := -262143

def greatestYear : Int := 262142

structure Date where
  year : Int
  month : Nat
  day : Nat
  year_mem : leastYear ≤ year ∧ year ≤ greatestYear
  month_mem : 1 ≤ month ∧ month ≤ 12
  day_mem : 1 ≤ day ∧ day ≤ daysInMonth year month
  deriving DecidableEq

namespace Date

def of? (year : Int) (month day : Nat) : Option Date :=
  if hy : leastYear ≤ year ∧ year ≤ greatestYear then
    if hm : 1 ≤ month ∧ month ≤ 12 then
      if hd : 1 ≤ day ∧ day ≤ daysInMonth year month then some ⟨year, month, day, hy, hm, hd⟩
      else none
    else none
  else none

theorem of?_eq_some_iff {year : Int} {month day : Nat} {d : Date} :
    of? year month day = some d ↔ d.year = year ∧ d.month = month ∧ d.day = day := by
  constructor
  · intro h
    simp only [of?] at h
    split at h
    · split at h
      · split at h
        · cases h; exact ⟨rfl, rfl, rfl⟩
        · cases h
      · cases h
    · cases h
  · rintro ⟨rfl, rfl, rfl⟩
    simp [of?, d.year_mem, d.month_mem, d.day_mem]

/-- Days since 1 January 1970. Years are counted from March, so that the leap day comes last, in
eras of 400 years. -/
def toDays (d : Date) : Int :=
  let year := if d.month ≤ 2 then d.year - 1 else d.year
  let era := year / 400
  let yearOfEra := year % 400
  let month : Int := if 2 < d.month then (d.month : Int) - 3 else (d.month : Int) + 9
  let dayOfYear := (153 * month + 2) / 5 + d.day - 1
  let dayOfEra := yearOfEra * 365 + yearOfEra / 4 - yearOfEra / 100 + dayOfYear
  era * 146097 + dayOfEra - 719468

def ofDays? (days : Int) : Option Date :=
  let shifted := days + 719468
  let era := shifted / 146097
  let dayOfEra := shifted % 146097
  let yearOfEra := (dayOfEra - dayOfEra / 1460 + dayOfEra / 36524 - dayOfEra / 146096) / 365
  let dayOfYear := dayOfEra - (365 * yearOfEra + yearOfEra / 4 - yearOfEra / 100)
  let month := (5 * dayOfYear + 2) / 153
  let day := dayOfYear - (153 * month + 2) / 5 + 1
  let month := if month < 10 then month + 3 else month - 9
  let year := yearOfEra + era * 400 + (if month ≤ 2 then 1 else 0)
  of? year month.toNat day.toNat

example : (of? 1970 1 1).map toDays = some 0 := by decide
example : (of? 2000 2 29).map toDays = some 11016 := by decide
example : ofDays? 11016 = of? 2000 2 29 := by decide
example : ofDays? (-719529) = of? (-1) 12 31 := by decide

end Date

def padded (width n : Nat) : List Char :=
  let ds := natText n
  List.replicate (width - ds.length) '0' ++ ds

def yearText (year : Int) : List Char :=
  if 0 ≤ year ∧ year ≤ 9999 then padded 4 year.natAbs
  else (if year < 0 then '-' else '+') :: padded 4 year.natAbs

def Date.text (d : Date) : List Char :=
  yearText d.year ++ '-' :: padded 2 d.month ++ '-' :: padded 2 d.day

end UrlRouter
