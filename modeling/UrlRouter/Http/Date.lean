import UrlRouter.Calendar.DateTime

namespace UrlRouter

def weekdayName : Nat → String
  | 0 => "Sun"
  | 1 => "Mon"
  | 2 => "Tue"
  | 3 => "Wed"
  | 4 => "Thu"
  | 5 => "Fri"
  | _ => "Sat"

def monthName : Nat → String
  | 1 => "Jan"
  | 2 => "Feb"
  | 3 => "Mar"
  | 4 => "Apr"
  | 5 => "May"
  | 6 => "Jun"
  | 7 => "Jul"
  | 8 => "Aug"
  | 9 => "Sep"
  | 10 => "Oct"
  | 11 => "Nov"
  | _ => "Dec"

/-- The day of the week, counted from Sunday; 1 January 1970 was a Thursday. -/
def Date.weekday (d : Date) : Nat := ((d.toDays + 4) % 7).toNat

def DateTime.httpText (t : DateTime) : String :=
  let two (n : Nat) := String.ofList (padded 2 n)
  weekdayName t.date.weekday ++ ", " ++ two t.date.day ++ " " ++ monthName t.date.month ++ " " ++
    String.ofList (yearText t.date.year) ++ " " ++ two (t.second / 3600) ++ ":" ++
    two (t.second / 60 % 60) ++ ":" ++ two (t.second % 60) ++ " GMT"

example : (DateTime.ofTimestamp? 784111777).map DateTime.httpText =
    some "Sun, 06 Nov 1994 08:49:37 GMT" := by decide +kernel

end UrlRouter
