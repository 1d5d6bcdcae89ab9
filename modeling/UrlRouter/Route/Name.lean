import UrlRouter.Http.Status

namespace UrlRouter

inductive RouteName where
  | named (name : String)
  | error (status : Status)
  deriving DecidableEq

def errorStatus? (s : String) : Option Status :=
  match s.toList with
  | [a, b, c] =>
      if a.isDigit && b.isDigit && c.isDigit then
        let digit (d : Char) := d.toNat - '0'.toNat
        (Status.of? (100 * digit a + 10 * digit b + digit c)).filter (·.isError)
      else none
  | _ => none

namespace RouteName

def ofString (s : String) : RouteName :=
  match errorStatus? s with
  | some status => .error status
  | none => .named s

def text : RouteName → String
  | .named s => s
  | .error s => toString s.code

def name? : RouteName → Option String
  | .named s => some s
  | .error _ => none

def status? : RouteName → Option Status
  | .named _ => none
  | .error s => some s

end RouteName

end UrlRouter
