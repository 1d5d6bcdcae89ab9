import UrlRouter.Router.Error
import UrlRouter.Route.Input

namespace UrlRouter

open Text

inductive InvalidEntry where
  | method (text : String)
  | input (name : String) (cause : InputTypeError)
  | status (code : Nat)
  | groupNamedAfterStatus (code : Nat)
  | nameAndMatchMissing
  deriving DecidableEq, Repr

/-- The message; what is wrong with a regular expression is left out. -/
def InvalidEntry.message : InvalidEntry → String
  | .method text => "invalid method " ++ quoted text
  | .input name cause => "input " ++ quoted name ++ ": " ++ cause.message
  | .status code => "invalid status " ++ toString code
  | .groupNamedAfterStatus code => "group cannot be named after status " ++ toString code
  | .nameAndMatchMissing => "route without name or match"

inductive ConfigError where
  | io
  | json
  | toml
  | invalid (cause : InvalidEntry)
  | router (cause : RouterError)

def ConfigError.invalidMessage (cause : InvalidEntry) : String :=
  "invalid route entry: " ++ cause.message

end UrlRouter
