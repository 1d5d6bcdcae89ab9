import UrlRouter.Pattern.Error
import UrlRouter.Route.Options

namespace UrlRouter

open Text

inductive RouterError where
  | pattern (pattern : String) (cause : PatternError)
  | regex (pattern : String)
  | duplicateName (name : String)
  | duplicateStatus (code : Nat)
  | missingHandler (route : String)
  | invalidOption (cause : InvalidOption)
  | invalidLine (line : String)
  | unresolvedStatus (code : Nat)
  | cachedSessionRoute (route : String)
  | unknownRoute (name : String)
  | missingValue (route name : String)
  | badRouteUsage (route message : String)
  | handler (route message : String)
  deriving Inhabited

namespace RouterError

/-- The message; what is wrong with a regular expression is left out. -/
def message : RouterError → String
  | .pattern p cause => "invalid pattern " ++ quoted p ++ ": " ++ cause.message
  | .regex p => "invalid regex for pattern " ++ quoted p ++ ": "
  | .duplicateName n => "duplicate route name " ++ quoted n
  | .duplicateStatus c => "duplicate error route for status " ++ toString c
  | .missingHandler r => "route " ++ quoted r ++ " has no handler"
  | .invalidOption cause => "invalid option " ++ cause.key ++ ": " ++ cause.fault.message
  | .invalidLine l => "invalid route line " ++ quoted l
  | .unresolvedStatus c => "no error route registered for status " ++ toString c
  | .cachedSessionRoute r =>
      "route " ++ quoted r ++ " caches its response but the session is active"
  | .unknownRoute n => "unknown route " ++ quoted n
  | .missingValue r n => "route " ++ quoted r ++ ": missing value for " ++ quoted n
  | .badRouteUsage r m => "bad route usage in " ++ quoted r ++ ": " ++ m
  | .handler r m => "handler of route " ++ quoted r ++ " failed: " ++ m

/-- Mistakes in the declaration of routes, as opposed to those in their use. -/
def isConfiguration : RouterError → Bool
  | .unknownRoute _ | .missingValue _ _ | .badRouteUsage _ _ | .handler _ _ => false
  | _ => true

end RouterError

end UrlRouter
