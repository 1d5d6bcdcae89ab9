import UrlRouter.Text.Quoted

namespace UrlRouter

inductive PatternError where
  | unknownKind (text : String)
  | unterminated (text : String)
  | missingName (text : String)
  | invalidName (text : String)
  | anchored
  | noLocales
  | missingValue (name : String)
  deriving DecidableEq, Repr

open Text

def PatternError.message : PatternError → String
  | .unknownKind text => "unknown placeholder kind: " ++ quoted text
  | .unterminated text => "unterminated placeholder: " ++ quoted text
  | .missingName text => "placeholder requires a <name>: " ++ quoted text
  | .invalidName text => "invalid placeholder name: " ++ quoted text
  | .anchored => "patterns are anchored by the router, remove `^`/`$`"
  | .noLocales => "locale placeholder used but no locale is available"
  | .missingValue name => "missing value for placeholder " ++ quoted name

end UrlRouter
