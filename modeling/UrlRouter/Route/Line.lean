import UrlRouter.Route.Entry
import UrlRouter.Router.Error

namespace UrlRouter

open Text Unicode

def arrow : List Char := ">>>".toList

def isVerb (cs : List Char) : Bool := cs ≠ [] && cs.all Char.isUpper

def splitVerb (cs : List Char) : Option Method × List Char :=
  match cutAt isWhiteSpace cs with
  | some (verb, rest) =>
      if isVerb verb then (some ⟨String.ofList verb⟩, trim rest) else (none, cs)
  | none => (none, cs)

def RouteDefinition.ofPattern {φ : Type} (pattern : String) : RouteDefinition φ :=
  match errorStatus? pattern with
  | some status => .error status
  | none => .new pattern

def RouteDefinition.ofLine {φ : Type} (line : String) : Except RouterError (RouteDefinition φ) :=
  match cut arrow line.toList with
  | none => .error (.invalidLine line)
  | some (left, right) =>
      if trim right = [] then .error (.invalidLine line)
      else
        let (method, pattern) := splitVerb (trim left)
        let route : RouteDefinition φ := .ofPattern (String.ofList pattern)
        .ok { route with
          settings := { route.settings with
            method := method
            handler := some (.read (String.ofList (trim right))) } }

end UrlRouter
