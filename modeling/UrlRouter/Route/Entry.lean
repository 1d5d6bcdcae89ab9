import UrlRouter.Route.Name
import UrlRouter.Route.Settings

namespace UrlRouter

structure RouteDefinition (φ : Type) where
  name : Option RouteName
  pattern : String
  settings : RouteSettings φ

namespace RouteDefinition

variable {φ : Type}

def new (pattern : String) : RouteDefinition φ := ⟨none, pattern, .empty⟩

def error (s : Status) : RouteDefinition φ := ⟨some (.error s), "", .empty⟩

end RouteDefinition

inductive RouteEntry (φ : Type) where
  | route (definition : RouteDefinition φ)
  /-- the fragment that paths match is the name unless given -/
  | group (name fragment : Option String) (settings : RouteSettings φ)
      (children : List (RouteEntry φ))
  | line (text : String)

end UrlRouter
