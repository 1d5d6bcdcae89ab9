import UrlRouter.Regex.Basic
import UrlRouter.Route.Flatten

/-!
Routers: path routes in the order of their registration with an index of their names, and one
route for each error status.
-/

namespace UrlRouter

structure Route (φ : Type) where
  name : RouteName
  pattern : String
  compiled : CompiledPattern
  regex : Regex
  handler : HandlerRef φ
  settings : RouteSettings φ

structure Router (φ : Type) where
  locales : Locales
  routes : List (Route φ)
  names : Dict Nat
  errors : List (Status × Route φ)

namespace Route

variable {φ : Type}

def urlize (r : Route φ) : Bool := r.settings.options.urlize.getD true

def cacheTtl (r : Route φ) : Option Duration := r.settings.options.cache

def accepts (r : Route φ) (m : Method) : Bool := r.settings.method.all (· == m)

def captures? (r : Route φ) (path : String) : Option (List (String × String)) :=
  (r.regex.captures? path).map fun caps =>
    r.compiled.captureNames.filterMap fun name =>
      (caps.get? name).map fun text => (name, String.ofList text)

end Route

namespace Router

variable {φ : Type}

def withLocales (locales : Locales) : Router φ := ⟨locales, [], .empty, []⟩

def empty : Router φ := withLocales .empty

def route? (r : Router φ) (name : String) : Option (Route φ) :=
  (r.names.get? name).bind fun i => r.routes[i]?

def errorRoute? (r : Router φ) (s : Status) : Option (Route φ) :=
  (r.errors.find? (·.1 = s)).map (·.2)

def errorRoute (r : Router φ) (s : Status) : Except RouterError (Route φ) :=
  match r.errorRoute? s with
  | some route => .ok route
  | none => .error (.unresolvedStatus s.code)

def size (r : Router φ) : Nat := r.routes.length + r.errors.length

def isEmpty (r : Router φ) : Bool := r.routes.isEmpty && r.errors.isEmpty

end Router

end UrlRouter
