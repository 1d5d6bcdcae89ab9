import UrlRouter.Router.Basic

/-!
Registration. A failure leaves the router as it is at that moment; all leaves of an entry are
compiled and checked before the first one is added, and adding cannot fail.
-/

namespace UrlRouter

variable {φ : Type}

def FlatRoute.compile (locales : Locales) (f : FlatRoute φ) : Except RouterError (Route φ) :=
  match compilePattern locales f.pattern with
  | .error cause => .error (.pattern f.pattern cause)
  | .ok compiled =>
      match Regex.compile? (Regex.wrapped compiled.source) with
      | none => .error (.regex f.pattern)
      | some regex => .ok ⟨f.name, f.pattern, compiled, regex, f.handler, f.settings⟩

def Router.add (r : Router φ) (route : Route φ) : Router φ :=
  match route.name with
  | .named n =>
      { r with
        routes := r.routes ++ [route]
        names := r.names.insert n r.routes.length }
  | .error s => { r with errors := r.errors ++ [(s, route)] }

/-- Work on a router that may fail. What was done before the failure stays done. -/
abbrev RegistrationM (φ : Type) := ExceptT RouterError (StateM (Router φ))

namespace RegistrationM

def ofExcept {α : Type} : Except RouterError α → RegistrationM φ α
  | .ok a => pure a
  | .error e => throw e

def compileLeaf (f : FlatRoute φ) : RegistrationM φ (Route φ) := do
  ofExcept (f.compile (← get).locales)

def checkNames : List RouteName → List (Route φ) → RegistrationM φ Unit
  | _, [] => pure ()
  | seen, route :: rest => do
      let r ← get
      match route.name with
      | .named n => if r.names.contains n ∨ route.name ∈ seen then throw (.duplicateName n)
      | .error s =>
          if (r.errorRoute? s).isSome ∨ route.name ∈ seen then throw (.duplicateStatus s.code)
      checkNames (route.name :: seen) rest

def add (route : Route φ) : RegistrationM φ Unit := modify fun r => r.add route

def entry (e : RouteEntry φ) : RegistrationM φ Unit := do
  let leaves ← ofExcept e.leaves
  let batch ← leaves.mapM compileLeaf
  checkNames [] batch
  batch.forM add

def runOn {α : Type} (m : RegistrationM φ α) (r : Router φ) : Router φ × Except RouterError α :=
  (m.run.run r).swap

end RegistrationM

namespace Router

def insert (r : Router φ) (e : RouteEntry φ) : Router φ × Except RouterError Unit :=
  (RegistrationM.entry e).runOn r

def insertAll (r : Router φ) (es : List (RouteEntry φ)) : Router φ × Except RouterError Unit :=
  RegistrationM.runOn (es.forM RegistrationM.entry) r

def nest (r : Router φ) (name : String) (es : List (RouteEntry φ)) :
    Router φ × Except RouterError Unit :=
  r.insert (.group (some name) none .empty es)

end Router

end UrlRouter
