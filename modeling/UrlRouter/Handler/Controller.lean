import UrlRouter.Handler.Context
import UrlRouter.Handler.Params

/-!
Controllers: families of actions that are called by name. The initial action of a controller runs
before any other and may answer in its place.
-/

namespace UrlRouter

open Text

structure Endpoint (φ σ α : Type) where
  params : List Param
  action : BoundArgs → Context φ → HandlerM σ α

def Endpoint.call {φ σ α : Type} (e : Endpoint φ σ α) (args : Args) (cx : Context φ) :
    HandlerM σ α :=
  match bindParams e.params args with
  | .ok bound => e.action bound cx
  | .error error => throw (.badUsage error.message)

structure Controller (φ σ : Type) where
  init : Option (Endpoint φ σ (Option String))
  methods : Dict (Endpoint φ σ String)

namespace Controller

variable {φ σ : Type}

def empty : Controller φ σ := ⟨none, .empty⟩

def withInit (c : Controller φ σ) (e : Endpoint φ σ (Option String)) : Controller φ σ :=
  { c with init := some e }

def withMethod (c : Controller φ σ) (name : String) (e : Endpoint φ σ String) : Controller φ σ :=
  { c with methods := c.methods.insert name e }

def hasMethod (c : Controller φ σ) (name : String) : Bool := c.methods.contains name

def select (c : Controller φ σ) (req : Request) : String :=
  if req.isXhr && c.hasMethod "ajax" then "ajax"
  else if req.method == .post && c.hasMethod "post" then "post"
  else "get"

def debugText (c : Controller φ σ) : String :=
  "Controller \x7b init: " ++ (if c.init.isSome then "true" else "false") ++ ", methods: [" ++
    ", ".intercalate (c.methods.keys.map quoted) ++ "] \x7d"

end Controller

structure Target (φ σ : Type) where
  controllerName : String
  methodName : String
  init : Option (Endpoint φ σ (Option String))
  method : Endpoint φ σ String

namespace Target

variable {φ σ : Type}

def descriptor (t : Target φ σ) : String := t.controllerName ++ "::" ++ t.methodName

def run (t : Target φ σ) (args : Args) (cx : Context φ) : HandlerM σ String := do
  let early ←
    match t.init with
    | some e => e.call args cx
    | none => pure none
  match early with
  | some output => return output
  | none => t.method.call args cx

end Target

inductive TargetError where
  | unknownController (name : String)
  | unknownMethod (controller method : String)
  deriving DecidableEq, Repr

def TargetError.message : TargetError → String
  | .unknownController name => "unknown handler class " ++ quoted name
  | .unknownMethod controller method =>
      "handler class " ++ quoted controller ++ " has no method " ++ quoted method

abbrev HandlerRegistry (φ σ : Type) := Dict (Controller φ σ)

def HandlerRegistry.target {φ σ : Type} (r : HandlerRegistry φ σ) (controller : String)
    (method : Option String) (req : Request) : Except TargetError (Target φ σ) :=
  match r.get? controller with
  | none => .error (.unknownController controller)
  | some c =>
      let name := method.getD (c.select req)
      match c.methods.get? name with
      | none => .error (.unknownMethod controller name)
      | some e => .ok ⟨controller, name, c.init, e⟩

end UrlRouter
