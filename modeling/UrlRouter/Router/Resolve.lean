import UrlRouter.Http.Request
import UrlRouter.Router.Basic

namespace UrlRouter

variable {φ : Type}

def stripQuery (path : String) : String := String.ofList (path.toList.takeWhile (· ≠ '?'))

def Request.field? (req : Request) (name : String) : Option String :=
  if req.method = .post then (req.post? name).or (req.query? name) else req.query? name

def collectInputs (req : Request) : List Input → Option (List (String × Json))
  | [] => some []
  | i :: is =>
      match (req.field? i.name).bind i.type.parse? with
      | some v => (collectInputs req is).map ((i.name, v) :: ·)
      | none => if i.mandatory then none else collectInputs req is

def mergeArgs (base : Args) (inputs : List (String × Json)) (captures : List (String × String)) :
    Args :=
  (base.insertMany inputs).insertMany (captures.map fun (k, v) => (k, .str v))

def Route.accept? (req : Request) (route : Route φ) : Option Args :=
  if ¬ route.accepts req.method then none
  else
    match route.captures? (stripQuery req.path) with
    | none => none
    | some captures =>
        match collectInputs req route.settings.inputs with
        | none => none
        | some inputs =>
            let args := mergeArgs route.settings.args inputs captures
            if route.settings.conditions.all fun c => c args then some args else none

namespace Router

def resolve (r : Router φ) (req : Request) : Option (Route φ × Args) :=
  r.routes.findSome? fun route => (route.accept? req).map fun args => (route, args)

def find (r : Router φ) (m : Method) (path : String) :
    Option (Route φ × List (String × String)) :=
  (r.routes.filter (·.accepts m)).findSome? fun route =>
    (route.captures? (stripQuery path)).map fun captures => (route, captures)

end Router

def capture? (captures : List (String × String)) (name : String) : Option String :=
  (captures.find? (·.1 == name)).map (·.2)

def captureArgs (captures : List (String × String)) : Args := mergeArgs .empty [] captures

end UrlRouter
