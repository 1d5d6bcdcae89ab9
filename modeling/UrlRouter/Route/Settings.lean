import UrlRouter.Handler.Reference
import UrlRouter.Http.Method
import UrlRouter.Http.Status
import UrlRouter.Route.Input
import UrlRouter.Route.Options

namespace UrlRouter

abbrev Condition := Args → Bool

structure RouteSettings (φ : Type) where
  method : Option Method
  handler : Option (HandlerRef φ)
  inputs : List Input
  args : Args
  conditions : List Condition
  options : RouteOptions
  responseCode : Option Status

namespace RouteSettings

variable {φ : Type}

def empty : RouteSettings φ := ⟨none, none, [], .empty, [], .empty, none⟩

instance : Inhabited (RouteSettings φ) := ⟨empty⟩

def inheritInputs (own parent : List Input) : List Input :=
  parent.filter (fun p => !own.any fun i => i.name == p.name) ++ own

def inherit (own parent : RouteSettings φ) : RouteSettings φ :=
  { method := own.method.or parent.method
    handler := own.handler.or parent.handler
    inputs := inheritInputs own.inputs parent.inputs
    args := parent.args.overlay own.args
    conditions := parent.conditions ++ own.conditions
    options := own.options.inherit parent.options
    responseCode := own.responseCode.or parent.responseCode }

def withMethod (s : RouteSettings φ) (m : Method) : RouteSettings φ := { s with method := some m }

def withHandler (s : RouteSettings φ) (h : HandlerRef φ) : RouteSettings φ :=
  { s with handler := some h }

def withInput (s : RouteSettings φ) (i : Input) : RouteSettings φ :=
  { s with inputs := s.inputs ++ [i] }

def withArg (s : RouteSettings φ) (name : String) (value : Json) : RouteSettings φ :=
  { s with args := s.args.insert name value }

def withCondition (s : RouteSettings φ) (c : Condition) : RouteSettings φ :=
  { s with conditions := s.conditions ++ [c] }

def withOption (s : RouteSettings φ) (key : String) (value : Json) : RouteSettings φ :=
  { s with options := s.options.withOption key value }

def withCache (s : RouteSettings φ) (ttl : Duration) : RouteSettings φ :=
  { s with options := { s.options with cache := some ttl } }

def withUrlize (s : RouteSettings φ) (on : Bool) : RouteSettings φ :=
  { s with options := { s.options with urlize := some on } }

def withResponseCode (s : RouteSettings φ) (c : Status) : RouteSettings φ :=
  { s with responseCode := some c }

end RouteSettings

end UrlRouter
