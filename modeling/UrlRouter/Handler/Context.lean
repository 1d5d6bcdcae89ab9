import UrlRouter.Http.Request
import UrlRouter.Router.Reverse

namespace UrlRouter

structure Context (φ : Type) where
  router : Router φ
  request : Request
  locale : String
  route : Option (Route φ)

def Context.urlFor {φ : Type} (cx : Context φ) (name : String) (data : Args) :
    Except RouterError Link :=
  cx.router.urlFor name data cx.locale

inductive HandlerError where
  /-- an answer by status, with a body in case no route renders it -/
  | status (status : Status) (fallback : Option String)
  | badUsage (message : String)
  | other (message : String)

/-- Code that may change a state of its own, also when it fails. -/
abbrev HandlerM (σ : Type) := ExceptT HandlerError (StateM σ)

end UrlRouter
