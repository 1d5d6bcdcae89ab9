import UrlRouter.Http.Form
import UrlRouter.Http.Headers
import UrlRouter.Http.Method
import UrlRouter.Http.Uri

namespace UrlRouter

structure Request where
  method : Method
  path : String
  query? : String → Option String
  post? : String → Option String
  isXhr : Bool

structure SimpleRequest where
  method : Method
  path : String
  query : List (String × String)
  post : List (String × String)
  isXhr : Bool
  deriving DecidableEq, Repr

namespace SimpleRequest

def new (method : Method) (target : String) : SimpleRequest :=
  match Text.cutString "?" target with
  | some (path, query) => ⟨method, path, Form.decodePairs query, [], false⟩
  | none => ⟨method, target, [], [], false⟩

def toRequest (r : SimpleRequest) : Request where
  method := r.method
  path := r.path
  query? := Form.find? r.query
  post? := Form.find? r.post
  isXhr := r.isXhr

end SimpleRequest

/-- A request as it comes from a client. Its query is kept as text and decoded for each look-up. -/
structure HttpRequest where
  method : Method
  uri : Uri
  headers : Headers
  deriving DecidableEq

namespace HttpRequest

def isXhr (r : HttpRequest) : Bool :=
  match r.headers.get? "x-requested-with" with
  | some v => Uri.equalsIgnoringCase v.toList "XMLHttpRequest".toList
  | none => false

def toRequest (r : HttpRequest) : Request where
  method := r.method
  path := r.uri.path
  query? name := r.uri.query.bind (Form.seek? name)
  post? _ := none
  isXhr := r.isXhr

end HttpRequest

end UrlRouter
