import UrlRouter.Http.Form
import UrlRouter.Pattern.Generate
import UrlRouter.Router.Basic
import UrlRouter.Router.Link

/-!
Addresses of routes. Values that no placeholder uses go into the query when the route declares
them as inputs.
-/

namespace UrlRouter

variable {φ : Type}

namespace Route

def needsQuery (route : Route φ) : Bool := !route.settings.method.any Method.submitsBody

def queryPairs (route : Route φ) (data : Args) :
    List Input → Except String (List (String × String))
  | [] => .ok []
  | i :: is =>
      if i.name ∈ route.compiled.names then route.queryPairs data is
      else
        match (data.get? i.name).bind Json.valueText? with
        | some v => (route.queryPairs data is).map ((i.name, v) :: ·)
        | none =>
            if i.mandatory && route.needsQuery then .error i.name else route.queryPairs data is

end Route

def Router.urlFor (r : Router φ) (name : String) (data : Args) (locale : String) :
    Except RouterError Link :=
  match r.route? name with
  | none => .error (.unknownRoute name)
  | some route =>
      match generatePath ⟨r.locales.translations, data, locale, route.urlize⟩ route.pattern with
      | .error (.missingValue n) => .error (.missingValue name n)
      | .error cause => .error (.pattern route.pattern cause)
      | .ok path =>
          match route.queryPairs data route.settings.inputs with
          | .error n => .error (.missingValue name n)
          | .ok [] => .ok (.new path)
          | .ok pairs => .ok { Link.new path with query := some (Form.encodePairs pairs) }

end UrlRouter
