import UrlRouter.Document.Record
import UrlRouter.Json.Basic

namespace UrlRouter

inductive NameSpec where
  | status (code : Nat)
  | text (name : String)
  deriving DecidableEq, Repr

inductive HandlerSpec where
  | text (s : String)
  | pair (controller method : String)
  deriving DecidableEq, Repr

structure InputSpec where
  name : String
  type : String
  mandatory : Bool
  deriving DecidableEq, Repr

structure TableSpec where
  name : Option NameSpec
  pattern : Option String
  method : Option String
  handler : Option HandlerSpec
  inputs : List InputSpec
  args : Args
  options : Dict Json
  responseCode : Option Nat

inductive RouteSpec where
  | line (text : String)
  | leaf (table : TableSpec)
  | group (table : TableSpec) (children : List RouteSpec)

namespace NameSpec

def ofDocument? (d : Document) : Option NameSpec :=
  match d.nat16?, d.string? with
  | some code, _ => some (.status code)
  | none, some s => some (.text s)
  | none, none => none

end NameSpec

namespace HandlerSpec

def ofDocument? : Document → Option HandlerSpec
  | .str s => some (.text s)
  | .arr [controller, method] =>
      match controller.string?, method.string? with
      | some c, some m => some (.pair c m)
      | _, _ => none
  | _ => none

end HandlerSpec

namespace InputSpec

def ofDocument? (d : Document) : Option InputSpec := do
  let fields ← d.record? ["name", "type", "mandatory"]
  let name ← (← Document.field? "name" fields).string?
  let type ← Document.orDefault? "" Document.string? (Document.field? "type" fields)
  let mandatory ← Document.orDefault? false Document.bool? (Document.field? "mandatory" fields)
  some ⟨name, type, mandatory⟩

end InputSpec

namespace TableSpec

def fieldNames : List String :=
  ["name", "match", "method", "handler", "inputs", "args", "options", "response_code", "routes"]

def childrenName : String := "routes"

def childrenPlace : Nat := 8

def ofFields? (fields : List (String × Document)) : Option TableSpec := do
  let get (name : String) := Document.field? name fields
  let name ← Document.optional? NameSpec.ofDocument? (get "name")
  let pattern ← Document.optional? Document.string? (get "match")
  let method ← Document.optional? Document.string? (get "method")
  let handler ← Document.optional? HandlerSpec.ofDocument? (get "handler")
  let inputs ← Document.orDefault? [] (Document.elements? InputSpec.ofDocument?) (get "inputs")
  let args ← Document.orDefault? .empty (Document.dict? Document.toJson?) (get "args")
  let options ← Document.orDefault? .empty (Document.dict? Document.toJson?) (get "options")
  let responseCode ← Document.optional? Document.nat16? (get "response_code")
  some { name, pattern, method, handler, inputs, args, options, responseCode }

end TableSpec

namespace RouteSpec

def ofRecord? (d : Document) (children : Option (Option (List RouteSpec))) : Option RouteSpec := do
  let table ← TableSpec.ofFields? (← d.record? TableSpec.fieldNames)
  match ← children with
  | none => some (.leaf table)
  | some specs => some (.group table specs)

mutual

def ofDocument? : Document → Option RouteSpec
  | .str s => some (.line s)
  | .obj fs => ofRecord? (.obj fs) (childrenByName? fs)
  | .arr xs => ofRecord? (.arr xs) (childrenByPlace? TableSpec.childrenPlace xs)
  | _ => none

def childrenByName? : List (String × Document) → Option (Option (List RouteSpec))
  | [] => some none
  | (k, d) :: fs => if k = TableSpec.childrenName then children? d else childrenByName? fs

def childrenByPlace? : Nat → List Document → Option (Option (List RouteSpec))
  | _, [] => some none
  | 0, d :: _ => children? d
  | n + 1, _ :: ds => childrenByPlace? n ds

def children? : Document → Option (Option (List RouteSpec))
  | .null => some none
  | .arr xs => (ofDocuments? xs).map some
  | _ => none

def ofDocuments? : List Document → Option (List RouteSpec)
  | [] => some []
  | d :: ds =>
      match ofDocument? d, ofDocuments? ds with
      | some spec, some specs => some (spec :: specs)
      | _, _ => none

end

end RouteSpec

end UrlRouter
