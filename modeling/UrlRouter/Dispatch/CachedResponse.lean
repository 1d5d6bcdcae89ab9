import UrlRouter.Document.Record
import UrlRouter.Http.Response
import UrlRouter.Json.Printer
import UrlRouter.Json.Reader

namespace UrlRouter

structure CachedResponse where
  status : Nat
  headers : List (String × String)
  output : String
  deriving DecidableEq, Repr

namespace CachedResponse

def capture (res : Response) (output : String) : CachedResponse :=
  ⟨res.status.code, res.headers.entries.filter fun h => Headers.isText h.2, output⟩

def toJson (c : CachedResponse) : Json :=
  .obj
    [("status", .int c.status),
      ("headers", .arr (c.headers.map fun (name, value) => .arr [.str name, .str value])),
      ("output", .str c.output)]

def text (c : CachedResponse) : String := c.toJson.text

def header? : Document → Option (String × String)
  | .arr [name, value] =>
      match name.string?, value.string? with
      | some n, some v => some (n, v)
      | _, _ => none
  | _ => none

def ofDocument? (d : Document) : Option CachedResponse := do
  let fields ← d.record? ["status", "headers", "output"]
  let status ← (← Document.field? "status" fields).nat16?
  let headers ← (← Document.field? "headers" fields).elements? header?
  let output ← (← Document.field? "output" fields).string?
  some ⟨status, headers, output⟩

def read? (s : String) : Option CachedResponse := (Json.readDocument s).bind ofDocument?

def validHeaders (c : CachedResponse) : List (String × String) :=
  c.headers.filterMap fun (name, value) =>
    match Headers.name? name with
    | some n => if Headers.isValue value then some (n, value) else none
    | none => none

def replay (c : CachedResponse) (res : Response) : Response :=
  let stored := c.validHeaders
  let cleared := stored.foldl (fun h f => h.remove f.1) res.headers
  { status := (Status.of? c.status).getD res.status
    headers := stored.foldl (fun h f => h.append f.1 f.2) cleared }

end CachedResponse

end UrlRouter
