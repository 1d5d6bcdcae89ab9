import UrlRouter.Http.Uri

namespace UrlRouter

structure Link where
  scheme : Option String
  host : Option String
  path : String
  query : Option String
  fragment : Option String
  deriving DecidableEq, Repr

namespace Link

def new (path : String) : Link := ⟨none, none, path, none, none⟩

def schemeOrDefault (l : Link) : String := l.scheme.getD "http"

def text (l : Link) : String :=
  (match l.host with | some h => l.schemeOrDefault ++ "://" ++ h | none => "") ++ l.path ++
    (match l.query with | some q => "?" ++ q | none => "") ++
    (match l.fragment with | some f => "#" ++ f | none => "")

def uri? (l : Link) : Option Uri :=
  Uri.build? (l.host.map fun h => (l.schemeOrDefault, h))
    (l.path ++ match l.query with | some q => "?" ++ q | none => "")

end Link

end UrlRouter
