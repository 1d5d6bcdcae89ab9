namespace UrlRouter

structure Method where
  name : String
  deriving DecidableEq, Repr, Inhabited

namespace Method

def isNameChar (c : Char) : Bool := c.isAlphanum || "!'*+-.^_`|~".toList.contains c

def get : Method := ⟨"GET"⟩

def post : Method := ⟨"POST"⟩

def put : Method := ⟨"PUT"⟩

def delete : Method := ⟨"DELETE"⟩

def of? (name : String) : Option Method :=
  if name.toList ≠ [] ∧ name.toList.all isNameChar then some ⟨name⟩ else none

/-- Requests of these methods usually carry their fields in the body. -/
def submitsBody (m : Method) : Bool := m == post || m == put || m == delete

end Method

end UrlRouter
