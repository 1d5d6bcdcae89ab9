import UrlRouter.Dict

/-!
Header fields: for each name its values in order. Names are in lowercase, and values hold no control
character but the tab.
-/

namespace UrlRouter

structure Headers where
  byName : Dict (List String)
  deriving DecidableEq

namespace Headers

def empty : Headers := ⟨.empty⟩

def isNameChar (c : Char) : Bool := c.isAlphanum || "!\"#$%&'*+-.^_`|~".toList.contains c

def nameLimit : Nat := 65535

def name? (s : String) : Option String :=
  let cs := s.toList
  if cs ≠ [] ∧ cs.length ≤ nameLimit ∧ cs.all isNameChar then
    some (String.ofList (cs.map Char.toLower))
  else none

def isValueChar (c : Char) : Bool := (decide (0x20 ≤ c.toNat) && c.toNat != 0x7F) || c == '\t'

def isValue (s : String) : Bool := s.toList.all isValueChar

def isText (s : String) : Bool :=
  s.toList.all fun c => isValueChar c && decide (c.toNat < 0x7F)

def values (h : Headers) (name : String) : List String := (h.byName.get? name).getD []

def get? (h : Headers) (name : String) : Option String := (h.values name).head?

def insert (h : Headers) (name value : String) : Headers := ⟨h.byName.insert name [value]⟩

def append (h : Headers) (name value : String) : Headers :=
  ⟨h.byName.insert name (h.values name ++ [value])⟩

def remove (h : Headers) (name : String) : Headers := ⟨h.byName.erase name⟩

def entries (h : Headers) : List (String × String) :=
  h.byName.entries.flatMap fun (name, vs) => vs.map fun v => (name, v)

theorem values_insert (h : Headers) (name other value : String) :
    (h.insert name value).values other = if name = other then [value] else h.values other := by
  simp only [values, insert, Dict.get?_insert]
  split <;> rfl

theorem values_append (h : Headers) (name other value : String) :
    (h.append name value).values other =
      if name = other then h.values name ++ [value] else h.values other := by
  simp only [values, append, Dict.get?_insert]
  split <;> rfl

theorem values_remove (h : Headers) (name other : String) :
    (h.remove name).values other = if name = other then [] else h.values other := by
  simp only [values, remove, Dict.get?_erase]
  split <;> rfl

end Headers

end UrlRouter
