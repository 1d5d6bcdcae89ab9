import UrlRouter.Decimal.Binary64
import UrlRouter.Dict

/-!
JSON values. Integers are kept apart from other numbers; unless a format asks for another order the
fields of an object stand in ascending order of their names, each name once.
-/

namespace UrlRouter

inductive Json where
  | null
  | bool (value : Bool)
  | int (value : Int)
  | float (value : Binary64)
  | str (value : String)
  | arr (elements : List Json)
  | obj (fields : List (String × Json))
  deriving Inhabited

abbrev Args := Dict Json

namespace Json

def ofArgs (args : Args) : Json := .obj args.entries

def object (fields : List (String × Json)) : Json := .obj (Dict.ofList fields).entries

mutual

def same : Json → Json → Bool
  | .null, .null => true
  | .bool a, .bool b => a == b
  | .int a, .int b => a == b
  | .float a, .float b => a.same b
  | .str a, .str b => a == b
  | .arr as, .arr bs => sameElements as bs
  | .obj as, .obj bs => sameFields as bs
  | _, _ => false

def sameElements : List Json → List Json → Bool
  | [], [] => true
  | a :: as, b :: bs => a.same b && sameElements as bs
  | _, _ => false

def sameFields : List (String × Json) → List (String × Json) → Bool
  | [], [] => true
  | (k, a) :: as, (l, b) :: bs => k == l && a.same b && sameFields as bs
  | _, _ => false

end

def isNull : Json → Bool
  | .null => true
  | _ => false

def asBool? : Json → Option Bool
  | .bool b => some b
  | _ => none

def asStr? : Json → Option String
  | .str s => some s
  | _ => none

def asInt64? : Json → Option Int
  | .int n => if -(Nat.pow 2 63 : Int) ≤ n ∧ n < Nat.pow 2 63 then some n else none
  | _ => none

def asNat? : Json → Option Nat
  | .int n => if 0 ≤ n then some n.toNat else none
  | _ => none

end Json

end UrlRouter
