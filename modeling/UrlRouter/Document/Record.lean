import UrlRouter.Document.Basic

/-!
Records in documents. A record is an object, in which unknown fields are skipped and no known one
is repeated, or an array of its fields in their order.
-/

namespace UrlRouter.Document

def record? (names : List String) : Document → Option (List (String × Document))
  | .arr xs => if xs.length ≤ names.length then some (names.zip xs) else none
  | .obj fs =>
      let known := fs.filter fun f => names.contains f.1
      if (known.map (·.1)).Nodup then some known else none
  | _ => none

def field? (name : String) : List (String × Document) → Option Document
  | [] => none
  | (k, d) :: fs => if k = name then some d else field? name fs

def string? : Document → Option String
  | .str s => some s
  | _ => none

def bool? : Document → Option Bool
  | .bool b => some b
  | _ => none

def nat16? : Document → Option Nat
  | .int n => if 0 ≤ n ∧ n < Nat.pow 2 16 then some n.toNat else none
  | _ => none

def elements? {α : Type} (read : Document → Option α) : Document → Option (List α)
  | .arr xs => xs.mapM read
  | _ => none

def dict? {α : Type} (read : Document → Option α) : Document → Option (Dict α)
  | .obj fs => (fs.mapM fun f => (read f.2).map fun v => (f.1, v)).map Dict.ofList
  | _ => none

def optional? {α : Type} (read : Document → Option α) : Option Document → Option (Option α)
  | none | some .null => some none
  | some d => (read d).map some

def orDefault? {α : Type} (default : α) (read : Document → Option α) : Option Document → Option α
  | none => some default
  | some d => read d

end UrlRouter.Document
