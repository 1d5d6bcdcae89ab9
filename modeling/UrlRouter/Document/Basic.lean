import UrlRouter.Json.Basic

/-!
What a structured text holds before it is given a meaning: fields in the order of the text, names
possibly repeated, and parts that may be skipped but not used.
-/

namespace UrlRouter

inductive Document where
  | null
  | bool (value : Bool)
  | int (value : Int)
  | float (value : Binary64)
  | nonFinite
  | str (value : String)
  | arr (elements : List Document)
  | obj (fields : List (String × Document))
  /-- well formed, but without a value: a number out of range, half a character, nested too deep -/
  | unusable
  deriving Inhabited

namespace Document

mutual

def toJson? : Document → Option Json
  | .null => some .null
  | .bool b => some (.bool b)
  | .int n => some (.int n)
  | .float x => some (.float x)
  | .nonFinite => some .null
  | .str s => some (.str s)
  | .arr xs => (elementsToJson? xs).map .arr
  | .obj fs => (fieldsToJson? fs).map Json.object
  | .unusable => none

def elementsToJson? : List Document → Option (List Json)
  | [] => some []
  | x :: xs =>
      match x.toJson?, elementsToJson? xs with
      | some j, some js => some (j :: js)
      | _, _ => none

def fieldsToJson? : List (String × Document) → Option (List (String × Json))
  | [] => some []
  | (k, x) :: fs =>
      match x.toJson?, fieldsToJson? fs with
      | some j, some js => some ((k, j) :: js)
      | _, _ => none

end

def usable (d : Document) : Bool := d.toJson?.isSome

end Document

end UrlRouter
