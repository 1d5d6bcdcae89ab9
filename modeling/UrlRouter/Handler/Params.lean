import UrlRouter.Calendar.Reader
import UrlRouter.Json.Printer
import UrlRouter.Text.Quoted

/-!
Declared parameters of actions, and the arguments that are bound to them. A null argument counts
as an absent one.
-/

namespace UrlRouter

open Text

inductive ParamKind where
  | value
  | dateTime
  deriving DecidableEq, Repr

structure Param where
  name : String
  required : Bool
  default : Option Json
  kind : ParamKind

namespace Param

def mandatory (name : String) : Param := ⟨name, true, none, .value⟩

def optional (name : String) (default : Json) : Param := ⟨name, false, some default, .value⟩

def dateTime (name : String) (required : Bool) : Param := ⟨name, required, none, .dateTime⟩

end Param

inductive BoundArg where
  | value (value : Json)
  | dateTime (time : DateTime)

inductive BindError where
  | missing (name : String)
  | notDateTime (name : String) (value : Json)

def BindError.message : BindError → String
  | .missing name => "missing required parameter " ++ quoted name
  | .notDateTime name value =>
      "parameter " ++ quoted name ++ " is not a date/time: " ++ value.text

namespace Param

/-- The argument of a parameter, or else its default. A required parameter has to have an argument
and makes no use of its default. -/
def resolve? (p : Param) (args : Args) : Option Json :=
  match (args.get? p.name).filter (!·.isNull) with
  | some v => some v
  | none => if p.required then none else some (p.default.getD .null)

def interpret (p : Param) (v : Json) : Except BindError BoundArg :=
  match p.kind, v with
  | .value, v => .ok (.value v)
  | .dateTime, .null => .ok (.value .null)
  | .dateTime, v =>
      match dateTime? v with
      | some t => .ok (.dateTime t)
      | none => .error (.notDateTime p.name v)

def bind (p : Param) (args : Args) : Except BindError BoundArg :=
  match p.resolve? args with
  | none => .error (.missing p.name)
  | some v => p.interpret v

end Param

structure BoundArgs where
  values : List (String × BoundArg)
  all : Args

namespace BoundArgs

def get? (b : BoundArgs) (name : String) : Option BoundArg :=
  (b.values.find? (·.1 == name)).map (·.2)

def value? (b : BoundArgs) (name : String) : Option Json :=
  (b.get? name).bind fun
    | .value v => some v
    | .dateTime _ => none

def dateTime? (b : BoundArgs) (name : String) : Option DateTime :=
  (b.get? name).bind fun
    | .value _ => none
    | .dateTime t => some t

def str? (b : BoundArgs) (name : String) : Option String := (b.value? name).bind Json.asStr?

def int64? (b : BoundArgs) (name : String) : Option Int :=
  (b.value? name).bind fun
    | .str s => UrlRouter.int64? s.toList
    | v => v.asInt64?

end BoundArgs

def bindValues (args : Args) : List Param → Except BindError (List (String × BoundArg))
  | [] => .ok []
  | p :: ps =>
      match p.bind args with
      | .error e => .error e
      | .ok v => (bindValues args ps).map ((p.name, v) :: ·)

def bindParams (params : List Param) (args : Args) : Except BindError BoundArgs :=
  (bindValues args params).map fun values => ⟨values, args⟩

end UrlRouter
