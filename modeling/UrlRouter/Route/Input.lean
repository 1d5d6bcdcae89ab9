import UrlRouter.Calendar.Reader
import UrlRouter.Decimal.Fraction
import UrlRouter.Regex.Basic
import UrlRouter.Text.Quoted

namespace UrlRouter

open Text

inductive InputType where
  | string
  | int
  | float
  | bool
  | date
  | pattern (regex : Regex)
  deriving Inhabited

inductive InputTypeError where
  | unknown (text : String)
  | badRegex
  deriving DecidableEq, Repr

/-- The message; what is wrong with a regular expression is left out. -/
def InputTypeError.message : InputTypeError → String
  | .unknown text => "unknown input type: " ++ quoted text
  | .badRegex => ""

def readBool? (cs : List Char) : Option Bool :=
  match String.ofList cs with
  | "1" | "true" | "on" | "yes" => some true
  | "0" | "false" | "off" | "no" | "" => some false
  | _ => none

namespace InputType

def ofRegex (source : String) : Except InputTypeError InputType :=
  match Regex.compile? (Regex.wrapped source) with
  | some r => .ok (.pattern r)
  | none => .error .badRegex

def read (s : String) : Except InputTypeError InputType :=
  match s with
  | "" | "string" | "str" => .ok .string
  | "int" | "integer" => .ok .int
  | "float" | "number" => .ok .float
  | "bool" | "boolean" => .ok .bool
  | "date" => .ok .date
  | s =>
      match "regex:".toList.isPrefixOf? s.toList with
      | some source => ofRegex (String.ofList source)
      | none => .error (.unknown s)

def text : InputType → String
  | .string => "string"
  | .int => "int"
  | .float => "float"
  | .bool => "bool"
  | .date => "date"
  | .pattern r => "regex:" ++ r.source

def parse? (t : InputType) (raw : String) : Option Json :=
  let trimmed := trim raw.toList
  match t with
  | .string => some (.str raw)
  | .int => (int64? trimmed).map .int
  | .float => (finite? trimmed).map .float
  | .bool => (readBool? trimmed).map .bool
  | .date => (date? trimmed).map fun d => .str (String.ofList d.text)
  | .pattern r => if r.isMatch raw then some (.str raw) else none

end InputType

structure Input where
  name : String
  type : InputType
  mandatory : Bool
  deriving Inhabited

end UrlRouter
