import UrlRouter.Json.Printer
import UrlRouter.Pattern.Compile
import UrlRouter.Pattern.Slug

namespace UrlRouter

structure PathData where
  translations : Translations
  values : Args
  locale : String
  urlize : Bool

namespace PathData

def text? (d : PathData) (name : String) : Option String :=
  (d.values.get? name).bind Json.valueText?

/-- The text of a value in a path. One that comes out empty counts as absent. -/
def segment? (d : PathData) (name : String) : Option String :=
  ((d.text? name).map fun s => if d.urlize then UrlRouter.urlize s else s).filter (· ≠ "")

end PathData

namespace Token

/-- The text of a token in a path. A token with several keys takes one of its words as a value. -/
def text (d : PathData) (t : Token) : Except PatternError (List Char) :=
  match t.kind with
  | .capture | .silent =>
      let name := t.nameString.getD ""
      match d.segment? name with
      | some s => .ok (t.lead ++ s.toList)
      | none => .error (.missingValue name)
  | .optional =>
      match d.segment? (t.nameString.getD "") with
      | some s => .ok (t.lead ++ s.toList)
      | none => .ok []
  | .translated =>
      match t.keys with
      | [key] => .ok (t.lead ++ ((d.translations.translate? key d.locale).getD key).toList)
      | _ =>
          match t.nameString.bind d.text? with
          | some s => .ok (t.lead ++ s.toList)
          | none => .error (.missingValue (t.nameString.getD (String.ofList t.body)))
  | .locale => .ok (t.lead ++ d.locale.toList)

end Token

def Piece.text (d : PathData) : Piece → Except PatternError (List Char)
  | .literal text => .ok text
  | .token t => t.text d

def texts (d : PathData) (ps : List Piece) : Except PatternError (List Char) :=
  (ps.mapM (Piece.text d)).map List.flatten

def generatePath (d : PathData) (pattern : String) : Except PatternError String := do
  let ps ← split pattern.toList
  return String.ofList (← texts d ps)

end UrlRouter
