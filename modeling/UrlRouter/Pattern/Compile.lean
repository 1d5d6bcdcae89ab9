import UrlRouter.Pattern.Locales
import UrlRouter.Pattern.Token
import UrlRouter.Regex.Escape

/-!
Patterns as regular expressions. Literal text is taken over as it stands; each token becomes one
group.
-/

namespace UrlRouter

open Text

structure Placeholder where
  kind : Kind
  name : Option String
  deriving DecidableEq, Repr

structure CompiledPattern where
  source : String
  placeholders : List Placeholder
  deriving DecidableEq, Repr

namespace CompiledPattern

def names (p : CompiledPattern) : List String := p.placeholders.filterMap (·.name)

def captureNames (p : CompiledPattern) : List String :=
  (p.placeholders.filter (·.kind ≠ .silent)).filterMap (·.name)

end CompiledPattern

/-- The text ends in a dollar sign that no backslash hides. -/
def endsInDollar (cs : List Char) : Bool :=
  match cs.reverse with
  | '$' :: before => (before.takeWhile (· = '\\')).length % 2 == 0
  | _ => false

def isAnchored (cs : List Char) : Bool := cs.head? == some '^' || endsInDollar cs

def defaultBody : List Char := "[^/]+".toList

def group (name : Option (List Char)) (body : List Char) : List Char :=
  match name with
  | some n => "(?P<".toList ++ n ++ '>' :: body ++ [')']
  | none => "(?:".toList ++ body ++ [')']

def alternation (words : List String) : List Char :=
  ['|'].intercalate (words.map fun w => Regex.escape w.toList)

def distinctWords (t : Translations) (keys : List String) : List String :=
  (keys.flatMap t.words).foldl (fun ws w => if w ∈ ws then ws else ws ++ [w]) []

namespace Token

def keys (t : Token) : List String := (pieces '|' t.body).map String.ofList

def source (locales : Locales) (t : Token) : Except PatternError (List Char) :=
  let body := if t.body = [] then defaultBody else t.body
  match t.kind with
  | .capture => .ok (t.lead ++ group t.name body)
  | .optional => .ok ("(?:".toList ++ t.lead ++ group t.name body ++ ")?".toList)
  | .silent => .ok (t.lead ++ group none body)
  | .translated =>
      .ok (t.lead ++ group t.name (alternation (distinctWords locales.translations t.keys)))
  | .locale =>
      if locales.available = [] then .error .noLocales
      else .ok (t.lead ++ group t.name (alternation locales.available))

def placeholder (t : Token) : Placeholder := ⟨t.kind, t.nameString⟩

end Token

def Piece.source (locales : Locales) : Piece → Except PatternError (List Char)
  | .literal text => .ok text
  | .token t => t.source locales

def Piece.placeholder? : Piece → Option Placeholder
  | .literal _ => none
  | .token t => some t.placeholder

def sources (locales : Locales) (ps : List Piece) : Except PatternError (List Char) :=
  (ps.mapM (Piece.source locales)).map List.flatten

/-- The regular expression of a pattern. The router adds the anchors, so the pattern has none. -/
def compilePattern (locales : Locales) (pattern : String) :
    Except PatternError CompiledPattern := do
  if isAnchored pattern.toList then throw .anchored
  let ps ← split pattern.toList
  let source ← sources locales ps
  return ⟨String.ofList source, ps.filterMap Piece.placeholder?⟩

end UrlRouter
