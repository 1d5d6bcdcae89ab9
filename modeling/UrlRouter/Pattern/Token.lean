import UrlRouter.Pattern.Error
import UrlRouter.Text.Split

/-!
The pieces of a pattern: literal text and tokens, each token between two opening and two closing
braces. Splitting loses nothing: rendering the pieces gives the pattern back.
-/

namespace UrlRouter

open Text

inductive Kind where
  | translated
  | locale
  | capture
  | optional
  | silent
  deriving DecidableEq, Repr

namespace Kind

def letter : Kind → Char
  | .translated => 'T'
  | .locale => 'L'
  | .capture => 'C'
  | .optional => 'O'
  | .silent => 'S'

def read? : List Char → Option Kind
  | ['T'] => some .translated
  | ['L'] => some .locale
  | ['C'] => some .capture
  | ['O'] => some .optional
  | ['S'] => some .silent
  | _ => none

theorem read?_eq_some_iff {cs : List Char} {k : Kind} : read? cs = some k ↔ cs = [k.letter] := by
  constructor
  · intro h
    unfold read? at h
    split at h <;> cases h <;> rfl
  · rintro rfl
    cases k <;> rfl

def needsName : Kind → Bool
  | .capture | .optional | .silent => true
  | .translated | .locale => false

end Kind

structure Token where
  kind : Kind
  lead : List Char
  name : Option (List Char)
  body : List Char
  deriving DecidableEq, Repr

inductive Piece where
  | literal (text : List Char)
  | token (token : Token)
  deriving DecidableEq, Repr

namespace Token

def nameString (t : Token) : Option String := t.name.map String.ofList

def inner (t : Token) : List Char :=
  t.kind.letter :: ':' ::
    match t.name with
    | some n => t.lead ++ '<' :: n ++ '>' :: t.body
    | none => t.body

def render (t : Token) : List Char := ['\x7b', '\x7b'] ++ t.inner ++ ['\x7d', '\x7d']

end Token

def Piece.render : Piece → List Char
  | .literal text => text
  | .token t => t.render

def isNameStart (c : Char) : Bool := c.isAlpha || c == '_'

def isNameChar (c : Char) : Bool := c.isAlphanum || c == '_'

def isIdentifier : List Char → Bool
  | [] => false
  | c :: cs => isNameStart c && cs.all isNameChar

/-- The text up to the braces that close a token, and the text behind them. A backslash hides the
character after it, and inner braces have to be closed first. -/
def closeToken : Nat → List Char → Option (List Char × List Char)
  | _, [] => none
  | depth, '\\' :: cs =>
      match cs with
      | [] => none
      | c :: cs => (closeToken depth cs).map fun (raw, rest) => ('\\' :: c :: raw, rest)
  | depth, '\x7b' :: cs =>
      (closeToken (depth + 1) cs).map fun (raw, rest) => ('\x7b' :: raw, rest)
  | depth + 1, '\x7d' :: cs =>
      (closeToken depth cs).map fun (raw, rest) => ('\x7d' :: raw, rest)
  | 0, '\x7d' :: cs =>
      match cs with
      | '\x7d' :: rest => some ([], rest)
      | cs => (closeToken 0 cs).map fun (raw, rest) => ('\x7d' :: raw, rest)
  | depth, c :: cs => (closeToken depth cs).map fun (raw, rest) => (c :: raw, rest)

theorem eq_append_of_closeToken {depth : Nat} {cs raw rest : List Char}
    (h : closeToken depth cs = some (raw, rest)) : cs = raw ++ '\x7d' :: '\x7d' :: rest := by
  fun_induction closeToken depth cs generalizing raw with
  | case1 => simp at h
  | case2 => simp at h
  | case3 depth c cs ih =>
      obtain ⟨⟨a, b⟩, hab, heq⟩ := Option.map_eq_some_iff.1 h
      cases heq
      simp [ih hab]
  | case4 depth cs ih =>
      obtain ⟨⟨a, b⟩, hab, heq⟩ := Option.map_eq_some_iff.1 h
      cases heq
      simp [ih hab]
  | case5 cs depth ih =>
      obtain ⟨⟨a, b⟩, hab, heq⟩ := Option.map_eq_some_iff.1 h
      cases heq
      simp [ih hab]
  | case6 rest' => cases h; simp
  | case7 cs _ ih =>
      obtain ⟨⟨a, b⟩, hab, heq⟩ := Option.map_eq_some_iff.1 h
      cases heq
      simp [ih hab]
  | case8 depth c cs _ _ _ _ ih =>
      obtain ⟨⟨a, b⟩, hab, heq⟩ := Option.map_eq_some_iff.1 h
      cases heq
      simp [ih hab]

def readNamed (value : List Char) :
    Except PatternError (List Char × Option (List Char) × List Char) :=
  match cut ['<'] value with
  | none => .ok ([], none, value)
  | some (lead, rest) =>
      match cut ['>'] rest with
      | none => .error (.invalidName (String.ofList value))
      | some (name, body) =>
          if isIdentifier name then .ok (lead, some name, body)
          else .error (.invalidName (String.ofList name))

def Token.read (raw : List Char) : Except PatternError Token :=
  match cut [':'] raw with
  | none => .error (.unknownKind (String.ofList raw))
  | some (letter, value) =>
      match Kind.read? letter with
      | none => .error (.unknownKind (String.ofList letter))
      | some kind =>
          match readNamed value with
          | .error e => .error e
          | .ok (lead, name, body) =>
              if kind.needsName && name.isNone then .error (.missingName (String.ofList raw))
              else .ok ⟨kind, lead, name, body⟩

def literalPieces (text : List Char) : List Piece :=
  if text = [] then [] else [.literal text]

def split (cs : List Char) : Except PatternError (List Piece) :=
  match _hcut : cut ['\x7b', '\x7b'] cs with
  | none => .ok (literalPieces cs)
  | some (before, inner) =>
      match _hclose : closeToken 0 inner with
      | none => .error (.unterminated (String.ofList ('\x7b' :: '\x7b' :: inner)))
      | some (raw, rest) =>
          match Token.read raw with
          | .error e => .error e
          | .ok t =>
              match split rest with
              | .error e => .error e
              | .ok ps => .ok (literalPieces before ++ .token t :: ps)
termination_by cs.length
decreasing_by
  have h1 := congrArg List.length (eq_append_of_cut _hcut)
  have h2 := congrArg List.length (eq_append_of_closeToken _hclose)
  simp at h1 h2
  omega

end UrlRouter
