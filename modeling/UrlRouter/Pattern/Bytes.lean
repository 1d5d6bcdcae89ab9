import UrlRouter.Pattern.Token
import UrlRouter.Text.Slice

/-!
The pieces of a pattern, read from its bytes by positions. Every part of the text is a slice of it,
and where there is no such slice, reading breaks off with `none`.
-/

namespace UrlRouter

open Text

/-- What counts inside a token, in a text that is held in units of some type. -/
structure Signs (α : Type) where
  escape : α
  opening : α
  closing : α
  opening_ne_escape : opening ≠ escape
  closing_ne_escape : closing ≠ escape
  closing_ne_opening : closing ≠ opening

namespace Signs

def bytes : Signs UInt8 := ⟨0x5C, 0x7B, 0x7D, by decide, by decide, by decide⟩

def characters : Signs Char := ⟨'\\', '\x7b', '\x7d', by decide, by decide, by decide⟩

end Signs

/-- How far the end of a token is looked for: the braces that are open, and the position. -/
structure TokenScan where
  depth : Nat
  pos : Nat

namespace TokenScan

variable {α : Type} [DecidableEq α] (signs : Signs α) (xs : List α)

def start : TokenScan := ⟨0, 0⟩

/-- One round, at the unit `x`. It is the last one if the token is closed there. A backslash
takes the next unit with it, whatever that is, and also where there is none. -/
def step (s : TokenScan) (x : α) : Option TokenScan :=
  if x = signs.escape then some ⟨s.depth, s.pos + 2⟩
  else if x = signs.opening then some ⟨s.depth + 1, s.pos + 1⟩
  else if x = signs.closing ∧ 0 < s.depth then some ⟨s.depth - 1, s.pos + 1⟩
  else if x = signs.closing ∧ xs[s.pos + 1]? = some signs.closing then none
  else some ⟨s.depth, s.pos + 1⟩

theorem pos_of_step {signs : Signs α} {xs : List α} {s t : TokenScan} {x : α}
    (h : s.step signs xs x = some t) : s.pos < t.pos ∧ t.pos ≤ s.pos + 2 := by
  grind [step]

def run (s : TokenScan) : Option Nat :=
  if _hpos : s.pos < xs.length then
    match _hstep : s.step signs xs xs[s.pos] with
    | none => some s.pos
    | some t => run t
  else none
termination_by xs.length - s.pos
decreasing_by
  have := pos_of_step _hstep
  omega

end TokenScan

def closePosition {α : Type} [DecidableEq α] (signs : Signs α) (xs : List α) : Option Nat :=
  TokenScan.start.run signs xs

def textOf (bs : List UInt8) : String := String.ofList (ofUtf8 bs)

def readNamedBytes (value : List UInt8) :
    Option (Except PatternError (List Char × Option (List Char) × List Char)) :=
  match position? (utf8 ['<']) value with
  | none => some (.ok ([], none, ofUtf8 value))
  | some bracket => do
      let tail ← slice? value bracket value.length
      match position? (utf8 ['>']) tail with
      | none => return .error (.invalidName (textOf value))
      | some close =>
          let name ← slice? value (bracket + 1) (bracket + close)
          if isIdentifier (ofUtf8 name) then
            let lead ← slice? value 0 bracket
            let body ← slice? value (bracket + close + 1) value.length
            return .ok (ofUtf8 lead, some (ofUtf8 name), ofUtf8 body)
          else return .error (.invalidName (textOf name))

def Token.readBytes (raw : List UInt8) : Option (Except PatternError Token) :=
  match position? (utf8 [':']) raw with
  | none => some (.error (.unknownKind (textOf raw)))
  | some colon => do
      let letter ← slice? raw 0 colon
      match Kind.read? (ofUtf8 letter) with
      | none => return .error (.unknownKind (textOf letter))
      | some kind =>
          let value ← slice? raw (colon + 1) raw.length
          match ← readNamedBytes value with
          | .error e => return .error e
          | .ok (lead, name, body) =>
              if kind.needsName && name.isNone then return .error (.missingName (textOf raw))
              else return .ok ⟨kind, lead, name, body⟩

def nextToken (bs : List UInt8) (opening : Nat) :
    Option (Except PatternError (List Char × Token × List UInt8)) := do
  let before ← slice? bs 0 opening
  let inner ← slice? bs (opening + 2) bs.length
  match closePosition .bytes inner with
  | none =>
      let unclosed ← slice? bs opening bs.length
      return .error (.unterminated (textOf unclosed))
  | some close =>
      let raw ← slice? inner 0 close
      match ← Token.readBytes raw with
      | .error e => return .error e
      | .ok t =>
          let rest ← slice? inner (close + 2) inner.length
          return .ok (ofUtf8 before, t, rest)

theorem length_lt_of_nextToken {bs rest : List UInt8} {opening : Nat} {before : List Char}
    {t : Token} (h : nextToken bs opening = some (.ok (before, t, rest))) :
    rest.length < bs.length := by
  obtain ⟨_, _, h⟩ := Option.bind_eq_some_iff.1 h
  obtain ⟨inner, hinner, h⟩ := Option.bind_eq_some_iff.1 h
  split at h
  · obtain ⟨_, _, h⟩ := Option.bind_eq_some_iff.1 h
    cases h
  · obtain ⟨_, _, h⟩ := Option.bind_eq_some_iff.1 h
    obtain ⟨_, _, h⟩ := Option.bind_eq_some_iff.1 h
    split at h
    · cases h
    · obtain ⟨_, hrest, h⟩ := Option.bind_eq_some_iff.1 h
      cases h
      have hinner := length_of_slice? hinner
      have hrest := length_of_slice? hrest
      omega

def splitBytes (bs : List UInt8) : Option (Except PatternError (List Piece)) :=
  match position? (utf8 ['\x7b', '\x7b']) bs with
  | none => some (.ok (literalPieces (ofUtf8 bs)))
  | some opening =>
      match _hnext : nextToken bs opening with
      | none => none
      | some (.error e) => some (.error e)
      | some (.ok (before, t, rest)) =>
          (splitBytes rest).map fun ps => ps.map (literalPieces before ++ .token t :: ·)
termination_by bs.length
decreasing_by exact length_lt_of_nextToken _hnext

end UrlRouter
