import UrlRouter.Regex.Expr
import UrlRouter.Regex.Node
import UrlRouter.Regex.Property

/-!
The meaning of written expressions under flags. Without the flag `u` classes hold ASCII only, and
what could match a part of a character is refused.
-/

namespace UrlRouter.Regex

open Unicode

structure Flags where
  ignoreCase : Bool
  multiLine : Bool
  dotAll : Bool
  swapGreed : Bool
  unicode : Bool
  anyLineEnd : Bool
  deriving DecidableEq, Repr

namespace Flags

def initial : Flags := ⟨false, false, false, false, true, false⟩

def change (f : Flags) : Flag × Bool → Flags
  | (.ignoreCase, on) => { f with ignoreCase := on }
  | (.multiLine, on) => { f with multiLine := on }
  | (.dotAll, on) => { f with dotAll := on }
  | (.swapGreed, on) => { f with swapGreed := on }
  | (.unicode, on) => { f with unicode := on }
  | (.anyLineEnd, on) => { f with anyLineEnd := on }
  | (.ignoreBlanks, _) => f

def changes (f : Flags) (cs : FlagChanges) : Flags := cs.foldl change f

end Flags

def asciiClass : CharClass := .range 0 0x7F

def withCase (f : Flags) (c : CharClass) : CharClass :=
  if ¬ f.ignoreCase then c
  else if f.unicode then .folded c
  else .inter (.folded c) asciiClass

def negatedIf (f : Flags) (negated : Bool) (c : CharClass) : Option CharClass :=
  if ¬ negated then some c
  else if f.unicode then some (.compl c)
  else none

def PosixClass.chars : PosixClass → CharClass
  | .alnum => .ofSorted [(0x30, 0x39), (0x41, 0x5A), (0x61, 0x7A)]
  | .alpha => .ofSorted [(0x41, 0x5A), (0x61, 0x7A)]
  | .ascii => asciiClass
  | .blank => .ofSorted [(0x9, 0x9), (0x20, 0x20)]
  | .cntrl => .ofSorted [(0, 0x1F), (0x7F, 0x7F)]
  | .digit => .ofSorted [(0x30, 0x39)]
  | .graph => .ofSorted [(0x21, 0x7E)]
  | .lower => .ofSorted [(0x61, 0x7A)]
  | .print => .ofSorted [(0x20, 0x7E)]
  | .punct => .ofSorted [(0x21, 0x2F), (0x3A, 0x40), (0x5B, 0x60), (0x7B, 0x7E)]
  | .space => .ofSorted [(0x9, 0xD), (0x20, 0x20)]
  | .upper => .ofSorted [(0x41, 0x5A)]
  | .word => asciiWordClass
  | .xdigit => .ofSorted [(0x30, 0x39), (0x41, 0x46), (0x61, 0x66)]

def LetterClass.chars (unicode : Bool) : LetterClass → CharClass
  | .digit => .ofSorted (if unicode then decimalNumber else [(0x30, 0x39)])
  | .space => .ofSorted (if unicode then whiteSpace else [(0x9, 0xD), (0x20, 0x20)])
  | .word => if unicode then wordClass else asciiWordClass

namespace ClassExpr

def isAscii (c : Char) : Bool := decide (c.toNat < 0x80)

mutual

def chars? (f : Flags) : ClassExpr → Option CharClass
  | .range low high =>
      if f.unicode || (isAscii low && isAscii high) then some (.between low high) else none
  | .posix kind negated => negatedIf f negated (withCase f kind.chars)
  | .letter kind negated => negatedIf f negated (kind.chars f.unicode)
  | .named name negated =>
      if f.unicode then (namedClass? name).bind fun c => negatedIf f negated (withCase f c)
      else none
  | .valued property value negated =>
      if f.unicode then
        (valuedClass? property value).bind fun c => negatedIf f negated (withCase f c)
      else none
  | .union items => charsOfAny? f items
  | .op kind a b =>
      match a.chars? f, b.chars? f with
      | some a, some b =>
          let (a, b) := (withCase f a, withCase f b)
          match kind with
          | .inter => some (a.inter b)
          | .diff => some (a.diff b)
          | .symmDiff => some (a.symmDiff b)
      | _, _ => none
  | .bracketed negated e => (e.chars? f).bind fun c => negatedIf f negated (withCase f c)

def charsOfAny? (f : Flags) : List ClassExpr → Option CharClass
  | [] => some .empty
  | e :: es =>
      match e.chars? f, charsOfAny? f es with
      | some a, some b => some (a.union b)
      | _, _ => none

end

end ClassExpr

def Mark.assertion (f : Flags) : Mark → Assertion
  | .lineStart =>
      if ¬ f.multiLine then .textStart else if f.anyLineEnd then .anyLineStart else .lineStart
  | .lineEnd => if ¬ f.multiLine then .textEnd else if f.anyLineEnd then .anyLineEnd else .lineEnd
  | .textStart => .textStart
  | .textEnd => .textEnd
  | .boundary => .boundary (!f.unicode)
  | .noBoundary => .noBoundary (!f.unicode)
  | .wordStart => .wordEdge .start (!f.unicode)
  | .wordEnd => .wordEdge .stop (!f.unicode)
  | .halfStart => .halfEdge .start (!f.unicode)
  | .halfEnd => .halfEdge .stop (!f.unicode)

def dotClass (f : Flags) : Option CharClass :=
  if ¬ f.unicode then none
  else if f.dotAll then some .any
  else if f.anyLineEnd then some (.compl (.ofSorted [(0xA, 0xA), (0xD, 0xD)]))
  else some (.compl (.single '\n'))

def charClass (f : Flags) (c : Char) (raw : Bool) : Option CharClass :=
  if f.unicode then some (withCase f (.single c))
  else if raw && !ClassExpr.isAscii c then none
  else some (if ClassExpr.isAscii c then withCase f (.single c) else .single c)

mutual

/-- The node of an expression after `groups` groups, with the flags and the number of groups that
hold behind it. -/
def Expr.node? (f : Flags) (groups : Nat) : Expr → Option (Node × Flags × Nat)
  | .empty => some (.empty, f, groups)
  | .flags changes => some (.empty, f.changes changes, groups)
  | .char c raw => (charClass f c raw).map fun s => (.ofClass s, f, groups)
  | .dot => (dotClass f).map fun s => (.ofClass s, f, groups)
  | .mark m => some (.assertion (m.assertion f), f, groups)
  | .charClass e => (e.chars? f).map fun s => (.ofClass s, f, groups)
  | .loop least most greedy e =>
      (e.node? f groups).map fun (n, g, groups) =>
        (.repeated least most (greedy != g.swapGreed) n, g, groups)
  | .group .numbered e =>
      (e.node? f (groups + 1)).map fun (n, _, groups') => (.group groups none n, f, groups')
  | .group (.named name) e =>
      (e.node? f (groups + 1)).map fun (n, _, groups') =>
        (.group groups (some (String.ofList name)) n, f, groups')
  | .group (.plain changes) e =>
      (e.node? (f.changes changes) groups).map fun (n, _, groups) => (n, f, groups)
  | .seq es => (nodes? f groups es).map fun (ns, f, groups) => (.joined ns, f, groups)
  | .alt es => (nodes? f groups es).map fun (ns, f, groups) => (.choice ns, f, groups)

def nodes? (f : Flags) (groups : Nat) : List Expr → Option (List Node × Flags × Nat)
  | [] => some ([], f, groups)
  | e :: es =>
      match e.node? f groups with
      | some (n, f, groups) => (nodes? f groups es).map fun (ns, g) => (n :: ns, g)
      | none => none

end

end UrlRouter.Regex
