namespace UrlRouter.Regex

inductive Flag where
  | ignoreCase
  | multiLine
  | dotAll
  | swapGreed
  | unicode
  | anyLineEnd
  | ignoreBlanks
  deriving DecidableEq, Repr

abbrev FlagChanges := List (Flag × Bool)

def FlagChanges.state? (changes : FlagChanges) (f : Flag) : Option Bool :=
  (changes.find? (·.1 = f)).map (·.2)

inductive PosixClass where
  | alnum
  | alpha
  | ascii
  | blank
  | cntrl
  | digit
  | graph
  | lower
  | print
  | punct
  | space
  | upper
  | word
  | xdigit
  deriving DecidableEq, Repr

inductive LetterClass where
  | digit
  | space
  | word
  deriving DecidableEq, Repr

inductive ClassOp where
  | inter
  | diff
  | symmDiff
  deriving DecidableEq, Repr

inductive ClassExpr where
  | range (low high : Char)
  | posix (kind : PosixClass) (negated : Bool)
  | letter (kind : LetterClass) (negated : Bool)
  | named (name : List Char) (negated : Bool)
  | valued (property value : List Char) (negated : Bool)
  /-- any of the items, which are never just one -/
  | union (items : List ClassExpr)
  | op (kind : ClassOp) (a b : ClassExpr)
  | bracketed (negated : Bool) (e : ClassExpr)
  deriving Inhabited

def ClassExpr.ofItems : List ClassExpr → ClassExpr
  | [e] => e
  | es => .union es

inductive Mark where
  | lineStart
  | lineEnd
  | textStart
  | textEnd
  | boundary
  | noBoundary
  | wordStart
  | wordEnd
  | halfStart
  | halfEnd
  deriving DecidableEq, Repr

inductive Grouping where
  | numbered
  | named (name : List Char)
  | plain (changes : FlagChanges)
  deriving DecidableEq, Repr

inductive Expr where
  | empty
  | flags (changes : FlagChanges)
  /-- a character, `raw` when written as two hexadecimal digits -/
  | char (c : Char) (raw : Bool)
  | dot
  | mark (m : Mark)
  | charClass (e : ClassExpr)
  | loop (least : Nat) (most : Option Nat) (greedy : Bool) (body : Expr)
  | group (kind : Grouping) (body : Expr)
  | seq (items : List Expr)
  | alt (branches : List Expr)
  deriving Inhabited

mutual

def ClassExpr.depth : ClassExpr → Nat
  | .union [] => 0
  | .union (e :: es) => max e.depth (depthOfItems es) + 1
  | .op _ a b => max a.depth b.depth + 1
  | .bracketed _ e => e.depth + 1
  | _ => 0

def depthOfItems : List ClassExpr → Nat
  | [] => 0
  | e :: es => max e.depth (depthOfItems es)

end

mutual

def Expr.depth : Expr → Nat
  | .charClass e => e.depth
  | .loop _ _ _ e => e.depth + 1
  | .group _ e => e.depth + 1
  | .seq es => depths es + 1
  | .alt es => depths es + 1
  | _ => 0

def depths : List Expr → Nat
  | [] => 0
  | e :: es => max e.depth (depths es)

end

mutual

def Expr.groupNames : Expr → List (List Char)
  | .loop _ _ _ e => e.groupNames
  | .group (.named n) e => n :: e.groupNames
  | .group _ e => e.groupNames
  | .seq es => namesOfAll es
  | .alt es => namesOfAll es
  | _ => []

def namesOfAll : List Expr → List (List Char)
  | [] => []
  | e :: es => e.groupNames ++ namesOfAll es

end

def Expr.ofItems : List Expr → Expr
  | [] => .empty
  | [e] => e
  | es => .seq es

def Expr.ofBranches : List Expr → Expr
  | [e] => e
  | es => .alt es

end UrlRouter.Regex
