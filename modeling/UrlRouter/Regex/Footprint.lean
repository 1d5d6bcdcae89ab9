import Std.Data.TreeMap
import UrlRouter.Regex.Node
import UrlRouter.Regex.Utf8

/-!
The size of the byte automata of an expression. There are two of them, one that reads forward and
one that reads backward, and an expression is refused if one of them takes more than ten mebibytes.
A state takes 32 bytes, an edge of a branching state 4 and an edge for one of several byte ranges 8.
-/

namespace UrlRouter.Regex

structure Footprint where
  states : Nat
  /-- the bytes of edges -/
  edges : Nat
  deriving DecidableEq, Repr

def Footprint.bytes (f : Footprint) : Nat := 32 * f.states + f.edges

def Footprint.limit : Nat := 10 * Nat.pow 2 20

def Footprint.fits (f : Footprint) : Bool := decide (f.bytes ≤ limit)

def Footprint.add (f : Footprint) (states edges : Nat) : Footprint :=
  ⟨f.states + states, f.edges + edges⟩

def mix (ns : List Nat) : Nat :=
  (ns.foldl (fun h n => (h ^^^ UInt64.ofNat n) * 1099511628211)
    (14695981039346656037 : UInt64)).toNat

/-- An automaton with a table of states that may be used again. A slot of the table holds the last
state that was put there. -/
structure Sharing where
  grown : Footprint
  slots : Std.TreeMap Nat (List Nat × Nat)

def Sharing.state (size : Nat) (key : List Nat) (edges : Nat) : Sharing → Nat × Sharing
  | ⟨grown, slots⟩ =>
      let slot := mix key % size
      match slots[slot]?.filter (·.1 = key) with
      | some (_, state) => (state, ⟨grown, slots⟩)
      | none => (grown.states, ⟨grown.add 1 edges, slots.insert slot (key, grown.states)⟩)

/-- A state on the way of the last sequence, whose other edges are complete. -/
structure OpenState where
  /-- byte ranges with the states they lead to, the last one first -/
  edges : List (ByteRange × Nat)
  range : ByteRange

/-- Completes the states of a way, the last one first; each is shared if one like it is known. -/
def closeWay (target : Nat) : List OpenState → Sharing → Nat × Sharing
  | [], s => (target, s)
  | o :: way, s =>
      let (next, s) := closeWay target way s
      let edges := ((o.range, next) :: o.edges).reverse
      s.state 10000 (edges.flatMap fun ((low, high), next) => [low, high, next]) (8 * edges.length)

def extendWay (target : Nat) : List OpenState → List ByteRange → Sharing → List OpenState × Sharing
  | o :: way, r :: rs, s =>
      if o.range = r then
        let (way, s) := extendWay target way rs s
        (o :: way, s)
      else
        let (next, s) := closeWay target way s
        (⟨(o.range, next) :: o.edges, r⟩ :: rs.map (⟨[], ·⟩), s)
  | _, rs, s => (rs.map (⟨[], ·⟩), s)

/-- Forward, states with the same edges are shared, so that sequences with one end share it. -/
def Footprint.addForward (f : Footprint) (sequences : List (List ByteRange)) : Footprint :=
  let (way, s) := sequences.foldl
    (fun (way, s) sequence => extendWay f.states way sequence s) ([], ⟨f.add 1 0, ∅⟩)
  (closeWay f.states way s).2.grown

/-- Backward, a sequence starts with its last byte, and all sequences begin in one branching
state. -/
def Footprint.addBackward (f : Footprint) (sequences : List (List ByteRange)) : Footprint :=
  let s := sequences.foldl
    (fun s sequence =>
      (sequence.foldl (fun ((next, s) : Nat × Sharing) (low, high) =>
        s.state 1000 [next, low, high] 0) (f.states + 1, s)).2)
    (⟨f.add 2 0, ∅⟩ : Sharing)
  s.grown.add 0 (4 * sequences.length)

def CharClass.inAscii (s : CharClass) : Bool := s.edges.all (· ≤ 0x80)

def Footprint.addClass (f : Footprint) (backward : Bool) (s : CharClass) : Footprint :=
  if s.inAscii then f.add 2 (8 * s.ranges.length)
  else if backward then f.addBackward s.byteSequences
  else f.addForward s.byteSequences

/-- The words of a choice, as a tree by their bytes. At each node the edges since the last word that
ends there come first, because an earlier word is preferred to all that follow. -/
inductive WordTree where
  | leaf
  | edge (byte : Nat) (below : WordTree) (rest : WordTree)
  | word (rest : WordTree)

namespace WordTree

def alter (byte : Nat) (change : WordTree → WordTree) : WordTree → WordTree
  | .edge b below rest =>
      if b = byte then .edge b (change below) rest else .edge b below (alter byte change rest)
  | t => .edge byte (change .leaf) t

/-- A word that ends where one ended before and nothing goes on is there already. -/
def insert : List Nat → WordTree → WordTree
  | [], .word .leaf => .word .leaf
  | [], t => .word t
  | b :: bs, t => t.alter b (insert bs)

def hasEdges : WordTree → Bool
  | .leaf => false
  | .edge _ _ _ => true
  | .word rest => rest.hasEdges

def addGroup (edges : Nat) (f : Footprint) : Footprint :=
  match edges with
  | 0 => f
  | 1 => f.add 1 4
  | n => f.add 1 (4 + 8 * n)

/-- A node is a branching state over its groups of edges and the ends of words between them; where
nothing goes on, the final state stands for it. -/
def grow (edges : Nat) : WordTree → Footprint → Footprint
  | .leaf, f => (addGroup edges f).add 1 0
  | .edge _ below rest, f => rest.grow (edges + 1) (if below.hasEdges then below.grow 0 f else f)
  | .word rest, f => rest.grow 0 ((addGroup edges f).add 0 4)

end WordTree

def textBytes (text : List Char) : List Nat := text.flatMap fun c => encodedBytes c.toNat

def Footprint.addWords (f : Footprint) (backward : Bool) (words : List (List Char)) : Footprint :=
  (words.foldl
    (fun t word =>
      t.insert (if backward then (textBytes word).reverse else textBytes word))
    WordTree.leaf).grow 0 (f.add 1 0)

def growTimes (grow : Footprint → Option Footprint) : Nat → Footprint → Option Footprint
  | 0, f => some f
  | n + 1, f =>
      match grow f with
      | some f => if f.fits then growTimes grow n f else none
      | none => none

namespace Node

def words? : List Node → Option (List (List Char))
  | [] => some []
  | .literal text :: ns => (words? ns).map (text :: ·)
  | _ => none

mutual

def grow (backward : Bool) : Node → Footprint → Option Footprint
  | .empty, f => some (f.add 1 0)
  | .literal text, f => some (f.add (textBytes text).length 0)
  | .set chars, f => some (f.addClass backward chars)
  | .assertion _, f => some (f.add 1 0)
  | .loop least most _ body, f =>
      let round := body.grow backward
      match most, least with
      | none, 0 =>
          if body.movesOn then (round (f.add 1 0)).map (·.add 0 8)
          else (round f).map (·.add 3 16)
      | none, least + 1 => (growTimes round (least + 1) f).map (·.add 1 8)
      | some most, least =>
          let optional (f : Footprint) := (round (f.add 1 0)).map (·.add 0 8)
          if least = most then growTimes round least f
          else if least = 0 ∧ most = 1 then (optional f).map (·.add 1 0)
          else if least = 0 then growTimes optional most (f.add 2 0)
          else (growTimes round least f).bind fun f => growTimes optional (most - least) (f.add 1 0)
  | .group _ _ body, f =>
      if backward then body.grow backward f
      else (body.grow backward (f.add 1 0)).map (·.add 1 0)
  | .seq items, f => growItems backward items f
  | .alt branches, f =>
      match words? branches with
      | some words => some (f.addWords backward words)
      | none => growBranches backward 0 branches f

def growItems (backward : Bool) : List Node → Footprint → Option Footprint
  | [], f => some f
  | n :: ns, f =>
      if backward then (growItems backward ns f).bind (n.grow backward)
      else (n.grow backward f).bind (growItems backward ns)

def growBranches (backward : Bool) (done : Nat) : List Node → Footprint → Option Footprint
  | [], f => some f
  | n :: ns, f =>
      match n.grow backward f with
      | some f => growBranches backward (done + 1) ns (f.add (if done = 1 then 2 else 0) 4)
      | none => none

end

mutual

def fromTextStart : Node → Bool
  | .assertion a => decide (a = .textStart)
  | .loop least _ _ body => decide (0 < least) && body.fromTextStart
  | .group _ _ body => body.fromTextStart
  | .seq items => anyFromTextStart items
  | .alt branches => allFromTextStart branches
  | _ => false

def anyFromTextStart : List Node → Bool
  | [] => false
  | n :: ns => n.fromTextStart || n.staysInPlace && anyFromTextStart ns

def allFromTextStart : List Node → Bool
  | [] => true
  | n :: ns => n.fromTextStart && allFromTextStart ns

end

mutual

def toTextEnd : Node → Bool
  | .assertion a => decide (a = .textEnd)
  | .loop least _ _ body => decide (0 < least) && body.toTextEnd
  | .group _ _ body => body.toTextEnd
  | .seq items => anyToTextEnd items
  | .alt branches => allToTextEnd branches
  | _ => false

def anyToTextEnd : List Node → Bool
  | [] => false
  | n :: ns => anyToTextEnd ns || allStayInPlace ns && n.toTextEnd

def allToTextEnd : List Node → Bool
  | [] => true
  | n :: ns => n.toTextEnd && allToTextEnd ns

end

/-- The automaton for reading forward, with states that note where the match starts and ends. Unless
a match can only start at the start of the text, bytes before it are skipped. -/
def forwardFootprint? (n : Node) : Option Footprint :=
  let start : Footprint := if n.fromTextStart then ⟨1, 0⟩ else ⟨3, 16⟩
  (n.grow false (start.add 1 0)).map (·.add 2 0)

def backwardFootprint? (n : Node) : Option Footprint :=
  let start : Footprint := if n.toTextEnd then ⟨1, 0⟩ else ⟨3, 16⟩
  (n.grow true start).map (·.add 1 0)

def fits (n : Node) : Bool :=
  n.forwardFootprint?.any Footprint.fits && n.backwardFootprint?.any Footprint.fits

end Node

end UrlRouter.Regex
