import UrlRouter.Regex.Assertion

/-!
Regular expressions by meaning: every flag has been worked in. `ofClass`, `repeated`, `joined` and
`choice` build them in a normal form, in which neighbouring literals are one, sequences hold no
sequences, choices hold no choices, and what all branches of a choice start with stands before it.
-/

namespace UrlRouter.Regex

inductive Node where
  | empty
  | literal (text : List Char)
  | set (chars : CharClass)
  | assertion (a : Assertion)
  | loop (least : Nat) (most : Option Nat) (greedy : Bool) (body : Node)
  | group (index : Nat) (name : Option String) (body : Node)
  | seq (items : List Node)
  | alt (branches : List Node)
  deriving Inhabited

namespace Node

mutual

def same : Node → Node → Bool
  | .empty, .empty => true
  | .literal s, .literal t => s == t
  | .set s, .set t => decide (s = t)
  | .assertion a, .assertion b => decide (a = b)
  | .loop l m g a, .loop l' m' g' b => l == l' && m == m' && g == g' && same a b
  | .group i n a, .group i' n' b => i == i' && n == n' && same a b
  | .seq as, .seq bs => sameAll as bs
  | .alt as, .alt bs => sameAll as bs
  | _, _ => false

def sameAll : List Node → List Node → Bool
  | [], [] => true
  | a :: as, b :: bs => same a b && sameAll as bs
  | _, _ => false

end

mutual

theorem eq_of_same : {a b : Node} → same a b = true → a = b
  | .empty, b, h => by cases b <;> simp_all [same]
  | .literal _, b, h => by cases b <;> simp_all [same]
  | .set _, b, h => by cases b <;> simp_all [same]
  | .assertion _, b, h => by cases b <;> simp_all [same]
  | .loop _ _ _ a, b, h => by
      cases b <;> simp only [same, Bool.and_eq_true, beq_iff_eq, Bool.false_eq_true] at h
      obtain ⟨⟨⟨rfl, rfl⟩, rfl⟩, h⟩ := h
      rw [eq_of_same h]
  | .group _ _ a, b, h => by
      cases b <;> simp only [same, Bool.and_eq_true, beq_iff_eq, Bool.false_eq_true] at h
      obtain ⟨⟨rfl, rfl⟩, h⟩ := h
      rw [eq_of_same h]
  | .seq as, b, h => by
      cases b <;> simp only [same, Bool.false_eq_true] at h
      rw [eq_of_sameAll h]
  | .alt as, b, h => by
      cases b <;> simp only [same, Bool.false_eq_true] at h
      rw [eq_of_sameAll h]

theorem eq_of_sameAll : {as bs : List Node} → sameAll as bs = true → as = bs
  | [], bs, h => by cases bs <;> simp_all [sameAll]
  | a :: as, bs, h => by
      cases bs <;> simp only [sameAll, Bool.and_eq_true, Bool.false_eq_true] at h
      rw [eq_of_same h.1, eq_of_sameAll h.2]

end

mutual

def staysInPlace : Node → Bool
  | .empty | .assertion _ => true
  | .literal _ | .set _ => false
  | .loop _ most _ body => most.isSome && body.staysInPlace
  | .group _ _ body => body.staysInPlace
  | .seq items => allStayInPlace items
  | .alt branches => allStayInPlace branches

def allStayInPlace : List Node → Bool
  | [] => true
  | n :: ns => n.staysInPlace && allStayInPlace ns

end

mutual

def leastLength? : Node → Option Nat
  | .empty | .assertion _ => some 0
  | .literal text => some text.length
  | .set chars => if chars.edges = [] then none else some 1
  | .loop least _ _ body => body.leastLength?.map (least * ·)
  | .group _ _ body => body.leastLength?
  | .seq items => sumOfLeast? items
  | .alt branches => minOfLeast? branches

def sumOfLeast? : List Node → Option Nat
  | [] => some 0
  | n :: ns =>
      match n.leastLength?, sumOfLeast? ns with
      | some a, some b => some (a + b)
      | _, _ => none

def minOfLeast? : List Node → Option Nat
  | [] => none
  | [n] => n.leastLength?
  | n :: ns =>
      match n.leastLength?, minOfLeast? ns with
      | some a, some b => some (min a b)
      | _, _ => none

end

def movesOn (n : Node) : Bool := n.leastLength?.any (0 < ·)

def ofClass (chars : CharClass) : Node :=
  match chars.char? with
  | some c => .literal [c]
  | none => .set chars

/-- More than one round of what stays in place makes no difference. -/
def repeated (least : Nat) (most : Option Nat) (greedy : Bool) (body : Node) : Node :=
  let bounds :=
    if body.staysInPlace then (min least 1, some (min (most.getD 1) 1)) else (least, most)
  if bounds = (0, some 0) then .empty
  else if bounds = (1, some 1) then body
  else .loop bounds.1 bounds.2 greedy body

def consPart : Node → List Node → List Node
  | .literal s, .literal t :: ns => .literal (s ++ t) :: ns
  | n, ns => n :: ns

def items : Node → List Node
  | .empty => []
  | .seq ns => ns
  | n => [n]

def joined (ns : List Node) : Node :=
  match (ns.flatMap items).foldr consPart [] with
  | [] => .empty
  | [n] => n
  | ns => .seq ns

def branches : Node → List Node
  | .alt ns => ns
  | n => [n]

def singles? : List Node → Option (List CharClass)
  | [] => some []
  | .literal [c] :: ns => (singles? ns).map (.single c :: ·)
  | _ => none

def sets? : List Node → Option (List CharClass)
  | [] => some []
  | .set s :: ns => (sets? ns).map (s :: ·)
  | _ => none

def sequences? : List Node → Option (List (List Node))
  | [] => some []
  | .seq items :: ns => (sequences? ns).map (items :: ·)
  | _ => none

def commonStart : List Node → List Node → List Node
  | a :: as, b :: bs => if a.same b then a :: commonStart as bs else []
  | _, _ => []

def choiceIn : Nat → List Node → Node
  | steps, ns =>
      match ns.flatMap branches with
      | [] => .set .empty
      | [n] => n
      | ns =>
          match (singles? ns).or (sets? ns) with
          | some ss => ofClass (.unions ss)
          | none =>
              match steps, sequences? ns with
              | steps + 1, some (first :: rest) =>
                  match rest.foldl commonStart first with
                  | [] => .alt ns
                  | start =>
                      let ends := (first :: rest).map fun items => joined (items.drop start.length)
                      joined (start ++ [choiceIn steps ends])
              | _, _ => .alt ns

mutual

def count : Node → Nat
  | .loop _ _ _ body => body.count + 1
  | .group _ _ body => body.count + 1
  | .seq items => countAll items + 1
  | .alt branches => countAll branches + 1
  | _ => 1

def countAll : List Node → Nat
  | [] => 0
  | n :: ns => n.count + countAll ns

end

/-- Taking out a common start leaves fewer nodes, so their number bounds how often it is done. -/
def choice (ns : List Node) : Node := choiceIn (countAll ns) ns

end Node

end UrlRouter.Regex
