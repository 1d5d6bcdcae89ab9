import UrlRouter.Regex.Node

/-!
Regular expressions as lists of steps that many readers of a text can be at together. The steps of
a node are entered at the first and left behind the last one, and jumps are relative, so that the
steps of a part do not depend on where it stands.
-/

namespace UrlRouter.Regex

inductive Step where
  | readChar (c : Char)
  | read (chars : CharClass)
  | check (a : Assertion)
  | openGroup (name : String)
  | closeGroup (name : String)
  /-- goes on at each of the distances, the preferred one first -/
  | jump (distances : List Int)
  | accept
  deriving DecidableEq

def ways (greedy : Bool) (again leave : Int) : Step :=
  .jump (if greedy then [again, leave] else [leave, again])

def timesSteps (n : Nat) (body : List Step) : List Step := (List.replicate n body).flatten

def upToSteps (n : Nat) (greedy : Bool) (body : List Step) : List Step :=
  (List.range n).flatMap fun i =>
    ways greedy 1 ((n - i) * (body.length + 1) : Nat) :: body

def someSteps (greedy : Bool) (body : List Step) : List Step :=
  body ++ [ways greedy (-(body.length : Int)) 1]

def anySteps (greedy : Bool) (body : List Step) : List Step :=
  ways greedy 1 (body.length + 2 : Nat) :: body ++ [.jump [-(body.length + 1 : Nat)]]

/-- The steps of a loop. Where a round may stay in place, the choice between no round and some
comes before the rounds, and the choice between them behind each. -/
def loopSteps (least : Nat) (most : Option Nat) (greedy movesOn : Bool) (body : List Step) :
    List Step :=
  match most, least with
  | some most, least => timesSteps least body ++ upToSteps (most - least) greedy body
  | none, 0 =>
      if movesOn then anySteps greedy body else upToSteps 1 greedy (someSteps greedy body)
  | none, least + 1 => timesSteps least body ++ someSteps greedy body

namespace Node

mutual

def steps : Node → List Step
  | .empty => []
  | .literal text => text.map .readChar
  | .set chars => [.read chars]
  | .assertion a => [.check a]
  | .loop least most greedy body => loopSteps least most greedy body.movesOn body.steps
  | .group _ (some name) body => .openGroup name :: body.steps ++ [.closeGroup name]
  | .group _ none body => body.steps
  | .seq items => stepsOfAll items
  | .alt branches => stepsOfAny branches

def stepsOfAll : List Node → List Step
  | [] => []
  | n :: ns => n.steps ++ stepsOfAll ns

def stepsOfAny : List Node → List Step
  | [] => [.jump []]
  | [n] => n.steps
  | n :: ns =>
      let one := n.steps
      let others := stepsOfAny ns
      .jump [1, (one.length + 2 : Nat)] :: one ++ .jump [(others.length + 1 : Nat)] :: others

end

end Node

structure Program where
  steps : Array Step
  deriving DecidableEq

instance : Inhabited Program := ⟨⟨#[]⟩⟩

def Program.ofNode (n : Node) : Program := ⟨(n.steps ++ [Step.accept]).toArray⟩

end UrlRouter.Regex
