import UrlRouter.Regex.Program

/-!
Search for the preferred match. All ways through the program are followed together, in the order of
preference; of those that come to one step at one place only the first goes on.
-/

namespace UrlRouter.Regex

structure Thread where
  next : Nat
  /-- where the open groups start, the innermost first -/
  opened : List Nat
  /-- the closed groups with their ends, the last one first -/
  closed : List (String × Nat × Nat)
  deriving DecidableEq

structure Place where
  index : Nat
  before : Option Char
  after : Option Char
  deriving DecidableEq

namespace Thread

def start : Thread := ⟨0, [], []⟩

def proceed (t : Thread) : Thread := { t with next := t.next + 1 }

def jump (t : Thread) (distance : Int) : Thread :=
  { t with next := (t.next + distance).toNat }

def openGroup (t : Thread) (index : Nat) : Thread :=
  { t.proceed with opened := index :: t.opened }

def closeGroup (t : Thread) (name : String) (index : Nat) : Thread :=
  match t.opened with
  | [] => t.proceed
  | first :: opened => { t.proceed with opened, closed := (name, first, index) :: t.closed }

def after (t : Thread) (here : Place) : Step → List Thread
  | .check a => if a.holds here.before here.after then [t.proceed] else []
  | .openGroup _ => [t.openGroup here.index]
  | .closeGroup name => [t.closeGroup name here.index]
  | .jump distances => distances.map t.jump
  | .readChar _ | .read _ | .accept => []

def read? (t : Thread) (c : Char) : Step → Option Thread
  | .readChar d => if c = d then some t.proceed else none
  | .read chars => if chars.contains c.toNat then some t.proceed else none
  | _ => none

end Thread

def unseen (seen : Array Bool) : Nat := seen.toList.count false

theorem unseen_set_lt {seen : Array Bool} {i : Nat} (h : i < seen.size) (hi : seen[i] = false) :
    unseen (seen.set i true) < unseen seen := by
  have hl : i < seen.toList.length := h
  have h0 : seen.toList[i] = false := by simpa using hi
  have hpos : 0 < seen.toList.count false :=
    List.count_pos_iff.2 (h0 ▸ List.getElem_mem hl)
  rw [unseen, Array.toList_set, List.count_set hl, h0]
  exact Nat.sub_lt hpos (by decide)

/-- Follows threads up to where they read a character. Gives those that do, the last one first, up
to the first thread that completes a match. -/
def settle (p : Program) (here : Place) (seen : Array Bool) (ready : List Thread) :
    List Thread → List Thread × Option Thread
  | [] => (ready, none)
  | t :: todo =>
      if h : t.next < seen.size then
        if hs : seen[t.next] then settle p here seen ready todo
        else
          match p.steps[t.next]? with
          | some .accept => (ready, some t)
          | some (.readChar _) | some (.read _) =>
              settle p here (seen.set t.next true) (t :: ready) todo
          | some step => settle p here (seen.set t.next true) ready (t.after here step ++ todo)
          | none => settle p here (seen.set t.next true) ready todo
      else settle p here seen ready todo
  termination_by todo => (unseen seen, todo.length)
  decreasing_by
    all_goals first
      | exact Prod.Lex.right _ (by simp)
      | exact Prod.Lex.left _ _ (unseen_set_lt h (by simpa using hs))

def advance (p : Program) (best : Option Thread) (threads : List Thread) (index : Nat)
    (before : Option Char) (text : List Char) : Option Thread :=
  let threads := if best.isNone then threads ++ [.start] else threads
  let (ready, done) :=
    settle p ⟨index, before, text.head?⟩ (.replicate p.steps.size false) [] threads
  match text with
  | [] => done.or best
  | c :: text =>
      let threads := ready.reverse.filterMap fun t => p.steps[t.next]?.bind (t.read? c)
      if threads.isEmpty && (done.or best).isSome then done.or best
      else advance p (done.or best) threads (index + 1) (some c) text

/-- The texts of groups, the one matched last first. -/
abbrev Captures := List (String × List Char)

def Captures.get? (caps : Captures) (name : String) : Option (List Char) :=
  (caps.find? (·.1 == name)).map (·.2)

def Program.captures? (p : Program) (text : List Char) : Option Captures :=
  (advance p none [] 0 none text).map fun t =>
    t.closed.map fun (name, first, past) => (name, (text.drop first).take (past - first))

end UrlRouter.Regex
