namespace UrlRouter.Unicode

abbrev Ranges := List (Nat × Nat)

def Ranges.contains (rs : Ranges) (n : Nat) : Bool :=
  rs.any fun r => decide (r.1 ≤ n) && decide (n ≤ r.2)

theorem Ranges.contains_iff {rs : Ranges} {n : Nat} :
    rs.contains n = true ↔ ∃ r ∈ rs, r.1 ≤ n ∧ n ≤ r.2 := by
  simp [Ranges.contains]

/-- Every `step`-th code point from `first` to `last` moves by `target - first`. -/
structure Run where
  first : Nat
  last : Nat
  step : Nat
  target : Nat
  deriving DecidableEq, Repr

def Run.covers (r : Run) (n : Nat) : Bool :=
  decide (r.first ≤ n) && decide (n ≤ r.last) && (n - r.first) % r.step == 0

def Run.covered (r : Run) : List Nat :=
  List.range' r.first ((r.last - r.first) / r.step + 1) r.step

def moved (rs : List Run) (n : Nat) : Nat :=
  match rs.find? (·.covers n) with
  | some r => r.target + (n - r.first)
  | none => n

def Run.source (r : Run) (n : Nat) : Nat := r.first + (n - r.target)

def sources (rs : List Run) (n : Nat) : List Nat :=
  rs.filterMap fun r =>
    if r.target ≤ n ∧ r.covers (r.source n) = true then some (r.source n) else none

end UrlRouter.Unicode
