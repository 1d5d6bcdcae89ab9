import UrlRouter.Unicode.CaseFolding

/-!
Sets of characters in a form that is unique: the code points at which membership changes. One
merge of two such lists gives union, intersection and the differences, and `contains_combine` says
what each of them holds.
-/

namespace UrlRouter.Regex

open Unicode

structure CharClass where
  /-- the code points at which membership changes; before the first nothing is in the class -/
  edges : List Nat
  ascending : edges.Pairwise (· < ·)
  deriving DecidableEq

namespace CharClass

/-- Membership of `n` after the given edges, from the membership before them. -/
def within : Bool → List Nat → Nat → Bool
  | inside, [], _ => inside
  | inside, e :: es, n => if n < e then inside else within (!inside) es n

def contains (s : CharClass) (n : Nat) : Bool := within false s.edges n

theorem within_of_lt {inside : Bool} {es : List Nat} {n : Nat} (h : ∀ e ∈ es, n < e) :
    within inside es n = inside := by
  cases es with
  | nil => rfl
  | cons e es => simp [within, h e (by simp)]

def empty : CharClass := ⟨[], .nil⟩

instance : Inhabited CharClass := ⟨empty⟩

theorem pairwise_edges {low high : Nat} (h : low ≤ high) :
    [low, high + 1].Pairwise (· < ·) := by
  simp
  omega

def range (low high : Nat) : CharClass :=
  if h : low ≤ high then ⟨[low, high + 1], pairwise_edges h⟩ else empty

def single (c : Char) : CharClass := range c.toNat c.toNat

/-- All characters; halves of surrogate pairs are none. -/
def any : CharClass := ⟨[0, 0xD800, 0xE000, 0x110000], by decide⟩

def edgeIf (change : Bool) (e : Nat) (es : List Nat) : List Nat := if change then e :: es else es

def mergeRest (f : Bool → Bool) (b : Bool) : List Nat → List Nat
  | [] => []
  | y :: ys => edgeIf (f b != f (!b)) y (mergeRest f (!b) ys)

/-- Takes the edges of the second side up to the edge `x` of the first, then goes on. -/
def mergeUpTo (f : Bool → Bool → Bool) (a : Bool) (x : Nat) (next : Bool → List Nat → List Nat) :
    Bool → List Nat → List Nat
  | b, [] => edgeIf (f a b != f (!a) b) x (next b [])
  | b, y :: ys =>
      if x < y then edgeIf (f a b != f (!a) b) x (next b (y :: ys))
      else if y < x then edgeIf (f a b != f a (!b)) y (mergeUpTo f a x next (!b) ys)
      else edgeIf (f a b != f (!a) (!b)) x (next (!b) ys)

/-- The edges of `f` of two sides, from membership on each side before their edges. -/
def merge (f : Bool → Bool → Bool) (a : Bool) : List Nat → Bool → List Nat → List Nat
  | [], b, ys => mergeRest (f a) b ys
  | x :: xs, b, ys => mergeUpTo f a x (fun b ys => merge f (!a) xs b ys) b ys

theorem forall_edgeIf {p : Nat → Prop} {change : Bool} {e : Nat} {es : List Nat} (he : p e)
    (hes : ∀ d ∈ es, p d) : ∀ d ∈ edgeIf change e es, p d := by
  cases change <;> simp_all [edgeIf]

theorem forall_mergeRest {p : Nat → Prop} {f : Bool → Bool} {b : Bool} {ys : List Nat}
    (h : ∀ y ∈ ys, p y) : ∀ d ∈ mergeRest f b ys, p d := by
  induction ys generalizing b with
  | nil => simp [mergeRest]
  | cons y ys ih => exact forall_edgeIf (h y (by simp)) (ih fun d hd => h d (by simp [hd]))

theorem forall_mergeUpTo {p : Nat → Prop} {f : Bool → Bool → Bool} {a : Bool} {x : Nat}
    {next : Bool → List Nat → List Nat} {b : Bool} {ys : List Nat} (hx : p x)
    (hnext : ∀ b ys, (∀ y ∈ ys, p y) → ∀ d ∈ next b ys, p d) (h : ∀ y ∈ ys, p y) :
    ∀ d ∈ mergeUpTo f a x next b ys, p d := by
  induction ys generalizing b with
  | nil => exact forall_edgeIf hx (hnext _ _ h)
  | cons y ys ih =>
      have hys : ∀ d ∈ ys, p d := fun d hd => h d (by simp [hd])
      simp only [mergeUpTo]
      split
      · exact forall_edgeIf hx (hnext _ _ h)
      · split
        · exact forall_edgeIf (h y (by simp)) (ih hys)
        · exact forall_edgeIf hx (hnext _ _ hys)

theorem forall_merge {p : Nat → Prop} {f : Bool → Bool → Bool} {a b : Bool} {xs ys : List Nat}
    (hx : ∀ x ∈ xs, p x) (hy : ∀ y ∈ ys, p y) : ∀ d ∈ merge f a xs b ys, p d := by
  induction xs generalizing a b ys with
  | nil => exact forall_mergeRest hy
  | cons x xs ih =>
      exact forall_mergeUpTo (hx x (by simp))
        (fun b ys h => ih (fun d hd => hx d (by simp [hd])) h) hy

theorem pairwise_edgeIf {change : Bool} {e : Nat} {es : List Nat} (he : ∀ d ∈ es, e < d)
    (hes : es.Pairwise (· < ·)) : (edgeIf change e es).Pairwise (· < ·) := by
  cases change <;> simp_all [edgeIf]

theorem pairwise_mergeRest {f : Bool → Bool} {b : Bool} {ys : List Nat}
    (h : ys.Pairwise (· < ·)) : (mergeRest f b ys).Pairwise (· < ·) := by
  induction h generalizing b with
  | nil => exact .nil
  | cons hy _ ih => exact pairwise_edgeIf (forall_mergeRest hy) ih

theorem pairwise_merge {f : Bool → Bool → Bool} {a b : Bool} {xs ys : List Nat}
    (hxs : xs.Pairwise (· < ·)) (hys : ys.Pairwise (· < ·)) :
    (merge f a xs b ys).Pairwise (· < ·) := by
  induction hxs generalizing a b ys with
  | nil => exact pairwise_mergeRest hys
  | @cons x xs hx _ ih =>
      simp only [merge]
      induction hys generalizing b with
      | nil => exact pairwise_edgeIf (forall_merge hx (by simp)) (ih .nil)
      | @cons y ys hy hys ihy =>
          have hys' := List.Pairwise.cons hy hys
          simp only [mergeUpTo]
          split
          · next hxy =>
              refine pairwise_edgeIf (forall_merge hx ?_) (ih hys')
              intro d hd
              rcases List.mem_cons.1 hd with rfl | hd
              · exact hxy
              · exact Nat.lt_trans hxy (hy d hd)
          · split
            · next hyx =>
                refine pairwise_edgeIf (forall_mergeUpTo hyx ?_ hy) ihy
                exact fun b zs h => forall_merge (fun d hd => Nat.lt_trans hyx (hx d hd)) h
            · next h1 h2 =>
                obtain rfl : x = y := by omega
                exact pairwise_edgeIf (forall_merge hx hy) (ih hys)

theorem within_edgeIf {u v : Bool} {e : Nat} {es : List Nat} {n : Nat} (he : ∀ d ∈ es, e < d) :
    within u (edgeIf (u != v) e es) n = if n < e then u else within v es n := by
  have hlt (h : n < e) : within u es n = u :=
    within_of_lt fun d hd => Nat.lt_trans h (he d hd)
  by_cases h : n < e
  · cases u <;> cases v <;> simp [edgeIf, within, h, hlt h]
  · cases u <;> cases v <;> simp [edgeIf, within, h]

theorem within_mergeRest {f : Bool → Bool} {b : Bool} {ys : List Nat} {n : Nat}
    (h : ys.Pairwise (· < ·)) :
    within (f b) (mergeRest f b ys) n = f (within b ys n) := by
  induction h generalizing b with
  | nil => rfl
  | cons hy _ ih =>
      rw [mergeRest, within_edgeIf (forall_mergeRest hy), ih, within]
      split <;> rfl

theorem within_merge {f : Bool → Bool → Bool} {a b : Bool} {xs ys : List Nat} {n : Nat}
    (hxs : xs.Pairwise (· < ·)) (hys : ys.Pairwise (· < ·)) :
    within (f a b) (merge f a xs b ys) n = f (within a xs n) (within b ys n) := by
  induction hxs generalizing a b ys with
  | nil => exact within_mergeRest hys
  | @cons x xs hx hxs ih =>
      -- The lesser of the two next edges decides, and below it nothing changes.
      simp only [merge]
      induction hys generalizing b with
      | nil =>
          rw [mergeUpTo, within_edgeIf (forall_merge hx (by simp)), ih .nil]
          simp only [within]
          split <;> rfl
      | @cons y ys hy hys ihy =>
          have hys' := List.Pairwise.cons hy hys
          simp only [mergeUpTo]
          split
          · next hxy =>
              have hall : ∀ d ∈ y :: ys, x < d := by
                intro d hd
                rcases List.mem_cons.1 hd with rfl | hd
                · exact hxy
                · exact Nat.lt_trans hxy (hy d hd)
              rw [within_edgeIf (forall_merge hx hall), ih hys']
              by_cases h : n < x
              · have hn : n < y := Nat.lt_trans h hxy
                simp [within, h, hn]
              · simp [within, h]
          · split
            · next hyx =>
                have hall : ∀ d ∈ x :: xs, y < d := by
                  intro d hd
                  rcases List.mem_cons.1 hd with rfl | hd
                  · exact hyx
                  · exact Nat.lt_trans hyx (hx d hd)
                rw [within_edgeIf (forall_mergeUpTo hyx
                  (fun b zs h => forall_merge (fun d hd => hall d (by simp [hd])) h) hy), ihy]
                by_cases h : n < y
                · have hn : n < x := Nat.lt_trans h hyx
                  simp [within, h, hn]
                · simp [within, h]
            · next h1 h2 =>
                obtain rfl : x = y := by omega
                rw [within_edgeIf (forall_merge hx hy), ih hys]
                by_cases h : n < x <;> simp [within, h]

def combine (f : Bool → Bool → Bool) (s t : CharClass) : CharClass :=
  ⟨merge f false s.edges false t.edges, pairwise_merge s.ascending t.ascending⟩

theorem contains_combine {f : Bool → Bool → Bool} (hf : f false false = false) {s t : CharClass}
    {n : Nat} : (combine f s t).contains n = f (s.contains n) (t.contains n) := by
  have h := within_merge (f := f) (a := false) (b := false) (n := n) s.ascending t.ascending
  rwa [hf] at h

def union : CharClass → CharClass → CharClass := combine or

def inter : CharClass → CharClass → CharClass := combine and

def diff : CharClass → CharClass → CharClass := combine fun a b => a && !b

def symmDiff : CharClass → CharClass → CharClass := combine xor

def compl : CharClass → CharClass := diff any

@[simp] theorem contains_empty {n : Nat} : empty.contains n = false := rfl

@[simp] theorem contains_range {low high n : Nat} :
    (range low high).contains n = (decide (low ≤ n) && decide (n ≤ high)) := by
  unfold range
  split
  · by_cases h1 : n < low
    · simp [contains, within, h1, Nat.not_le.2 h1]
    · by_cases h2 : n < high + 1
      · simp [contains, within, h1, h2, Nat.not_lt.1 h1, Nat.lt_succ_iff.1 h2]
      · have h3 : ¬ n ≤ high := by omega
        simp [contains, within, h1, h2, h3]
  · simp; omega

@[simp] theorem contains_single {c d : Char} : (single c).contains d.toNat = (c == d) := by
  by_cases h : c = d
  · subst h; simp [single]
  · have hn : c.toNat ≠ d.toNat := fun e => h (Char.toNat_inj.1 e)
    rw [beq_eq_false_iff_ne.2 h, single, contains_range, Bool.and_eq_false_iff]
    simp only [decide_eq_false_iff_not]
    omega

@[simp] theorem contains_union {s t : CharClass} {n : Nat} :
    (s.union t).contains n = (s.contains n || t.contains n) := contains_combine rfl

@[simp] theorem contains_inter {s t : CharClass} {n : Nat} :
    (s.inter t).contains n = (s.contains n && t.contains n) := contains_combine rfl

@[simp] theorem contains_diff {s t : CharClass} {n : Nat} :
    (s.diff t).contains n = (s.contains n && !t.contains n) := contains_combine rfl

@[simp] theorem contains_symmDiff {s t : CharClass} {n : Nat} :
    (s.symmDiff t).contains n = (s.contains n ^^ t.contains n) := contains_combine rfl

@[simp] theorem contains_any {c : Char} : any.contains c.toNat = true := by
  have h : c.toNat < 0xD800 ∨ 0xDFFF < c.toNat ∧ c.toNat < 0x110000 := c.valid
  simp only [any, contains, within]
  grind

def between (low high : Char) : CharClass := (range low.toNat high.toNat).inter any

@[simp] theorem contains_between {low high c : Char} :
    (between low high).contains c.toNat =
      (decide (low.toNat ≤ c.toNat) && decide (c.toNat ≤ high.toNat)) := by
  simp [between]

@[simp] theorem contains_compl {s : CharClass} {c : Char} :
    s.compl.contains c.toNat = !s.contains c.toNat := by simp [compl]

def unions (ss : List CharClass) : CharClass := ss.foldr union empty

@[simp] theorem contains_unions {ss : List CharClass} {n : Nat} :
    (unions ss).contains n = ss.any (·.contains n) := by
  induction ss with
  | nil => rfl
  | cons s ss ih => simpa [unions] using congrArg (s.contains n || ·) ih

/-- The edges of ranges in ascending order, where those that touch become one. -/
def edgesOfRanges (low high : Nat) : Ranges → List Nat
  | [] => [low, high + 1]
  | r :: rs =>
      if r.1 ≤ high + 1 then edgesOfRanges low (max high r.2) rs
      else low :: (high + 1) :: edgesOfRanges r.1 (max r.1 r.2) rs

theorem edgesOfRanges_above {low high k : Nat} {rs : Ranges} (h : low ≤ high) (hk : k < low) :
    ∀ e ∈ edgesOfRanges low high rs, k < e := by
  induction rs generalizing low high with
  | nil => simp [edgesOfRanges]; omega
  | cons r rs ih =>
      simp only [edgesOfRanges]
      split
      · exact ih (by omega) hk
      · simp only [List.mem_cons, forall_eq_or_imp]
        exact ⟨hk, by omega, ih (by omega) (by omega)⟩

theorem pairwise_edgesOfRanges {low high : Nat} {rs : Ranges} (h : low ≤ high) :
    (edgesOfRanges low high rs).Pairwise (· < ·) := by
  induction rs generalizing low high with
  | nil => simp [edgesOfRanges]; omega
  | cons r rs ih =>
      simp only [edgesOfRanges]
      split
      · exact ih (by omega)
      · simp only [List.pairwise_cons, List.mem_cons, forall_eq_or_imp]
        exact ⟨⟨by omega, edgesOfRanges_above (by omega) (by omega)⟩,
          edgesOfRanges_above (by omega) (by omega), ih (by omega)⟩

/-- The class of ranges, each of which starts at or after the one before. -/
def ofSorted : Ranges → CharClass
  | [] => empty
  | r :: rs => ⟨edgesOfRanges r.1 (max r.1 r.2) rs, pairwise_edgesOfRanges (by omega)⟩

def ofRanges (rs : Ranges) : CharClass :=
  ofSorted (rs.mergeSort fun r s => decide (r.1 ≤ s.1))

def pairEdges : List Nat → Ranges
  | low :: past :: es => (low, past - 1) :: pairEdges es
  | _ => []

def ranges (s : CharClass) : Ranges := pairEdges s.edges

def folded (s : CharClass) : CharClass :=
  s.union (ofRanges ((caseOrbits.filter (·.any s.contains)).flatten.map fun n => (n, n)))

def char? (s : CharClass) : Option Char :=
  match s.edges with
  | [low, past] => if low + 1 = past then some (Char.ofNat low) else none
  | _ => none

end CharClass

end UrlRouter.Regex
