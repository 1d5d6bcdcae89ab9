import UrlRouter.Regex.Search

/-!
What nodes match, without regard to preference. A reading tells which word may stand between two
parts of a text, and what the groups hold then.
-/

namespace UrlRouter.Regex

/-- The text before the word with its last character first, the word, the text behind it, and the
texts of the groups, the one closed last first. -/
abbrev Reading := List Char → List Char → List Char → Captures → Prop

namespace Reading

def nil : Reading := fun _ w _ caps => w = [] ∧ caps = []

def never : Reading := fun _ _ _ _ => False

def word (text : List Char) : Reading := fun _ w _ caps => w = text ∧ caps = []

def oneOf (chars : CharClass) : Reading :=
  fun _ w _ caps => ∃ c : Char, chars.contains c.toNat = true ∧ w = [c] ∧ caps = []

def check (a : Assertion) : Reading :=
  fun b w after caps => a.holds b.head? after.head? = true ∧ w = [] ∧ caps = []

def append (m k : Reading) : Reading := fun b w a caps =>
  ∃ u v d e, w = u ++ v ∧ caps = e ++ d ∧ m b u (v ++ a) d ∧ k (u.reverse ++ b) v a e

def either (m k : Reading) : Reading := fun b w a caps => m b w a caps ∨ k b w a caps

def named (name : String) (m : Reading) : Reading :=
  fun b w a caps => ∃ d, caps = (name, w) :: d ∧ m b w a d

def times : Nat → Reading → Reading
  | 0, _ => nil
  | n + 1, m => m.append (times n m)

def rounds (least : Nat) (most : Option Nat) (m : Reading) : Reading := fun b w a caps =>
  ∃ n, least ≤ n ∧ (∀ k ∈ most, n ≤ max least k) ∧ times n m b w a caps

theorem ext {m k : Reading} (h : ∀ b w a caps, m b w a caps ↔ k b w a caps) : m = k := by
  funext b w a caps
  exact propext (h b w a caps)

@[simp] theorem nil_append (m : Reading) : nil.append m = m := by
  refine ext fun b w a caps => ?_
  constructor
  · rintro ⟨_, v, _, e, rfl, rfl, ⟨rfl, rfl⟩, hm⟩
    simpa using hm
  · intro hm
    exact ⟨[], w, [], caps, rfl, by simp, ⟨rfl, rfl⟩, hm⟩

@[simp] theorem append_nil (m : Reading) : m.append nil = m := by
  refine ext fun b w a caps => ?_
  constructor
  · rintro ⟨u, _, d, _, rfl, rfl, hm, ⟨rfl, rfl⟩⟩
    simpa using hm
  · intro hm
    exact ⟨w, [], caps, [], by simp, rfl, hm, ⟨rfl, rfl⟩⟩

theorem append_assoc (m k l : Reading) : (m.append k).append l = m.append (k.append l) := by
  refine ext fun b w a caps => ?_
  constructor
  · rintro ⟨_, v, _, e, rfl, rfl, ⟨u₁, u₂, d₁, d₂, rfl, rfl, hm, hk⟩, hl⟩
    refine ⟨u₁, u₂ ++ v, d₁, e ++ d₂, by simp, by simp, by simpa using hm, ?_⟩
    exact ⟨u₂, v, d₂, e, rfl, rfl, hk, by simpa using hl⟩
  · rintro ⟨u, _, d, _, rfl, rfl, hm, ⟨v₁, v₂, e₁, e₂, rfl, rfl, hk, hl⟩⟩
    refine ⟨u ++ v₁, v₂, e₁ ++ d, e₂, by simp, by simp, ?_, by simpa using hl⟩
    exact ⟨u, v₁, d, e₁, rfl, rfl, by simpa using hm, hk⟩

theorem either_append (m k l : Reading) :
    (m.either k).append l = (m.append l).either (k.append l) := by
  refine ext fun b w a caps => ?_
  constructor
  · rintro ⟨u, v, d, e, hw, hcaps, hm | hk, hl⟩
    · exact .inl ⟨u, v, d, e, hw, hcaps, hm, hl⟩
    · exact .inr ⟨u, v, d, e, hw, hcaps, hk, hl⟩
  · rintro (⟨u, v, d, e, hw, hcaps, hm, hl⟩ | ⟨u, v, d, e, hw, hcaps, hk, hl⟩)
    · exact ⟨u, v, d, e, hw, hcaps, .inl hm, hl⟩
    · exact ⟨u, v, d, e, hw, hcaps, .inr hk, hl⟩

@[simp] theorem either_never (m : Reading) : m.either never = m :=
  ext fun _ _ _ _ => or_iff_left id

theorem word_append (s t : List Char) : (word s).append (word t) = word (s ++ t) := by
  refine ext fun b w a caps => ?_
  constructor
  · rintro ⟨_, _, _, _, rfl, rfl, ⟨rfl, rfl⟩, ⟨rfl, rfl⟩⟩
    exact ⟨rfl, rfl⟩
  · rintro ⟨rfl, rfl⟩
    exact ⟨s, t, [], [], rfl, rfl, ⟨rfl, rfl⟩, ⟨rfl, rfl⟩⟩

theorem times_one (m : Reading) : times 1 m = m := append_nil m

theorem times_add (i j : Nat) (m : Reading) : times (i + j) m = (times i m).append (times j m) := by
  induction i with
  | zero => simp [times]
  | succ i ih => rw [Nat.succ_add, times, ih, times, append_assoc]

theorem rounds_succ (least : Nat) (m : Reading) :
    rounds (least + 1) none m = m.append (rounds least none m) := by
  refine ext fun b w a caps => ?_
  constructor
  · rintro ⟨_ | n, hn, _, hm⟩
    · cases hn
    · obtain ⟨u, v, d, e, hw, hcaps, hu, hv⟩ := hm
      exact ⟨u, v, d, e, hw, hcaps, hu, n, Nat.le_of_succ_le_succ hn, by simp, hv⟩
  · rintro ⟨u, v, d, e, hw, hcaps, hu, n, hn, _, hv⟩
    exact ⟨n + 1, Nat.succ_le_succ hn, by simp, u, v, d, e, hw, hcaps, hu, hv⟩

theorem rounds_zero (m : Reading) : rounds 0 none m = nil.either (rounds 1 none m) := by
  refine ext fun b w a caps => ?_
  constructor
  · rintro ⟨_ | n, _, _, hm⟩
    · exact .inl hm
    · exact .inr ⟨n + 1, by omega, by simp, hm⟩
  · rintro (hm | ⟨n, _, _, hm⟩)
    · exact ⟨0, by omega, by simp, hm⟩
    · exact ⟨n, by omega, by simp, hm⟩

theorem rounds_some (least most : Nat) (m : Reading) :
    rounds least (some most) m =
      (times least m).append (rounds 0 (some (most - least)) m) := by
  refine ext fun b w a caps => ?_
  constructor
  · rintro ⟨n, hn, hmost, hm⟩
    have hle := hmost most rfl
    obtain ⟨k, rfl⟩ := Nat.exists_eq_add_of_le hn
    rw [times_add] at hm
    obtain ⟨u, v, d, e, hw, hcaps, hu, hv⟩ := hm
    refine ⟨u, v, d, e, hw, hcaps, hu, k, by omega, ?_, hv⟩
    simp only [Option.mem_def, Option.some.injEq, forall_eq']
    omega
  · rintro ⟨u, v, d, e, hw, hcaps, hu, k, _, hmost, hv⟩
    have hle := hmost _ rfl
    refine ⟨least + k, by omega, ?_, ?_⟩
    · simp only [Option.mem_def, Option.some.injEq, forall_eq']
      omega
    · rw [times_add]
      exact ⟨u, v, d, e, hw, hcaps, hu, hv⟩

theorem rounds_zero_zero (m : Reading) : rounds 0 (some 0) m = nil := by
  refine ext fun b w a caps => ?_
  constructor
  · rintro ⟨n, _, hmost, hm⟩
    obtain rfl : n = 0 := by simpa using hmost 0 rfl
    exact hm
  · intro hm
    exact ⟨0, by omega, by simp, hm⟩

theorem rounds_zero_succ (n : Nat) (m : Reading) :
    rounds 0 (some (n + 1)) m = nil.either (m.append (rounds 0 (some n) m)) := by
  refine ext fun b w a caps => ?_
  constructor
  · rintro ⟨_ | k, _, hmost, hm⟩
    · exact .inl hm
    · obtain ⟨u, v, d, e, hw, hcaps, hu, hv⟩ := hm
      have hle : k + 1 ≤ n + 1 := by simpa using hmost (n + 1) rfl
      exact .inr ⟨u, v, d, e, hw, hcaps, hu, k, by omega, by simp; omega, hv⟩
  · rintro (hm | ⟨u, v, d, e, hw, hcaps, hu, k, _, hmost, hv⟩)
    · exact ⟨0, by omega, by simp, hm⟩
    · have hle : k ≤ n := by simpa using hmost n rfl
      exact ⟨k + 1, by omega, by simp; omega, u, v, d, e, hw, hcaps, hu, hv⟩

end Reading

namespace Node

mutual

def reading : Node → Reading
  | .empty => .nil
  | .literal text => .word text
  | .set chars => .oneOf chars
  | .assertion a => .check a
  | .loop least most _ body => body.reading.rounds least most
  | .group _ (some name) body => body.reading.named name
  | .group _ none body => body.reading
  | .seq items => readingOfAll items
  | .alt branches => readingOfAny branches

def readingOfAll : List Node → Reading
  | [] => .nil
  | n :: ns => n.reading.append (readingOfAll ns)

def readingOfAny : List Node → Reading
  | [] => .never
  | n :: ns => n.reading.either (readingOfAny ns)

end

end Node

end UrlRouter.Regex
