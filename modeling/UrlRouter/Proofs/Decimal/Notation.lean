import UrlRouter.Decimal.Notation

/-!
The characters of numbers in text. An integer has digits behind its sign; any other number has a
point or a power as well, so the texts of the two kinds differ.
-/

namespace UrlRouter

def isNumeral (c : Char) : Bool := c.isDigit || c == '-' || c == '+' || c == '.' || c == 'e'

theorem isNumeral_of_isDigit {c : Char} (h : c.isDigit = true) : isNumeral c = true := by
  simp [isNumeral, h]

theorem not_sign_of_isDigit {c : Char} (h : c.isDigit = true) : c ≠ '-' ∧ c ≠ '+' := by
  constructor <;>
  · rintro rfl
    exact absurd h (by decide)

theorem isDigit_of_mem_natText {n : Nat} {c : Char} (h : c ∈ natText n) : c.isDigit = true :=
  Nat.isDigit_of_mem_toDigits (by decide) (by decide) h

theorem natText_ne_nil (n : Nat) : natText n ≠ [] :=
  Nat.toDigits_ne_nil

theorem le_ofDigitChars (ds : List Char) (n : Nat) : n ≤ Nat.ofDigitChars 10 ds n := by
  induction ds generalizing n with
  | nil => exact Nat.le_refl n
  | cons d ds ih =>
    have hnext := ih (10 * n + (d.toNat - '0'.toNat))
    change n ≤ Nat.ofDigitChars 10 ds (10 * n + (d.toNat - '0'.toNat))
    omega

theorem ofDigitChars_natText (n : Nat) : Nat.ofDigitChars 10 (natText n) 0 = n :=
  Nat.ofDigitChars_ten_toDigits

theorem natText_injective {m n : Nat} (h : natText m = natText n) : m = n := by
  rw [← ofDigitChars_natText m, h, ofDigitChars_natText]

theorem intText_injective {m n : Int} (h : intText m = intText n) : m = n := by
  have hsign (k l : Nat) : '-' :: natText k ≠ natText l := by
    intro heq
    have hmem : '-' ∈ natText l := heq ▸ List.mem_cons_self
    exact absurd (isDigit_of_mem_natText hmem) (by decide)
  unfold intText at h
  split at h <;> split at h
  · have habs := natText_injective (List.cons.inj h).2
    omega
  · exact absurd h (hsign _ _)
  · exact absurd h.symm (hsign _ _)
  · have habs := natText_injective h
    omega

theorem mem_intText {n : Int} {c : Char} (h : c ∈ intText n) : c = '-' ∨ c.isDigit = true := by
  unfold intText at h
  split at h
  · rcases List.mem_cons.1 h with rfl | h
    · exact .inl rfl
    · exact .inr (isDigit_of_mem_natText h)
  · exact .inr (isDigit_of_mem_natText h)

theorem isNumeral_of_mem_intText {n : Int} {c : Char} (h : c ∈ intText n) :
    isNumeral c = true := by
  rcases mem_intText h with rfl | h
  · decide
  · exact isNumeral_of_isDigit h

theorem intText_ne_nil (n : Int) : intText n ≠ [] := by
  unfold intText
  split
  · simp
  · exact natText_ne_nil _

namespace Decimal

theorem isDigit_of_mem_positional {d : Decimal} {c : Char} (h : c ∈ d.positional.1) :
    c.isDigit = true := by
  have hsub : c ∈ natText d.digits :=
    List.mem_reverse.1 ((List.dropWhile_sublist _).subset (List.mem_reverse.1 h))
  exact isDigit_of_mem_natText hsub

theorem isNumeral_of_mem_text {d : Decimal} {c : Char} (h : c ∈ d.text) : isNumeral c = true := by
  have hds : ∀ a ∈ d.positional.1, isNumeral a = true :=
    fun a ha => isNumeral_of_isDigit (isDigit_of_mem_positional ha)
  unfold text at h
  generalize d.positional = p at h hds
  obtain ⟨ds, point⟩ := p
  dsimp only at h hds
  split at h
  · split at h
    · simp only [List.mem_append, List.mem_cons, List.mem_replicate, List.not_mem_nil] at h
      rcases h with ((rfl | rfl | h) | ⟨_, rfl⟩) | h
      · decide
      · decide
      · cases h
      · decide
      · exact hds c h
    · split at h
      · simp only [List.mem_append, List.mem_cons, List.mem_replicate, List.not_mem_nil] at h
        rcases h with (h | ⟨_, rfl⟩) | rfl | rfl | h
        · exact hds c h
        · decide
        · decide
        · decide
        · cases h
      · simp only [List.mem_append, List.mem_cons] at h
        rcases h with h | rfl | h
        · exact hds c (List.mem_of_mem_take h)
        · decide
        · exact hds c (List.mem_of_mem_drop h)
  · simp only [List.mem_append, List.mem_cons] at h
    rcases h with h | rfl | rfl | h
    · split at h
      · cases List.mem_singleton.1 h
        decide
      · exact hds c h
      · next a as =>
        simp only [List.mem_cons] at h
        rcases h with rfl | rfl | h
        · exact hds c (by simp)
        · decide
        · exact hds c (by simp [h])
    · decide
    · split <;> decide
    · exact isNumeral_of_isDigit (isDigit_of_mem_natText h)

theorem point_or_power_mem_text (d : Decimal) : '.' ∈ d.text ∨ 'e' ∈ d.text := by
  unfold text
  generalize d.positional = p
  obtain ⟨ds, point⟩ := p
  dsimp only
  split
  · left
    split
    · simp
    · split <;> simp
  · right
    simp

end Decimal

namespace Binary64

theorem isNumeral_of_mem_text {x : Binary64} {c : Char} (h : c ∈ x.text) : isNumeral c = true := by
  rcases List.mem_append.1 h with h | h
  · split at h
    · cases List.mem_singleton.1 h
      decide
    · cases h
  · split at h
    · have hzero : ∀ a ∈ ['0', '.', '0'], isNumeral a = true :=
        List.all_eq_true.1 (by decide)
      exact hzero c h
    · exact Decimal.isNumeral_of_mem_text h

theorem point_or_power_mem_text (x : Binary64) : '.' ∈ x.text ∨ 'e' ∈ x.text := by
  rw [text, List.mem_append, List.mem_append]
  by_cases h : x.isZero = true
  · simp [h]
  · rw [if_neg h]
    exact (Decimal.point_or_power_mem_text _).imp .inr .inr

theorem text_ne_nil (x : Binary64) : x.text ≠ [] := by
  rcases point_or_power_mem_text x with h | h <;> exact List.ne_nil_of_mem h

theorem text_ne_intText (x : Binary64) (n : Int) : x.text ≠ intText n := by
  intro heq
  rcases point_or_power_mem_text x with h | h <;>
  · rw [heq] at h
    rcases mem_intText h with h | h
    · cases h
    · revert h
      decide

end Binary64

end UrlRouter
