import UrlRouter.Unicode.Alphanumeric
import UrlRouter.Unicode.Lowercase

/-!
Lowercase forms. They are letters and their own lowercase form, the combining dot of the dotted
capital I aside, and lie above the punctuation of ASCII.
-/

namespace UrlRouter.Unicode

/-- The only character whose lowercase form is more than one character. -/
def dottedI : Char := '\u0130'

def combiningDot : Char := '\u0307'

theorem lowercase_dottedI : lowercase dottedI = ['i', combiningDot] := rfl

theorem toNat_ne_of_ne_dottedI {c : Char} (h : c ≠ dottedI) : c.toNat ≠ 0x130 := fun heq =>
  h (Char.toNat_inj.1 heq)

namespace Run

variable {r q : Run} {n : Nat}

def targetLast (r : Run) : Nat := r.target + (r.last - r.first)

theorem covers_iff :
    r.covers n = true ↔ (r.first ≤ n ∧ n ≤ r.last) ∧ (n - r.first) % r.step = 0 := by
  simp [covers]

theorem mem_covered (h : r.covers n = true) : n ∈ r.covered := by
  obtain ⟨⟨hfirst, hlast⟩, hstep⟩ := covers_iff.1 h
  have hle : (n - r.first) / r.step ≤ (r.last - r.first) / r.step :=
    Nat.div_le_div_right (by omega)
  have hcount := Nat.mod_add_div (n - r.first) r.step
  exact List.mem_range'.2 ⟨(n - r.first) / r.step, by omega, by omega⟩

def settles (r q : Run) : Bool :=
  Nat.blt r.targetLast q.first || Nat.blt q.last r.target ||
    r.covered.all fun n => !q.covers (r.target + (n - r.first))

theorem not_covers_of_settles (h : r.settles q = true) (hn : r.covers n = true) :
    q.covers (r.target + (n - r.first)) = false := by
  have hlast := (covers_iff.1 hn).1.2
  rw [← Bool.not_eq_true, covers_iff]
  rintro ⟨⟨hqfirst, hqlast⟩, hstep⟩
  simp only [settles, Bool.or_eq_true, Nat.blt_eq, targetLast] at h
  rcases h with (h | h) | h
  · omega
  · omega
  · have hnot := List.all_eq_true.1 h n (mem_covered hn)
    rw [Bool.not_eq_true', ← Bool.not_eq_true, covers_iff] at hnot
    exact hnot ⟨⟨hqfirst, hqlast⟩, hstep⟩

def landsIn (r : Run) (rs : Ranges) : Bool :=
  (rs.any fun s => Nat.ble s.1 r.target && Nat.ble r.targetLast s.2) ||
    r.covered.all fun n => rs.contains (r.target + (n - r.first))

theorem contains_of_landsIn {rs : Ranges} (h : r.landsIn rs = true) (hn : r.covers n = true) :
    rs.contains (r.target + (n - r.first)) = true := by
  have hlast := (covers_iff.1 hn).1.2
  rcases Bool.or_eq_true_iff.1 h with h | h
  · obtain ⟨s, hs, hin⟩ := List.any_eq_true.1 h
    simp only [Bool.and_eq_true, Nat.ble_eq, targetLast] at hin
    exact Ranges.contains_iff.2 ⟨s, hs, by omega⟩
  · exact List.all_eq_true.1 h n (mem_covered hn)

end Run

def letterRanges : Ranges := alphabetic ++ addedAlphabetic

def lowercaseTable : List Run := lowercaseRuns ++ addedLowercaseRuns

theorem isAlphabetic_iff {c : Char} :
    isAlphabetic c = true ↔ letterRanges.contains c.toNat = true := by
  rw [isAlphabetic, letterRanges, Ranges.contains, Ranges.contains, Ranges.contains,
    List.any_append]

theorem settles_lowercaseTable :
    (lowercaseTable.all fun r => lowercaseTable.all r.settles) = true := by
  decide +kernel

theorem landsIn_lowercaseTable : (lowercaseTable.all (·.landsIn letterRanges)) = true := by
  decide +kernel

theorem target_lowercaseTable :
    ∀ r ∈ lowercaseTable, 0x61 ≤ r.target ∧ (r.targetLast < 0xD800 ∨ 0xDFFF < r.target) ∧
      r.targetLast < 0x110000 ∧ (r.targetLast < 0x130 ∨ 0x130 < r.target) := by
  decide +kernel

def lowered (n : Nat) : Nat := moved addedLowercaseRuns (moved lowercaseRuns n)

theorem lowercase_eq {c : Char} (h : c ≠ dottedI) :
    lowercase c = [Char.ofNat (lowered c.toNat)] :=
  if_neg (toNat_ne_of_ne_dottedI h)

theorem moved_of_not_covers {rs : List Run} {n : Nat} (h : ∀ r ∈ rs, r.covers n = false) :
    moved rs n = n := by
  have hnone : rs.find? (·.covers n) = none := List.find?_eq_none.2 fun r hr => by simp [h r hr]
  rw [moved, hnone]

theorem moved_cases (rs : List Run) (n : Nat) :
    ((∀ r ∈ rs, r.covers n = false) ∧ moved rs n = n) ∨
      ∃ r ∈ rs, r.covers n = true ∧ moved rs n = r.target + (n - r.first) := by
  unfold moved
  split
  · next r hr =>
    have hn := List.find?_some hr
    exact .inr ⟨r, List.mem_of_find?_eq_some hr, hn, rfl⟩
  · next hnone =>
    exact .inl ⟨fun r hr => by simpa using List.find?_eq_none.1 hnone r hr, rfl⟩

theorem lowered_of_not_covers {n : Nat} (h : ∀ r ∈ lowercaseTable, r.covers n = false) :
    lowered n = n := by
  rw [lowered, moved_of_not_covers fun r hr => h r (List.mem_append_left _ hr),
    moved_of_not_covers fun r hr => h r (List.mem_append_right _ hr)]

theorem not_covers_target {r : Run} (hr : r ∈ lowercaseTable) {n : Nat} (hn : r.covers n = true) :
    ∀ q ∈ lowercaseTable, q.covers (r.target + (n - r.first)) = false := fun q hq =>
  Run.not_covers_of_settles
    (List.all_eq_true.1 (List.all_eq_true.1 settles_lowercaseTable r hr) q hq) hn

/-- At most one run moves a code point, as none covers what another moves to. -/
theorem lowered_cases (n : Nat) :
    (lowered n = n ∧ ∀ r ∈ lowercaseTable, r.covers n = false) ∨
      ∃ r ∈ lowercaseTable, r.covers n = true ∧ lowered n = r.target + (n - r.first) := by
  rcases moved_cases lowercaseRuns n with ⟨hfirst, heq⟩ | ⟨r, hr, hn, heq⟩
  · rcases moved_cases addedLowercaseRuns n with ⟨hadded, heq'⟩ | ⟨r, hr, hn, heq'⟩
    · refine .inl ⟨by rw [lowered, heq, heq'], fun r hr => ?_⟩
      exact (List.mem_append.1 hr).elim (hfirst r) (hadded r)
    · exact .inr ⟨r, List.mem_append_right _ hr, hn, by rw [lowered, heq, heq']⟩
  · have hmem : r ∈ lowercaseTable := List.mem_append_left _ hr
    refine .inr ⟨r, hmem, hn, ?_⟩
    rw [lowered, heq, moved_of_not_covers]
    exact fun q hq => not_covers_target hmem hn q (List.mem_append_right _ hq)

theorem toNat_ofNat_of_isValidChar {n : Nat} (h : n.isValidChar) : (Char.ofNat n).toNat = n := by
  have heq : Char.ofNat n = Char.ofNatAux n h := dif_pos h
  rw [heq]
  rfl

theorem lowercase_of_not_covers {c : Char} (h : c ≠ dottedI)
    (hc : ∀ r ∈ lowercaseTable, r.covers c.toNat = false) : lowercase c = [c] := by
  rw [lowercase_eq h, lowered_of_not_covers hc, Char.ofNat_toNat]

theorem lowercase_cases {c : Char} (h : c ≠ dottedI) :
    ∃ d, lowercase c = [d] ∧ lowercase d = [d] ∧
      (d = c ∨ 0x61 ≤ d.toNat ∧ isAlphabetic d = true) := by
  rcases lowered_cases c.toNat with ⟨_, hnone⟩ | ⟨r, hr, hn, heq⟩
  · have hself := lowercase_of_not_covers h hnone
    exact ⟨c, hself, hself, .inl rfl⟩
  · have htarget := target_lowercaseTable r hr
    have hlast := (Run.covers_iff.1 hn).1.2
    rw [Run.targetLast] at htarget
    have hcode : (Char.ofNat (lowered c.toNat)).toNat = r.target + (c.toNat - r.first) := by
      rw [heq]
      refine toNat_ofNat_of_isValidChar ?_
      rw [Nat.isValidChar]
      omega
    have hother : Char.ofNat (lowered c.toNat) ≠ dottedI := by
      intro hdotted
      rw [hdotted] at hcode
      have hnat : dottedI.toNat = 0x130 := rfl
      omega
    refine ⟨Char.ofNat (lowered c.toNat), lowercase_eq h, ?_, .inr ⟨?_, ?_⟩⟩
    · exact lowercase_of_not_covers hother (by rw [hcode]; exact not_covers_target hr hn)
    · omega
    · rw [isAlphabetic_iff, hcode]
      exact Run.contains_of_landsIn (List.all_eq_true.1 landsIn_lowercaseTable r hr) hn

theorem eq_of_mem_lowercase {c d : Char} (hd : d.toNat < 0x61) (h : d ∈ lowercase c) : d = c := by
  by_cases hc : c = dottedI
  · rw [hc, lowercase_dottedI] at h
    simp only [List.mem_cons, List.not_mem_nil, or_false] at h
    rcases h with rfl | rfl
    · exact absurd hd (by decide)
    · exact absurd hd (by decide)
  · obtain ⟨e, he, _, hor⟩ := lowercase_cases hc
    rw [he, List.mem_singleton] at h
    subst h
    exact hor.resolve_right fun hletter => Nat.not_lt.2 hletter.1 hd

end UrlRouter.Unicode
