import Mathlib.Data.List.DropRight
import UrlRouter.Text.Split

namespace UrlRouter

open Text Unicode

variable {cs u v : List Char}

def Blank (cs : List Char) : Prop := ∀ c ∈ cs, isWhiteSpace c = true

instance (cs : List Char) : Decidable (Blank cs) :=
  decidable_of_iff (cs.all isWhiteSpace = true) List.all_eq_true

theorem isWhiteSpace_of_ascii {c : Char} (hlow : 0x20 < c.toNat) (hhigh : c.toNat < 0x7F) :
    isWhiteSpace c = false := by
  simp only [isWhiteSpace, whiteSpace, Ranges.contains, List.any_cons, List.any_nil]
  simp
  omega

theorem isWhiteSpace_of_isDigit {c : Char} (h : c.isDigit = true) : isWhiteSpace c = false := by
  have hrange : 48 ≤ c.toNat ∧ c.toNat ≤ 57 := Char.isDigit_iff_toNat.1 h
  exact isWhiteSpace_of_ascii (by omega) (by omega)

theorem isWhiteSpace_of_isUpper {c : Char} (h : c.isUpper = true) : isWhiteSpace c = false := by
  have hletters : 'A'.val ≤ c.val ∧ c.val ≤ 'Z'.val := of_decide_eq_true h
  have hlow : 65 ≤ c.toNat := UInt32.le_iff_toNat_le.1 hletters.1
  have hhigh : c.toNat ≤ 90 := UInt32.le_iff_toNat_le.1 hletters.2
  exact isWhiteSpace_of_ascii (by omega) (by omega)

namespace Text

theorem trimStart_eq_nil_iff : trimStart cs = [] ↔ Blank cs :=
  List.dropWhile_eq_nil_iff

theorem trimEnd_eq_nil_iff : trimEnd cs = [] ↔ Blank cs :=
  List.rdropWhile_eq_nil_iff

theorem trimStart_eq_self_iff :
    trimStart cs = cs ↔ ∀ c ∈ cs.head?, isWhiteSpace c = false := by
  rw [trimStart, List.dropWhile_eq_self_iff]
  cases cs <;> simp

theorem reverse_trimEnd (cs : List Char) : (trimEnd cs).reverse = trimStart cs.reverse :=
  List.reverse_reverse _

theorem trimEnd_eq_self_iff :
    trimEnd cs = cs ↔ ∀ c ∈ cs.getLast?, isWhiteSpace c = false := by
  rw [← List.reverse_inj, reverse_trimEnd, trimStart_eq_self_iff, List.head?_reverse]

theorem trim_eq_nil_iff : trim cs = [] ↔ Blank cs := by
  rw [trim, trimEnd_eq_nil_iff, ← trimStart_eq_nil_iff, ← trimStart_eq_nil_iff]
  exact Eq.congr_left (List.dropWhile_idempotent isWhiteSpace cs)

theorem trim_eq_self_iff :
    trim cs = cs ↔
      (∀ c ∈ cs.head?, isWhiteSpace c = false) ∧ ∀ c ∈ cs.getLast?, isWhiteSpace c = false := by
  rw [← trimStart_eq_self_iff, ← trimEnd_eq_self_iff]
  constructor
  · intro h
    have hsuffix : trimStart cs <:+ cs := List.dropWhile_suffix _
    have hprefix : trim cs <+: trimStart cs := List.rdropWhile_prefix _ _
    have hlength := hprefix.length_le
    rw [h] at hlength
    have hstart := hsuffix.eq_of_length (Nat.le_antisymm hsuffix.length_le hlength)
    rw [trim, hstart] at h
    exact ⟨hstart, h⟩
  · rintro ⟨hstart, hend⟩
    rw [trim, hstart, hend]

theorem trim_eq_self (h : ∀ c ∈ cs, isWhiteSpace c = false) : trim cs = cs :=
  trim_eq_self_iff.2
    ⟨fun c hc => h c (List.mem_of_head? hc), fun c hc => h c (List.mem_of_getLast? hc)⟩

theorem trimStart_blank_append (hu : Blank u) (cs : List Char) :
    trimStart (u ++ cs) = trimStart cs :=
  List.dropWhile_append_of_pos hu

theorem trimStart_append_of_ne_nil (h : trimStart cs ≠ []) (v : List Char) :
    trimStart (cs ++ v) = trimStart cs ++ v := by
  rw [trimStart, List.dropWhile_append, if_neg (by simpa [trimStart] using h), trimStart]

theorem trimEnd_append_blank (hv : Blank v) (cs : List Char) : trimEnd (cs ++ v) = trimEnd cs := by
  have hreverse : Blank v.reverse := fun c hc => hv c (List.mem_reverse.1 hc)
  rw [← List.reverse_inj, reverse_trimEnd, reverse_trimEnd, List.reverse_append,
    trimStart_blank_append hreverse]

theorem trim_append_blanks (hu : Blank u) (hv : Blank v) (cs : List Char) :
    trim (u ++ cs ++ v) = trim cs := by
  rw [trim, List.append_assoc, trimStart_blank_append hu, trim]
  by_cases hblank : trimStart cs = []
  · have hcs := trimStart_eq_nil_iff.1 hblank
    rw [trimStart_blank_append hcs, trimStart_eq_nil_iff.2 hv, hblank]
  · rw [trimStart_append_of_ne_nil hblank, trimEnd_append_blank hv]

theorem exists_blanks_trim (cs : List Char) :
    ∃ u v, Blank u ∧ Blank v ∧ cs = u ++ trim cs ++ v := by
  have hend : trim cs ++ (trimStart cs).rtakeWhile isWhiteSpace = trimStart cs := by
    rw [trim, trimEnd, dropEndWhile, List.rtakeWhile, ← List.reverse_append,
      List.takeWhile_append_dropWhile, List.reverse_reverse]
  refine ⟨cs.takeWhile isWhiteSpace, (trimStart cs).rtakeWhile isWhiteSpace,
    fun c => List.mem_takeWhile_imp, fun c => List.mem_rtakeWhile_imp, ?_⟩
  rw [List.append_assoc, hend]
  exact List.takeWhile_append_dropWhile.symm

theorem trim_isInfix (cs : List Char) : trim cs <:+: cs := by
  obtain ⟨u, v, _, _, hcs⟩ := exists_blanks_trim cs
  exact ⟨u, v, hcs.symm⟩

@[simp] theorem trim_trim (cs : List Char) : trim (trim cs) = trim cs := by
  obtain ⟨u, v, hu, hv, hcs⟩ := exists_blanks_trim cs
  conv_rhs => rw [hcs, trim_append_blanks hu hv]

theorem getLast?_trim_eq_some_iff {c : Char} (hc : isWhiteSpace c = false) :
    (trim cs).getLast? = some c ↔ ∃ u v, cs = u ++ c :: v ∧ Blank v := by
  constructor
  · intro hlast
    obtain ⟨u, v, _, hv, hcs⟩ := exists_blanks_trim cs
    obtain ⟨w, hw⟩ := List.getLast?_eq_some_iff.1 hlast
    exact ⟨u ++ w, v, by rw [hcs, hw]; simp, hv⟩
  · rintro ⟨u, v, rfl, hv⟩
    have hstart : trimStart (u ++ [c]) = trimStart u ++ [c] := by
      by_cases hu : trimStart u = []
      · rw [trimStart_blank_append (trimStart_eq_nil_iff.1 hu), hu]
        exact List.dropWhile_cons_of_neg (by simp [hc])
      · exact trimStart_append_of_ne_nil hu [c]
    have hend : trimEnd (trimStart u ++ [c]) = trimStart u ++ [c] := by
      rw [trimEnd_eq_self_iff, List.getLast?_concat]
      simpa using hc
    have htrim := trim_append_blanks (u := []) nofun hv (u ++ [c])
    rw [List.nil_append, List.append_assoc, List.singleton_append] at htrim
    rw [htrim, trim, hstart, hend, List.getLast?_concat]

end Text

end UrlRouter
