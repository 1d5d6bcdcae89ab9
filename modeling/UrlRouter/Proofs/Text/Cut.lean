import Mathlib.Data.List.Infix
import UrlRouter.Text.Split

namespace UrlRouter.Text

variable {sep s before after : List Char} {c : Char}

theorem cut_sep_append (hsep : sep ≠ []) (after : List Char) :
    cut sep (sep ++ after) = some ([], after) := by
  have hprefix : sep.isPrefixOf? (sep ++ after) = some after :=
    List.isPrefixOf?_eq_some_iff_append_eq.2 rfl
  obtain ⟨x, sep, rfl⟩ := List.exists_cons_of_ne_nil hsep
  rw [List.cons_append, cut, ← List.cons_append, hprefix]

theorem cut_cons (h : ¬ sep <+: c :: s) :
    cut sep (c :: s) = (cut sep s).map fun (before, after) => (c :: before, after) := by
  rw [cut]
  split
  · next rest hfirst => exact absurd ⟨rest, List.isPrefixOf?_eq_some_iff_append_eq.1 hfirst⟩ h
  · rfl

theorem append_dropLast_prefix (sep before after : List Char) :
    before ++ sep.dropLast <+: before ++ sep ++ after := by
  rw [List.append_assoc, List.prefix_append_right_inj]
  exact (List.dropLast_prefix sep).trans (List.prefix_append sep after)

theorem not_infix_of_cut (hsep : sep ≠ []) (h : cut sep s = some (before, after)) :
    ¬ sep <:+: before ++ sep.dropLast := by
  induction s generalizing before with
  | nil => simp [cut, hsep] at h
  | cons c s ih =>
    by_cases hfirst : sep <+: c :: s
    · obtain ⟨rest, hrest⟩ := hfirst
      rw [← hrest, cut_sep_append hsep] at h
      cases h
      intro hfound
      have hlength := hfound.length_le
      have hpos := List.length_pos_iff.2 hsep
      rw [List.nil_append, List.length_dropLast] at hlength
      omega
    · rw [cut_cons hfirst] at h
      obtain ⟨⟨b, a⟩, hcut, heq⟩ := Option.map_eq_some_iff.1 h
      cases heq
      rw [List.cons_append, List.infix_cons_iff, not_or]
      refine ⟨fun hshort => hfirst (hshort.trans ?_), ih hcut⟩
      rw [eq_append_of_cut hcut, List.cons_prefix_cons]
      exact ⟨rfl, append_dropLast_prefix sep b after⟩

theorem cut_append (hsep : sep ≠ []) (h : ¬ sep <:+: before ++ sep.dropLast) :
    cut sep (before ++ sep ++ after) = some (before, after) := by
  induction before with
  | nil => exact cut_sep_append hsep after
  | cons c b ih =>
    rw [List.cons_append, List.infix_cons_iff, not_or] at h
    have hfirst : ¬ sep <+: c :: (b ++ sep ++ after) := by
      intro hlong
      have hshort : c :: (b ++ sep.dropLast) <+: c :: (b ++ sep ++ after) :=
        List.cons_prefix_cons.2 ⟨rfl, append_dropLast_prefix sep b after⟩
      refine h.1 (List.prefix_of_prefix_length_le hlong hshort ?_)
      rw [List.length_cons, List.length_append, List.length_dropLast]
      omega
    rw [List.cons_append, List.cons_append, cut_cons hfirst, ih h.2]
    rfl

theorem cut_eq_some_iff (hsep : sep ≠ []) :
    cut sep s = some (before, after) ↔
      s = before ++ sep ++ after ∧ ¬ sep <:+: before ++ sep.dropLast := by
  constructor
  · intro h
    exact ⟨eq_append_of_cut h, not_infix_of_cut hsep h⟩
  · rintro ⟨rfl, h⟩
    exact cut_append hsep h

theorem cut_eq_none_iff (hsep : sep ≠ []) : cut sep s = none ↔ ¬ sep <:+: s := by
  induction s with
  | nil => simp [cut, hsep]
  | cons c s ih =>
    rw [List.infix_cons_iff, not_or, ← ih]
    by_cases hfirst : sep <+: c :: s
    · obtain ⟨rest, hrest⟩ := hfirst
      simp [← hrest, cut_sep_append hsep]
    · simp [cut_cons hfirst, hfirst]

theorem prefix_of_cut_append {u v : List Char} (hsep : sep ≠ [])
    (h : cut sep (u ++ sep ++ v) = some (before, after)) : before <+: u := by
  obtain ⟨htext, hfirst⟩ := (cut_eq_some_iff hsep).1 h
  have hbefore : before <+: u ++ sep ++ v := by
    rw [htext, List.append_assoc]
    exact List.prefix_append before _
  have hu : u <+: u ++ sep ++ v := by
    rw [List.append_assoc]
    exact List.prefix_append u _
  rcases List.prefix_or_prefix_of_prefix hbefore hu with hle | ⟨w, rfl⟩
  · exact hle
  · by_cases hw : w = []
    · rw [hw, List.append_nil]
    · -- the separator behind `u` would stand before the cut
      rw [List.append_assoc, List.append_assoc, List.append_assoc, List.append_right_inj,
        ← List.append_assoc] at htext
      have hlong : sep <+: w ++ sep ++ after := ⟨v, htext⟩
      have hborder := append_dropLast_prefix sep w after
      have hlength : sep.length ≤ (w ++ sep.dropLast).length := by
        have hpos := List.length_pos_iff.2 hw
        rw [List.length_append, List.length_dropLast]
        omega
      have hshort : sep <+: w ++ sep.dropLast :=
        List.prefix_of_prefix_length_le hlong hborder hlength
      refine absurd (hshort.isInfix.trans ?_) hfirst
      rw [List.append_assoc]
      exact (List.suffix_append u _).isInfix

theorem cut_singleton_eq_some_iff :
    cut [c] s = some (before, after) ↔ s = before ++ c :: after ∧ c ∉ before := by
  rw [cut_eq_some_iff (List.cons_ne_nil c [])]
  simp [List.singleton_infix_iff]

theorem cut_singleton_eq_none_iff : cut [c] s = none ↔ c ∉ s := by
  rw [cut_eq_none_iff (List.cons_ne_nil c []), List.singleton_infix_iff]

theorem replicate_infix_append {n : Nat} {u v : List Char} (h : List.replicate n c <:+: u ++ v) :
    List.replicate n c <:+: u ∨ List.replicate n c <:+: v ∨
      u.getLast? = some c ∧ v.head? = some c := by
  rcases List.infix_append_iff_ne_nil.1 h with h | h | ⟨a, b, ha, hb, heq, ⟨s, rfl⟩, ⟨t, rfl⟩⟩
  · exact .inl h
  · exact .inr (.inl h)
  · obtain ⟨_, hac, hbc⟩ := List.append_eq_replicate_iff.1 heq.symm
    refine .inr (.inr ⟨?_, ?_⟩)
    · rw [List.getLast?_append, hac, List.getLast?_replicate, if_neg (by simpa using ha)]
      rfl
    · rw [List.head?_append, hbc, List.head?_replicate, if_neg (by simpa using hb)]
      rfl

theorem pair_infix_append {u v : List Char} (h : [c, c] <:+: u ++ v) :
    [c, c] <:+: u ∨ [c, c] <:+: v ∨ u.getLast? = some c ∧ v.head? = some c :=
  replicate_infix_append (n := 2) h

theorem cut_pair_eq_some_iff :
    cut [c, c] s = some (before, after) ↔
      s = before ++ c :: c :: after ∧ ¬ [c, c] <:+: before ∧ before.getLast? ≠ some c := by
  have hend : [c, c] <:+ before ++ [c] ↔ before.getLast? = some c := by
    rw [List.getLast?_eq_some_iff]
    constructor
    · rintro ⟨u, hu⟩
      have hu' : u ++ [c] ++ [c] = before ++ [c] := by simpa using hu
      exact ⟨u, (List.append_cancel_right hu').symm⟩
    · rintro ⟨u, rfl⟩
      exact ⟨u, by simp⟩
  have hbegun : ¬ [c, c] <:+: before ++ [c] ↔
      ¬ [c, c] <:+: before ∧ before.getLast? ≠ some c := by
    rw [List.infix_concat_iff, not_or, hend, and_comm]
  rw [cut_eq_some_iff (List.cons_ne_nil c [c])]
  simp [hbegun]

theorem cutAt_append {p : Char → Bool} (hc : p c = true) (h : ∀ x ∈ before, p x = false) :
    cutAt p (before ++ c :: after) = some (before, after) := by
  induction before with
  | nil => rw [List.nil_append, cutAt, if_pos hc]
  | cons x before ih =>
    obtain ⟨hx, hbefore⟩ := List.forall_mem_cons.1 h
    rw [List.cons_append, cutAt, if_neg (by simp [hx]), ih hbefore]
    rfl

theorem cutAt_eq_some_iff {p : Char → Bool} :
    cutAt p s = some (before, after) ↔
      ∃ c, s = before ++ c :: after ∧ p c = true ∧ ∀ x ∈ before, p x = false := by
  constructor
  · intro h
    induction s generalizing before with
    | nil => cases h
    | cons x s ih =>
      rw [cutAt] at h
      split at h
      · next hx =>
        cases h
        exact ⟨x, rfl, hx, nofun⟩
      · next hx =>
        obtain ⟨⟨b, a⟩, hcut, heq⟩ := Option.map_eq_some_iff.1 h
        cases heq
        obtain ⟨c, rfl, hc, hb⟩ := ih hcut
        exact ⟨c, rfl, hc, List.forall_mem_cons.2 ⟨by simpa using hx, hb⟩⟩
  · rintro ⟨c, rfl, hc, hbefore⟩
    exact cutAt_append hc hbefore

end UrlRouter.Text
