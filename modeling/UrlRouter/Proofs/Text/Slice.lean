import UrlRouter.Proofs.Text.Cut
import UrlRouter.Proofs.Text.Utf8
import UrlRouter.Text.Slice

/-!
Positions in UTF-8. The borders in the bytes of a text are where its beginnings end. What is found
in the bytes is found at a border, and so it is found where the characters are.
-/

namespace UrlRouter.Text

@[simp] theorem utf8_nil : utf8 [] = [] := rfl

theorem utf8_cons (c : Char) (cs : List Char) :
    utf8 (c :: cs) = String.utf8EncodeChar c ++ utf8 cs := List.flatMap_cons

theorem utf8_append (u v : List Char) : utf8 (u ++ v) = utf8 u ++ utf8 v := List.flatMap_append

theorem utf8_eq_nil_iff {cs : List Char} : utf8 cs = [] ↔ cs = [] := by
  cases cs <;> simp [utf8_cons]

theorem utf8EncodeChar_cases (c : Char) :
    (c.val.toNat < 0x80 ∧ String.utf8EncodeChar c = [UInt8.ofNat c.val.toNat]) ∨
      0x80 ≤ c.val.toNat ∧ ∃ b bs, String.utf8EncodeChar c = b :: bs ∧ 0xC0 ≤ b.toNat ∧
        ∀ x ∈ bs, isContinuation x = true := by
  have hbyte {n : Nat} (h : n < 256) : (UInt8.ofNat n).toNat = n := by
    rw [UInt8.toNat_ofNat', Nat.mod_eq_of_lt h]
  have hcontinues (n : Nat) : isContinuation (UInt8.ofNat (n % 64 + 0x80)) = true := by
    rw [isContinuation_iff, hbyte (by omega)]
    omega
  unfold String.utf8EncodeChar
  dsimp only
  split
  · exact .inl ⟨by omega, rfl⟩
  refine .inr ⟨by omega, ?_⟩
  repeat' split
  all_goals
    refine ⟨_, _, rfl, ?_, ?_⟩
    · rw [hbyte (by omega)]
      omega
    · simp only [List.forall_mem_cons, hcontinues, List.not_mem_nil, false_implies, implies_true,
        and_self]

theorem exists_utf8EncodeChar_eq (c : Char) :
    ∃ b bs, String.utf8EncodeChar c = b :: bs ∧ isContinuation b = false ∧
      ∀ x ∈ bs, isContinuation x = true := by
  rcases utf8EncodeChar_cases c with ⟨hc, hbytes⟩ | ⟨_, b, bs, hbytes, hb, hbs⟩
  · refine ⟨_, [], hbytes, ?_, by simp⟩
    rw [← Bool.not_eq_true, isContinuation_iff, UInt8.toNat_ofNat', Nat.mod_eq_of_lt (by omega)]
    omega
  · refine ⟨b, bs, hbytes, ?_, hbs⟩
    rw [← Bool.not_eq_true, isContinuation_iff]
    omega

theorem eq_of_mem_utf8EncodeChar {c d : Char} (hd : d.val.toNat < 0x80)
    (h : UInt8.ofNat d.val.toNat ∈ String.utf8EncodeChar c) : c = d := by
  have hbyte {n : Nat} (h : n < 0x80) : (UInt8.ofNat n).toNat = n := by
    rw [UInt8.toNat_ofNat', Nat.mod_eq_of_lt (by omega)]
  rcases utf8EncodeChar_cases c with ⟨hc, hbytes⟩ | ⟨_, b, bs, hbytes, hb, hbs⟩
  · rw [hbytes, List.mem_singleton, ← UInt8.toNat_inj, hbyte hc, hbyte hd] at h
    exact Char.ext (UInt32.toNat_inj.1 h.symm)
  · rw [hbytes] at h
    rcases List.mem_cons.1 h with rfl | h
    · rw [hbyte hd] at hb
      omega
    · have hcontinues := isContinuation_iff.1 (hbs _ h)
      rw [hbyte hd] at hcontinues
      omega

theorem isBoundary_utf8_iff {cs : List Char} {i : Nat} :
    isBoundary (utf8 cs) i = true ↔ ∃ u v, cs = u ++ v ∧ i = (utf8 u).length := by
  constructor
  · intro h
    induction cs generalizing i with
    | nil =>
      exact ⟨[], [], rfl, of_decide_eq_true h⟩
    | cons c cs ih =>
      obtain ⟨b, bs, hbytes, hb, hbs⟩ := exists_utf8EncodeChar_eq c
      by_cases hi : i < (b :: bs).length
      · cases i with
        | zero => exact ⟨[], c :: cs, rfl, rfl⟩
        | succ i =>
          -- the position is inside the character
          have hi : i < bs.length := Nat.lt_of_succ_lt_succ hi
          rw [isBoundary, utf8_cons, hbytes, List.cons_append, List.getElem?_cons_succ,
            List.getElem?_append_left hi, List.getElem?_eq_getElem hi] at h
          simp [hbs _ (List.getElem_mem hi)] at h
      · obtain ⟨j, rfl⟩ := Nat.exists_eq_add_of_le (Nat.le_of_not_lt hi)
        have hj : isBoundary (utf8 cs) j = true := by
          rw [← h, utf8_cons, hbytes, isBoundary, isBoundary, List.getElem?_append_right (by omega),
            Nat.add_sub_cancel_left, List.length_append]
          simp
        obtain ⟨u, v, rfl, rfl⟩ := ih hj
        exact ⟨c :: u, v, rfl, by rw [utf8_cons, hbytes, List.length_append]⟩
  · rintro ⟨u, v, rfl, rfl⟩
    cases v with
    | nil => simp [isBoundary]
    | cons c v =>
      obtain ⟨b, bs, hbytes, hb, _⟩ := exists_utf8EncodeChar_eq c
      rw [isBoundary, utf8_append, utf8_cons, hbytes, List.getElem?_append_right (Nat.le_refl _)]
      simp [hb]

theorem length_utf8_append (u v : List Char) :
    (utf8 (u ++ v)).length = (utf8 u).length + (utf8 v).length := by
  rw [utf8_append, List.length_append]

theorem slice?_utf8 {cs u v w : List Char} {i j : Nat} (hcs : u ++ v ++ w = cs)
    (hi : (utf8 u).length = i) (hj : (utf8 (u ++ v)).length = j) :
    slice? (utf8 cs) i j = some (utf8 v) := by
  subst hcs hi hj
  have hstart : isBoundary (utf8 (u ++ v ++ w)) (utf8 u).length = true :=
    isBoundary_utf8_iff.2 ⟨u, v ++ w, List.append_assoc u v w, rfl⟩
  have hend : isBoundary (utf8 (u ++ v ++ w)) (utf8 (u ++ v)).length = true :=
    isBoundary_utf8_iff.2 ⟨u ++ v, w, rfl, rfl⟩
  have hle : (utf8 u).length ≤ (utf8 (u ++ v)).length := by
    rw [length_utf8_append]
    exact Nat.le_add_right _ _
  rw [slice?, if_pos ⟨hle, hstart, hend⟩, utf8_append (u ++ v), List.take_left, utf8_append,
    List.drop_left]

theorem slice?_utf8_left (u v : List Char) :
    slice? (utf8 (u ++ v)) 0 (utf8 u).length = some (utf8 u) :=
  slice?_utf8 (List.append_assoc [] u v) rfl rfl

theorem slice?_utf8_right {cs u v : List Char} {i : Nat} (hcs : u ++ v = cs)
    (hi : (utf8 u).length = i) : slice? (utf8 cs) i (utf8 cs).length = some (utf8 v) := by
  subst hcs
  exact slice?_utf8 (List.append_nil _) hi rfl

theorem prefix_of_utf8 {sep cs : List Char} (h : utf8 sep <+: utf8 cs) : sep <+: cs := by
  induction sep generalizing cs with
  | nil => exact List.nil_prefix
  | cons a sep ih =>
    obtain ⟨rest, hrest⟩ := h
    cases cs with
    | nil => simp [utf8_cons] at hrest
    | cons c cs =>
      rw [utf8_cons, utf8_cons, List.append_assoc] at hrest
      have hread := congrArg ofUtf8 hrest
      rw [ofUtf8_utf8EncodeChar_append, ofUtf8_utf8EncodeChar_append] at hread
      obtain rfl := (List.cons.inj hread).1
      exact List.cons_prefix_cons.2 ⟨rfl, ih ⟨rest, List.append_cancel_left hrest⟩⟩

theorem utf8_prefix_iff {sep cs : List Char} : utf8 sep <+: utf8 cs ↔ sep <+: cs := by
  refine ⟨prefix_of_utf8, ?_⟩
  rintro ⟨rest, rfl⟩
  exact ⟨utf8 rest, (utf8_append sep rest).symm⟩

theorem position?_cons {needle bs : List UInt8} {b : UInt8} (h : ¬ needle <+: b :: bs) :
    position? needle (b :: bs) = (position? needle bs).map (· + 1) := by
  rw [position?, if_neg (by rwa [List.isPrefixOf_iff_prefix])]

/-- No text begins inside a character. -/
theorem position?_continuation_append {sep : List Char} (hsep : sep ≠ []) {bs : List UInt8}
    (hbs : ∀ x ∈ bs, isContinuation x = true) (rest : List UInt8) :
    position? (utf8 sep) (bs ++ rest) = (position? (utf8 sep) rest).map (· + bs.length) := by
  induction bs with
  | nil => simp
  | cons x bs ih =>
    rw [List.forall_mem_cons] at hbs
    have hfirst : ¬ utf8 sep <+: x :: (bs ++ rest) := by
      obtain ⟨c, sep, rfl⟩ := List.exists_cons_of_ne_nil hsep
      obtain ⟨b, _, hbytes, hb, _⟩ := exists_utf8EncodeChar_eq c
      rw [utf8_cons, hbytes, List.cons_append, List.cons_prefix_cons]
      rintro ⟨rfl, _⟩
      rw [hbs.1] at hb
      cases hb
    rw [List.cons_append, position?_cons hfirst, ih hbs.2, Option.map_map]
    rfl

theorem position?_utf8 {sep : List Char} (hsep : sep ≠ []) (cs : List Char) :
    position? (utf8 sep) (utf8 cs) =
      (cut sep cs).map fun (before, _) => (utf8 before).length := by
  induction cs with
  | nil => simp [position?, cut, hsep, utf8_eq_nil_iff]
  | cons c cs ih =>
    obtain ⟨b, bs, hbytes, _, hbs⟩ := exists_utf8EncodeChar_eq c
    have hcons : utf8 (c :: cs) = b :: (bs ++ utf8 cs) := by
      rw [utf8_cons, hbytes, List.cons_append]
    by_cases hfirst : sep <+: c :: cs
    · obtain ⟨rest, hrest⟩ := hfirst
      have hprefix : utf8 sep <+: b :: (bs ++ utf8 cs) := by
        rw [← hcons, utf8_prefix_iff]
        exact ⟨rest, hrest⟩
      rw [hcons, position?, if_pos (List.isPrefixOf_iff_prefix.2 hprefix), ← hrest,
        cut_sep_append hsep]
      rfl
    · have hprefix : ¬ utf8 sep <+: b :: (bs ++ utf8 cs) := by rwa [← hcons, utf8_prefix_iff]
      rw [hcons, position?_cons hprefix, position?_continuation_append hsep hbs, ih,
        cut_cons hfirst]
      cases cut sep cs with
      | none => rfl
      | some parts => simp [utf8_cons, hbytes, Nat.add_comm, Nat.add_left_comm]

end UrlRouter.Text
