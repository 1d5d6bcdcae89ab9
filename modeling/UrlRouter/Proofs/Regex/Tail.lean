import UrlRouter.Proofs.Regex.Parts

/-!
Reading in front of a closing parenthesis. What is read of a text that ends with a parenthesis and
anything behind it, without touching either, is read of the text alone.
-/

namespace UrlRouter.Regex

open Unicode

variable {t : List Char}

theorem exists_append_of_suffix {r tail mid : List Char} (h : r ++ tail <:+ mid) :
    ∃ m, mid = m ++ tail := by
  obtain ⟨u, rfl⟩ := h
  exact ⟨u ++ r, (List.append_assoc ..).symm⟩

theorem taken_local {α : Type} {a b : α} {cs rest tail : List Char}
    (h : some (a, cs ++ tail) = some (b, rest ++ tail)) : some (a, cs) = some (b, rest) := by
  obtain ⟨rfl, heq⟩ := Prod.mk.inj (Option.some.inj h)
  rw [List.append_cancel_right heq]

theorem dropIgnored_local {comment : Bool} {cs rest tail : List Char}
    (h : dropIgnored comment (cs ++ tail) = rest ++ tail) : dropIgnored comment cs = rest := by
  induction cs generalizing comment with
  | nil =>
    have hlength := length_dropIgnored_le comment tail
    rw [List.nil_append] at h
    rw [h, List.length_append] at hlength
    rw [List.eq_nil_of_length_eq_zero (show rest.length = 0 by omega)]
    rfl
  | cons c cs ih =>
    cases comment with
    | true => exact ih h
    | false =>
      rw [List.cons_append, dropIgnored] at h
      rw [dropIgnored]
      split at h
      · next hblank => rw [if_pos hblank, ih h]
      · next hblank =>
        rw [if_neg hblank]
        split at h
        · next hsign => rw [if_pos hsign, ih h]
        · next hsign =>
          rw [if_neg hsign]
          exact List.append_cancel_right (h : (c :: cs) ++ tail = rest ++ tail)

theorem dropIgnored_append {comment : Bool} {c : Char} {cs rest : List Char}
    (h : dropIgnored comment cs = c :: rest) (tail : List Char) :
    dropIgnored comment (cs ++ tail) = c :: (rest ++ tail) := by
  induction cs generalizing comment with
  | nil => cases h
  | cons d cs ih =>
    cases comment with
    | true => exact ih h
    | false =>
      rw [dropIgnored] at h
      rw [List.cons_append, dropIgnored]
      split at h
      · next hblank => rw [if_pos hblank, ih h]
      · next hblank =>
        rw [if_neg hblank]
        split at h
        · next hsign => rw [if_pos hsign, ih h]
        · next hsign =>
          cases h
          rw [if_neg hsign]

theorem skip_append {blanks : Bool} {c : Char} {cs rest : List Char}
    (h : skip blanks cs = c :: rest) (tail : List Char) :
    skip blanks (cs ++ tail) = c :: (rest ++ tail) := by
  cases blanks with
  | true => exact dropIgnored_append h tail
  | false =>
    obtain rfl : cs = c :: rest := h
    rfl

theorem skip_local {blanks : Bool} {cs rest tail : List Char}
    (h : skip blanks (cs ++ tail) = rest ++ tail) : skip blanks cs = rest := by
  cases blanks with
  | true => exact dropIgnored_local h
  | false => exact List.append_cancel_right h

theorem skip_cons_local {blanks : Bool} {c : Char} {cs rest tail : List Char}
    (h : skip blanks (cs ++ tail) = c :: (rest ++ tail)) : skip blanks cs = c :: rest :=
  skip_local h

theorem step?_local {blanks : Bool} {c : Char} {cs rest tail : List Char} (hrest : rest ≠ [])
    (h : step? blanks (c :: (cs ++ tail)) = some (rest ++ tail)) :
    step? blanks (c :: cs) = some rest := by
  unfold step? at h ⊢
  rw [List.drop_one, List.tail_cons] at h ⊢
  split at h
  · cases h
  · have hskip := skip_local (Option.some.inj h)
    rw [hskip]
    split
    · exact absurd rfl hrest
    · rfl

theorem hexDigits?_local {blanks : Bool} {count value n : Nat} {cs rest : List Char}
    (h : hexDigits? blanks count value (cs ++ ')' :: t) = some (n, rest ++ ')' :: t)) :
    hexDigits? blanks count value cs = some (n, rest) := by
  induction count generalizing value cs with
  | zero => exact taken_local h
  | succ count ih =>
    cases cs with
    | nil =>
      have hdigit : hexDigit? ')' = none := by decide
      rw [List.nil_append, hexDigits?, hdigit] at h
      cases h
    | cons c cs =>
      obtain ⟨d, hd, h⟩ := Option.bind_eq_some_iff.1 h
      obtain ⟨m, hm⟩ := exists_append_of_suffix (suffix_hexDigits? h)
      rw [hm] at h
      rw [hexDigits?, hd, skip_local hm]
      exact ih h

theorem untilBrace_local {blanks : Bool} {cs text rest tail : List Char}
    (h : untilBrace blanks (cs ++ tail) = some (text, rest ++ tail)) :
    untilBrace blanks cs = some (text, rest) := by
  generalize hall : cs ++ tail = all at h
  fun_induction untilBrace blanks all generalizing cs text with
  | case1 => cases h
  | case2 all rest' hskip =>
    subst hall
    cases h
    rw [untilBrace, skip_cons_local hskip]
    rfl
  | case3 all c rest' hne hskip ih =>
    subst hall
    obtain ⟨⟨text', rest''⟩, hread, heq⟩ := Option.map_eq_some_iff.1 h
    cases heq
    obtain ⟨m, rfl⟩ := exists_append_of_suffix (suffix_untilBrace hread)
    rw [untilBrace, skip_cons_local hskip]
    split
    · next heq => cases heq
    · next heq =>
      cases heq
      exact (hne rfl).elim
    · next heq =>
      cases heq
      rw [ih rfl hread]
      rfl

theorem readHex_local {blanks : Bool} {count : Nat} {cs rest : List Char} {a : Atom}
    (h : readHex blanks count (cs ++ ')' :: t) = some (a, rest ++ ')' :: t)) :
    readHex blanks count cs = some (a, rest) := by
  unfold readHex at h ⊢
  split at h
  · next cs' hskip =>
    obtain ⟨⟨text, cs''⟩, htext, h⟩ := Option.bind_eq_some_iff.1 h
    obtain ⟨ds, hds, h⟩ := Option.bind_eq_some_iff.1 h
    dsimp only at h
    split at h
    · cases h
    next hne =>
    obtain ⟨c, hc, h⟩ := Option.bind_eq_some_iff.1 h
    obtain ⟨rfl, hrest⟩ := Prod.mk.inj (Option.some.inj h)
    obtain ⟨m, rfl⟩ := exists_append_of_suffix (hrest ▸ suffix_skip blanks cs'')
    obtain ⟨m', rfl⟩ := exists_append_of_suffix (suffix_untilBrace htext)
    rw [skip_cons_local hskip]
    simp only [untilBrace_local htext, hds, hne, hc, skip_local hrest, Option.bind_eq_bind,
      Option.bind_some, if_false]
  · next hne =>
    obtain ⟨⟨n, cs'⟩, hdigits, h⟩ := Option.bind_eq_some_iff.1 h
    obtain ⟨c, hc, h⟩ := Option.bind_eq_some_iff.1 h
    obtain ⟨rfl, hrest⟩ := Prod.mk.inj (Option.some.inj h)
    subst hrest
    obtain ⟨m, hm⟩ := exists_append_of_suffix (suffix_hexDigits? hdigits)
    rw [hm] at hdigits
    rw [skip_local hm]
    split
    · exact (hne _ hm).elim
    · rw [hexDigits?_local hdigits]
      simp only [hc, Option.bind_eq_bind, Option.bind_some]

theorem splitAtSign_local {c : Char} {cs text rest tail : List Char}
    (h : splitAtSign [c] (cs ++ tail) = some (text, rest ++ tail)) :
    splitAtSign [c] cs = some (text, rest) := by
  induction cs generalizing text with
  | nil =>
    have hlength := (behind_splitAtSign h).shorter
    rw [List.nil_append, List.length_append] at hlength
    omega
  | cons d cs ih =>
    rw [List.cons_append, splitAtSign_cons] at h
    rw [splitAtSign_cons]
    split at h
    · next hsign =>
      rw [if_pos hsign, taken_local h]
    · next hsign =>
      obtain ⟨⟨text', rest'⟩, hread, heq⟩ := Option.map_eq_some_iff.1 h
      cases heq
      rw [if_neg hsign, ih hread]
      rfl

theorem splitAtSign_append {c : Char} {cs text rest : List Char}
    (h : splitAtSign [c] cs = some (text, rest)) (tail : List Char) :
    splitAtSign [c] (cs ++ tail) = some (text, rest ++ tail) := by
  induction cs generalizing text with
  | nil => cases h
  | cons d cs ih =>
    rw [splitAtSign_cons] at h
    rw [List.cons_append, splitAtSign_cons]
    split at h
    · next hsign =>
      cases h
      rw [if_pos hsign]
    · next hsign =>
      obtain ⟨⟨text', rest'⟩, hread, heq⟩ := Option.map_eq_some_iff.1 h
      cases heq
      rw [if_neg hsign, ih hread]
      rfl

theorem readNamedClass_local {blanks negated : Bool} {cs rest tail : List Char} {a : Atom}
    (h : readNamedClass blanks negated (cs ++ tail) = some (a, rest ++ tail)) :
    readNamedClass blanks negated cs = some (a, rest) := by
  unfold readNamedClass at h ⊢
  split at h
  · cases h
  · next hskip =>
    obtain ⟨⟨text, cs'⟩, htext, h⟩ := Option.bind_eq_some_iff.1 h
    obtain ⟨rfl, hrest⟩ := Prod.mk.inj (Option.some.inj h)
    subst hrest
    obtain ⟨m, rfl⟩ := exists_append_of_suffix (suffix_untilBrace htext)
    rw [skip_cons_local hskip]
    exact Option.bind_eq_some_iff.2 ⟨_, untilBrace_local htext, rfl⟩
  · next c cs' hne hskip =>
    split at h
    · cases h
    · next hescape =>
      obtain ⟨rfl, hrest⟩ := Prod.mk.inj (Option.some.inj h)
      obtain ⟨m, rfl⟩ := exists_append_of_suffix (hrest ▸ suffix_skip blanks cs')
      rw [skip_cons_local hskip]
      split
      · next heq => cases heq
      · next heq =>
        cases heq
        exact (hne rfl).elim
      · next heq =>
        cases heq
        rw [if_neg hescape, skip_local hrest]

theorem markLetters_local {blanks : Bool} {cs text rest : List Char}
    (h : markLetters blanks (cs ++ ')' :: t) = (text, rest ++ ')' :: t)) :
    markLetters blanks cs = (text, rest) := by
  generalize hall : cs ++ ')' :: t = all at h
  fun_induction markLetters blanks all generalizing cs text with
  | case1 => cases cs <;> cases hall
  | case2 c cs' hletter text' rest' hread ih =>
    cases h
    cases cs with
    | nil =>
      cases hall
      exact absurd hletter (by decide)
    | cons d cs =>
      obtain ⟨rfl, rfl⟩ := List.cons.inj hall
      obtain ⟨m, hm⟩ := exists_append_of_suffix (suffix_markLetters hread)
      rw [markLetters, if_pos hletter, skip_local hm, ih hm.symm hread]
  | case3 c cs' hletter =>
    obtain ⟨rfl, hrest⟩ := Prod.mk.inj h
    obtain rfl := List.append_cancel_right (hall.trans hrest)
    cases cs with
    | nil => rw [markLetters]
    | cons d cs =>
      obtain ⟨rfl, rfl⟩ := List.cons.inj hall
      rw [markLetters, if_neg hletter]

def Dangling (blanks : Bool) (cs : List Char) : Prop :=
  ∃ inner, cs = '\x7b' :: inner ∧ skip blanks inner = []

def boundaryKind? (text : List Char) : Option Mark :=
  match String.ofList text with
  | "start" => some .wordStart
  | "end" => some .wordEnd
  | "start-half" => some .halfStart
  | "end-half" => some .halfEnd
  | _ => none

theorem readBoundary_brace (blanks : Bool) (inner : List Char) :
    readBoundary blanks ('\x7b' :: inner) =
      match skip blanks inner with
      | [] => none
      | c :: after =>
          if isMarkLetter c then
            match markLetters blanks (c :: after) with
            | (text, '\x7d' :: cs) => (boundaryKind? text).map fun m => (m, cs)
            | _ => none
          else some (.boundary, '\x7b' :: inner) := rfl

theorem readBoundary_of_head {blanks : Bool} {cs : List Char} (h : cs.head? ≠ some '\x7b') :
    readBoundary blanks cs = some (.boundary, cs) := by
  unfold readBoundary
  split
  · exact absurd rfl h
  · rfl

theorem head?_append_ne {c : Char} {cs : List Char} (hc : c ≠ ')') (h : cs.head? ≠ some c) :
    (cs ++ ')' :: t).head? ≠ some c := by
  cases cs with
  | nil => simpa using hc.symm
  | cons d cs => exact h

theorem readBoundary_local {blanks : Bool} {cs rest : List Char} {m : Mark}
    (h : readBoundary blanks (cs ++ ')' :: t) = some (m, rest ++ ')' :: t)) :
    readBoundary blanks cs = some (m, rest) ∨ m = .boundary ∧ Dangling blanks rest := by
  by_cases hbrace : cs.head? = some '\x7b'
  · obtain ⟨inner, rfl⟩ := List.head?_eq_some_iff.1 hbrace
    rw [List.cons_append, readBoundary_brace] at h
    rw [readBoundary_brace]
    split at h
    · cases h
    next c after hskip =>
    split at h
    · next hletter =>
      split at h
      · next text cs' hread =>
        obtain ⟨kind, hkind, heq⟩ := Option.map_eq_some_iff.1 h
        obtain ⟨rfl, rfl⟩ := Prod.mk.inj heq
        obtain ⟨m, hm⟩ := exists_append_of_suffix (r := '\x7d' :: rest)
          (suffix_markLetters hread)
        rw [hm] at hskip hread
        cases m with
        | nil =>
          cases hm
          exact absurd hletter (by decide)
        | cons d m =>
          cases hm
          rw [skip_local hskip]
          dsimp only
          have hread : markLetters blanks (c :: m) = (text, '\x7d' :: rest) :=
            markLetters_local hread
          rw [if_pos hletter, hread]
          exact .inl (Option.map_eq_some_iff.2 ⟨_, hkind, rfl⟩)
      · cases h
    · next hletter =>
      have hread : some (Mark.boundary, '\x7b' :: inner) = some (m, rest) := taken_local h
      cases hread
      cases hinner : skip blanks inner with
      | nil => exact .inr ⟨rfl, inner, rfl, hinner⟩
      | cons e after' =>
        have hboth := skip_append hinner (')' :: t)
        rw [hskip] at hboth
        cases hboth
        exact .inl (if_neg hletter)
  · rw [readBoundary_of_head (head?_append_ne (by decide) hbrace)] at h
    rw [readBoundary_of_head hbrace]
    exact .inl (taken_local h)

theorem readEscape_local {blanks : Bool} {cs rest : List Char} {a : Atom}
    (h : readEscape blanks (cs ++ ')' :: t) = some (a, rest ++ ')' :: t)) :
    readEscape blanks cs = some (a, rest) ∨ a = .mark .boundary ∧ Dangling blanks rest := by
  cases cs with
  | nil =>
    have hparen : readEscape blanks (')' :: t) = some (.char ')' false, t) := by
      rw [readEscape.eq_def]
      rfl
    rw [List.nil_append, hparen] at h
    have hlength := congrArg List.length (Prod.mk.inj (Option.some.inj h)).2
    simp at hlength
    omega
  | cons c cs =>
    rw [List.cons_append, readEscape.eq_def] at h
    dsimp only at h
    split at h
    · exact .inl (readHex_local h)
    · exact .inl (readHex_local h)
    · exact .inl (readHex_local h)
    · exact .inl (readNamedClass_local h)
    · exact .inl (readNamedClass_local h)
    all_goals try exact .inl (taken_local h)
    · obtain ⟨⟨m, cs'⟩, hread, heq⟩ := Option.map_eq_some_iff.1 h
      obtain ⟨rfl, rfl⟩ := Prod.mk.inj heq
      rcases readBoundary_local hread with hread | ⟨rfl, hdangling⟩
      · exact .inl (Option.map_eq_some_iff.2 ⟨_, hread, rfl⟩)
      · exact .inr ⟨rfl, hdangling⟩
    · obtain ⟨hplain, heq⟩ := Option.ite_none_right_eq_some.1 h
      refine .inl ?_
      rw [readEscape.eq_25, if_pos hplain]
      · exact taken_local heq
      all_goals assumption

theorem ne_nil_of_suffix {rest m tail : List Char} (h : rest ++ tail <:+ m ++ tail)
    (hrest : rest ≠ []) : m ≠ [] := by
  rintro rfl
  have hlength := h.length_le
  have hpositive := List.length_pos_iff.2 hrest
  rw [List.length_append, List.nil_append] at hlength
  omega

theorem ne_nil_of_behind {rest m tail : List Char} (h : Behind (rest ++ tail) (m ++ tail)) :
    m ≠ [] := by
  rintro rfl
  have hshorter := h.shorter
  rw [List.length_append, List.nil_append] at hshorter
  omega

theorem caret_append (cs : List Char) :
    caret (cs ++ ')' :: t) = ((caret cs).1, (caret cs).2 ++ ')' :: t) := by
  cases cs with
  | nil => rfl
  | cons c cs =>
    by_cases hc : c = '^'
    · subst hc
      rfl
    · have hplain (cs : List Char) : caret (c :: cs) = (false, c :: cs) := by
        unfold caret
        split
        · next heq =>
          cases heq
          exact absurd rfl hc
        · rfl
      rw [List.cons_append, hplain, hplain]
      rfl

theorem readPosix?_of_head {cs : List Char} (h : cs.head? ≠ some ':') : readPosix? cs = none := by
  unfold readPosix?
  split
  · exact absurd rfl h
  · rfl

theorem readPosix?_local {cs rest : List Char} {e : ClassExpr}
    (h : readPosix? (cs ++ ')' :: t) = some (e, rest ++ ')' :: t)) :
    readPosix? cs = some (e, rest) := by
  by_cases hcolon : cs.head? = some ':'
  · obtain ⟨cs, rfl⟩ := List.head?_eq_some_iff.1 hcolon
    rw [List.cons_append, readPosix?_colon, caret_append] at h
    rw [readPosix?_colon]
    dsimp only at h
    split at h
    · next hsign =>
      obtain ⟨kind, hkind, heq⟩ := Option.map_eq_some_iff.1 h
      obtain ⟨rfl, rfl⟩ := Prod.mk.inj heq
      have hname : splitAtSign [':'] (caret cs).2 = some (_, ']' :: rest) := splitAtSign_local hsign
      rw [hname]
      exact Option.map_eq_some_iff.2 ⟨_, hkind, rfl⟩
    · cases h
  · rw [readPosix?_of_head (head?_append_ne (by decide) hcolon)] at h
    cases h

theorem readPosix?_append {cs rest : List Char} {e : ClassExpr}
    (h : readPosix? cs = some (e, rest)) :
    readPosix? (cs ++ ')' :: t) = some (e, rest ++ ')' :: t) := by
  by_cases hcolon : cs.head? = some ':'
  · obtain ⟨cs, rfl⟩ := List.head?_eq_some_iff.1 hcolon
    rw [readPosix?_colon] at h
    rw [List.cons_append, readPosix?_colon, caret_append]
    split at h
    · next hsign =>
      obtain ⟨kind, hkind, heq⟩ := Option.map_eq_some_iff.1 h
      cases heq
      dsimp only
      rw [splitAtSign_append hsign]
      exact Option.map_eq_some_iff.2 ⟨_, hkind, rfl⟩
    · cases h
  · rw [readPosix?_of_head hcolon] at h
    cases h

theorem readElement_local {blanks : Bool} {cs rest : List Char} {a : Atom}
    (h : readElement blanks (cs ++ ')' :: t) = some (a, rest ++ ')' :: t)) :
    readElement blanks cs = some (a, rest) ∨ a = .mark .boundary := by
  cases cs with
  | nil =>
    have hlength := congrArg List.length (Prod.mk.inj (Option.some.inj h)).2
    simp at hlength
    omega
  | cons c cs =>
    rw [List.cons_append, readElement.eq_def] at h
    split at h
    · next heq => cases heq
    · next heq =>
      cases heq
      exact (readEscape_local h).imp_right And.left
    · next hne heq =>
      cases heq
      rw [readElement.eq_3]
      · exact .inl (taken_local h)
      · assumption

theorem dropWhile_isWhiteSpace_append (cs : List Char) :
    (cs ++ ')' :: t).dropWhile isWhiteSpace = cs.dropWhile isWhiteSpace ++ ')' :: t := by
  have hparen : isWhiteSpace ')' = false := by decide +kernel
  rw [List.dropWhile_append]
  split
  · next hempty =>
    rw [List.isEmpty_iff.1 hempty, List.dropWhile_cons, hparen]
    rfl
  · rfl

theorem behindDash_append (blanks : Bool) (cs : List Char) :
    behindDash blanks (cs ++ ')' :: t) = behindDash blanks cs ++ ')' :: t := by
  cases blanks with
  | false => rfl
  | true =>
    unfold behindDash
    rw [if_pos rfl, if_pos rfl, dropWhile_isWhiteSpace_append]
    cases cs.dropWhile isWhiteSpace with
    | nil => rfl
    | cons c cs =>
      by_cases hsign : c = '#'
      · subst hsign
        exact dropWhile_isWhiteSpace_append cs
      · rw [List.cons_append]
        split
        · next heq =>
          cases heq
          exact absurd rfl hsign
        · split
          · next heq =>
            cases heq
            exact absurd rfl hsign
          · rfl

theorem startsRange_of_head {blanks : Bool} {cs : List Char} (h : cs.head? ≠ some '-') :
    startsRange blanks cs = false := by
  unfold startsRange
  split
  · exact absurd rfl h
  · rfl

theorem startsRange_append (blanks : Bool) (cs : List Char) :
    startsRange blanks (cs ++ ')' :: t) = startsRange blanks cs := by
  by_cases hdash : cs.head? = some '-'
  · obtain ⟨after, rfl⟩ := List.head?_eq_some_iff.1 hdash
    rw [List.cons_append, startsRange_dash, startsRange_dash, behindDash_append]
    cases behindDash blanks after <;> rfl
  · rw [startsRange_of_head hdash, startsRange_of_head (head?_append_ne (by decide) hdash)]

theorem Atom.range?_mark (a : Atom) (m : Mark) : Atom.range? (.mark m) a = none := by
  cases a <;> rfl

theorem readRange_local {blanks : Bool} {cs rest : List Char} {e : ClassExpr}
    (h : readRange blanks (cs ++ ')' :: t) = some (e, rest ++ ')' :: t)) (hrest : rest ≠ []) :
    readRange blanks cs = some (e, rest) := by
  rw [readRange_eq] at h ⊢
  obtain ⟨⟨first, cs₁⟩, hfirst, h⟩ := Option.bind_eq_some_iff.1 h
  dsimp only at h
  -- A word boundary is no part of a class, so what an element may leave open does not matter.
  by_cases hstarts : startsRange blanks (skip blanks cs₁) = true
  · rw [if_pos hstarts] at h
    obtain ⟨cs₃, hstep, h⟩ := Option.bind_eq_some_iff.1 h
    obtain ⟨⟨last, cs₄⟩, hlast, h⟩ := Option.bind_eq_some_iff.1 h
    obtain ⟨e', hrange, heq⟩ := Option.map_eq_some_iff.1 h
    obtain ⟨rfl, rfl⟩ := Prod.mk.inj heq
    obtain ⟨m₃, rfl⟩ := exists_append_of_suffix ((behind_readElement hlast).suffix)
    obtain ⟨m₂, hm₂⟩ := exists_append_of_suffix (suffix_step? hstep)
    obtain ⟨m₁, rfl⟩ := exists_append_of_suffix (hm₂ ▸ suffix_skip blanks cs₁)
    rw [hm₂] at hstarts hstep
    rw [startsRange_append] at hstarts
    have hfirst : readElement blanks cs = some (first, m₁) := by
      rcases readElement_local hfirst with hread | rfl
      · exact hread
      · rw [Atom.range?_mark] at hrange
        cases hrange
    have hlast : readElement blanks m₃ = some (last, rest) := by
      rcases readElement_local hlast with hread | rfl
      · exact hread
      · cases first <;> cases hrange
    have hstep : step? blanks m₂ = some m₃ := by
      obtain ⟨c, m₂, rfl⟩ : ∃ c m, m₂ = c :: m := by
        cases m₂ with
        | nil => cases hstarts
        | cons c m => exact ⟨c, m, rfl⟩
      refine step?_local (fun hnil => ?_) hstep
      rw [hnil] at hlast
      cases hlast
    refine Option.bind_eq_some_iff.2 ⟨_, hfirst, ?_⟩
    dsimp only
    rw [skip_local hm₂, if_pos hstarts]
    refine Option.bind_eq_some_iff.2 ⟨_, hstep, Option.bind_eq_some_iff.2 ⟨_, hlast, ?_⟩⟩
    exact Option.map_eq_some_iff.2 ⟨_, hrange, rfl⟩
  · rw [if_neg hstarts] at h
    split at h
    · cases h
    obtain ⟨e', hsingle, heq⟩ := Option.map_eq_some_iff.1 h
    obtain ⟨rfl, hskip⟩ := Prod.mk.inj heq
    obtain ⟨m₁, rfl⟩ := exists_append_of_suffix (hskip ▸ suffix_skip blanks cs₁)
    rw [hskip, startsRange_append] at hstarts
    rcases readElement_local hfirst with hread | rfl
    · refine Option.bind_eq_some_iff.2 ⟨_, hread, ?_⟩
      dsimp only
      rw [skip_local hskip, if_neg hstarts, if_neg hrest]
      exact Option.map_eq_some_iff.2 ⟨_, hsingle, rfl⟩
    · cases hsingle

theorem leadingDashes_dash (blanks : Bool) (items : List ClassExpr) (cs : List Char) :
    leadingDashes blanks items ('-' :: cs) =
      match skip blanks cs with
      | [] => none
      | c :: after => leadingDashes blanks (.range '-' '-' :: items) (c :: after) := by
  rw [leadingDashes]
  split <;> simp_all

theorem leadingDashes_of_head {blanks : Bool} {items : List ClassExpr} {cs : List Char}
    (h : cs.head? ≠ some '-') : leadingDashes blanks items cs = some (items, cs) := by
  rw [leadingDashes]
  rintro after rfl
  exact h rfl

theorem leadingDashes_local {blanks : Bool} {items items' : List ClassExpr} {cs rest : List Char}
    (hrest : rest ≠ [])
    (h : leadingDashes blanks items (cs ++ ')' :: t) = some (items', rest ++ ')' :: t)) :
    leadingDashes blanks items cs = some (items', rest) := by
  induction hlength : cs.length using Nat.strongRecOn generalizing items cs with
  | ind n ih =>
    subst hlength
    by_cases hdash : cs.head? = some '-'
    · obtain ⟨cs, rfl⟩ := List.head?_eq_some_iff.1 hdash
      rw [List.cons_append, leadingDashes_dash] at h
      rw [leadingDashes_dash]
      split at h
      · cases h
      · next c after hskip =>
        obtain ⟨m, hm⟩ := exists_append_of_suffix (suffix_leadingDashes h)
        rw [hm] at hskip h
        have hcs := skip_local hskip
        have hshorter : m.length < ('-' :: cs).length :=
          Nat.lt_succ_of_le (hcs ▸ length_skip_le blanks cs)
        rw [hcs]
        cases m with
        | nil => exact absurd rfl (ne_nil_of_suffix (suffix_leadingDashes h) hrest)
        | cons d m => exact ih _ hshorter h rfl
    · rw [leadingDashes_of_head (head?_append_ne (by decide) hdash)] at h
      rw [leadingDashes_of_head hdash]
      exact taken_local h

theorem readNegation_of_head {blanks : Bool} {cs : List Char} (h : cs.head? ≠ some '^') :
    readNegation blanks cs = some (false, cs) := by
  unfold readNegation
  split
  · exact absurd rfl h
  · rfl

theorem readNegation_local {blanks negated : Bool} {cs rest : List Char} (hrest : rest ≠ [])
    (h : readNegation blanks (cs ++ ')' :: t) = some (negated, rest ++ ')' :: t)) :
    readNegation blanks cs = some (negated, rest) := by
  by_cases hcaret : cs.head? = some '^'
  · obtain ⟨cs, rfl⟩ := List.head?_eq_some_iff.1 hcaret
    obtain ⟨cs', hstep, heq⟩ := Option.map_eq_some_iff.1 h
    obtain ⟨rfl, rfl⟩ := Prod.mk.inj heq
    exact Option.map_eq_some_iff.2 ⟨_, step?_local hrest hstep, rfl⟩
  · rw [readNegation_of_head (head?_append_ne (by decide) hcaret)] at h
    rw [readNegation_of_head hcaret]
    exact taken_local h

theorem readFirstBracket_of_head {blanks : Bool} {items : List ClassExpr} {cs : List Char}
    (h : cs.head? ≠ some ']') : readFirstBracket blanks items cs = some (items, cs) := by
  unfold readFirstBracket
  split
  · exact absurd rfl h
  · rfl

theorem readFirstBracket_local {blanks : Bool} {items items' : List ClassExpr}
    {cs rest : List Char} (hrest : rest ≠ [])
    (h : readFirstBracket blanks items (cs ++ ')' :: t) = some (items', rest ++ ')' :: t)) :
    readFirstBracket blanks items cs = some (items', rest) := by
  by_cases hbracket : items = [] ∧ cs.head? = some ']'
  · obtain ⟨rfl, hhead⟩ := hbracket
    obtain ⟨cs, rfl⟩ := List.head?_eq_some_iff.1 hhead
    obtain ⟨cs', hstep, heq⟩ := Option.map_eq_some_iff.1 h
    obtain ⟨rfl, rfl⟩ := Prod.mk.inj heq
    exact Option.map_eq_some_iff.2 ⟨_, step?_local hrest hstep, rfl⟩
  · have hplain (hhead : items = [] → cs.head? ≠ some ']') :
        readFirstBracket blanks items (cs ++ ')' :: t) = some (items, cs ++ ')' :: t) ∧
          readFirstBracket blanks items cs = some (items, cs) := by
      cases items with
      | nil =>
        exact ⟨readFirstBracket_of_head (head?_append_ne (by decide) (hhead rfl)),
          readFirstBracket_of_head (hhead rfl)⟩
      | cons e items => exact ⟨rfl, rfl⟩
    obtain ⟨hwhole, hread⟩ := hplain fun hitems hhead => hbracket ⟨hitems, hhead⟩
    rw [hwhole] at h
    rw [hread]
    exact taken_local h

theorem readClassPart?_local {f g : List Char → Option (ClassExpr × List Char)} {blanks : Bool}
    {cs rest : List Char} {part : ClassPart} (hrest : part = .close ∨ rest ≠ [])
    (hinner : ∀ {c cs' e}, cs = c :: cs' → f (cs' ++ ')' :: t) = some (e, rest ++ ')' :: t) →
      g cs' = some (e, rest))
    (h : readClassPart? f blanks (cs ++ ')' :: t) = some (part, rest ++ ')' :: t)) :
    readClassPart? g blanks cs = some (part, rest) := by
  cases cs with
  | nil =>
    obtain ⟨hsuffix, hclose⟩ : rest ++ ')' :: t <:+ [] ++ ')' :: t ∧ part ≠ .close := by
      obtain ⟨⟨e, rest'⟩, hread, heq⟩ := Option.map_eq_some_iff.1 h
      cases heq
      exact ⟨(behind_readRange hread).suffix, by simp⟩
    exact absurd rfl (ne_nil_of_suffix hsuffix (hrest.resolve_left hclose))
  | cons c cs =>
    rw [List.cons_append, readClassPart?.eq_def] at h
    split at h
    · next heq => cases heq
    · next heq =>
      cases heq
      obtain ⟨⟨e, rest'⟩, hread, heq⟩ := Option.map_eq_some_iff.1 h
      obtain ⟨rfl, rfl⟩ := Prod.mk.inj heq
      refine Option.map_eq_some_iff.2 ⟨(e, rest), ?_, rfl⟩
      rcases Option.or_eq_some_iff.1 hread with hread | ⟨hnone, hread⟩
      · exact Option.or_eq_some_iff.2 (.inl (readPosix?_local hread))
      · refine Option.or_eq_some_iff.2 (.inr ⟨?_, hinner rfl hread⟩)
        cases hposix : readPosix? cs with
        | none => rfl
        | some found =>
          rw [readPosix?_append hposix] at hnone
          cases hnone
    · next heq =>
      cases heq
      exact taken_local h
    · next hall =>
      obtain ⟨rfl, heq⟩ := List.cons.inj hall
      obtain ⟨rfl, rfl⟩ := Prod.mk.inj (Option.some.inj h)
      obtain rfl : cs = '&' :: rest := List.append_cancel_right heq
      rfl
    · next hall =>
      obtain ⟨rfl, heq⟩ := List.cons.inj hall
      obtain ⟨rfl, rfl⟩ := Prod.mk.inj (Option.some.inj h)
      obtain rfl : cs = '-' :: rest := List.append_cancel_right heq
      rfl
    · next hall =>
      obtain ⟨rfl, heq⟩ := List.cons.inj hall
      obtain ⟨rfl, rfl⟩ := Prod.mk.inj (Option.some.inj h)
      obtain rfl : cs = '~' :: rest := List.append_cancel_right heq
      rfl
    · next hopen hclose hand hdash htilde =>
      obtain ⟨⟨e, rest'⟩, hread, heq⟩ := Option.map_eq_some_iff.1 h
      obtain ⟨rfl, rfl⟩ := Prod.mk.inj heq
      have hrange : readRange blanks (c :: cs) = some (e, rest) :=
        readRange_local hread (hrest.resolve_left (by simp))
      rw [readClassPart?.eq_7, hrange]
      · rfl
      · simp
      · rintro x heq
        cases heq
        exact hopen _ rfl
      · rintro x heq
        cases heq
        exact hclose _ rfl
      · rintro x heq
        cases heq
        exact hand _ rfl
      · rintro x heq
        cases heq
        exact hdash _ rfl
      · rintro x heq
        cases heq
        exact htilde _ rfl

theorem readClass_succ_local {steps k : Nat} {blanks : Bool} {cs rest : List Char} {e : ClassExpr}
    (hitems : ∀ {items cs rest e},
      readItems steps blanks none items (cs ++ ')' :: t) = some (e, rest ++ ')' :: t) →
        2 * cs.length + 1 ≤ k → readItems k blanks none items cs = some (e, rest))
    (hk : 2 * cs.length + 1 ≤ k)
    (h : readClass (steps + 1) blanks (cs ++ ')' :: t) = some (e, rest ++ ')' :: t)) :
    readClass (k + 1) blanks cs = some (e, rest) := by
  rw [readClass_succ] at h ⊢
  split at h
  · cases h
  obtain ⟨⟨negated, cs₁⟩, hnegation, h⟩ := Option.bind_eq_some_iff.1 h
  obtain ⟨⟨items₂, cs₂⟩, hdashes, h⟩ := Option.bind_eq_some_iff.1 h
  obtain ⟨⟨items₃, cs₃⟩, hbracket, h⟩ := Option.bind_eq_some_iff.1 h
  obtain ⟨⟨inner, cs₄⟩, hread, heq⟩ := Option.bind_eq_some_iff.1 h
  obtain ⟨rfl, rfl⟩ := Prod.mk.inj (Option.some.inj heq)
  obtain ⟨m₃, rfl⟩ := exists_append_of_suffix (behind_readItems hread).suffix
  obtain ⟨m₂, rfl⟩ := exists_append_of_suffix (suffix_readFirstBracket hbracket)
  obtain ⟨m₁, rfl⟩ := exists_append_of_suffix (suffix_leadingDashes hdashes)
  obtain ⟨m, hm⟩ := exists_append_of_suffix (suffix_readNegation hnegation)
  -- The class goes on behind each of these, so none of them ends at the tail.
  have hne₃ := ne_nil_of_behind (behind_readItems hread)
  have hne₂ := ne_nil_of_suffix (suffix_readFirstBracket hbracket) hne₃
  have hne₁ := ne_nil_of_suffix (suffix_leadingDashes hdashes) hne₂
  rw [hm] at hnegation
  have hne := ne_nil_of_suffix (suffix_readNegation hnegation) hne₁
  have hnegation := readNegation_local hne₁ hnegation
  have hdashes := leadingDashes_local hne₂ hdashes
  have hbracket := readFirstBracket_local hne₃ hbracket
  have hlength : m₃.length ≤ cs.length := by
    have hskip := skip_local hm ▸ length_skip_le blanks cs
    have h₁ := (suffix_readNegation hnegation).length_le
    have h₂ := (suffix_leadingDashes hdashes).length_le
    have h₃ := (suffix_readFirstBracket hbracket).length_le
    omega
  rw [skip_local hm, if_neg hne]
  refine Option.bind_eq_some_iff.2 ⟨_, hnegation, Option.bind_eq_some_iff.2 ⟨_, hdashes, ?_⟩⟩
  refine Option.bind_eq_some_iff.2 ⟨_, hbracket, ?_⟩
  exact Option.bind_eq_some_iff.2 ⟨(inner, rest), hitems hread (by omega), rfl⟩

theorem readItems_succ_local {steps k : Nat} {blanks : Bool} {pending : Pending}
    {items : List ClassExpr} {cs rest : List Char} {e : ClassExpr}
    (hclass : ∀ {cs rest e},
      readClass steps blanks (cs ++ ')' :: t) = some (e, rest ++ ')' :: t) →
        2 * cs.length + 2 ≤ k → readClass k blanks cs = some (e, rest))
    (hitems : ∀ {pending items cs rest e},
      readItems steps blanks pending items (cs ++ ')' :: t) = some (e, rest ++ ')' :: t) →
        2 * cs.length + 1 ≤ k → readItems k blanks pending items cs = some (e, rest))
    (hk : 2 * cs.length ≤ k)
    (h : readItems (steps + 1) blanks pending items (cs ++ ')' :: t) =
      some (e, rest ++ ')' :: t)) :
    readItems (k + 1) blanks pending items cs = some (e, rest) := by
  rw [readItems_succ] at h ⊢
  obtain ⟨⟨part, cs₁⟩, hpart, h⟩ := Option.bind_eq_some_iff.1 h
  have hends : rest ++ ')' :: t <:+ cs₁ ∧ (part = .close ∨ Behind (rest ++ ')' :: t) cs₁) := by
    cases part with
    | close =>
      cases h
      exact ⟨List.suffix_rfl, .inl rfl⟩
    | item e' => exact ⟨(behind_readItems h).suffix, .inr (behind_readItems h)⟩
    | op kind => exact ⟨(behind_readItems h).suffix, .inr (behind_readItems h)⟩
  obtain ⟨hends, hclose⟩ := hends
  obtain ⟨m₁, rfl⟩ := exists_append_of_suffix hends
  obtain ⟨m, hm⟩ := exists_append_of_suffix
    (behind_readClassPart? (fun hread => suffix_readClass hread) hpart).suffix
  have hlength : m.length ≤ cs.length := skip_local hm ▸ length_skip_le blanks cs
  rw [hm] at hpart
  have hread : readClassPart? (readClass k blanks) blanks m = some (part, m₁) := by
    refine readClassPart?_local (hclose.imp_right ne_nil_of_behind) ?_ hpart
    rintro c m' e' rfl hclass'
    rw [List.length_cons] at hlength
    exact hclass hclass' (by omega)
  have hshorter := (behind_readClassPart? (fun hread => suffix_readClass hread) hread).shorter
  rw [skip_local hm]
  refine Option.bind_eq_some_iff.2 ⟨_, hread, ?_⟩
  cases part with
  | close => exact taken_local h
  | item e' => exact hitems h (by omega)
  | op kind => exact hitems h (by omega)

theorem readClass_readItems_local (steps : Nat) :
    (∀ {k : Nat} {blanks : Bool} {cs rest : List Char} {e : ClassExpr},
      readClass steps blanks (cs ++ ')' :: t) = some (e, rest ++ ')' :: t) →
        2 * cs.length + 2 ≤ k → readClass k blanks cs = some (e, rest)) ∧
    ∀ {k : Nat} {blanks : Bool} {pending : Pending} {items : List ClassExpr}
      {cs rest : List Char} {e : ClassExpr},
      readItems steps blanks pending items (cs ++ ')' :: t) = some (e, rest ++ ')' :: t) →
        2 * cs.length + 1 ≤ k → readItems k blanks pending items cs = some (e, rest) := by
  induction steps with
  | zero =>
    refine ⟨fun h => ?_, fun h => ?_⟩
    · cases h
    · cases h
  | succ steps ih =>
    obtain ⟨hclass, hitems⟩ := ih
    refine ⟨fun {k _ _ _ _} h hk => ?_, fun {k _ _ _ _ _ _} h hk => ?_⟩
    · obtain ⟨k, rfl⟩ : ∃ j, k = j + 1 := ⟨k - 1, by omega⟩
      exact readClass_succ_local hitems (by omega) h
    · obtain ⟨k, rfl⟩ : ∃ j, k = j + 1 := ⟨k - 1, by omega⟩
      exact readItems_succ_local hclass hitems (by omega) h

theorem readFlags_local {negated : Bool} {seen changes : FlagChanges} {cs rest : List Char}
    (hrest : rest ≠ [])
    (h : readFlags negated seen (cs ++ ')' :: t) = some (changes, rest ++ ')' :: t)) :
    readFlags negated seen cs = some (changes, rest) := by
  generalize hall : cs ++ ')' :: t = all at h
  fun_induction readFlags negated seen all generalizing cs with
  | case1 | case2 | case3 | case4 | case5 | case8 | case10 => cases h
  | case6 seen all hnil hcolon hparen ih =>
    cases cs with
    | nil => cases hall
    | cons c cs =>
      obtain ⟨rfl, rfl⟩ := List.cons.inj hall
      have hne : cs ≠ [] := by
        rintro rfl
        exact hparen t rfl
      rw [readFlags.eq_6 seen cs hne, ih rfl h]
      · rintro after rfl
        exact hcolon _ rfl
      · rintro after rfl
        exact hparen _ rfl
  | case7 negated seen c all hdash hend =>
    obtain ⟨rfl, heq⟩ := Prod.mk.inj (Option.some.inj h)
    obtain rfl := List.append_cancel_right (hall.trans heq)
    cases cs with
    | nil => exact absurd rfl hrest
    | cons d cs =>
      obtain ⟨rfl, rfl⟩ := List.cons.inj hall
      rw [readFlags.eq_7 _ _ _ _ hdash, if_pos hend]
  | case9 negated seen c all hdash hend f hflag hseen ih =>
    cases cs with
    | nil =>
      cases hall
      exact absurd (.inr rfl) hend
    | cons d cs =>
      obtain ⟨rfl, rfl⟩ := List.cons.inj hall
      rw [readFlags.eq_7 _ _ _ _ hdash, if_neg hend, hflag]
      exact (if_neg hseen).trans (ih rfl h)

theorem readGroupName_local {cs rest tail : List Char} {o : Opening}
    (h : readGroupName (cs ++ tail) = some (o, rest ++ tail)) :
    readGroupName cs = some (o, rest) := by
  obtain ⟨⟨name, cs'⟩, hsign, h⟩ := Option.bind_eq_some_iff.1 h
  obtain ⟨hname, heq⟩ := Option.ite_none_right_eq_some.1 h
  obtain ⟨rfl, rfl⟩ := Prod.mk.inj (Option.some.inj heq)
  exact Option.bind_eq_some_iff.2 ⟨_, splitAtSign_local hsign, if_pos hname⟩

theorem readOpening_local {cs rest : List Char} {o : Opening}
    (h : readOpening (cs ++ ')' :: t) = some (o, rest ++ ')' :: t)) :
    readOpening cs = some (o, rest) := by
  generalize hall : cs ++ ')' :: t = all at h
  unfold readOpening at h
  split at h
  · cases h
  · cases h
  · cases h
  · cases h
  · next all =>
    obtain ⟨m, rfl⟩ := exists_append_of_suffix (suffix_readGroupName h)
    obtain rfl : cs = '?' :: 'P' :: '<' :: m := List.append_cancel_right hall
    exact readGroupName_local h
  · next all hahead hnot =>
    obtain ⟨m, rfl⟩ := exists_append_of_suffix (suffix_readGroupName h)
    obtain rfl : cs = '?' :: '<' :: m := List.append_cancel_right hall
    rw [readOpening.eq_6]
    · exact readGroupName_local h
    · rintro after rfl
      exact hahead _ rfl
    · rintro after rfl
      exact hnot _ rfl
  · next all h₁ h₂ h₃ h₄ h₅ h₆ =>
    obtain ⟨⟨changes, all'⟩, hflags, h⟩ := Option.bind_eq_some_iff.1 h
    have hopening := (FlagChanges.opening?_bind changes all').symm.trans h
    obtain ⟨c, hhead, hopening⟩ := Option.bind_eq_some_iff.1 hopening
    obtain ⟨all', rfl⟩ := List.head?_eq_some_iff.1 hhead
    obtain ⟨o', hkind, heq⟩ := Option.map_eq_some_iff.1 hopening
    obtain ⟨rfl, rfl⟩ := Prod.mk.inj heq
    obtain ⟨m, rfl⟩ := exists_append_of_suffix (r := c :: rest) (suffix_readFlags hflags)
    obtain rfl : cs = '?' :: m := List.append_cancel_right hall
    have hflags : readFlags false [] m = some (changes, c :: rest) :=
      readFlags_local (List.cons_ne_nil c rest) hflags
    rw [readOpening.eq_7, hflags]
    · refine (FlagChanges.opening?_bind changes (c :: rest)).trans ?_
      exact Option.map_eq_some_iff.2 ⟨o', hkind, rfl⟩
    · rintro after rfl
      exact h₁ _ rfl
    · rintro after rfl
      exact h₂ _ rfl
    · rintro after rfl
      exact h₃ _ rfl
    · rintro after rfl
      exact h₄ _ rfl
    · rintro after rfl
      exact h₅ _ rfl
    · rintro after rfl
      exact h₆ _ rfl
  · next h₁ h₂ h₃ h₄ h₅ h₆ h₇ =>
    obtain ⟨rfl, rfl⟩ := Prod.mk.inj (Option.some.inj h)
    obtain rfl := List.append_cancel_right hall
    rw [readOpening.eq_8]
    all_goals
      rintro after rfl
    · exact h₁ _ rfl
    · exact h₂ _ rfl
    · exact h₃ _ rfl
    · exact h₄ _ rfl
    · exact h₅ _ rfl
    · exact h₆ _ rfl
    · exact h₇ _ rfl

theorem digitsOf_local {blanks : Bool} {cs ds rest : List Char}
    (h : digitsOf blanks (cs ++ ')' :: t) = (ds, rest ++ ')' :: t)) :
    digitsOf blanks cs = (ds, rest) := by
  generalize hall : cs ++ ')' :: t = all at h
  fun_induction digitsOf blanks all generalizing cs ds with
  | case1 => cases cs <;> cases hall
  | case2 c all hdigit ds' rest' hread ih =>
    cases h
    cases cs with
    | nil =>
      cases hall
      exact absurd hdigit (by decide)
    | cons d cs =>
      obtain ⟨rfl, rfl⟩ := List.cons.inj hall
      obtain ⟨m, hm⟩ := exists_append_of_suffix (suffix_digitsOf hread)
      rw [digitsOf, if_pos hdigit, skip_local hm, ih hm.symm hread]
  | case3 c all hdigit =>
    obtain ⟨rfl, hrest⟩ := Prod.mk.inj h
    obtain rfl := List.append_cancel_right (hall.trans hrest)
    cases cs with
    | nil => rw [digitsOf]
    | cons d cs =>
      obtain ⟨rfl, rfl⟩ := List.cons.inj hall
      rw [digitsOf, if_neg hdigit]

theorem readCount_local {blanks : Bool} {n : Nat} {cs rest : List Char}
    (h : readCount blanks (cs ++ ')' :: t) = some (n, rest ++ ')' :: t)) :
    readCount blanks cs = some (n, rest) := by
  unfold readCount at h ⊢
  rw [dropWhile_isWhiteSpace_append] at h
  obtain ⟨ds, all, hdigits⟩ : ∃ ds all,
      digitsOf blanks (cs.dropWhile isWhiteSpace ++ ')' :: t) = (ds, all) := ⟨_, _, rfl⟩
  rw [hdigits] at h
  dsimp only at h
  split at h
  · cases h
  · next hcount =>
    obtain ⟨rfl, hskip⟩ := Prod.mk.inj (Option.some.inj h)
    obtain ⟨m', hm'⟩ := exists_append_of_suffix (hskip ▸ suffix_skip blanks _)
    obtain ⟨m, rfl⟩ := exists_append_of_suffix (hm' ▸ List.dropWhile_suffix (l := all) isWhiteSpace)
    rw [dropWhile_isWhiteSpace_append] at hskip
    rw [digitsOf_local hdigits]
    dsimp only
    rw [if_neg hcount, skip_local hskip]

theorem readMost_local {blanks : Bool} {least : Nat} {bounds : Nat × Option Nat}
    {cs rest : List Char}
    (h : readMost blanks least (cs ++ ')' :: t) = some (bounds, rest ++ ')' :: t)) :
    readMost blanks least cs = some (bounds, rest) := by
  unfold readMost at h ⊢
  split at h
  · next hskip =>
    obtain ⟨rfl, rfl⟩ := Prod.mk.inj (Option.some.inj h)
    rw [skip_cons_local hskip]
    rfl
  · next hne =>
    obtain ⟨⟨most, all⟩, hmost, h⟩ := Option.bind_eq_some_iff.1 h
    dsimp only at h
    split at h
    · obtain ⟨hle, heq⟩ := Option.ite_none_right_eq_some.1 h
      obtain ⟨rfl, rfl⟩ := Prod.mk.inj (Option.some.inj heq)
      obtain ⟨m, hm⟩ := exists_append_of_suffix (r := '\x7d' :: rest) (suffix_readCount hmost)
      rw [hm] at hmost
      rw [skip_local hm]
      split
      · exact absurd hm (hne _)
      · have hmost : readCount blanks m = some (most, '\x7d' :: rest) := readCount_local hmost
        exact Option.bind_eq_some_iff.2 ⟨_, hmost, if_pos hle⟩
    · cases h

theorem readBounds_local {blanks : Bool} {bounds : Nat × Option Nat} {cs rest : List Char}
    (h : readBounds blanks (cs ++ ')' :: t) = some (bounds, rest ++ ')' :: t)) :
    readBounds blanks cs = some (bounds, rest) := by
  rw [readBounds_eq] at h ⊢
  obtain ⟨⟨least, all⟩, hleast, h⟩ := Option.bind_eq_some_iff.1 h
  dsimp only at h
  -- The bounds end with a brace, so what is read up to there stands in front of the parenthesis.
  have hcount {m : List Char} (hm : all = m ++ ')' :: t) :
      readCount blanks (skip blanks cs) = some (least, m) := by
    subst hm
    obtain ⟨m₀, hskip⟩ := exists_append_of_suffix (suffix_readCount hleast)
    rw [hskip] at hleast
    rw [skip_local hskip]
    exact readCount_local hleast
  split at h
  · obtain ⟨rfl, rfl⟩ := Prod.mk.inj (Option.some.inj h)
    exact Option.bind_eq_some_iff.2 ⟨_, hcount (m := '\x7d' :: rest) rfl, rfl⟩
  · obtain ⟨m, rfl⟩ := exists_append_of_suffix (suffix_readMost h)
    exact Option.bind_eq_some_iff.2 ⟨_, hcount (m := ',' :: m) rfl, readMost_local h⟩
  · cases h

theorem readLazy_append (cs : List Char) :
    readLazy (cs ++ ')' :: t) = ((readLazy cs).1, (readLazy cs).2 ++ ')' :: t) := by
  by_cases hlazy : cs.head? = some '?'
  · obtain ⟨cs, rfl⟩ := List.head?_eq_some_iff.1 hlazy
    rfl
  · rw [readLazy_of_head hlazy, readLazy_of_head (head?_append_ne (by decide) hlazy)]

theorem again_append (bounds : Nat × Option Nat) (cs : List Char) :
    again bounds (cs ++ ')' :: t) = ((again bounds cs).1, (again bounds cs).2 ++ ')' :: t) := by
  rw [again, again, readLazy_append]

theorem again_local {bounds : Nat × Option Nat} {cs rest : List Char} {part : Part}
    (h : some (again bounds (cs ++ ')' :: t)) = some (part, rest ++ ')' :: t)) :
    some (again bounds cs) = some (part, rest) := by
  rw [again_append] at h
  obtain ⟨rfl, heq⟩ := Prod.mk.inj (Option.some.inj h)
  rw [← List.append_cancel_right heq]

theorem readPart?_local {steps k : Nat} {blanks first : Bool} {cs rest : List Char} {part : Part}
    (hk : cs.length ≤ k + 1)
    (h : readPart? steps blanks first (cs ++ ')' :: t) = some (part, rest ++ ')' :: t)) :
    readPart? k blanks first cs = some (part, rest) ∨
      part = .item (.mark .boundary) ∧ Dangling blanks rest := by
  cases cs with
  | nil =>
    have hread : some (Part.close, []) = some (part, rest) := taken_local h
    exact .inl hread
  | cons c cs =>
    rw [List.cons_append, readPart?.eq_def] at h
    split at h
    · next heq => cases heq
    · next heq =>
      cases heq
      have hread : some (Part.close, ')' :: cs) = some (part, rest) := taken_local h
      exact .inl hread
    · next heq =>
      cases heq
      exact .inl (taken_local h)
    · next heq =>
      cases heq
      obtain ⟨⟨o, all⟩, hread, heq⟩ := Option.map_eq_some_iff.1 h
      obtain ⟨rfl, rfl⟩ := Prod.mk.inj heq
      obtain ⟨m, hskip⟩ := exists_append_of_suffix (suffix_readOpening hread)
      rw [hskip] at hread
      refine .inl ?_
      rw [readPart?, skip_local hskip, readOpening_local hread]
      rfl
    · next heq =>
      cases heq
      obtain ⟨⟨e, all⟩, hread, heq⟩ := Option.map_eq_some_iff.1 h
      obtain ⟨rfl, rfl⟩ := Prod.mk.inj heq
      rw [List.length_cons] at hk
      refine .inl (Option.map_eq_some_iff.2 ⟨(e, rest), ?_, rfl⟩)
      exact (readClass_readItems_local _).1 hread (by omega)
    · next heq =>
      cases heq
      exact .inl (again_local h)
    · next heq =>
      cases heq
      exact .inl (again_local h)
    · next heq =>
      cases heq
      exact .inl (again_local h)
    · next heq =>
      cases heq
      obtain ⟨hfirst, h⟩ := Option.ite_none_left_eq_some.1 h
      obtain ⟨⟨bounds, all⟩, hread, hagain⟩ := Option.map_eq_some_iff.1 h
      dsimp only at hagain
      have hlazy : rest ++ ')' :: t <:+ skip blanks all :=
        (Prod.mk.inj hagain).2 ▸ suffix_readLazy _
      obtain ⟨m', hskip⟩ := exists_append_of_suffix hlazy
      obtain ⟨m, rfl⟩ := exists_append_of_suffix (hskip ▸ suffix_skip blanks all)
      rw [hskip] at hagain
      refine .inl ((if_neg hfirst).trans ?_)
      rw [readBounds_local hread, Option.map_some]
      dsimp only
      rw [skip_local hskip]
      exact again_local (congrArg some hagain)
    · next heq =>
      cases heq
      obtain ⟨⟨a, all⟩, hread, heq⟩ := Option.map_eq_some_iff.1 h
      obtain ⟨rfl, rfl⟩ := Prod.mk.inj heq
      rcases readEscape_local hread with hread | ⟨rfl, hdangling⟩
      · exact .inl (Option.map_eq_some_iff.2 ⟨_, hread, rfl⟩)
      · exact .inr ⟨rfl, hdangling⟩
    · next heq =>
      cases heq
      exact .inl (taken_local h)
    · next heq =>
      cases heq
      exact .inl (taken_local h)
    · next heq =>
      cases heq
      exact .inl (taken_local h)
    · next heq =>
      cases heq
      refine .inl ?_
      rw [readPart?.eq_14]
      · exact taken_local h
      all_goals assumption

theorem not_readBody_of_dangling {steps : Nat} {blanks : Bool} {items branches : List Expr}
    {cs rest : List Char} {e : Expr} (hcs : Dangling blanks cs) :
    readBody steps blanks items branches cs ≠ some (e, rest) := by
  obtain ⟨inner, rfl, hinner⟩ := hcs
  cases steps with
  | zero => simp [readBody]
  | succ steps =>
    have hskip : skip blanks ('\x7b' :: inner) = '\x7b' :: inner := by
      cases blanks with
      | true =>
        have hplain : ¬isWhiteSpace '\x7b' = true := by decide +kernel
        rw [skip, if_pos rfl, dropIgnored, if_neg hplain]
        rfl
      | false => rfl
    have hcount : readCount blanks [] = none := by
      rw [readCount, List.dropWhile_nil, digitsOf]
      rfl
    have hbounds : readBounds blanks inner = none := by
      rw [readBounds_eq, hinner, hcount]
      rfl
    rw [readBody_succ, hskip, readPart?, hbounds]
    cases items.isEmpty <;> simp

theorem readBehind_local {steps k : Nat} {blanks : Bool} {items branches : List Expr} {part : Part}
    {cs rest : List Char} {e : Expr}
    (hbody : ∀ {blanks items branches cs rest e},
      readBody steps blanks items branches (cs ++ ')' :: t) = some (e, rest ++ ')' :: t) →
        cs.length < k → readBody k blanks items branches cs = some (e, rest))
    (hcs : part = .close ∨ cs.length < k)
    (h : readBehind steps blanks items branches part (cs ++ ')' :: t) =
      some (e, rest ++ ')' :: t)) :
    readBehind k blanks items branches part cs = some (e, rest) := by
  cases part with
  | close => exact taken_local h
  | branch => exact hbody h (hcs.resolve_left (by simp))
  | item _ => exact hbody h (hcs.resolve_left (by simp))
  | again bounds greedy =>
    obtain ⟨items', hrepeat, h⟩ := Option.bind_eq_some_iff.1 h
    exact Option.bind_eq_some_iff.2 ⟨items', hrepeat, hbody h (hcs.resolve_left (by simp))⟩
  | opening o =>
    have hlength : cs.length < k := hcs.resolve_left (by simp)
    cases o with
    | flags _ => exact hbody h hlength
    | group kind =>
      obtain ⟨⟨body, all⟩, hgroup, h⟩ := Option.bind_eq_some_iff.1 h
      dsimp only at h
      split at h
      · next all =>
        obtain ⟨m, rfl⟩ := exists_append_of_suffix (suffix_readBody h)
        have hgroup : readBody k (kind.ignoresBlanks blanks) [] [] cs = some (body, ')' :: m) :=
          hbody hgroup hlength
        have hm := (suffix_readBody hgroup).length_le
        rw [List.length_cons] at hm
        exact Option.bind_eq_some_iff.2 ⟨_, hgroup, hbody h (by omega)⟩
      · cases h

theorem readBody_local {steps : Nat} {blanks : Bool} {items branches : List Expr}
    {cs rest : List Char} {e : Expr}
    (h : readBody steps blanks items branches (cs ++ ')' :: t) = some (e, rest ++ ')' :: t))
    {k : Nat} (hk : cs.length < k) :
    readBody k blanks items branches cs = some (e, rest) := by
  induction steps generalizing blanks items branches cs rest e k with
  | zero => cases h
  | succ steps ih =>
    obtain ⟨k, rfl⟩ : ∃ j, k = j + 1 := ⟨k - 1, by omega⟩
    rw [readBody_succ] at h ⊢
    obtain ⟨⟨part, all⟩, hpart, h⟩ := Option.bind_eq_some_iff.1 h
    obtain ⟨m, rfl⟩ := exists_append_of_suffix (suffix_readBehind suffix_readBody h)
    obtain ⟨m₀, hskip⟩ : ∃ m, skip blanks (cs ++ ')' :: t) = m ++ ')' :: t := by
      refine exists_append_of_suffix (r := m) ?_
      rcases behind_readPart? hpart with ⟨_, heq⟩ | hm
      · exact heq ▸ List.suffix_rfl
      · exact hm.suffix
    have hlength : m₀.length ≤ cs.length := skip_local hskip ▸ length_skip_le blanks cs
    rw [hskip] at hpart
    rw [skip_local hskip]
    rcases readPart?_local (k := k) (by omega) hpart with hread | ⟨rfl, hdangling⟩
    · refine Option.bind_eq_some_iff.2 ⟨_, hread, ?_⟩
      have hm : part = .close ∨ m.length < k := by
        rcases behind_readPart? hread with ⟨hclose, _⟩ | hm
        · exact .inl hclose
        · have hshorter := hm.shorter
          exact .inr (by omega)
      exact readBehind_local (fun h hk => ih h hk) hm h
    · -- What is left would have to be read behind the word boundary.
      exact absurd (ih h (Nat.lt_succ_self _)) (not_readBody_of_dangling hdangling)

end UrlRouter.Regex
