import UrlRouter.Pattern.Compile
import UrlRouter.Proofs.Except
import UrlRouter.Proofs.Pattern.Splitting

/-!
Anchors in compiled patterns. An expression ends in a dollar sign only if its pattern does, since
tokens end in brackets. At its start the text in front of the name of a token stands free, and a
pattern is not searched for anchors there.
-/

namespace UrlRouter

theorem compilePattern_eq_ok_iff {locales : Locales} {pattern : String} {p : CompiledPattern} :
    compilePattern locales pattern = .ok p ↔
      isAnchored pattern.toList = false ∧ ∃ ps source, split pattern.toList = .ok ps ∧
        sources locales ps = .ok source ∧
        p = ⟨String.ofList source, ps.filterMap Piece.placeholder?⟩ := by
  unfold compilePattern
  cases isAnchored pattern.toList with
  | true => exact ⟨nofun, nofun⟩
  | false =>
    constructor
    · intro h
      obtain ⟨ps, hps, h⟩ := Except.bind_eq_ok_iff.1 h
      obtain ⟨source, hsource, h⟩ := Except.bind_eq_ok_iff.1 h
      exact ⟨rfl, ps, source, hps, hsource, (Except.ok.inj h).symm⟩
    · rintro ⟨_, ps, source, hps, hsource, rfl⟩
      exact Except.bind_eq_ok_iff.2 ⟨ps, hps, Except.bind_eq_ok_iff.2 ⟨source, hsource, rfl⟩⟩

theorem endsInDollar_append {u v : List Char} (hu : u.getLast? ≠ some '\\') (hv : v ≠ []) :
    endsInDollar (u ++ v) = endsInDollar v := by
  -- backslashes are counted from the end, so the count does not go on into `u`
  have hbackslashes (w : List Char) :
      (w ++ u.reverse).takeWhile (· = '\\') = w.takeWhile (· = '\\') := by
    rw [← List.head?_reverse] at hu
    induction w with
    | nil =>
      cases hrev : u.reverse with
      | nil => rfl
      | cons c rest => exact List.takeWhile_cons_of_neg (by simpa [hrev] using hu)
    | cons c w ih =>
      rw [List.cons_append, List.takeWhile_cons, List.takeWhile_cons, ih]
  obtain ⟨c, w, hw⟩ : ∃ c w, v.reverse = c :: w :=
    List.exists_cons_of_ne_nil (by simpa using hv)
  unfold endsInDollar
  rw [List.reverse_append, hw, List.cons_append]
  split
  · next heq =>
    cases heq
    exact congrArg (fun backslashes => backslashes.length % 2 == 0) (hbackslashes _)
  · next hne =>
    split
    · next heq =>
      cases heq
      exact absurd rfl (hne _)
    · rfl

theorem endsInDollar_concat_of_ne {c : Char} (h : c ≠ '$') (u : List Char) :
    endsInDollar (u ++ [c]) = false := by
  unfold endsInDollar
  rw [List.reverse_concat]
  split
  · next heq =>
    cases heq
    exact absurd rfl h
  · rfl

namespace Token

theorem head?_group (name : Option (List Char)) (body : List Char) :
    (group name body).head? = some '(' := by
  cases name <;> rfl

theorem group_eq_concat (name : Option (List Char)) (body : List Char) :
    ∃ front, group name body = front ++ [')'] := by
  cases name <;> exact ⟨_, rfl⟩

variable {locales : Locales} {t : Token} {src : List Char}

theorem source_cases (h : t.source locales = .ok src) :
    (t.kind ≠ .optional ∧ ∃ name body, src = t.lead ++ group name body) ∨
      t.kind = .optional ∧ ∃ body, src = "(?:".toList ++ t.lead ++ body ++ ")?".toList := by
  unfold source at h
  cases hkind : t.kind with
  | capture | silent | translated =>
    rw [hkind] at h
    cases h
    exact .inl ⟨nofun, _, _, rfl⟩
  | optional =>
    rw [hkind] at h
    cases h
    exact .inr ⟨rfl, _, rfl⟩
  | locale =>
    rw [hkind] at h
    dsimp only at h
    split at h
    · cases h
    · cases h
      exact .inl ⟨nofun, _, _, rfl⟩

theorem source_eq_concat (h : t.source locales = .ok src) :
    ∃ front c, src = front ++ [c] ∧ (c = ')' ∨ c = '?') := by
  rcases source_cases h with ⟨_, name, body, rfl⟩ | ⟨_, body, rfl⟩
  · obtain ⟨front, hfront⟩ := group_eq_concat name body
    exact ⟨t.lead ++ front, ')', by rw [hfront, List.append_assoc], .inl rfl⟩
  · exact ⟨_, '?', (List.append_assoc _ [')'] ['?']).symm, .inr rfl⟩

theorem head?_source_eq_caret_iff (h : t.source locales = .ok src) :
    src.head? = some '^' ↔ t.kind ≠ .optional ∧ t.lead.head? = some '^' := by
  rcases source_cases h with ⟨hkind, name, body, rfl⟩ | ⟨hkind, body, rfl⟩
  · rw [List.head?_append, head?_group, Option.or_eq_some_iff]
    simp [hkind]
  · simp [hkind]

theorem getLast?_source (h : t.source locales = .ok src) :
    src.getLast? ≠ some '\\' ∧ src ≠ [] := by
  obtain ⟨front, c, rfl, hc⟩ := source_eq_concat h
  rw [List.getLast?_concat]
  refine ⟨?_, by simp⟩
  rcases hc with rfl | rfl <;> decide

theorem endsInDollar_append_source (h : t.source locales = .ok src) (u : List Char) :
    endsInDollar (u ++ src) = false := by
  obtain ⟨front, c, rfl, hc⟩ := source_eq_concat h
  rw [← List.append_assoc]
  refine endsInDollar_concat_of_ne ?_ (u ++ front)
  rcases hc with rfl | rfl <;> decide

theorem render_eq_concat (t : Token) : ∃ front, t.render = front ++ ['\x7d'] :=
  ⟨_, (List.append_assoc (['\x7b', '\x7b'] ++ t.inner) ['\x7d'] ['\x7d']).symm⟩

theorem endsInDollar_append_render (t : Token) (u : List Char) :
    endsInDollar (u ++ t.render) = false := by
  obtain ⟨front, hfront⟩ := t.render_eq_concat
  rw [hfront, ← List.append_assoc]
  exact endsInDollar_concat_of_ne (by decide) (u ++ front)

end Token

section

variable {locales : Locales} {ps : List Piece} {src : List Char}

theorem sources_concat_eq_ok_iff {p : Piece} :
    sources locales (ps ++ [p]) = .ok src ↔
      ∃ u v, sources locales ps = .ok u ∧ p.source locales = .ok v ∧ src = u ++ v := by
  have hsingle (v : List Char) : sources locales [p] = .ok v ↔ p.source locales = .ok v := by
    rw [sources, Except.flatten_mapM_cons_eq_ok_iff]
    constructor
    · rintro ⟨w, _, hw, ⟨⟩, rfl⟩
      exact hw.trans (congrArg _ (List.append_nil w).symm)
    · intro hv
      exact ⟨v, [], hv, rfl, (List.append_nil v).symm⟩
  rw [sources, Except.flatten_mapM_append_eq_ok_iff]
  simp only [← hsingle]
  rfl

theorem getLast?_of_apart {text : List Char}
    (h : List.IsChain Piece.Apart (ps ++ [.literal text])) (hsrc : sources locales ps = .ok src) :
    src.getLast? ≠ some '\\' ∧ (ps.flatMap Piece.render).getLast? ≠ some '\\' := by
  rcases List.eq_nil_or_concat ps with rfl | ⟨init, p, rfl⟩
  · cases hsrc
    exact ⟨nofun, nofun⟩
  · rw [List.concat_eq_append] at h hsrc ⊢
    cases p with
    | literal v =>
      rw [List.append_assoc] at h
      exact (List.isChain_cons_cons.1 (List.isChain_append.1 h).2.1).1.elim
    | token t =>
      obtain ⟨u, v, _, hv, rfl⟩ := sources_concat_eq_ok_iff.1 hsrc
      obtain ⟨hlast, hne⟩ := Token.getLast?_source hv
      obtain ⟨front, hfront⟩ := t.render_eq_concat
      rw [List.getLast?_append_of_ne_nil _ hne, List.flatMap_append, List.flatMap_singleton,
        Piece.render, hfront, ← List.append_assoc, List.getLast?_concat]
      exact ⟨hlast, by decide⟩

theorem endsInDollar_sources (h : Shaped ps) (hsrc : sources locales ps = .ok src) :
    endsInDollar src = endsInDollar (ps.flatMap Piece.render) := by
  rcases List.eq_nil_or_concat ps with rfl | ⟨init, p, rfl⟩
  · cases hsrc
    rfl
  · rw [List.concat_eq_append] at h hsrc ⊢
    obtain ⟨u, v, hu, hv, rfl⟩ := sources_concat_eq_ok_iff.1 hsrc
    rw [List.flatMap_append, List.flatMap_singleton]
    cases p with
    | literal text =>
      cases hv
      obtain ⟨hne, _⟩ := h.each (.literal v) (by simp)
      obtain ⟨hsource, hrender⟩ := getLast?_of_apart h.next hu
      rw [endsInDollar_append hsource hne, Piece.render, endsInDollar_append hrender hne]
    | token t =>
      rw [Token.endsInDollar_append_source hv]
      exact (t.endsInDollar_append_render _).symm

theorem head?_sources_eq_caret_iff (h : Shaped ps) (hsrc : sources locales ps = .ok src)
    (hpattern : (ps.flatMap Piece.render).head? ≠ some '^') :
    src.head? = some '^' ↔
      ∃ t, ps.head? = some (.token t) ∧ t.kind ≠ .optional ∧ t.lead.head? = some '^' := by
  cases ps with
  | nil =>
    cases hsrc
    simp
  | cons p ps =>
    obtain ⟨u, v, hu, hv, rfl⟩ := Except.flatten_mapM_cons_eq_ok_iff.1 hsrc
    cases p with
    | literal text =>
      cases hu
      obtain ⟨hne, _⟩ := h.each (.literal u) (by simp)
      rw [List.flatMap_cons, Piece.render, List.head?_append_of_ne_nil _ hne] at hpattern
      rw [List.head?_append_of_ne_nil _ hne]
      simp [hpattern]
    | token t =>
      have hne := (Token.getLast?_source hu).2
      rw [List.head?_append_of_ne_nil _ hne, Token.head?_source_eq_caret_iff hu]
      simp

end

theorem anchors_of_source {locales : Locales} {pattern : String} {p : CompiledPattern}
    (h : compilePattern locales pattern = .ok p) :
    endsInDollar p.source.toList = false ∧
      (p.source.toList.head? = some '^' ↔
        ∃ t ps, split pattern.toList = .ok (.token t :: ps) ∧ t.kind ≠ .optional ∧
          t.lead.head? = some '^') := by
  obtain ⟨hanchored, ps, src, hps, hsrc, rfl⟩ := compilePattern_eq_ok_iff.1 h
  have hrender := render_of_split hps
  have hshaped := shaped_of_split hps
  rw [isAnchored, Bool.or_eq_false_iff, beq_eq_false_iff_ne, ← hrender] at hanchored
  rw [String.toList_ofList, endsInDollar_sources hshaped hsrc,
    head?_sources_eq_caret_iff hshaped hsrc hanchored.1, hps]
  refine ⟨hanchored.2, ?_⟩
  cases ps with
  | nil => simp
  | cons q ps => simp

theorem anchors_of_source_hidden :
    let pattern := "\x7b\x7bO:^<v>v[0-9]\x7d\x7d/\x7b\x7bT:^a\x7d\x7d\\$"
    let source := "(?:^(?P<v>v[0-9]))?/(?:\\^a)\\$"
    (∃ p, compilePattern .empty pattern = .ok p ∧ p.source = source) ∧
      endsInDollar source.toList = false ∧ source.toList.head? ≠ some '^' := by
  intro pattern source
  have hcompiled : compilePattern .empty pattern =
      .ok ⟨source, [⟨.optional, some "v"⟩, ⟨.translated, none⟩]⟩ :=
    Except.eq_ok_of_toOption (by decide +kernel)
  have hpieces : split pattern.toList =
      .ok [.token ⟨.optional, ['^'], some ['v'], "v[0-9]".toList⟩, .literal ['/'],
        .token ⟨.translated, [], none, "^a".toList⟩, .literal "\\$".toList] :=
    Except.eq_ok_of_toOption (by decide +kernel)
  obtain ⟨hdollar, hcaret⟩ := anchors_of_source hcompiled
  refine ⟨⟨_, hcompiled, rfl⟩, hdollar, fun hhead => ?_⟩
  obtain ⟨t, ps, hsplit, hkind, _⟩ := hcaret.1 hhead
  cases hpieces.symm.trans hsplit
  exact hkind rfl

/-- The caret in front of the name is no part of the pattern's start and gets past the check. -/
theorem caret_before_name_kept :
    let pattern := "\x7b\x7bC:^<id>[0-9]+\x7d\x7d"
    isAnchored pattern.toList = false ∧
      compilePattern .empty pattern = .ok ⟨"^(?P<id>[0-9]+)", [⟨.capture, some "id"⟩]⟩ ∧
      "^(?P<id>[0-9]+)".toList.head? = some '^' :=
  ⟨by decide, Except.eq_ok_of_toOption (by decide +kernel), rfl⟩

end UrlRouter
