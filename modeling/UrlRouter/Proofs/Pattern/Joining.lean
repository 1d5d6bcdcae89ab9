import UrlRouter.Pattern.Generate
import UrlRouter.Proofs.Pattern.Anchors
import UrlRouter.Proofs.Text.Slashes

/-!
Pieces of texts that stand one behind the other. Where two texts do not meet in opening braces,
their pieces are the pieces of both, but for literals that come to stand side by side.
-/

namespace UrlRouter

open Text

variable {ε : Type} {ps qs : List Piece} {u v : List Char}

theorem prepend_cases (text : List Char) (ps : List Piece) :
    (∃ v qs, ps = .literal v :: qs ∧ prepend text ps = .literal (text ++ v) :: qs) ∨
      prepend text ps = literalPieces text ++ ps := by
  cases ps with
  | nil => exact .inr rfl
  | cons p ps =>
    cases p with
    | literal v => exact .inl ⟨v, ps, rfl, rfl⟩
    | token t => exact .inr rfl

theorem prepend_nil (ps : List Piece) : prepend [] ps = ps := by
  rcases prepend_cases [] ps with ⟨v, qs, rfl, h⟩ | h
  · exact h
  · exact h

theorem prepend_prepend (u v : List Char) (ps : List Piece) :
    prepend u (prepend v ps) = prepend (u ++ v) ps := by
  cases ps with
  | nil => simpa [prepend] using prepend_literalPieces u v
  | cons p ps =>
    cases p with
    | literal w => simp [prepend]
    | token t => exact prepend_literalPieces_append u v t ps

theorem foldr_attach_prepend (text : List Char) (ps qs : List Piece) :
    (prepend text ps).foldr Piece.attach qs = prepend text (ps.foldr Piece.attach qs) := by
  rcases prepend_cases text ps with ⟨v, rest, rfl, h⟩ | h
  · rw [h]
    exact (prepend_prepend text v _).symm
  · rw [h, literalPieces]
    split
    · next htext => rw [htext, prepend_nil, List.nil_append]
    · rfl

theorem foldr_attach_mergeLiterals (ps qs : List Piece) :
    (mergeLiterals ps).foldr Piece.attach qs = ps.foldr Piece.attach qs := by
  induction ps with
  | nil => rfl
  | cons p ps ih =>
    cases p with
    | token t => exact congrArg (.token t :: ·) ih
    | literal text => exact (foldr_attach_prepend text _ qs).trans (congrArg (prepend text) ih)

section

variable {f : Piece → Except ε (List Char)}

theorem flatten_mapM_literal (hf : ∀ text, f (.literal text) = .ok text) (text : List Char)
    (ps : List Piece) :
    ((Piece.literal text :: ps).mapM f).map List.flatten =
      ((ps.mapM f).map List.flatten).map (text ++ ·) := by
  rw [List.mapM_cons, hf]
  cases ps.mapM f <;> rfl

theorem flatten_mapM_prepend (hf : ∀ text, f (.literal text) = .ok text) (text : List Char)
    (ps : List Piece) :
    ((prepend text ps).mapM f).map List.flatten =
      ((ps.mapM f).map List.flatten).map (text ++ ·) := by
  rcases prepend_cases text ps with ⟨v, rest, rfl, h⟩ | h
  · rw [h, flatten_mapM_literal hf, flatten_mapM_literal hf]
    cases rest.mapM f <;> simp [Except.map]
  · rw [h, literalPieces]
    split
    · next htext =>
      rw [htext, List.nil_append]
      cases ps.mapM f <;> simp [Except.map]
    · exact flatten_mapM_literal hf text ps

theorem flatten_mapM_mergeLiterals (hf : ∀ text, f (.literal text) = .ok text)
    (ps : List Piece) :
    ((mergeLiterals ps).mapM f).map List.flatten = (ps.mapM f).map List.flatten := by
  induction ps with
  | nil => rfl
  | cons p ps ih =>
    cases p with
    | literal text =>
      rw [flatten_mapM_literal hf, ← ih]
      exact flatten_mapM_prepend hf text (mergeLiterals ps)
    | token t =>
      rw [Except.flatten_mapM_cons, ← ih]
      exact Except.flatten_mapM_cons (.token t) (mergeLiterals ps)

end

theorem sources_mergeLiterals (locales : Locales) (ps : List Piece) :
    sources locales (mergeLiterals ps) = sources locales ps :=
  flatten_mapM_mergeLiterals (fun _ => rfl) ps

theorem exists_source_of_text_append {locales : Locales} {pattern : String}
    {compiled : CompiledPattern} {text cs : List Char}
    (h : compilePattern locales pattern = .ok compiled) (hpattern : pattern.toList = text ++ cs)
    (htext : '\x7b' ∉ text) :
    ∃ tail, compiled.source.toList = text ++ tail ∧ (cs = [] → tail = []) := by
  have hbrace : ¬ ['\x7b', '\x7b'] <:+: text := by
    intro htwice
    exact htext (htwice.subset (by simp))
  have hsplit : split pattern.toList = (split cs).map (prepend text) := by
    rw [hpattern]
    refine split_text_append hbrace ?_
    intro hlast
    exact absurd (List.mem_of_getLast? hlast) htext
  obtain ⟨_, ps, source, hps, hsource, rfl⟩ := compilePattern_eq_ok_iff.1 h
  rw [hsplit] at hps
  obtain ⟨qs, hqs, rfl⟩ := Except.map_eq_ok_iff.1 hps
  rw [sources, flatten_mapM_prepend fun _ => rfl] at hsource
  obtain ⟨tail, htail, rfl⟩ := Except.map_eq_ok_iff.1 hsource
  refine ⟨tail, String.toList_ofList, ?_⟩
  rintro rfl
  rw [split_eq_literalPieces (by simp)] at hqs
  cases hqs
  cases htail
  rfl

theorem texts_mergeLiterals (d : PathData) (ps : List Piece) :
    texts d (mergeLiterals ps) = texts d ps :=
  flatten_mapM_mergeLiterals (fun _ => rfl) ps

theorem render_mergeLiterals (ps : List Piece) :
    (mergeLiterals ps).flatMap Piece.render = ps.flatMap Piece.render := by
  have hrender (ps : List Piece) :
      (ps.mapM fun p => Except.ok (ε := Unit) p.render).map List.flatten =
        .ok (ps.flatMap Piece.render) := by
    induction ps with
    | nil => rfl
    | cons p ps ih => exact Except.flatten_mapM_cons_eq_ok_iff.2 ⟨_, _, rfl, ih, by simp⟩
  have hmerged := flatten_mapM_mergeLiterals (f := fun p => Except.ok (ε := Unit) p.render)
    (fun _ => rfl) ps
  rw [hrender, hrender] at hmerged
  exact Except.ok.inj hmerged

theorem placeholders_mergeLiterals (ps : List Piece) :
    (mergeLiterals ps).filterMap Piece.placeholder? = ps.filterMap Piece.placeholder? := by
  have hprepend (text : List Char) (ps : List Piece) :
      (prepend text ps).filterMap Piece.placeholder? = ps.filterMap Piece.placeholder? := by
    rcases prepend_cases text ps with ⟨v, rest, rfl, h⟩ | h
    · rw [h]
      rfl
    · rw [h, literalPieces]
      split <;> rfl
  induction ps with
  | nil => rfl
  | cons p ps ih =>
    cases p with
    | token t => exact congrArg (t.placeholder :: ·) ih
    | literal text => exact (hprepend text _).trans ih

def PiecesOf (cs : List Char) (ps : List Piece) : Prop := split cs = .ok (mergeLiterals ps)

theorem piecesOf_of_split {cs : List Char} (h : split cs = .ok ps) : PiecesOf cs ps := by
  rw [PiecesOf, h, mergeLiterals_of_shaped (shaped_of_split h)]

namespace PiecesOf

theorem render_eq {cs : List Char} (h : PiecesOf cs ps) : ps.flatMap Piece.render = cs :=
  (render_mergeLiterals ps).symm.trans (render_of_split h)

theorem append (hu : PiecesOf u ps) (hv : PiecesOf v qs)
    (hmeet : u.getLast? = some '\x7b' → v.head? ≠ some '\x7b') :
    PiecesOf (u ++ v) (ps ++ qs) := by
  have hrender := render_of_split hu
  have hsplit := split_render_append (shaped_of_split hu) (delimited_of_split hu)
    (hrender.symm ▸ hmeet)
  rw [hrender, hv] at hsplit
  rw [PiecesOf, hsplit, Except.map, foldr_attach_mergeLiterals, mergeLiterals, mergeLiterals,
    List.foldr_append]

end PiecesOf

def trimPieces : List Piece → List Piece
  | .literal text :: ps => literalPieces (leadingTrimmed text) ++ ps
  | ps => ps

theorem trimPieces_prepend {slashes : List Char} (hslashes : leadingTrimmed slashes = [])
    (h : Shaped ps) (hhead : (ps.flatMap Piece.render).head? ≠ some '/') :
    trimPieces (prepend slashes ps) = ps := by
  have hpieces (hps : trimPieces ps = ps) : trimPieces (literalPieces slashes ++ ps) = ps := by
    unfold literalPieces
    split
    · exact hps
    · change literalPieces (leadingTrimmed slashes) ++ ps = ps
      rw [hslashes]
      rfl
  cases ps with
  | nil => exact hpieces rfl
  | cons p ps =>
    cases p with
    | token t => exact hpieces rfl
    | literal v =>
      obtain ⟨⟨hne, _⟩, _⟩ := chained_cons_iff.1 h
      obtain ⟨c, v, rfl⟩ := List.exists_cons_of_ne_nil hne
      have hfirst : (c :: v).head? ≠ some '/' := hhead
      change literalPieces (leadingTrimmed (slashes ++ c :: v)) ++ ps = _
      rw [leadingTrimmed_append_of_eq_nil hslashes, leadingTrimmed_of_head? hfirst]
      rfl

theorem split_leadingTrimmed {cs : List Char} (h : split cs = .ok ps) :
    split (leadingTrimmed cs) = .ok (trimPieces ps) := by
  have hbrace : '\x7b' ∉ cs.takeWhile (· = '/') :=
    fun hmem => absurd (eq_of_mem_takeWhile_slash hmem) (by decide)
  have hsplit : split (cs.takeWhile (· = '/') ++ leadingTrimmed cs) =
      (split (leadingTrimmed cs)).map (prepend (cs.takeWhile (· = '/'))) :=
    split_text_append (fun htwice => hbrace (htwice.subset (by simp)))
      fun hlast => absurd (List.mem_of_getLast? hlast) hbrace
  rw [takeWhile_append_leadingTrimmed, h] at hsplit
  obtain ⟨qs, hqs, rfl⟩ := Except.map_eq_ok_iff.1 hsplit.symm
  have hhead : (qs.flatMap Piece.render).head? ≠ some '/' := by
    rw [render_of_split hqs]
    exact head?_leadingTrimmed cs
  have hslashes : leadingTrimmed (cs.takeWhile (· = '/')) = [] :=
    leadingTrimmed_of_slashes fun _ => eq_of_mem_takeWhile_slash
  rw [trimPieces_prepend hslashes (shaped_of_split hqs) hhead, hqs]

def joinPieces (path fragment : List Piece) : List Piece :=
  match trimPieces fragment with
  | [] => path
  | part =>
      if (path.flatMap Piece.render).getLast? = some '/' then path ++ part
      else path ++ .literal ['/'] :: part

theorem joinPieces_of_trimmed_ne_nil {fragment : List Piece} (h : trimPieces fragment ≠ [])
    (path : List Piece) :
    joinPieces path fragment =
      if (path.flatMap Piece.render).getLast? = some '/' then path ++ trimPieces fragment
      else path ++ .literal ['/'] :: trimPieces fragment := by
  unfold joinPieces
  split
  · next hnil => exact absurd hnil h
  · rfl

theorem placeholders_trimPieces (ps : List Piece) :
    (trimPieces ps).filterMap Piece.placeholder? = ps.filterMap Piece.placeholder? := by
  unfold trimPieces
  split
  · unfold literalPieces
    split <;> rfl
  · rfl

theorem placeholders_joinPieces (path fragment : List Piece) :
    (joinPieces path fragment).filterMap Piece.placeholder? =
      path.filterMap Piece.placeholder? ++ fragment.filterMap Piece.placeholder? := by
  rw [← placeholders_trimPieces fragment, joinPieces]
  split
  · next h => rw [h, List.filterMap_nil, List.append_nil]
  · split <;> exact List.filterMap_append

def joinedPieces (fragments : List (List Piece)) : List Piece :=
  fragments.foldl joinPieces [.literal ['/']]

theorem placeholders_joinedPieces (fragments : List (List Piece)) :
    (joinedPieces fragments).filterMap Piece.placeholder? =
      fragments.flatMap fun ps => ps.filterMap Piece.placeholder? := by
  have hfold (path : List Piece) : (fragments.foldl joinPieces path).filterMap Piece.placeholder? =
      path.filterMap Piece.placeholder? ++
        fragments.flatMap fun ps => ps.filterMap Piece.placeholder? := by
    induction fragments generalizing path with
    | nil => simp
    | cons ps fragments ih => rw [List.foldl_cons, ih, placeholders_joinPieces]; simp
  exact hfold [.literal ['/']]

end UrlRouter
