import Mathlib.Data.List.Forall2
import UrlRouter.Proofs.Pattern.Joining
import UrlRouter.Proofs.Route.Leaves

namespace UrlRouter

open Text

def separator (path : List Char) : List Char := if path.getLast? = some '/' then [] else ['/']

theorem eq_of_mem_separator {path : List Char} {c : Char} (h : c ∈ separator path) : c = '/' := by
  unfold separator at h
  split at h
  · cases h
  · exact List.mem_singleton.1 h

theorem joinFragment_of_trimmed_eq_nil {fragment : String}
    (h : leadingTrimmed fragment.toList = []) (path : List Char) :
    joinFragment path fragment = path := by
  unfold leadingTrimmed at h
  rw [joinFragment, h]

theorem joinFragment_of_trimmed_ne_nil {fragment : String}
    (h : leadingTrimmed fragment.toList ≠ []) (path : List Char) :
    joinFragment path fragment = path ++ (separator path ++ leadingTrimmed fragment.toList) := by
  unfold leadingTrimmed at h ⊢
  unfold joinFragment separator
  split
  · next hnil => exact absurd hnil h
  · split <;> rfl

theorem forall_mem_joinFragment {P : Char → Prop} {path : List Char} {fragment : String}
    (hslash : P '/') (hpath : ∀ c ∈ path, P c) (hfragment : ∀ c ∈ fragment.toList, P c) :
    ∀ c ∈ joinFragment path fragment, P c := by
  intro c hc
  by_cases htrimmed : leadingTrimmed fragment.toList = []
  · rw [joinFragment_of_trimmed_eq_nil htrimmed] at hc
    exact hpath c hc
  · rw [joinFragment_of_trimmed_ne_nil htrimmed, List.mem_append, List.mem_append] at hc
    rcases hc with hc | hc | hc
    · exact hpath c hc
    · exact eq_of_mem_separator hc ▸ hslash
    · exact hfragment c ((List.dropWhile_sublist _).subset hc)

theorem forall_mem_joinFragments {P : Char → Prop} {fragments : List String} (hslash : P '/')
    (h : ∀ fragment ∈ fragments, ∀ c ∈ fragment.toList, P c) :
    ∀ c ∈ (joinFragments fragments).toList, P c := by
  refine joinFragments_induction (P := fun path => ∀ c ∈ path, P c) (by simpa using hslash) ?_
  intro path fragment hfragment hpath
  exact forall_mem_joinFragment hslash hpath (h fragment hfragment)

theorem toList_joinFragments_concat (fragments : List String) (fragment : String) :
    (joinFragments (fragments ++ [fragment])).toList =
      joinFragment (joinFragments fragments).toList fragment := by
  simp [joinFragments]

theorem leadingTrimmed_separator (path : List Char) : leadingTrimmed (separator path) = [] := by
  unfold separator
  split <;> rfl

theorem separator_append_leadingTrimmed {cs : List Char} (h : leadingTrimmed cs ≠ [])
    (u : List Char) : separator (u ++ leadingTrimmed cs) = separator cs := by
  obtain ⟨slashes, hcs⟩ : leadingTrimmed cs <:+ cs := List.dropWhile_suffix _
  unfold separator
  rw [List.getLast?_append_of_ne_nil u h, ← List.getLast?_append_of_ne_nil slashes h, hcs]

theorem joinFragment_joinFragment (path : List Char) (first second : String) :
    joinFragment (joinFragment path first) second =
      joinFragment path (String.ofList (joinFragment first.toList second)) := by
  by_cases hsecond : leadingTrimmed second.toList = []
  · rw [joinFragment_of_trimmed_eq_nil hsecond, joinFragment_of_trimmed_eq_nil hsecond,
      String.ofList_toList]
  rw [joinFragment_of_trimmed_ne_nil hsecond, joinFragment_of_trimmed_ne_nil hsecond]
  by_cases hfirst : leadingTrimmed first.toList = []
  · have hboth : leadingTrimmed (first.toList ++
        (separator first.toList ++ leadingTrimmed second.toList)) =
          leadingTrimmed second.toList := by
      rw [leadingTrimmed_append_of_eq_nil hfirst,
        leadingTrimmed_append_of_eq_nil (leadingTrimmed_separator _),
        leadingTrimmed_leadingTrimmed]
    rw [joinFragment_of_trimmed_eq_nil hfirst, joinFragment_of_trimmed_ne_nil] <;>
      rw [String.toList_ofList, hboth]
    exact hsecond
  · have hboth := leadingTrimmed_append_of_ne_nil hfirst
      (separator first.toList ++ leadingTrimmed second.toList)
    rw [joinFragment_of_trimmed_ne_nil hfirst, ← List.append_assoc path (separator path),
      separator_append_leadingTrimmed hfirst, joinFragment_of_trimmed_ne_nil] <;>
      rw [String.toList_ofList, hboth]
    · simp
    · simp [hfirst]

theorem foldl_joinFragment_joinFragment (path : List Char) (first : String)
    (fragments : List String) :
    fragments.foldl joinFragment (joinFragment path first) =
      joinFragment path (String.ofList (fragments.foldl joinFragment first.toList)) := by
  induction fragments generalizing first with
  | nil => rw [List.foldl_nil, List.foldl_nil, String.ofList_toList]
  | cons fragment fragments ih =>
    rw [List.foldl_cons, joinFragment_joinFragment, ih, String.toList_ofList, List.foldl_cons]

theorem joinFragments_joinFragments (outer inner more : List String) :
    joinFragments (outer ++ joinFragments inner :: more) =
      joinFragments (outer ++ inner ++ more) := by
  have hroot (path : List Char) : joinFragment path "/" = path :=
    joinFragment_of_trimmed_eq_nil rfl path
  have hinner (path : List Char) :
      joinFragment path (joinFragments inner) = inner.foldl joinFragment path := by
    have hfold := foldl_joinFragment_joinFragment path "/" inner
    rw [hroot] at hfold
    exact hfold.symm
  simp only [joinFragments, List.foldl_append, List.foldl_cons] at hinner ⊢
  rw [hinner]

theorem getLast?_append_separator (path : List Char) :
    (path ++ separator path).getLast? = some '/' := by
  unfold separator
  split
  · next h => rwa [List.append_nil]
  · simp

theorem endsInDollar_joinFragment {path : List Char} {fragment : String}
    (hpath : endsInDollar path = false) (hfragment : endsInDollar fragment.toList = false) :
    endsInDollar (joinFragment path fragment) = false := by
  by_cases htrimmed : leadingTrimmed fragment.toList = []
  · rwa [joinFragment_of_trimmed_eq_nil htrimmed]
  · have hslashes : (fragment.toList.takeWhile (· = '/')).getLast? ≠ some '\\' := by
      intro hlast
      exact absurd (eq_of_mem_takeWhile_slash (List.mem_of_getLast? hlast)) (by decide)
    have hpart : endsInDollar fragment.toList = endsInDollar (leadingTrimmed fragment.toList) := by
      rw [← endsInDollar_append hslashes htrimmed, takeWhile_append_leadingTrimmed]
    have hseparated : (path ++ separator path).getLast? ≠ some '\\' := by
      rw [getLast?_append_separator]
      decide
    rw [joinFragment_of_trimmed_ne_nil htrimmed, ← List.append_assoc,
      endsInDollar_append hseparated htrimmed, ← hpart, hfragment]

theorem isAnchored_joinFragments {fragments : List String}
    (h : ∀ fragment ∈ fragments, checkFragment fragment = .ok ⟨⟩) :
    isAnchored (joinFragments fragments).toList = false := by
  have hunanchored {fragment : String} (hfragment : fragment ∈ fragments) :
      isAnchored fragment.toList = false := by
    have hchecked := h fragment hfragment
    cases hanchored : isAnchored fragment.toList with
    | false => rfl
    | true =>
      rw [checkFragment, if_pos hanchored] at hchecked
      cases hchecked
  have hends : endsInDollar (joinFragments fragments).toList = false := by
    refine joinFragments_induction (P := fun path => endsInDollar path = false) (by decide) ?_
    intro path fragment hfragment hpath
    have hpart := hunanchored hfragment
    rw [isAnchored, Bool.or_eq_false_iff] at hpart
    exact endsInDollar_joinFragment hpath hpart.2
  have hrooted := rooted_joinFragments fragments
  rw [Rooted] at hrooted
  rw [isAnchored, hrooted, hends]
  rfl

theorem PiecesOf.joinFragment {path : List Char} {ps qs : List Piece} {fragment : String}
    (h : PiecesOf path ps) (hfragment : split fragment.toList = .ok qs) :
    PiecesOf (joinFragment path fragment) (joinPieces ps qs) := by
  have hpart : split (leadingTrimmed fragment.toList) = .ok (trimPieces qs) :=
    split_leadingTrimmed hfragment
  by_cases htrimmed : leadingTrimmed fragment.toList = []
  · have hnil : trimPieces qs = [] := by
      rw [htrimmed, split_eq_literalPieces (by simp)] at hpart
      exact (Except.ok.inj hpart).symm
    rwa [joinFragment_of_trimmed_eq_nil htrimmed, joinPieces, hnil]
  · have hne : trimPieces qs ≠ [] := by
      intro hnil
      rw [hnil] at hpart
      exact htrimmed (render_of_split hpart).symm
    rw [joinFragment_of_trimmed_ne_nil htrimmed, joinPieces_of_trimmed_ne_nil hne, h.render_eq,
      separator]
    split
    · next hslash =>
      refine h.append (piecesOf_of_split hpart) fun hbrace => ?_
      rw [hslash] at hbrace
      exact absurd hbrace (by decide)
    · have hroot : PiecesOf ['/'] [.literal ['/']] :=
        piecesOf_of_split (split_eq_literalPieces (by decide))
      have hslash := hroot.append (piecesOf_of_split hpart) fun hbrace => absurd hbrace (by decide)
      exact h.append hslash fun _ hbrace => absurd hbrace (by simp)

theorem split_joinFragments {fragments : List String} {pss : List (List Piece)}
    (h : List.Forall₂ (fun fragment ps => split fragment.toList = .ok ps) fragments pss) :
    PiecesOf (joinFragments fragments).toList (joinedPieces pss) := by
  have hfold {path : List Char} {ps : List Piece} (hpath : PiecesOf path ps) :
      PiecesOf (fragments.foldl UrlRouter.joinFragment path) (pss.foldl joinPieces ps) := by
    induction h generalizing path ps with
    | nil => exact hpath
    | cons hfirst _ ih => exact ih (hpath.joinFragment hfirst)
  rw [joinFragments, String.toList_ofList]
  exact hfold (piecesOf_of_split (split_eq_literalPieces (by decide)))

end UrlRouter
