import UrlRouter.Proofs.Pattern.Anchors
import UrlRouter.Proofs.Pattern.Reading
import UrlRouter.Proofs.Registration.Reachable

namespace UrlRouter

open Regex

theorem get?_of_mem {caps : Captures} (hnodup : (caps.map (·.1)).Nodup) {name : String}
    {text : List Char} (h : (name, text) ∈ caps) : caps.get? name = some text := by
  induction caps with
  | nil => cases h
  | cons e caps ih =>
    rw [List.map_cons, List.nodup_cons] at hnodup
    rcases List.mem_cons.1 h with rfl | h
    · simp [Captures.get?]
    · have hne : e.1 ≠ name := fun heq => hnodup.1 (heq ▸ List.mem_map_of_mem h)
      have hrest := ih hnodup.2 h
      rw [Captures.get?] at hrest ⊢
      rwa [List.find?_cons_of_neg (by simpa using hne)]

theorem get?_of_not_mem {caps : Captures} {name : String} (h : name ∉ caps.map (·.1)) :
    caps.get? name = none := by
  rw [Captures.get?, Option.map_eq_none_iff, List.find?_eq_none]
  intro e he heq
  exact h (List.mem_map.2 ⟨e, he, by simpa using heq⟩)

theorem filterMap_of_sublist {α : Type} {f : String → Option α} {names : List String}
    {held : List (String × α)} (hsub : (held.map (·.1)).Sublist names) (hnames : names.Nodup)
    (hheld : ∀ e ∈ held, f e.1 = some e.2) (hnone : ∀ n ∈ names, n ∉ held.map (·.1) → f n = none) :
    names.filterMap (fun n => (f n).map fun a => (n, a)) = held := by
  induction names generalizing held with
  | nil => exact (List.map_eq_nil_iff.1 (List.sublist_nil.1 hsub)).symm
  | cons n names ih =>
    obtain ⟨hn, htail⟩ := List.nodup_cons.1 hnames
    rw [List.filterMap_cons]
    rcases List.sublist_cons_iff.1 hsub with hsub | ⟨rest, hmap, hsub⟩
    · have hskip : f n = none := hnone n (by simp) fun hmem => hn (hsub.subset hmem)
      rw [hskip]
      exact ih hsub htail hheld fun m hm => hnone m (List.mem_cons_of_mem n hm)
    · obtain ⟨⟨m, a⟩, held, rfl, rfl, rfl⟩ := List.map_eq_cons_iff.1 hmap
      rw [List.forall_mem_cons] at hheld
      rw [hheld.1]
      refine congrArg _ (ih hsub htail hheld.2 fun k hk hnot => ?_)
      have hne : k ≠ m := fun heq => hn (heq ▸ hk)
      exact hnone k (List.mem_cons_of_mem m hk) (by simpa [hne] using hnot)

theorem filterMap_get? {names : List String} {caps : Captures} (hnames : names.Nodup)
    (hsub : (caps.reverse.map (·.1)).Sublist names) :
    names.filterMap (fun name => (caps.get? name).map fun text => (name, text)) =
      caps.reverse := by
  have hnodup : (caps.map (·.1)).Nodup := by
    have hrev := hsub.nodup hnames
    rwa [List.map_reverse, (List.reverse_perm _).nodup_iff] at hrev
  refine filterMap_of_sublist hsub hnames (fun e he => ?_) fun n _ hn => ?_
  · exact get?_of_mem hnodup (List.mem_reverse.1 he)
  · exact get?_of_not_mem (by simpa using hn)

namespace Route.CompiledFor

variable {φ : Type} {locales : Locales} {route : Route φ} {ps : List Piece} {path : String}

theorem exists_split (h : route.CompiledFor locales) :
    ∃ ps, split route.pattern.toList = .ok ps := by
  obtain ⟨_, ps, _, hps, _⟩ := compilePattern_eq_ok_iff.1 h.compiled
  exact ⟨ps, hps⟩

theorem compiled_eq (h : route.CompiledFor locales)
    (hsplit : split route.pattern.toList = .ok ps) :
    ∃ src, sources locales ps = .ok src ∧
      route.compiled = ⟨String.ofList src, ps.filterMap Piece.placeholder?⟩ := by
  obtain ⟨_, qs, src, hqs, hsrc, hcompiled⟩ := compilePattern_eq_ok_iff.1 h.compiled
  cases hsplit.symm.trans hqs
  exact ⟨src, hsrc, hcompiled⟩

theorem captureNames_eq (h : route.CompiledFor locales)
    (hsplit : split route.pattern.toList = .ok ps) :
    route.compiled.captureNames = (ps.filterMap Piece.captureName?).map String.ofList := by
  obtain ⟨src, _, hcompiled⟩ := h.compiled_eq hsplit
  rw [hcompiled, CompiledPattern.captureNames, List.filter_filterMap, List.filterMap_filterMap,
    List.map_filterMap]
  congr 1
  funext p
  cases p with
  | literal text => rfl
  | token t =>
    rw [Piece.placeholder?, Piece.captureName?, Token.captureName?]
    by_cases hkind : t.kind = .silent <;>
      simp [Token.placeholder, Token.nameString, Option.filter_some, hkind]

theorem means (h : route.CompiledFor locales) (hsplit : split route.pattern.toList = .ok ps)
    (hplain : ∀ p ∈ ps, p.Plain) :
    Means route.compiled.source.toList (ps.filterMap Piece.captureName?)
      (readingOf locales ps) := by
  obtain ⟨src, hsrc, hcompiled⟩ := h.compiled_eq hsplit
  rw [hcompiled, String.toList_ofList]
  exact means_readingOf hplain (named_of_split hsplit) hsrc

theorem reading_of_captures? (h : route.CompiledFor locales)
    (hsplit : split route.pattern.toList = .ok ps) (hplain : ∀ p ∈ ps, p.Plain)
    {got : List (String × String)} (hgot : route.captures? path = some got) :
    ∃ caps, readingOf locales ps [] path.toList [] caps ∧
      got = caps.reverse.map fun (name, text) => (name, String.ofList text) := by
  have hmeans := h.means hsplit hplain
  obtain ⟨hnodup, _⟩ := compile?_wrapped hmeans h.regex
  obtain ⟨caps, hcaps, rfl⟩ := Option.map_eq_some_iff.1 hgot
  have hreading := hmeans.of_captures? h.regex hcaps
  refine ⟨caps, hreading, ?_⟩
  have hnames : ((ps.filterMap Piece.captureName?).map String.ofList).Nodup :=
    List.Pairwise.map String.ofList (fun m n hne heq => hne (String.ofList_inj.1 heq)) hnodup
  have hfound := filterMap_get? hnames (sublist_of_readingOf hreading)
  rw [h.captureNames_eq hsplit, ← hfound]
  generalize (ps.filterMap Piece.captureName?).map String.ofList = names
  rw [List.map_filterMap]
  congr 1
  funext name
  cases caps.get? name <;> rfl

theorem isSome_captures? (h : route.CompiledFor locales)
    (hsplit : split route.pattern.toList = .ok ps) (hplain : ∀ p ∈ ps, p.Plain)
    {caps : Captures} (hcaps : readingOf locales ps [] path.toList [] caps) :
    (route.captures? path).isSome = true := by
  have hsome := (h.means hsplit hplain).isSome_captures? h.regex hcaps
  rwa [captures?, Option.isSome_map]

end Route.CompiledFor

end UrlRouter
