import UrlRouter.Proofs.Route.Fragments
import UrlRouter.Proofs.Route.Names

namespace UrlRouter

variable {φ : Type}

theorem Dict.overlay_assoc {α : Type} (a b c : Dict α) :
    (a.overlay b).overlay c = a.overlay (b.overlay c) := by
  refine ext_get? fun key => ?_
  simp only [get?_overlay]
  rw [Option.or_assoc]

theorem Dict.overlay_empty {α : Type} (d : Dict α) : d.overlay .empty = d := by
  refine ext_get? fun key => ?_
  rw [get?_overlay]
  rfl

theorem RouteOptions.inherit_assoc (a b c : RouteOptions) :
    (a.inherit b).inherit c = a.inherit (b.inherit c) := by
  simp only [inherit, Option.or_assoc, Dict.overlay_assoc]

namespace RouteSettings

theorem any_name_inheritInputs (own parent : List Input) (name : String) :
    (inheritInputs own parent).any (fun i => i.name == name) =
      (own.any (fun i => i.name == name) || parent.any fun i => i.name == name) := by
  -- An input of the parent is left out only for one of the same name.
  have hleft : ∀ i ∈ parent, i.name = name →
      (∃ p ∈ parent, (∀ o ∈ own, o.name ≠ p.name) ∧ p.name = name) ∨ ∃ o ∈ own, o.name = name := by
    intro i hi hname
    by_cases hown : ∃ o ∈ own, o.name = name
    · exact .inr hown
    · exact .inl ⟨i, hi, fun o ho heq => hown ⟨o, ho, heq.trans hname⟩, hname⟩
  rw [Bool.eq_iff_iff]
  simp only [inheritInputs, List.any_append, Bool.or_eq_true, List.any_eq_true, List.mem_filter,
    Bool.not_eq_true', List.any_eq_false, beq_iff_eq]
  constructor
  · rintro (⟨i, ⟨hi, _⟩, hname⟩ | hown)
    · exact .inr ⟨i, hi, hname⟩
    · exact .inl hown
  · rintro (hown | ⟨i, hi, hname⟩)
    · exact .inr hown
    · refine (hleft i hi hname).imp_left ?_
      rintro ⟨p, hp, hnone, hname⟩
      exact ⟨p, ⟨hp, hnone⟩, hname⟩

theorem inheritInputs_assoc (a b c : List Input) :
    inheritInputs (inheritInputs a b) c = inheritInputs a (inheritInputs b c) := by
  rw [inheritInputs]
  simp only [any_name_inheritInputs]
  simp only [inheritInputs, List.filter_append, List.filter_filter, List.append_assoc, Bool.not_or]

theorem inherit_assoc (a b c : RouteSettings φ) :
    (a.inherit b).inherit c = a.inherit (b.inherit c) := by
  simp only [inherit, Option.or_assoc, Dict.overlay_assoc, RouteOptions.inherit_assoc,
    inheritInputs_assoc, List.append_assoc]

theorem empty_inherit (s : RouteSettings φ) : empty.inherit s = s := by
  simp [inherit, empty, inheritInputs, RouteOptions.inherit, RouteOptions.empty, Dict.overlay_empty]

theorem foldl_inherit (levels : List (RouteSettings φ)) (outer : RouteSettings φ) :
    levels.foldl (fun outer own => own.inherit outer) outer = (merged levels).inherit outer := by
  induction levels using List.reverseRecOn with
  | nil => exact (empty_inherit outer).symm
  | append_singleton levels own ih => simp [merged_concat, inherit_assoc, ih]

end RouteSettings

structure Scope.Alike (s s' : Scope) : Prop where
  names : ∀ more, joinNames (s.names ++ more) = joinNames (s'.names ++ more)
  fragments : ∀ more, joinFragments (s.fragments ++ more) = joinFragments (s'.fragments ++ more)

namespace Scope.Alike

variable {s s' : Scope}

theorem enter (h : s.Alike s') (name fragment : Option String) :
    (s.enter name fragment).Alike (s'.enter name fragment) := by
  constructor
  · intro more
    simpa [Scope.enter] using h.names (name.toList ++ more)
  · intro more
    simpa [Scope.enter] using h.fragments ((fragment.or name).toList ++ more)

theorem flatten_definition (h : s.Alike s') (inherited : RouteSettings φ)
    (d : RouteDefinition φ) : d.flatten s inherited = d.flatten s' inherited := by
  have hname : d.fullName s = d.fullName s' := by
    simp only [RouteDefinition.fullName, derivedName, h.names]
  simp only [RouteDefinition.flatten, hname, h.fragments]

mutual

theorem flatten_entry {s s' : Scope} (h : s.Alike s') (inherited : RouteSettings φ) :
    ∀ e : RouteEntry φ, e.flatten s inherited = e.flatten s' inherited
  | .route d => by
    rw [RouteEntry.flatten, RouteEntry.flatten, h.flatten_definition]
  | .line text => by
    rw [RouteEntry.flatten, RouteEntry.flatten]
    simp only [h.flatten_definition]
  | .group name fragment settings children => by
    rw [RouteEntry.flatten, RouteEntry.flatten,
      flatten_all (h.enter name fragment) (settings.inherit inherited) children]

theorem flatten_all {s s' : Scope} (h : s.Alike s') (inherited : RouteSettings φ) :
    ∀ es : List (RouteEntry φ), flattenAll s inherited es = flattenAll s' inherited es
  | [] => by rw [flattenAll, flattenAll]
  | e :: es => by
    rw [flattenAll, flattenAll, flatten_entry h inherited e, flatten_all h inherited es]

end

end Scope.Alike

def nested (groups : List (Enclosure φ)) (children : List (RouteEntry φ)) : List (RouteEntry φ) :=
  groups.foldr (fun g children => [g.around children]) children

def Enclosure.joined (groups : List (Enclosure φ)) : Enclosure φ :=
  { name := some (joinNames (scopeOf groups).names)
    fragment := some (joinFragments (scopeOf groups).fragments)
    settings := settingsOf groups }

theorem flattenAll_singleton (scope : Scope) (inherited : RouteSettings φ) (e : RouteEntry φ) :
    flattenAll scope inherited [e] = e.flatten scope inherited := by
  rw [flattenAll, flattenAll]
  cases e.flatten scope inherited <;> simp [Except.map]

theorem flattenAll_nested {groups : List (Enclosure φ)} (hfits : ∀ g ∈ groups, g.Fits)
    (scope : Scope) (inherited : RouteSettings φ) (children : List (RouteEntry φ)) :
    flattenAll scope inherited (nested groups children) =
      flattenAll (groups.foldl (fun scope g => scope.enter g.name g.fragment) scope)
        ((settingsOf groups).inherit inherited) children := by
  rw [settingsOf, ← RouteSettings.foldl_inherit]
  induction groups generalizing scope inherited with
  | nil => rfl
  | cons g groups ih =>
    obtain ⟨hg, hgroups⟩ := List.forall_mem_cons.1 hfits
    have hinner := ih hgroups (scope.enter g.name g.fragment) (g.settings.inherit inherited)
    change flattenAll scope inherited [g.around (nested groups children)] = _
    rw [flattenAll_singleton, Enclosure.around, RouteEntry.flatten, hg]
    exact hinner

theorem foldl_enter (groups : List (Enclosure φ)) (scope : Scope) :
    groups.foldl (fun scope g => scope.enter g.name g.fragment) scope =
      ⟨scope.names ++ (scopeOf groups).names, scope.fragments ++ (scopeOf groups).fragments⟩ := by
  induction groups using List.reverseRecOn with
  | nil => simp [scopeOf, Scope.empty]
  | append_singleton groups g ih =>
    rw [List.foldl_append, ih, scopeOf_concat]
    simp [Scope.enter]

theorem checkFragment_of_fits {groups : List (Enclosure φ)} (h : ∀ g ∈ groups, g.Fits) :
    ∀ fragment ∈ (scopeOf groups).fragments, checkFragment fragment = .ok ⟨⟩ := by
  induction groups using List.reverseRecOn with
  | nil => simp [scopeOf, Scope.empty]
  | append_singleton groups g ih =>
    rw [List.forall_mem_append, List.forall_mem_singleton] at h
    intro fragment hmem
    rw [scopeOf_concat] at hmem
    rcases List.mem_append.1 hmem with hmem | hmem
    · exact ih h.1 fragment hmem
    · have hg := h.2
      rw [Enclosure.Fits, Option.toList_eq_singleton_iff.2 (Option.mem_toList.1 hmem)] at hg
      obtain ⟨_, hcheck, _⟩ := Except.bind_eq_ok_iff.1 hg
      exact hcheck

theorem Enclosure.fits_joined {groups : List (Enclosure φ)} (h : ∀ g ∈ groups, g.Fits) :
    (joined groups).Fits := by
  have hanchored := isAnchored_joinFragments (checkFragment_of_fits h)
  have hcheck : checkFragment (joinFragments (scopeOf groups).fragments) = .ok ⟨⟩ := by
    rw [checkFragment, hanchored]
    rfl
  exact Except.bind_eq_ok_iff.2 ⟨⟨⟩, hcheck, rfl⟩

theorem flattenAll_nested_eq_joined {groups : List (Enclosure φ)} (hfits : ∀ g ∈ groups, g.Fits)
    (scope : Scope) (inherited : RouteSettings φ) (children : List (RouteEntry φ)) :
    flattenAll scope inherited (nested groups children) =
      flattenAll scope inherited [(Enclosure.joined groups).around children] := by
  have halike : Scope.Alike
      ⟨scope.names ++ (scopeOf groups).names, scope.fragments ++ (scopeOf groups).fragments⟩
      (scope.enter (Enclosure.joined groups).name (Enclosure.joined groups).fragment) := by
    constructor
    · intro more
      simpa [Enclosure.joined, Scope.enter] using (joinNames_joinNames _ _ more).symm
    · intro more
      simpa [Enclosure.joined, Scope.enter] using (joinFragments_joinFragments _ _ more).symm
  rw [flattenAll_nested hfits, foldl_enter, halike.flatten_all, flattenAll_singleton,
    Enclosure.around, RouteEntry.flatten, Enclosure.fits_joined hfits]
  rfl

structure Stands (fragment : String) (ps : List Piece) : Prop where
  pieces : split fragment.toList = .ok ps
  checked : checkFragment fragment = .ok ⟨⟩

structure JoinedOf (pattern : String) (fragments : List (List Piece)) : Prop where
  pieces : split pattern.toList = .ok (mergeLiterals (joinedPieces fragments))
  unanchored : isAnchored pattern.toList = false
  compiled : ∀ locales, compilePattern locales pattern =
    (sources locales (joinedPieces fragments)).map fun source =>
      ⟨String.ofList source, fragments.flatMap fun ps => ps.filterMap Piece.placeholder?⟩
  generated : ∀ d, generatePath d pattern =
    (texts d (joinedPieces fragments)).map String.ofList

theorem joinedOf_of_forall₂ {fragments : List String} {pss : List (List Piece)}
    (h : List.Forall₂ Stands fragments pss) : JoinedOf (joinFragments fragments) pss := by
  have hpieces : PiecesOf (joinFragments fragments).toList (joinedPieces pss) :=
    split_joinFragments (h.imp fun _ _ => Stands.pieces)
  have hchecked : ∀ fragment ∈ fragments, checkFragment fragment = .ok ⟨⟩ :=
    ((List.forall₂_and_left fragments pss).1 (h.imp fun _ _ h => ⟨h.checked, h.pieces⟩)).1
  have hanchored := isAnchored_joinFragments hchecked
  refine ⟨hpieces, hanchored, fun locales => ?_, fun d => ?_⟩
  · rw [← sources_mergeLiterals, ← placeholders_joinedPieces, ← placeholders_mergeLiterals]
    rw [compilePattern, hanchored, hpieces]
    cases hsources : sources locales (mergeLiterals (joinedPieces pss)) <;>
      simp [Except.map, bind, Except.bind, hsources, pure, Except.pure]
  · rw [← texts_mergeLiterals, generatePath, hpieces]
    cases htexts : texts d (mergeLiterals (joinedPieces pss)) <;>
      simp [Except.map, bind, Except.bind, htexts, pure, Except.pure]

theorem fragments_joined {fragments : List String} {pss : List (List Piece)}
    (h : List.Forall₂ Stands fragments pss) {groups : List (Enclosure φ)}
    (hfits : ∀ g ∈ groups, g.Fits) :
    JoinedOf (joinFragments fragments) pss ∧
      (∀ outer inner leaf, joinFragments (outer ++ inner ++ [leaf]) =
        joinFragments ([joinFragments (outer ++ [""])] ++ inner ++ [leaf])) ∧
      (∀ outer inner leaf, joinNames (outer ++ inner ++ [leaf]) =
        joinNames ([joinNames (outer ++ [""])] ++ inner ++ [leaf])) ∧
      ∀ scope inherited children, flattenAll scope inherited (nested groups children) =
        flattenAll scope inherited [(Enclosure.joined groups).around children] := by
  refine ⟨joinedOf_of_forall₂ h, fun outer inner leaf => ?_, fun outer inner leaf => ?_,
    flattenAll_nested_eq_joined hfits⟩
  · have hempty : joinFragments (outer ++ [""] ++ (inner ++ [leaf])) =
        joinFragments (outer ++ inner ++ [leaf]) := by
      simp [joinFragments, joinFragment]
    exact hempty.symm.trans (joinFragments_joinFragments [] (outer ++ [""]) _).symm
  · have hempty : joinNames (outer ++ [""] ++ (inner ++ [leaf])) =
        joinNames (outer ++ inner ++ [leaf]) := by
      simp [joinNames, trimSlashes, Text.dropEndWhile]
    exact hempty.symm.trans (joinNames_joinNames [] (outer ++ [""]) _).symm

theorem fragments_joined_braces :
    let groups : List (Enclosure Unit) :=
      [⟨some "shop", some "//\x7b\x7bL:<lang>\x7d\x7d/", .withMethod .empty .get⟩,
        ⟨some "/", none, .empty⟩, ⟨none, some "a\x7b", .withHandler .empty (.func ())⟩]
    let fragments := (scopeOf groups).fragments ++ ["\x7b\x7bC:<id>[0-9]\x7b2\x7d\x7d\x7d\\$"]
    let lang : Piece := .token ⟨.locale, [], some "lang".toList, []⟩
    let id : Piece := .token ⟨.capture, [], some "id".toList, "[0-9]\x7b2\x7d".toList⟩
    let pss : List (List Piece) :=
      [[.literal "//".toList, lang, .literal ['/']], [.literal ['/']], [.literal "a\x7b".toList],
        [id, .literal "\\$".toList]]
    List.Forall₂ Stands fragments pss ∧ (∀ g ∈ groups, g.Fits) ∧
      joinFragments fragments =
        "/\x7b\x7bL:<lang>\x7d\x7d/a\x7b/\x7b\x7bC:<id>[0-9]\x7b2\x7d\x7d\x7d\\$" ∧
      JoinedOf (joinFragments fragments) pss ∧
      mergeLiterals (joinedPieces pss) =
        [.literal ['/'], lang, .literal "/a\x7b/".toList, id, .literal "\\$".toList] ∧
      flattenAll .empty .empty (nested groups [.route (.new "x")]) =
        flattenAll .empty .empty [(Enclosure.joined groups).around [.route (.new "x")]] := by
  intro groups fragments lang id pss
  have hstand {fragment : String} {ps : List Piece}
      (hsplit : (split fragment.toList).toOption = some ps)
      (hcheck : (checkFragment fragment).toOption = some ⟨⟩) : Stands fragment ps :=
    ⟨Except.eq_ok_of_toOption hsplit, Except.eq_ok_of_toOption hcheck⟩
  have hstands : List.Forall₂ Stands fragments pss :=
    .cons (hstand (by decide +kernel) (by decide +kernel)) <|
      .cons (hstand (by decide +kernel) (by decide +kernel)) <|
      .cons (hstand (by decide +kernel) (by decide +kernel)) <|
      .cons (hstand (by decide +kernel) (by decide +kernel)) .nil
  have hfits : ∀ g ∈ groups, g.Fits := by
    simp only [groups, List.forall_mem_cons]
    refine ⟨?_, ?_, ?_, by simp⟩ <;> exact Except.eq_ok_of_toOption (by decide +kernel)
  obtain ⟨hjoined, _, _, hnested⟩ := fragments_joined hstands hfits
  exact ⟨hstands, hfits, by decide +kernel, hjoined, by decide +kernel, hnested _ _ _⟩

end UrlRouter
