import Mathlib.Data.List.Forall2
import UrlRouter.Proofs.Except
import UrlRouter.Route.Flatten

/-!
The leaves of a tree of routes, each with the groups around it. Flattening a tree flattens each of
its leaves, in the order in which they are declared, and what stands beside a leaf has no part in
it.
-/

namespace UrlRouter

variable {φ : Type}

structure Enclosure (φ : Type) where
  name : Option String
  fragment : Option String
  settings : RouteSettings φ

namespace Enclosure

def around (g : Enclosure φ) (children : List (RouteEntry φ)) : RouteEntry φ :=
  .group g.name g.fragment g.settings children

def Fits (g : Enclosure φ) : Prop := (g.fragment.or g.name).toList.forM checkFragment = .ok ⟨⟩

end Enclosure

def scopeOf (groups : List (Enclosure φ)) : Scope :=
  groups.foldl (fun scope g => scope.enter g.name g.fragment) .empty

theorem scopeOf_concat (groups : List (Enclosure φ)) (g : Enclosure φ) :
    scopeOf (groups ++ [g]) = (scopeOf groups).enter g.name g.fragment := by
  simp [scopeOf]

def RouteSettings.merged (levels : List (RouteSettings φ)) : RouteSettings φ :=
  levels.foldl (fun outer own => own.inherit outer) .empty

theorem RouteSettings.merged_concat (levels : List (RouteSettings φ)) (own : RouteSettings φ) :
    merged (levels ++ [own]) = own.inherit (merged levels) := by
  simp [merged]

def settingsOf (groups : List (Enclosure φ)) : RouteSettings φ :=
  .merged (groups.map (·.settings))

theorem settingsOf_concat (groups : List (Enclosure φ)) (g : Enclosure φ) :
    settingsOf (groups ++ [g]) = g.settings.inherit (settingsOf groups) := by
  simp [settingsOf, RouteSettings.merged_concat]

structure Leaf (φ : Type) where
  groups : List (Enclosure φ)
  definition : RouteDefinition φ

namespace Leaf

def scope (leaf : Leaf φ) : Scope := scopeOf leaf.groups

def levels (leaf : Leaf φ) : List (RouteSettings φ) :=
  leaf.groups.map (·.settings) ++ [leaf.definition.settings]

def alone (leaf : Leaf φ) : RouteEntry φ :=
  leaf.groups.foldr (fun g e => g.around [e]) (.route leaf.definition)

def flatten (leaf : Leaf φ) : Except RouterError (FlatRoute φ) :=
  leaf.definition.flatten leaf.scope (settingsOf leaf.groups)

end Leaf

mutual

/-- The leaves of an entry below groups. A line that cannot be read is none. -/
def RouteEntry.leavesBelow (groups : List (Enclosure φ)) : RouteEntry φ → List (Leaf φ)
  | .route d => [⟨groups, d⟩]
  | .line text =>
      match RouteDefinition.ofLine text with
      | .error _ => []
      | .ok d => [⟨groups, d⟩]
  | .group name fragment settings children =>
      leavesBelowOfAll (groups ++ [⟨name, fragment, settings⟩]) children

def leavesBelowOfAll (groups : List (Enclosure φ)) : List (RouteEntry φ) → List (Leaf φ)
  | [] => []
  | e :: es => e.leavesBelow groups ++ leavesBelowOfAll groups es

end

def RouteEntry.declared (e : RouteEntry φ) : List (Leaf φ) := e.leavesBelow []

theorem RouteDefinition.flatten_eq_ok {scope : Scope} {inherited : RouteSettings φ}
    {d : RouteDefinition φ} {flat : FlatRoute φ} (h : d.flatten scope inherited = .ok flat) :
    flat.name = d.fullName scope ∧ flat.pattern = joinFragments (scope.fragments ++ [d.pattern]) ∧
      flat.settings = d.settings.inherit inherited ∧
      flat.settings.handler = some flat.handler := by
  unfold flatten at h
  obtain ⟨_, _, h⟩ := Except.bind_eq_ok_iff.1 h
  dsimp only at h
  split at h
  · cases h
  split at h
  · cases h
  next handler hhandler =>
  cases h
  exact ⟨rfl, rfl, rfl, hhandler⟩

theorem RouteDefinition.validate_of_flatten {scope : Scope} {inherited : RouteSettings φ}
    {d : RouteDefinition φ} {flat : FlatRoute φ} (h : d.flatten scope inherited = .ok flat) :
    flat.settings.options.validate = .ok ⟨⟩ := by
  unfold flatten at h
  obtain ⟨_, _, h⟩ := Except.bind_eq_ok_iff.1 h
  dsimp only at h
  split at h
  · cases h
  next hvalid =>
  split at h
  · cases h
  · cases h
    exact hvalid

def linePattern (line : String) : String :=
  match Text.cut arrow line.toList with
  | some (left, _) => String.ofList (splitVerb (Text.trim left)).2
  | none => ""

theorem RouteDefinition.ofLine_eq_ok {line : String} {d : RouteDefinition φ}
    (h : ofLine line = .ok d) :
    d.name = (errorStatus? (linePattern line)).map .error ∧
      (errorStatus? (linePattern line) = none → d.pattern = linePattern line) ∧
      ∃ method handler, d.settings =
        { (.empty : RouteSettings φ) with method := method, handler := some handler } := by
  unfold ofLine at h
  split at h
  · cases h
  next left right hcut =>
  split at h
  · cases h
  rcases hverb : splitVerb (Text.trim left) with ⟨method, pattern⟩
  have hpattern : linePattern line = String.ofList pattern := by simp [linePattern, hcut, hverb]
  rw [hverb] at h
  cases h
  rw [hpattern]
  unfold ofPattern
  cases errorStatus? (String.ofList pattern) with
  | none => exact ⟨rfl, fun _ => rfl, _, _, rfl⟩
  | some status => exact ⟨rfl, nofun, _, _, rfl⟩

def Leaf.FlattensTo (groups : List (Enclosure φ)) (leaf : Leaf φ) (flat : FlatRoute φ) : Prop :=
  leaf.flatten = .ok flat ∧ ∃ inner, leaf.groups = groups ++ inner ∧ ∀ g ∈ inner, g.Fits

theorem Leaf.FlattensTo.below {groups : List (Enclosure φ)} {g : Enclosure φ} {leaf : Leaf φ}
    {flat : FlatRoute φ} (hg : g.Fits) (h : leaf.FlattensTo (groups ++ [g]) flat) :
    leaf.FlattensTo groups flat := by
  obtain ⟨hflat, inner, hgroups, hfits⟩ := h
  refine ⟨hflat, g :: inner, by simp [hgroups], ?_⟩
  rw [List.forall_mem_cons]
  exact ⟨hg, hfits⟩

theorem flattensTo_of_definition {groups : List (Enclosure φ)} {d : RouteDefinition φ}
    {flats : List (FlatRoute φ)}
    (h : (d.flatten (scopeOf groups) (settingsOf groups)).map (fun r => [r]) =
      .ok flats) :
    List.Forall₂ (Leaf.FlattensTo groups) [⟨groups, d⟩] flats := by
  obtain ⟨flat, hflat, rfl⟩ := Except.map_eq_ok_iff.1 h
  exact .cons ⟨hflat, [], by simp, by simp⟩ .nil

mutual

theorem RouteEntry.forall₂_flattensTo (groups : List (Enclosure φ)) :
    ∀ (e : RouteEntry φ) {flats : List (FlatRoute φ)},
      e.flatten (scopeOf groups) (settingsOf groups) = .ok flats →
        List.Forall₂ (Leaf.FlattensTo groups) (e.leavesBelow groups) flats
  | .route d, flats, h => by
    rw [RouteEntry.flatten] at h
    rw [RouteEntry.leavesBelow]
    exact flattensTo_of_definition h
  | .line text, flats, h => by
    rw [RouteEntry.flatten] at h
    rw [RouteEntry.leavesBelow]
    cases hline : RouteDefinition.ofLine (φ := φ) text with
    | error e =>
      rw [hline] at h
      cases h
    | ok d =>
      rw [hline] at h
      exact flattensTo_of_definition h
  | .group name fragment settings children, flats, h => by
    rw [RouteEntry.flatten] at h
    rw [RouteEntry.leavesBelow]
    split at h
    · cases h
    next hfits =>
    -- The leaves of the children have this group first among those below the given ones.
    let g : Enclosure φ := ⟨name, fragment, settings⟩
    have hinner : flattenAll (scopeOf (groups ++ [g])) (settingsOf (groups ++ [g])) children =
        .ok flats := by
      rw [scopeOf_concat, settingsOf_concat]
      exact h
    exact (forall₂_flattensToOfAll _ children hinner).imp fun _ _ => .below (g := g) hfits

theorem forall₂_flattensToOfAll (groups : List (Enclosure φ)) :
    ∀ (es : List (RouteEntry φ)) {flats : List (FlatRoute φ)},
      flattenAll (scopeOf groups) (settingsOf groups) es = .ok flats →
        List.Forall₂ (Leaf.FlattensTo groups) (leavesBelowOfAll groups es) flats
  | [], flats, h => by
    rw [flattenAll] at h
    cases h
    exact .nil
  | e :: es, flats, h => by
    rw [flattenAll] at h
    rw [leavesBelowOfAll]
    cases hfirst : e.flatten (scopeOf groups) (settingsOf groups) with
    | error error =>
      rw [hfirst] at h
      cases h
    | ok first =>
      rw [hfirst] at h
      obtain ⟨more, hmore, rfl⟩ := Except.map_eq_ok_iff.1 h
      exact List.rel_append (RouteEntry.forall₂_flattensTo groups e hfirst)
        (forall₂_flattensToOfAll groups es hmore)

end

theorem RouteEntry.forall₂_of_leaves {e : RouteEntry φ} {flats : List (FlatRoute φ)}
    (h : e.leaves = .ok flats) :
    List.Forall₂ (fun leaf flat => leaf.flatten = .ok flat ∧ ∀ g ∈ leaf.groups, g.Fits)
      e.declared flats := by
  refine (e.forall₂_flattensTo [] h).imp ?_
  rintro leaf flat ⟨hflat, inner, hgroups, hfits⟩
  rw [hgroups]
  exact ⟨hflat, hfits⟩

theorem exists_mem_of_forall₂ {α β : Type} {R : α → β → Prop} {as : List α} {bs : List β}
    (h : List.Forall₂ R as bs) {a : α} (ha : a ∈ as) : ∃ b ∈ bs, R a b := by
  induction h with
  | nil => cases ha
  | @cons first second as bs hfirst _ ih =>
    rcases List.mem_cons.1 ha with rfl | ha
    · exact ⟨second, by simp, hfirst⟩
    · obtain ⟨b, hb, hrest⟩ := ih ha
      exact ⟨b, by simp [hb], hrest⟩

theorem RouteEntry.exists_flat_of_mem_declared {e : RouteEntry φ} {flats : List (FlatRoute φ)}
    (h : e.leaves = .ok flats) {leaf : Leaf φ} (hleaf : leaf ∈ e.declared) :
    ∃ flat ∈ flats, leaf.flatten = .ok flat := by
  obtain ⟨flat, hflat, hflatten, _⟩ := exists_mem_of_forall₂ (forall₂_of_leaves h) hleaf
  exact ⟨flat, hflat, hflatten⟩

theorem RouteEntry.exists_leaf_of_mem_leaves {e : RouteEntry φ} {flats : List (FlatRoute φ)}
    (h : e.leaves = .ok flats) {flat : FlatRoute φ} (hflat : flat ∈ flats) :
    ∃ leaf ∈ e.declared, leaf.flatten = .ok flat := by
  obtain ⟨leaf, hleaf, hflatten, _⟩ :=
    exists_mem_of_forall₂ (List.Forall₂.flip (forall₂_of_leaves h)) hflat
  exact ⟨leaf, hleaf, hflatten⟩

def Rooted (pattern : String) : Prop := pattern.toList.head? = some '/'

theorem joinFragments_induction {P : List Char → Prop} {fragments : List String} (hroot : P ['/'])
    (hjoin : ∀ path, ∀ fragment ∈ fragments, P path → P (joinFragment path fragment)) :
    P (joinFragments fragments).toList := by
  have hfold (path : List Char) (hpath : P path) : P (fragments.foldl joinFragment path) := by
    induction fragments generalizing path with
    | nil => exact hpath
    | cons fragment fragments ih =>
      apply ih
      · intro path next hnext
        exact hjoin path next (List.mem_cons_of_mem _ hnext)
      · exact hjoin path fragment List.mem_cons_self hpath
  rw [joinFragments, String.toList_ofList]
  exact hfold ['/'] hroot

theorem rooted_joinFragments (fragments : List String) : Rooted (joinFragments fragments) := by
  refine joinFragments_induction (P := fun path => path.head? = some '/') rfl ?_
  intro path fragment _ hpath
  unfold joinFragment
  split
  · exact hpath
  · split <;> simp [List.head?_append, hpath]

theorem RouteEntry.rooted_of_leaves {e : RouteEntry φ} {flats : List (FlatRoute φ)}
    (h : e.leaves = .ok flats) : ∀ flat ∈ flats, Rooted flat.pattern := by
  have hleaves : List.Forall₂ (fun flat leaf => Rooted flat.pattern ∧ leaf.flatten = .ok flat)
      flats e.declared := by
    refine List.Forall₂.flip ((forall₂_of_leaves h).imp ?_)
    rintro leaf flat ⟨hflat, _⟩
    refine ⟨?_, hflat⟩
    rw [(RouteDefinition.flatten_eq_ok hflat).2.1]
    exact rooted_joinFragments _
  exact ((List.forall₂_and_left _ _).1 hleaves).1

theorem flatten_foldr_around {inner : List (Enclosure φ)} (hfits : ∀ g ∈ inner, g.Fits)
    (groups : List (Enclosure φ)) (e : RouteEntry φ) :
    (inner.foldr (fun g e => g.around [e]) e).flatten (scopeOf groups)
        (settingsOf groups) =
      e.flatten (scopeOf (groups ++ inner)) (settingsOf (groups ++ inner)) := by
  induction inner generalizing groups with
  | nil => simp
  | cons g inner ih =>
    rw [List.forall_mem_cons] at hfits
    have hinner := ih hfits.2 (groups ++ [g])
    rw [List.append_assoc, List.singleton_append, scopeOf_concat, settingsOf_concat] at hinner
    rw [List.foldr_cons, Enclosure.around, RouteEntry.flatten, hfits.1]
    simp only [flattenAll, hinner]
    cases e.flatten (scopeOf (groups ++ g :: inner)) _ <;> simp [Except.map]

theorem Leaf.leaves_alone {leaf : Leaf φ} {flat : FlatRoute φ} (h : leaf.flatten = .ok flat)
    (hfits : ∀ g ∈ leaf.groups, g.Fits) : leaf.alone.leaves = .ok [flat] := by
  have halone := flatten_foldr_around hfits [] (.route leaf.definition)
  rw [List.nil_append, RouteEntry.flatten] at halone
  exact halone.trans (Except.map_eq_ok_iff.2 ⟨flat, h, rfl⟩)

end UrlRouter
