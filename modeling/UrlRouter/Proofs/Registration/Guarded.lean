import UrlRouter.Proofs.Regex.Prefix
import UrlRouter.Proofs.Registration.Table
import UrlRouter.Proofs.Route.Fragments

/-!
Leaves below groups. The registered regular expression of a leaf begins with the fragments of its
groups, and so do the paths that it matches, unless the leaf offers alternatives to all that stands
before it.
-/

namespace UrlRouter

open Regex Text

variable {φ : Type}

theorem exists_source_of_joinFragments {locales : Locales} {fragments : List String} {leaf : String}
    {compiled : CompiledPattern}
    (h : compilePattern locales (joinFragments (fragments ++ [leaf])) = .ok compiled)
    (hbare : ∀ c ∈ (joinFragments fragments).toList, isBare c = true) :
    ∃ tail, compiled.source.toList = (joinFragments fragments).toList ++ tail ∧
      ((joinFragments fragments).toList.getLast? ≠ some '/' → repeats tail = false) := by
  have hjoined := toList_joinFragments_concat fragments leaf
  have hbrace : '\x7b' ∉ (joinFragments fragments).toList := by
    intro hmem
    cases hbare _ hmem
  by_cases htrimmed : leadingTrimmed leaf.toList = []
  · rw [joinFragment_of_trimmed_eq_nil htrimmed] at hjoined
    obtain ⟨tail, hsource, htail⟩ :=
      exists_source_of_text_append h (hjoined.trans (List.append_nil _).symm) hbrace
    refine ⟨tail, hsource, fun _ => ?_⟩
    rw [htail rfl]
    rfl
  · rw [joinFragment_of_trimmed_ne_nil htrimmed, ← List.append_assoc] at hjoined
    have hseparated : '\x7b' ∉ (joinFragments fragments).toList ++
        separator (joinFragments fragments).toList := by
      intro hmem
      rcases List.mem_append.1 hmem with hmem | hmem
      · exact hbrace hmem
      · cases eq_of_mem_separator hmem
    obtain ⟨tail, hsource, _⟩ := exists_source_of_text_append h hjoined hseparated
    refine ⟨separator (joinFragments fragments).toList ++ tail, ?_, ?_⟩
    · rw [hsource, List.append_assoc]
    · intro hlast
      rw [separator, if_neg hlast]
      rfl

/-- The source of the route begins with the path, and so does each text that it matches, except that
the last slash of the path may be missing if the source goes on by repeating it. -/
structure Route.GuardedBy (route : Route φ) (path tail : List Char) : Prop where
  source : route.compiled.source.toList = path ++ tail
  whole : path.getLast? ≠ some '/' → repeats tail = false
  guarded : undivided route.compiled.source = true → ∀ text, route.regex.isMatch text = true →
    (if repeats tail then path.dropLast else path) <+: text.toList

theorem FlatRoute.exists_guardedBy {locales : Locales} {flat : FlatRoute φ} {route : Route φ}
    (h : flat.compile locales = .ok route) {fragments : List String} {leaf : String}
    (hpattern : flat.pattern = joinFragments (fragments ++ [leaf]))
    (hbare : ∀ fragment ∈ fragments, ∀ c ∈ fragment.toList, isBare c = true) :
    ∃ tail, route.GuardedBy (joinFragments fragments).toList tail := by
  obtain ⟨⟨hcompiled, hregex⟩, _, hroute⟩ := FlatRoute.compiled_of_compile h
  have hjoined := forall_mem_joinFragments (P := fun c => isBare c = true) (by decide) hbare
  rw [hroute, hpattern] at hcompiled
  obtain ⟨tail, hsource, hwhole⟩ := exists_source_of_joinFragments hcompiled hjoined
  refine ⟨tail, hsource, hwhole, ?_⟩
  intro hundivided text hmatch
  exact prefix_of_isMatch hregex hundivided hsource hjoined hmatch

namespace Router

theorem fragments_guard_leaf {r : Router φ} (hr : r.Reachable) {e : RouteEntry φ}
    (he : (r.insert e).2 = .ok ⟨⟩) {leaf : Leaf φ} (hleaf : leaf ∈ e.declared) {name : String}
    (hname : leaf.definition.fullName leaf.scope = .named name)
    (hbare : ∀ fragment ∈ leaf.scope.fragments, ∀ c ∈ fragment.toList, isBare c = true) :
    ∃ route tail, (r.insert e).1.route? name = some route ∧
      route.pattern = joinFragments (leaf.scope.fragments ++ [leaf.definition.pattern]) ∧
      route.GuardedBy (joinFragments leaf.scope.fragments).toList tail := by
  obtain ⟨flat, route, hflatten, hcompile, hroute⟩ :=
    exists_route_of_mem_declared hr he hleaf hname
  have hpattern := (RouteDefinition.flatten_eq_ok hflatten).2.1
  obtain ⟨tail, hguarded⟩ := FlatRoute.exists_guardedBy hcompile hpattern hbare
  refine ⟨route, tail, hroute, ?_, hguarded⟩
  rw [(FlatRoute.compiled_of_compile hcompile).2.2, hpattern]

theorem fragments_guard_leaf_grouped :
    let leaf : Leaf Unit :=
      { groups := [⟨some "admin", none, .withHandler .empty (.func ())⟩,
          ⟨none, some "users/", .empty⟩]
        definition :=
          ⟨some (.named "show"), "(?:edit|\x7b\x7bC:<id>[0-9]+\x7d\x7d)", .empty⟩ }
    let inserted := (empty : Router Unit).insert leaf.alone
    inserted.2 = .ok ⟨⟩ ∧ ∃ route, inserted.1.route? "admin/show" = some route ∧
      route.compiled.source = "/admin/users/(?:edit|(?P<id>[0-9]+))" ∧
      ∀ text, route.regex.isMatch text = true → "/admin/users/".toList <+: text.toList := by
  intro leaf inserted
  have hempty : (empty : Router Unit).Reachable := .start .empty
  have he : inserted.2 = .ok ⟨⟩ := Except.eq_ok_of_toOption (by decide +kernel)
  have hleaf : leaf ∈ leaf.alone.declared := .head _
  have hname : leaf.definition.fullName leaf.scope = .named "admin/show" := by decide +kernel
  have hjoined : joinFragments leaf.scope.fragments = "/admin/users/" := by decide +kernel
  have hbare : ∀ fragment ∈ leaf.scope.fragments, ∀ c ∈ fragment.toList, isBare c = true := by
    intro fragment hmem
    apply List.all_eq_true.1
    rcases List.mem_pair.1 hmem with rfl | rfl <;> decide
  obtain ⟨route, tail, hroute, _, hguarded⟩ := fragments_guard_leaf hempty he hleaf hname hbare
  have hcompiled : (inserted.1.route? "admin/show").map (·.compiled.source) =
      some "/admin/users/(?:edit|(?P<id>[0-9]+))" := by
    decide +kernel
  rw [hroute, Option.map_some, Option.some.injEq] at hcompiled
  have hsplit : "/admin/users/(?:edit|(?P<id>[0-9]+))".toList =
      "/admin/users/".toList ++ "(?:edit|(?P<id>[0-9]+))".toList := by
    decide +kernel
  obtain ⟨hsource, _, hguarded⟩ := hguarded
  rw [hcompiled, hjoined, hsplit] at hsource
  rw [hcompiled, hjoined] at hguarded
  cases List.append_cancel_left hsource
  exact ⟨he, route, hroute, hcompiled, hguarded (by decide +kernel)⟩

def leafBelow (fragment pattern : String) : RouteEntry Unit :=
  .group none (some fragment) .empty
    [.route ⟨some (.named "leaf"), pattern, .withHandler .empty (.func ())⟩]

def Escapes (fragment pattern text : String) : Prop :=
  let inserted := (empty : Router Unit).insert (leafBelow fragment pattern)
  inserted.2 = .ok ⟨⟩ ∧ fragment.toList.all isBare = true ∧
    ∃ route, inserted.1.route? "leaf" = some route ∧ route.regex.isMatch text = true ∧
      ¬ (joinFragments [fragment]).toList <+: text.toList

theorem escapes_of_reading {fragment pattern text : String} {n : Node} {caps : Captures}
    (h : let inserted := (empty : Router Unit).insert (leafBelow fragment pattern)
      let source := joinFragments [fragment, pattern]
      inserted.2.toOption = some ⟨⟩ ∧ fragment.toList.all isBare = true ∧
        (inserted.1.route? "leaf").map (·.compiled.source) = some source ∧
        ((Expr.read? (wrapped source).toList).bind fun e => (e.node? .initial 0).map fun read =>
          read.1.same (.joined [.assertion .textStart, n, .assertion .textEnd])) = some true ∧
        ¬ (joinFragments [fragment]).toList <+: text.toList)
    (hreading : n.reading [] text.toList [] caps) : Escapes fragment pattern text := by
  obtain ⟨hok, hbare, hsource, hnode, hescapes⟩ := h
  have hreachable : ((empty : Router Unit).insert (leafBelow fragment pattern)).1.Reachable :=
    .insert _ (.start .empty)
  obtain ⟨route, hroute, heq⟩ := Option.map_eq_some_iff.1 hsource
  have hmem := (hreachable.tabled.route?_eq_some_iff.1 hroute).1
  have hregex := (hreachable.tabled.compiled route hmem).regex
  rw [heq] at hregex
  have hanchored := (reading_anchored n [] text.toList [] caps).2 ⟨rfl, rfl, hreading⟩
  exact ⟨Except.eq_ok_of_toOption hok, hbare, route, hroute,
    isMatch_of_reading hregex hnode (by simp) hanchored, hescapes⟩

/-- A leaf with alternatives, one that ends the group around it, and one that repeats the slash of
the fragment. -/
theorem leaves_escape :
    Escapes "admin" "users|/public" "/public" ∧
      Escapes "admin" "users)?(?:/public" "/public" ∧ Escapes "shop/" "?sale" "/shopsale" := by
  have hleft_out (m : Reading) (b a : List Char) : m.rounds 0 (some 1) b [] a [] :=
    ⟨0, Nat.le_refl 0, fun _ _ => Nat.zero_le _, rfl, rfl⟩
  refine ⟨?_, ?_, ?_⟩
  · let n : Node := .alt [.literal "/admin/users".toList, .literal "/public".toList]
    have hreading : n.reading [] "/public".toList [] [] := .inr (.inl ⟨rfl, rfl⟩)
    exact escapes_of_reading (by decide +kernel) hreading
  · let n : Node := .seq [.loop 0 (some 1) true (.literal "/admin/users".toList),
      .literal "/public".toList]
    have hreading : n.reading [] "/public".toList [] [] := by
      refine ⟨[], "/public".toList, [], [], rfl, rfl, hleft_out _ _ _, ?_⟩
      exact ⟨"/public".toList, [], [], [], by simp, rfl, ⟨rfl, rfl⟩, rfl, rfl⟩
    exact escapes_of_reading (by decide +kernel) hreading
  · let n : Node := .seq [.literal "/shop".toList, .loop 0 (some 1) true (.literal ['/']),
      .literal "sale".toList]
    have hreading : n.reading [] "/shopsale".toList [] [] := by
      refine ⟨"/shop".toList, "sale".toList, [], [], by decide, rfl, ⟨rfl, rfl⟩, ?_⟩
      refine ⟨[], "sale".toList, [], [], rfl, rfl, hleft_out _ _ _, ?_⟩
      exact ⟨"sale".toList, [], [], [], by simp, rfl, ⟨rfl, rfl⟩, rfl, rfl⟩
    exact escapes_of_reading (by decide +kernel) hreading

end Router

end UrlRouter
