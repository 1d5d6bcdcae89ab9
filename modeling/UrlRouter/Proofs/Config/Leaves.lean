import UrlRouter.Proofs.Config.Entries
import UrlRouter.Proofs.Registration.Grouping

/-!
Leaves of sources, each with the tables of the groups around it. The router of a source has one
route for each of them: those for statuses stand apart from the others, and both are in the order
in which they are written.
-/

namespace UrlRouter

variable {φ : Type}

inductive LeafSource where
  | line (text : String)
  | table (t : TableSpec)

structure LeafSpec where
  groups : List TableSpec
  source : LeafSource

mutual

def RouteSpec.leavesBelow (groups : List TableSpec) : RouteSpec → List LeafSpec
  | .line text => [⟨groups, .line text⟩]
  | .leaf t => [⟨groups, .table t⟩]
  | .group t children => leafSpecsBelow (groups ++ [t]) children

def leafSpecsBelow (groups : List TableSpec) : List RouteSpec → List LeafSpec
  | [] => []
  | spec :: specs => spec.leavesBelow groups ++ leafSpecsBelow groups specs

end

def RouteSource.leaves (s : RouteSource) : List LeafSpec := leafSpecsBelow [] s.routes

def TableSpec.title? (t : TableSpec) : Option String :=
  match t.name with
  | some (.text name) => some name
  | _ => none

def TableSpec.fragment? (t : TableSpec) : Option String := t.pattern.or t.title?

def TableSpec.enclosure (t : TableSpec) : Except ConfigError (Enclosure φ) := do
  let settings ← t.settings
  let name ← t.groupName
  return ⟨name, t.pattern, settings⟩

namespace LeafSource

def status? : LeafSource → Option Status
  | .line text => errorStatus? (linePattern text)
  | .table t =>
      match t.name with
      | some (.status code) => Status.of? code
      | some (.text name) => errorStatus? name
      | none => none

def fragment : LeafSource → String
  | .line text => linePattern text
  | .table t => t.pattern.getD ""

def definition : LeafSource → Except ConfigError (RouteDefinition φ)
  | .line text => (RouteDefinition.ofLine text).mapError .router
  | .table t => do
      let settings ← t.settings
      let route : RouteDefinition φ ← t.definition
      return { route with settings }

end LeafSource

namespace LeafSpec

def pattern (spec : LeafSpec) : String :=
  joinFragments ((spec.groups.flatMap fun t => t.fragment?.toList) ++ [spec.source.fragment])

structure Reads (spec : LeafSpec) (leaf : Leaf φ) : Prop where
  groups : spec.groups.mapM TableSpec.enclosure = .ok leaf.groups
  definition : spec.source.definition = .ok leaf.definition

def Registers (locales : Locales) (spec : LeafSpec) (route : Route φ) : Prop :=
  ∃ (leaf : Leaf φ) (flat : FlatRoute φ),
    spec.Reads leaf ∧ leaf.Yields flat ∧ flat.compile locales = .ok route

end LeafSpec

theorem TableSpec.title_of_groupName {t : TableSpec} {name : Option String}
    (h : t.groupName = .ok name) : t.title? = name := by
  unfold groupName at h
  unfold title?
  split at h
  · next hname =>
    cases h
    rw [hname]
  · next hname =>
    cases h
    rw [hname]
  · cases h

theorem TableSpec.enclosure_eq_ok_iff {t : TableSpec} {g : Enclosure φ} :
    t.enclosure = .ok g ↔ ∃ settings, t.settings = .ok settings ∧ ∃ name, t.groupName = .ok name ∧
      g = ⟨name, t.pattern, settings⟩ := by
  simp only [enclosure, Except.bind_eq_ok_iff, Except.pure_eq_ok_iff]

theorem RouteName.status?_ofString (name : String) :
    (RouteName.ofString name).status? = errorStatus? name := by
  unfold ofString
  cases errorStatus? name <;> rfl

theorem RouteDefinition.status?_fullName (d : RouteDefinition φ) (scope : Scope) :
    (d.fullName scope).status? = d.name.bind RouteName.status? := by
  unfold fullName
  rcases d.name with _ | name | status <;> rfl

theorem TableSpec.name_of_definition {t : TableSpec} {d : RouteDefinition φ}
    (h : t.definition = .ok d) : d.name.bind RouteName.status? = (LeafSource.table t).status? ∧
      ((LeafSource.table t).status? = none → d.pattern = (LeafSource.table t).fragment) := by
  simp only [LeafSource.status?, LeafSource.fragment]
  rw [definition] at h
  generalize t.name = name at h ⊢
  generalize t.pattern = pattern at h ⊢
  match name, pattern with
  | some (.status code), _ =>
    obtain ⟨status, hstatus, rfl⟩ := Except.map_eq_ok_iff.1 h
    have hof : Status.of? code = some status := by
      unfold statusOf at hstatus
      cases hof : Status.of? code with
      | none => simp [hof] at hstatus
      | some s => simpa [hof] using hstatus
    exact ⟨hof.symm, fun hnone => by simp [hof] at hnone⟩
  | some (.text name), _ =>
    cases h
    exact ⟨RouteName.status?_ofString name, fun _ => rfl⟩
  | none, some pattern =>
    cases h
    exact ⟨rfl, fun _ => rfl⟩
  | none, none => cases h

namespace LeafSource

variable {source : LeafSource} {d : RouteDefinition φ}

theorem name_of_definition (h : source.definition = .ok d) :
    d.name.bind RouteName.status? = source.status? ∧
      (source.status? = none → d.pattern = source.fragment) := by
  cases source with
  | line text =>
    rw [definition] at h
    cases hline : RouteDefinition.ofLine (φ := φ) text with
    | error error =>
      rw [hline] at h
      cases h
    | ok line =>
      rw [hline] at h
      cases h
      obtain ⟨hname, hpattern, _⟩ := RouteDefinition.ofLine_eq_ok hline
      refine ⟨?_, hpattern⟩
      rw [hname, status?]
      cases errorStatus? (linePattern text) <;> rfl
  | table t =>
    obtain ⟨settings, _, h⟩ := Except.bind_eq_ok_iff.1 h
    obtain ⟨route, hroute, h⟩ := Except.bind_eq_ok_iff.1 h
    cases h
    have hname := TableSpec.name_of_definition hroute
    exact hname

end LeafSource

theorem fragments_scopeOf (groups : List (Enclosure φ)) :
    (scopeOf groups).fragments = groups.flatMap fun g => (g.fragment.or g.name).toList := by
  induction groups using List.reverseRecOn with
  | nil => rfl
  | append_singleton groups g ih =>
    rw [scopeOf_concat, Scope.enter, ih, List.flatMap_append, List.flatMap_singleton]

theorem fragments_of_enclosures {ts : List TableSpec} {groups : List (Enclosure φ)}
    (h : ts.mapM TableSpec.enclosure = .ok groups) :
    (scopeOf groups).fragments = ts.flatMap fun t => t.fragment?.toList := by
  rw [fragments_scopeOf]
  have hall := Except.forall₂_of_mapM h
  clear h
  induction hall with
  | nil => rfl
  | @cons t g ts groups ht _ ih =>
    obtain ⟨_, _, name, hname, rfl⟩ := TableSpec.enclosure_eq_ok_iff.1 ht
    rw [List.flatMap_cons, List.flatMap_cons, TableSpec.fragment?,
      TableSpec.title_of_groupName hname, ih]

namespace LeafSpec

theorem Reads.status {spec : LeafSpec} {leaf : Leaf φ} (h : spec.Reads leaf) :
    (leaf.definition.fullName leaf.scope).status? = spec.source.status? := by
  rw [RouteDefinition.status?_fullName]
  exact (LeafSource.name_of_definition h.definition).1

theorem Registers.status {locales : Locales} {spec : LeafSpec} {route : Route φ}
    (h : spec.Registers locales route) : route.name.status? = spec.source.status? := by
  obtain ⟨leaf, flat, hreads, hyields, hcompile⟩ := h
  rw [(FlatRoute.compiled_of_compile hcompile).2.1, hyields.name, hreads.status]

theorem Registers.pattern {locales : Locales} {spec : LeafSpec} {route : Route φ}
    (h : spec.Registers locales route) (hstatus : spec.source.status? = none) :
    route.pattern = spec.pattern := by
  obtain ⟨leaf, flat, hreads, hyields, hcompile⟩ := h
  rw [(FlatRoute.compiled_of_compile hcompile).2.2, hyields.pattern, Leaf.scope,
    fragments_of_enclosures hreads.groups,
    (LeafSource.name_of_definition hreads.definition).2 hstatus]
  rfl

end LeafSpec

mutual

theorem RouteSpec.forall₂_reads {ts : List TableSpec} {groups : List (Enclosure φ)}
    (hgroups : ts.mapM TableSpec.enclosure = .ok groups) :
    ∀ (spec : RouteSpec) {e : RouteEntry φ} {scope : Scope} {inherited : RouteSettings φ}
      {flats : List (FlatRoute φ)}, spec.toEntry = .ok e → e.flatten scope inherited = .ok flats →
        List.Forall₂ LeafSpec.Reads (spec.leavesBelow ts) (e.leavesBelow groups)
  | .line text, e, scope, inherited, flats, he, hflats => by
    -- A line that cannot be read is no leaf of the entry, but then the entry is not flattened.
    rw [RouteSpec.toEntry] at he
    cases he
    rw [RouteEntry.flatten] at hflats
    rw [RouteSpec.leavesBelow, RouteEntry.leavesBelow]
    cases hline : RouteDefinition.ofLine (φ := φ) text with
    | error error =>
      rw [hline] at hflats
      cases hflats
    | ok d =>
      refine .cons ⟨hgroups, ?_⟩ .nil
      rw [LeafSource.definition, hline]
      rfl
  | .leaf t, e, scope, inherited, flats, he, hflats => by
    obtain ⟨settings, hsettings, d, hd, rfl⟩ := RouteSpec.toEntry_leaf_eq_ok_iff.1 he
    rw [RouteSpec.leavesBelow, RouteEntry.leavesBelow]
    refine .cons ⟨hgroups, ?_⟩ .nil
    exact Except.bind_eq_ok_iff.2 ⟨settings, hsettings, Except.bind_eq_ok_iff.2 ⟨d, hd, rfl⟩⟩
  | .group t children, e, scope, inherited, flats, he, hflats => by
    obtain ⟨settings, hsettings, name, hname, es, hes, rfl⟩ :=
      RouteSpec.toEntry_group_eq_ok_iff.1 he
    rw [RouteEntry.flatten] at hflats
    rw [RouteSpec.leavesBelow, RouteEntry.leavesBelow]
    split at hflats
    · cases hflats
    · refine forall₂_readsOfAll ?_ children hes hflats
      have ht : t.enclosure = .ok ⟨name, t.pattern, settings⟩ :=
        TableSpec.enclosure_eq_ok_iff.2 ⟨settings, hsettings, name, hname, rfl⟩
      exact Except.mapM_append_eq_ok_iff.2 ⟨_, _, hgroups,
        Except.mapM_cons_eq_ok_iff.2 ⟨_, [], ht, rfl, rfl⟩, rfl⟩

theorem forall₂_readsOfAll {ts : List TableSpec} {groups : List (Enclosure φ)}
    (hgroups : ts.mapM TableSpec.enclosure = .ok groups) :
    ∀ (specs : List RouteSpec) {es : List (RouteEntry φ)} {scope : Scope}
      {inherited : RouteSettings φ} {flats : List (FlatRoute φ)}, toEntries specs = .ok es →
        flattenAll scope inherited es = .ok flats →
        List.Forall₂ LeafSpec.Reads (leafSpecsBelow ts specs) (leavesBelowOfAll groups es)
  | [], es, scope, inherited, flats, hes, _ => by
    rw [toEntries] at hes
    cases hes
    rw [leafSpecsBelow, leavesBelowOfAll]
    exact .nil
  | spec :: specs, es, scope, inherited, flats, hes, hflats => by
    obtain ⟨e, he, rest, hrest, rfl⟩ := RouteSpec.toEntries_cons_eq_ok_iff.1 hes
    rw [flattenAll] at hflats
    rw [leafSpecsBelow, leavesBelowOfAll]
    split at hflats
    · cases hflats
    · next first hfirst =>
      obtain ⟨more, hmore, _⟩ := Except.map_eq_ok_iff.1 hflats
      exact List.rel_append (RouteSpec.forall₂_reads hgroups spec he hfirst)
        (forall₂_readsOfAll hgroups specs hrest hmore)

end

theorem forall₂_comp {α β γ : Type} {R : α → β → Prop} {S : β → γ → Prop} {as : List α}
    {bs : List β} {cs : List γ} (h : List.Forall₂ R as bs) (h' : List.Forall₂ S bs cs) :
    List.Forall₂ (fun a c => ∃ b, R a b ∧ S b c) as cs := by
  induction h generalizing cs with
  | nil =>
    cases h'
    exact .nil
  | cons hfirst _ ih =>
    cases h' with
    | cons hsecond hrest => exact .cons ⟨_, hfirst, hsecond⟩ (ih hrest)

namespace RouteSource

variable {s : RouteSource} {r : Router φ}

theorem exists_batch_of_toRouter (h : s.toRouter = .ok r) :
    ∃ batch : List (Route φ), r = batch.foldl Router.add (.withLocales s.knownLocales) ∧
      List.Forall₂ (LeafSpec.Registers s.knownLocales) s.leaves batch := by
  obtain ⟨es, hes, hinsert⟩ := toRouter_eq_ok_iff.1 h
  obtain ⟨flats, batch, hflats, hbatch, rfl⟩ := Router.exists_batch_of_insertAll hinsert
  refine ⟨batch, rfl, ?_⟩
  have hnone : ([] : List TableSpec).mapM TableSpec.enclosure = .ok ([] : List (Enclosure φ)) := rfl
  have hreads : List.Forall₂ LeafSpec.Reads s.leaves (leavesBelowOfAll [] es) :=
    forall₂_readsOfAll hnone s.routes hes hflats
  have hyields : List.Forall₂ Leaf.Yields (leavesBelowOfAll [] es) flats := by
    refine (forall₂_flattensToOfAll [] es hflats).imp ?_
    rintro leaf flat ⟨hflat, inner, hgroups, hfits⟩
    exact leaf.yields_of_flatten hflat (by rw [hgroups]; exact hfits)
  refine (forall₂_comp (forall₂_comp hreads hyields) (Except.forall₂_of_mapM hbatch)).imp ?_
  rintro spec route ⟨flat, ⟨leaf, hreads, hyields⟩, hcompile⟩
  exact ⟨leaf, flat, hreads, hyields, hcompile⟩

theorem leaves_registered (s : RouteSource) :
    (∀ r : Router φ, s.toRouter = .ok r →
      r.size = s.leaves.length ∧
      List.Forall₂
        (fun spec route => spec.Registers s.knownLocales route ∧ route.pattern = spec.pattern)
        (s.leaves.filter fun spec => spec.source.status?.isNone) r.routes ∧
      List.Forall₂
        (fun spec e => spec.Registers s.knownLocales e.2 ∧ spec.source.status? = some e.1)
        (s.leaves.filter fun spec => spec.source.status?.isSome) r.errors) ∧
    ((∃ error, (s.entries : Except ConfigError (List (RouteEntry φ))) = .error error) ↔
      ∃ spec : RouteSpec, spec.Within s.routes ∧ spec.Faulty) := by
  refine ⟨fun r hr => ?_, RouteSpec.exists_error_toEntries_iff φ⟩
  obtain ⟨batch, rfl, hall⟩ := exists_batch_of_toRouter hr
  refine ⟨?_, ?_, ?_⟩
  · rw [Router.size_foldl_add, hall.length_eq]
    exact Nat.zero_add _
  · have hpaths : ∀ spec ∈ s.leaves.filter fun spec => spec.source.status?.isNone,
        spec.source.status? = none := by simp
    have hrouted := List.rel_filter (R := LeafSpec.Registers s.knownLocales)
      (p := fun spec => spec.source.status?.isNone) (q := fun route => route.name.status?.isNone)
      (fun spec route h => by simp [h.status]) hall
    rw [Router.routes_foldl_add]
    exact ((List.forall₂_and_left _ _).2 ⟨hpaths, hrouted⟩).imp
      fun spec route ⟨hnone, h⟩ => ⟨h, h.pattern hnone⟩
  · rw [Router.errors_foldl_add, ← List.filterMap_eq_filter]
    refine List.rel_filterMap ?_ hall
    intro spec route h
    have hstatus := h.status
    cases hs : spec.source.status? with
    | none =>
      rw [hs] at hstatus
      simp [Option.guard, hs, hstatus]
    | some status =>
      rw [hs] at hstatus
      simp [Option.guard, hs, hstatus, h]

theorem leaves_registered_nested :
    let table : TableSpec := ⟨none, none, none, none, [], .empty, .empty, none⟩
    let admin : TableSpec := { table with name := some (.text "admin") }
    let api : TableSpec := { table with name := some (.text "api"), pattern := some "/v1" }
    let users : TableSpec :=
      { table with
        name := some (.text "users"), pattern := some "list", handler := some (.text "Users") }
    let specs : List RouteSpec := [.group admin [.group api [.leaf users, .line "404 >>> Missing"]],
      .line "GET /about >>> About"]
    let s : RouteSource := ⟨[], ⟨.empty⟩, specs⟩
    let faulty : RouteSource :=
      ⟨[], ⟨.empty⟩, [.group admin [.group { table with name := some (.status 404) } []]]⟩
    (∃ r : Router Unit, s.toRouter = .ok r ∧ r.size = s.leaves.length ∧ r.size = 3 ∧
      r.routes.map Route.pattern = ["/admin/v1/list", "/about"] ∧
      List.Forall₂
        (fun spec route => spec.Registers s.knownLocales route ∧ route.pattern = spec.pattern)
        (s.leaves.filter fun spec => spec.source.status?.isNone) r.routes) ∧
      ∃ error, (faulty.entries : Except ConfigError (List (RouteEntry Unit))) = .error error := by
  intro table admin api users specs s faulty
  constructor
  · have hcomputed : (s.toRouter : Except ConfigError (Router Unit)).toOption.map
        (fun r => (r.size, r.routes.map Route.pattern)) =
          some (3, ["/admin/v1/list", "/about"]) := by
      decide +kernel
    obtain ⟨r, hr, hboth⟩ := Option.map_eq_some_iff.1 hcomputed
    rw [Prod.mk.injEq] at hboth
    have hok := Except.eq_ok_of_toOption hr
    obtain ⟨hsize, hroutes, _⟩ := (leaves_registered s).1 r hok
    exact ⟨r, hok, hsize, hboth.1, hboth.2, hroutes⟩
  · exact (leaves_registered faulty).2.2
      ⟨_, .nested List.mem_cons_self (.listed List.mem_cons_self), .groupOfStatus rfl⟩

end RouteSource

end UrlRouter
