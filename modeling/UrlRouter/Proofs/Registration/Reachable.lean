import UrlRouter.Proofs.Except
import UrlRouter.Proofs.Registration.Steps
import UrlRouter.Proofs.Route.Leaves

/-!
Reachable routers. What an empty router has and adding an admitted route keeps holds of all of
them; among it the table of their routes: each is compiled from its pattern, and the index leads
from each name to the route of that name and nowhere else.
-/

namespace UrlRouter

variable {φ : Type}

structure Route.CompiledFor (route : Route φ) (locales : Locales) : Prop where
  compiled : compilePattern locales route.pattern = .ok route.compiled
  regex : Regex.compile? (Regex.wrapped route.compiled.source) = some route.regex

theorem FlatRoute.compiled_of_compile {locales : Locales} {f : FlatRoute φ} {route : Route φ}
    (h : f.compile locales = .ok route) :
    route.CompiledFor locales ∧ route.name = f.name ∧ route.pattern = f.pattern := by
  unfold compile at h
  split at h
  · cases h
  · next compiled hcompiled =>
    split at h
    · cases h
    · next regex hregex =>
      cases h
      exact ⟨⟨hcompiled, hregex⟩, rfl, rfl⟩

namespace Router

structure Admits (r : Router φ) (route : Route φ) : Prop where
  compiled : route.CompiledFor r.locales
  rooted : Rooted route.pattern
  fresh : r.Fresh route.name

inductive Reachable : Router φ → Prop where
  | start (locales : Locales) : Reachable (withLocales locales)
  | insert {r : Router φ} (e : RouteEntry φ) : Reachable r → Reachable (r.insert e).1
  | insertAll {r : Router φ} (es : List (RouteEntry φ)) : Reachable r → Reachable (r.insertAll es).1
  | nest {r : Router φ} (name : String) (es : List (RouteEntry φ)) :
      Reachable r → Reachable (r.nest name es).1

@[simp] theorem locales_add (r : Router φ) (route : Route φ) :
    (r.add route).locales = r.locales := by
  unfold add
  split <;> rfl

theorem errorRoute?_add (r : Router φ) (route : Route φ) (s : Status) :
    (r.add route).errorRoute? s =
      (r.errorRoute? s).or (if route.name = .error s then some route else none) := by
  unfold add errorRoute?
  cases hname : route.name with
  | named n => simp
  | error s' =>
    dsimp only
    rw [List.find?_append]
    by_cases h : s' = s
    · simp only [h, if_true]
      cases r.errors.find? _ <;> simp
    · simp [h]

theorem names_add (r : Router φ) (route : Route φ) (n : String) :
    (r.add route).names.get? n =
      if route.name = .named n then some r.routes.length else r.names.get? n := by
  unfold add
  cases hname : route.name with
  | named m =>
    simp only [Dict.get?_insert, RouteName.named.injEq]
  | error s => simp

theorem Fresh.add {r : Router φ} {route : Route φ} {name : RouteName} (h : r.Fresh name)
    (hne : route.name ≠ name) : (r.add route).Fresh name := by
  cases name with
  | named n =>
    change (r.add route).names.get? n = none
    rw [names_add, if_neg hne]
    exact h
  | error s =>
    change (r.add route).errorRoute? s = none
    rw [errorRoute?_add, if_neg hne, Option.or_none]
    exact h

theorem insert_induction {P : Router φ → Prop}
    (hadd : ∀ r route, P r → r.Admits route → P (r.add route)) {r : Router φ} (hr : P r)
    (e : RouteEntry φ) : P (r.insert e).1 := by
  rcases r.insert_cases e with
    ⟨⟨error, herr⟩, _⟩ | ⟨batch, ⟨⟨leaves, hleaves, hbatch⟩, hfresh, hne⟩, hok⟩
  · rw [herr]
    exact hr
  · rw [hok]
    have hcompiled : ∀ a ∈ batch, a.CompiledFor r.locales ∧ Rooted a.pattern := by
      intro a ha
      obtain ⟨flat, hflat, hcompile⟩ := Except.exists_of_mem_mapM hbatch ha
      obtain ⟨hfor, _, hpattern⟩ := FlatRoute.compiled_of_compile hcompile
      exact ⟨hfor, hpattern ▸ RouteEntry.rooted_of_leaves hleaves flat hflat⟩
    clear hok hbatch
    -- The names differ, so adding one route leaves those behind it admitted.
    induction batch generalizing r with
    | nil => exact hr
    | cons route batch ih =>
      obtain ⟨hroute, hne⟩ := List.pairwise_cons.1 hne
      obtain ⟨hfor, hrooted⟩ := hcompiled route (by simp)
      refine ih (hadd r route hr ⟨hfor, hrooted, hfresh route (by simp)⟩) ?_ hne ?_
      · intro a ha
        exact (hfresh a (by simp [ha])).add (hroute a ha)
      · intro a ha
        rw [locales_add]
        exact hcompiled a (by simp [ha])

theorem insertAll_induction {P : Router φ → Prop}
    (hadd : ∀ r route, P r → r.Admits route → P (r.add route)) {r : Router φ} (hr : P r)
    (es : List (RouteEntry φ)) : P (r.insertAll es).1 := by
  induction es generalizing r with
  | nil => exact hr
  | cons e es ih =>
    have hnext := insert_induction hadd hr e
    rcases hins : r.insert e with ⟨r', error | ⟨⟩⟩
    · rw [hins] at hnext
      rw [insertAll_cons_error hins]
      exact hnext
    · rw [hins] at hnext
      rw [insertAll_cons_ok hins]
      exact ih hnext

theorem Reachable.induction {P : Router φ → Prop} (hstart : ∀ locales, P (withLocales locales))
    (hadd : ∀ r route, P r → r.Admits route → P (r.add route)) {r : Router φ} (h : r.Reachable) :
    P r := by
  induction h with
  | start locales => exact hstart locales
  | insert e _ ih => exact insert_induction hadd ih e
  | nest name es _ ih => exact insert_induction hadd ih _
  | insertAll es _ ih => exact insertAll_induction hadd ih es

structure Tabled (r : Router φ) : Prop where
  compiled : ∀ route ∈ r.routes, route.CompiledFor r.locales
  indexed : ∀ n i, r.names.get? n = some i ↔
    ∃ route, r.routes[i]? = some route ∧ route.name = .named n

theorem Tabled.withLocales (locales : Locales) : (withLocales locales : Router φ).Tabled :=
  ⟨by simp [Router.withLocales], by simp [Router.withLocales]⟩

theorem routes_add_of_named {r : Router φ} {route : Route φ} {n : String}
    (h : route.name = .named n) : (r.add route).routes = r.routes ++ [route] := by
  simp [add, h]

theorem routes_add_of_error {r : Router φ} {route : Route φ} {s : Status}
    (h : route.name = .error s) : (r.add route).routes = r.routes := by
  simp [add, h]

theorem getElem?_concat_eq_some_iff {α : Type} {as : List α} {a b : α} {i : Nat} :
    (as ++ [a])[i]? = some b ↔ as[i]? = some b ∨ i = as.length ∧ a = b := by
  rcases Nat.lt_trichotomy i as.length with hlt | rfl | hgt
  · simp [List.getElem?_append_left hlt, Nat.ne_of_lt hlt]
  · simp
  · have hlong : (as ++ [a]).length ≤ i := by simpa using Nat.succ_le_of_lt hgt
    rw [List.getElem?_eq_none hlong, List.getElem?_eq_none (Nat.le_of_lt hgt)]
    simp [Nat.ne_of_gt hgt]

theorem Tabled.add_indexed {r : Router φ} {route : Route φ} {m : String} (h : r.Tabled)
    (hfresh : r.names.get? m = none) (hname : route.name = .named m) (n : String) (i : Nat) :
    (r.add route).names.get? n = some i ↔
      ∃ a, (r.add route).routes[i]? = some a ∧ a.name = .named n := by
  simp only [names_add, routes_add_of_named hname, getElem?_concat_eq_some_iff, hname,
    RouteName.named.injEq]
  by_cases hmn : m = n
  · subst hmn
    -- No older route has the name, so the index leads to the new one only.
    have hold : ∀ a, r.routes[i]? = some a → a.name ≠ .named m := fun a ha han => by
      have hi := (h.indexed m i).2 ⟨a, ha, han⟩
      rw [hfresh] at hi
      cases hi
    rw [if_pos rfl]
    constructor
    · intro hi
      cases hi
      exact ⟨route, .inr ⟨rfl, rfl⟩, hname⟩
    · rintro ⟨a, ha | ⟨rfl, rfl⟩, han⟩
      · exact absurd han (hold a ha)
      · rfl
  · rw [if_neg hmn, h.indexed n i]
    constructor
    · rintro ⟨a, ha, han⟩
      exact ⟨a, .inl ha, han⟩
    · rintro ⟨a, ha | ⟨rfl, rfl⟩, han⟩
      · exact ⟨a, ha, han⟩
      · rw [hname] at han
        exact absurd (RouteName.named.inj han) hmn

theorem Tabled.add {r : Router φ} {route : Route φ} (h : r.Tabled) (ha : r.Admits route) :
    (r.add route).Tabled := by
  cases hname : route.name with
  | error s =>
    refine ⟨?_, fun n i => ?_⟩
    · rw [routes_add_of_error hname, locales_add]
      exact h.compiled
    · rw [names_add, hname, if_neg (by simp), routes_add_of_error hname]
      exact h.indexed n i
  | named m =>
    have hfresh := ha.fresh
    rw [hname] at hfresh
    refine ⟨?_, h.add_indexed hfresh hname⟩
    rw [routes_add_of_named hname, locales_add]
    intro a hmem
    rcases List.mem_append.1 hmem with hmem | hmem
    · exact h.compiled a hmem
    · rw [List.mem_singleton.1 hmem]
      exact ha.compiled

theorem Reachable.tabled {r : Router φ} (h : r.Reachable) : r.Tabled :=
  h.induction Tabled.withLocales fun _ _ => Tabled.add

theorem Tabled.route?_eq {r : Router φ} (h : r.Tabled) {route : Route φ} (hroute : route ∈ r.routes)
    {name : String} (hname : route.name = .named name) : r.route? name = some route := by
  obtain ⟨i, hi⟩ := List.getElem?_of_mem hroute
  have hindex := (h.indexed name i).2 ⟨route, hi, hname⟩
  simp [route?, hindex, hi]

theorem routes_foldl_add (batch : List (Route φ)) (r : Router φ) :
    (batch.foldl add r).routes =
      r.routes ++ batch.filter fun route => route.name.status?.isNone := by
  induction batch generalizing r with
  | nil => simp
  | cons route batch ih =>
    rw [List.foldl_cons, ih]
    cases hname : route.name with
    | named n => simp [routes_add_of_named hname, hname, RouteName.status?]
    | error s => simp [routes_add_of_error hname, hname, RouteName.status?]

theorem errors_foldl_add (batch : List (Route φ)) (r : Router φ) :
    (batch.foldl add r).errors =
      r.errors ++ batch.filterMap fun route => route.name.status?.map fun s => (s, route) := by
  induction batch generalizing r with
  | nil => simp
  | cons route batch ih =>
    rw [List.foldl_cons, ih]
    cases hname : route.name with
    | named n => simp [add, hname, RouteName.status?]
    | error s => simp [add, hname, RouteName.status?]

theorem size_foldl_add (batch : List (Route φ)) (r : Router φ) :
    (batch.foldl add r).size = r.size + batch.length := by
  have hadd (r : Router φ) (route : Route φ) : (r.add route).size = r.size + 1 := by
    unfold add
    split <;> simp [size] <;> omega
  induction batch generalizing r with
  | nil => rfl
  | cons route batch ih =>
    rw [List.foldl_cons, ih, hadd, List.length_cons]
    omega

theorem exists_route_of_mem_declared {r : Router φ} (hr : r.Reachable) {e : RouteEntry φ}
    (he : (r.insert e).2 = .ok ⟨⟩) {leaf : Leaf φ} (hleaf : leaf ∈ e.declared) {name : String}
    (hname : leaf.definition.fullName leaf.scope = .named name) :
    ∃ flat route, leaf.flatten = .ok flat ∧ flat.compile r.locales = .ok route ∧
      (r.insert e).1.route? name = some route := by
  have htabled := (Reachable.insert e hr).tabled
  rcases r.insert_cases e with ⟨⟨error, herr⟩, _⟩ | ⟨batch, ⟨⟨leaves, hleaves, hbatch⟩, _⟩, hok⟩
  · rw [herr] at he
    cases he
  · obtain ⟨flat, hflat, hflatten⟩ := e.exists_flat_of_mem_declared hleaves hleaf
    obtain ⟨route, hroute, hcompile⟩ := Except.exists_mem_of_mapM hbatch hflat
    have hroutename : route.name = .named name := by
      rw [(FlatRoute.compiled_of_compile hcompile).2.1,
        (RouteDefinition.flatten_eq_ok hflatten).1, hname]
    refine ⟨flat, route, hflatten, hcompile, htabled.route?_eq ?_ hroutename⟩
    rw [hok, routes_foldl_add, List.mem_append, List.mem_filter, hroutename]
    exact .inr ⟨hroute, rfl⟩

theorem locales_insert (r : Router φ) (e : RouteEntry φ) : (r.insert e).1.locales = r.locales :=
  insert_induction (P := fun r' => r'.locales = r.locales)
    (fun r' route h _ => (locales_add r' route).trans h) rfl e

theorem exists_reachable_single_of (locales : Locales) (name pattern : String)
    (settings : RouteSettings Unit) (urlize : Bool)
    (h : ((withLocales locales).insert
        (.route ⟨some (.named name), pattern, settings⟩)).1.routes.map
        (fun route : Route Unit => (route.name, route.pattern, route.urlize, route.accepts .get,
          route.settings.inputs.isEmpty)) = [(.named name, pattern, urlize, true, true)]) :
    ∃ (r : Router Unit) (route : Route Unit), r.Reachable ∧ r.locales = locales ∧
      r.routes = [route] ∧ route.name = .named name ∧ route.pattern = pattern ∧
      route.urlize = urlize ∧ route.accepts .get = true ∧ route.settings.inputs = [] := by
  obtain ⟨route, rest, hroutes, hroute, hrest⟩ := List.map_eq_cons_iff.1 h
  obtain rfl := List.map_eq_nil_iff.1 hrest
  simp only [Prod.mk.injEq, List.isEmpty_iff] at hroute
  exact ⟨_, route, .insert _ (.start locales), locales_insert _ _, hroutes, hroute⟩

theorem exists_reachable_single (locales : Locales) (name pattern : String)
    (h : ((withLocales locales).insert (.route ⟨some (.named name), pattern,
        .withHandler .empty (.func ())⟩)).1.routes.map (fun route : Route Unit =>
          (route.name, route.pattern, route.urlize, route.accepts .get,
            route.settings.inputs.isEmpty)) = [(.named name, pattern, true, true, true)]) :
    ∃ (r : Router Unit) (route : Route Unit), r.Reachable ∧ r.locales = locales ∧
      r.routes = [route] ∧ route.name = .named name ∧ route.pattern = pattern ∧
      route.urlize = true ∧ route.accepts .get = true ∧ route.settings.inputs = [] :=
  exists_reachable_single_of locales name pattern _ true h

end Router

end UrlRouter
