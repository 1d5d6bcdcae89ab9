import Mathlib.Data.List.Nodup
import UrlRouter.Proofs.Regex.Means
import UrlRouter.Proofs.Registration.Reachable

namespace UrlRouter

variable {φ : Type}

theorem Regex.source_of_compile? {source : String} {r : Regex} (h : Regex.compile? source = some r) :
    r.source = source := by
  obtain ⟨_, _, _, _, _, rfl⟩ := exists_node_of_compile? h
  rfl

namespace Router

def stored (r : Router φ) : List (Route φ) := r.routes ++ r.errors.map (·.2)

theorem mem_stored_add {r : Router φ} {route a : Route φ} (h : a ∈ (r.add route).stored) :
    a ∈ r.stored ∨ a = route := by
  unfold add at h
  split at h
  all_goals
    simp only [stored, List.map_append, List.mem_append, List.map_cons, List.map_nil,
      List.mem_singleton] at h ⊢
    tauto

structure Filed (r : Router φ) : Prop where
  named : ∀ route ∈ r.routes, ∃ n, route.name = .named n
  errors : ∀ e ∈ r.errors, e.2.name = .error e.1
  statuses : (r.errors.map (·.1)).Nodup
  prepared : ∀ route ∈ r.stored, route.CompiledFor r.locales ∧ Rooted route.pattern

theorem Filed.withLocales (locales : Locales) : (withLocales locales : Router φ).Filed := by
  constructor <;> simp [Router.withLocales, stored]

theorem errorRoute?_eq_none_iff {r : Router φ} {s : Status} :
    r.errorRoute? s = none ↔ s ∉ r.errors.map (·.1) := by
  simp only [errorRoute?, Option.map_eq_none_iff, List.find?_eq_none, decide_eq_true_eq,
    List.mem_map, not_exists, not_and]

theorem Filed.add {r : Router φ} {route : Route φ} (h : r.Filed) (ha : r.Admits route) :
    (r.add route).Filed := by
  have hprepared : ∀ a ∈ (r.add route).stored,
      a.CompiledFor (r.add route).locales ∧ Rooted a.pattern := by
    intro a hmem
    rw [locales_add]
    rcases mem_stored_add hmem with hmem | rfl
    · exact h.prepared a hmem
    · exact ⟨ha.compiled, ha.rooted⟩
  have hfresh := ha.fresh
  cases hname : route.name with
  | named n =>
    have herrors : (r.add route).errors = r.errors := by simp [Router.add, hname]
    refine ⟨?_, herrors ▸ h.errors, herrors ▸ h.statuses, hprepared⟩
    rw [routes_add_of_named hname]
    intro a hmem
    rcases List.mem_append.1 hmem with hmem | hmem
    · exact h.named a hmem
    · exact ⟨n, List.mem_singleton.1 hmem ▸ hname⟩
  | error s =>
    have herrors : (r.add route).errors = r.errors ++ [(s, route)] := by simp [Router.add, hname]
    rw [hname] at hfresh
    have hs : s ∉ r.errors.map (·.1) := errorRoute?_eq_none_iff.1 hfresh
    refine ⟨(routes_add_of_error hname).symm ▸ h.named, ?_, ?_, hprepared⟩
    · rw [herrors]
      intro e hmem
      rcases List.mem_append.1 hmem with hmem | hmem
      · exact h.errors e hmem
      · rw [List.mem_singleton.1 hmem]
        exact hname
    · rw [herrors, List.map_append, List.map_singleton, ← List.concat_eq_append]
      exact h.statuses.concat hs

theorem Reachable.filed {r : Router φ} (h : r.Reachable) : r.Filed :=
  h.induction Filed.withLocales fun _ _ => Filed.add

theorem Filed.errorRoute?_eq_some_iff {r : Router φ} (h : r.Filed) {s : Status}
    {route : Route φ} : r.errorRoute? s = some route ↔ (s, route) ∈ r.errors := by
  have hstatuses := h.statuses
  unfold errorRoute?
  generalize r.errors = es at hstatuses
  induction es with
  | nil => simp
  | cons e es ih =>
    obtain ⟨s', a⟩ := e
    rw [List.map_cons, List.nodup_cons] at hstatuses
    obtain ⟨hnot, hstatuses⟩ := hstatuses
    by_cases hs : s' = s
    · subst hs
      have hmem : (s', route) ∉ es := fun hmem =>
        hnot (List.mem_map.2 ⟨_, hmem, rfl⟩)
      simp [hmem, eq_comm]
    · simpa [hs, Ne.symm hs] using ih hstatuses

theorem Filed.nodup_names {r : Router φ} (h : r.Filed) (htabled : r.Tabled) :
    (r.routes.map (·.name)).Nodup := by
  rw [List.nodup_iff_getElem?_ne_getElem?]
  intro i j hij hj heq
  have hjlt : j < r.routes.length := by simpa using hj
  have hi := List.getElem?_eq_getElem (Nat.lt_trans hij hjlt)
  have hj := List.getElem?_eq_getElem hjlt
  have hsame : r.routes[i].name = r.routes[j].name := by simpa [hi, hj] using heq
  obtain ⟨n, hn⟩ := h.named _ (List.getElem_mem hjlt)
  -- The index leads from the name of both to one place.
  have hplace := (htabled.indexed n i).2 ⟨_, hi, hsame.trans hn⟩
  rw [(htabled.indexed n j).2 ⟨_, hj, hn⟩] at hplace
  exact Nat.ne_of_gt hij (Option.some.inj hplace)

theorem Tabled.route?_eq_some_iff {r : Router φ} (h : r.Tabled) {n : String} {route : Route φ} :
    r.route? n = some route ↔ route ∈ r.routes ∧ route.name = .named n := by
  constructor
  · intro hroute
    obtain ⟨i, hi, hroute⟩ := Option.bind_eq_some_iff.1 hroute
    obtain ⟨a, ha, hname⟩ := (h.indexed n i).1 hi
    cases ha.symm.trans hroute
    exact ⟨List.mem_of_getElem? ha, hname⟩
  · rintro ⟨hmem, hname⟩
    exact h.route?_eq hmem hname

theorem table_of_reachable {r : Router φ} (h : r.Reachable) :
    (∀ route ∈ r.routes, ∃ n, route.name = .named n) ∧
    (∀ n i, r.names.get? n = some i ↔
      ∃ route, r.routes[i]? = some route ∧ route.name = .named n) ∧
    (r.routes.map (·.name)).Nodup ∧
    (∀ n route, r.route? n = some route ↔ route ∈ r.routes ∧ route.name = .named n) ∧
    (∀ s route, (s, route) ∈ r.errors → route.name = .error s) ∧
    (∀ s route, r.errorRoute? s = some route ↔ (s, route) ∈ r.errors) ∧
    ((r.errors.map (·.1)).Nodup ∧ r.size = r.routes.length + r.errors.length) ∧
    ∀ route, (route ∈ r.routes ∨ ∃ s, (s, route) ∈ r.errors) →
      route.pattern.toList.head? = some '/' ∧
      compilePattern r.locales route.pattern = .ok route.compiled ∧
      Regex.compile? (Regex.wrapped route.compiled.source) = some route.regex ∧
      route.regex.source = "^(?:" ++ route.compiled.source ++ ")$" := by
  have hfiled := h.filed
  have htabled := h.tabled
  refine ⟨hfiled.named, htabled.indexed, hfiled.nodup_names htabled,
    fun n route => htabled.route?_eq_some_iff, fun s route hmem => hfiled.errors _ hmem,
    fun s route => hfiled.errorRoute?_eq_some_iff, ⟨hfiled.statuses, rfl⟩, ?_⟩
  intro route hmem
  have hstored : route ∈ r.stored := by
    rw [stored, List.mem_append, List.mem_map]
    exact hmem.imp id fun ⟨s, hs⟩ => ⟨_, hs, rfl⟩
  obtain ⟨⟨hcompiled, hregex⟩, hrooted⟩ := hfiled.prepared route hstored
  exact ⟨hrooted, hcompiled, hregex, Regex.source_of_compile? hregex⟩

theorem table_of_reachable_refused :
    let first := (empty : Router Unit).insertAll
      [.line "/a >>> A", .line "404 >>> Missing", .line "/a >>> B", .line "/b >>> B"]
    let second := first.1.nest "g" [.line "c >>> C", .line "GET c >>> C"]
    let r := (second.1.insert (.group none none .empty [.line "/d >>> D", .line "404 >>> D"])).1
    r.Reachable ∧ first.2.toBool = false ∧ second.2.toBool = true ∧
      r.names.entries = [("a", 0), ("g/c", 1), ("g/c@GET", 2)] ∧
      r.size = r.routes.length + r.errors.length ∧ r.size = 4 ∧
      (∀ n i, r.names.get? n = some i ↔
        ∃ route, r.routes[i]? = some route ∧ route.name = .named n) ∧
      ∀ n route, r.route? n = some route ↔ route ∈ r.routes ∧ route.name = .named n := by
  intro first second r
  have hr : r.Reachable := .insert _ (.nest _ _ (.insertAll _ (.start _)))
  obtain ⟨_, hindexed, _, hroute, _, _, ⟨_, hsize⟩, _⟩ := table_of_reachable hr
  exact ⟨hr, by decide +kernel, by decide +kernel, by decide +kernel, hsize, by decide +kernel,
    hindexed, hroute⟩

end Router

end UrlRouter
