import UrlRouter.Dispatch.CacheHeaders
import UrlRouter.Proofs.Config.Entries
import UrlRouter.Proofs.Registration.Table

/-!
Options of registered routes. Entries whose settings are built call by call, or read from a source,
are refused where an option has been refused, on whatever level. So the routes of a router keep no
value aside that is meant to be a switch or a time, and are cached for a year at most.
-/

namespace UrlRouter

variable {φ : Type}

structure RouteOptions.Clean (o : RouteOptions) : Prop where
  urlize : o.extra.get? urlizeKey = none
  cache : o.extra.get? cacheKey = none
  time : ∀ ttl ∈ o.cache, ttl.nanos ≤ maxCache.nanos

theorem RouteOptions.KeepsRefused.clean {o : RouteOptions} (h : o.KeepsRefused) (hvalid : o.Valid) :
    o.Clean := by
  have hnone {key : String} (hkey : key = urlizeKey ∨ key = cacheKey) :
      o.extra.get? key = none := by
    rw [Option.eq_none_iff_forall_ne_some]
    exact fun value hvalue => hvalid.extra key value hvalue (h key value hkey hvalue)
  exact ⟨hnone (.inl rfl), hnone (.inr rfl), hvalid.cache⟩

theorem FlatRoute.settings_of_compile {locales : Locales} {f : FlatRoute φ} {route : Route φ}
    (h : f.compile locales = .ok route) : route.settings = f.settings := by
  unfold compile at h
  split at h
  · cases h
  · split at h
    · cases h
    · cases h
      rfl

theorem Response.maxAge_of_le {ttl : Duration} (h : ttl.nanos ≤ RouteOptions.maxCache.nanos)
    (res : Response) (now : Instant) :
    (res.withCacheHeaders now ttl).headers.values "cache-control" =
      ["public, max-age=" ++ String.ofList (natText ttl.seconds)] := by
  have hcapped : ttl.capped = ttl := by rw [Duration.capped, Nat.min_eq_left h]
  simp [withCacheHeaders, withHeaders, cacheHeaders, hcapped, Headers.values_insert]

namespace Router

inductive Declared : Router φ → Prop where
  | start (locales : Locales) : Declared (withLocales locales)
  | insert {r : Router φ} {e : RouteEntry φ} : Declared r → e.Built → Declared (r.insert e).1
  | insertAll {r : Router φ} {es : List (RouteEntry φ)} : Declared r → (∀ e ∈ es, e.Built) →
      Declared (r.insertAll es).1
  | nest {r : Router φ} (name : String) {es : List (RouteEntry φ)} : Declared r →
      (∀ e ∈ es, e.Built) → Declared (r.nest name es).1

theorem mem_stored_foldl_add {batch : List (Route φ)} {r : Router φ} {a : Route φ}
    (h : a ∈ (batch.foldl add r).stored) : a ∈ r.stored ∨ a ∈ batch := by
  induction batch generalizing r with
  | nil => exact .inl h
  | cons route batch ih =>
    rcases ih h with hadd | hmem
    · rcases mem_stored_add hadd with hold | rfl
      · exact .inl hold
      · exact .inr List.mem_cons_self
    · exact .inr (List.mem_cons_of_mem _ hmem)

theorem mem_stored_insert {r : Router φ} {e : RouteEntry φ} {a : Route φ}
    (h : a ∈ (r.insert e).1.stored) :
    a ∈ r.stored ∨ ∃ leaf ∈ e.declared, ∃ flat, leaf.flatten = .ok flat ∧
      flat.compile r.locales = .ok a := by
  rcases r.insert_cases e with ⟨⟨error, herr⟩, _⟩ | ⟨batch, ⟨⟨flats, hflats, hbatch⟩, _, _⟩, hok⟩
  · rw [herr] at h
    exact .inl h
  · rw [hok] at h
    refine (mem_stored_foldl_add h).imp_right fun hmem => ?_
    obtain ⟨flat, hflat, hcompile⟩ := Except.exists_of_mem_mapM hbatch hmem
    obtain ⟨leaf, hleaf, hflatten⟩ := e.exists_leaf_of_mem_leaves hflats hflat
    exact ⟨leaf, hleaf, flat, hflatten, hcompile⟩

def Clean (r : Router φ) : Prop := ∀ route ∈ r.stored, route.settings.options.Clean

theorem Clean.insert {r : Router φ} {e : RouteEntry φ} (h : r.Clean) (he : e.Built) :
    (r.insert e).1.Clean := by
  intro route hroute
  rcases mem_stored_insert hroute with hold | ⟨leaf, hleaf, flat, hflat, hcompile⟩
  · exact h route hold
  · -- Validation finds what is refused, and building has kept nothing else aside.
    obtain ⟨hsettings, hvalid⟩ := leaf.settings_of_flatten hflat
    obtain ⟨levels, hbuilt⟩ := he.exists_builtBy (by simp) hleaf
    rw [FlatRoute.settings_of_compile hcompile]
    refine RouteOptions.KeepsRefused.clean ?_ hvalid
    rw [hsettings]
    exact hbuilt.keepsRefused

theorem Clean.insertAll {r : Router φ} {es : List (RouteEntry φ)} (h : r.Clean)
    (hes : ∀ e ∈ es, e.Built) : (r.insertAll es).1.Clean := by
  induction es generalizing r with
  | nil => exact h
  | cons e es ih =>
    rw [List.forall_mem_cons] at hes
    have hnext := h.insert hes.1
    rcases hins : r.insert e with ⟨r', error | ⟨⟩⟩
    · rw [hins] at hnext
      rw [insertAll_cons_error hins]
      exact hnext
    · rw [hins] at hnext
      rw [insertAll_cons_ok hins]
      exact ih hnext hes.2

theorem Declared.clean {r : Router φ} (h : r.Declared) : r.Clean := by
  induction h with
  | start locales => simp [Clean, stored, withLocales]
  | insert _ he ih => exact ih.insert he
  | insertAll _ hes ih => exact ih.insertAll hes
  | nest name _ hes ih => exact ih.insert (.group (some name) none [] hes)

theorem exists_error_insert {r : Router φ} {e : RouteEntry φ} {leaf : Leaf φ}
    (hleaf : leaf ∈ e.declared) (h : ∀ flat, leaf.flatten ≠ .ok flat) :
    ∃ error, r.insert e = (r, .error error) := by
  rcases r.insert_cases e with ⟨herr, _⟩ | ⟨batch, ⟨⟨flats, hflats, _⟩, _, _⟩, _⟩
  · exact herr
  · obtain ⟨flat, _, hflat⟩ := e.exists_flat_of_mem_declared hflats hleaf
    exact absurd hflat (h flat)

theorem exists_error_insertAll {e : RouteEntry φ} {es : List (RouteEntry φ)}
    (h : ∀ r : Router φ, ∃ error, r.insert e = (r, .error error)) (he : e ∈ es) (r : Router φ) :
    ∃ error, (r.insertAll es).2 = .error error := by
  induction es generalizing r with
  | nil => cases he
  | cons first es ih =>
    rcases hins : r.insert first with ⟨next, error | ⟨⟩⟩
    · exact ⟨error, by rw [insertAll_cons_error hins]⟩
    · rw [insertAll_cons_ok hins]
      rcases List.mem_cons.1 he with rfl | he
      · obtain ⟨error, herr⟩ := h r
        cases hins.symm.trans herr
      · exact ih he next

theorem options_checked :
    (∀ e : RouteEntry φ, ∀ leaf ∈ e.declared, ∀ levels, leaf.BuiltBy levels →
      leaf.Misset levels → ∀ r : Router φ, (∃ error, r.insert e = (r, .error error)) ∧
        ∀ es, e ∈ es → ∃ error, (r.insertAll es).2 = .error error) ∧
    (∀ r : Router φ, r.Declared → ∀ route ∈ r.stored,
      route.settings.options.extra.get? RouteOptions.urlizeKey = none ∧
      route.settings.options.extra.get? RouteOptions.cacheKey = none ∧
      ∀ ttl ∈ route.cacheTtl, ttl.nanos ≤ RouteOptions.maxCache.nanos ∧
        ∀ (res : Response) (now : Instant),
          (res.withCacheHeaders now ttl).headers.values "cache-control" =
            ["public, max-age=" ++ String.ofList (natText ttl.seconds)]) ∧
    (∀ s : RouteSource,
      (∀ es : List (RouteEntry φ), s.entries = .ok es → ∀ e ∈ es, e.Built) ∧
      ∀ r : Router φ, s.toRouter = .ok r → r.Declared) ∧
    ∀ (map : Dict Json) (es : List (String × Json)), es.Perm map.entries →
      let built : RouteSettings φ := .built (es.map fun e => .option e.1 e.2)
      ∀ o, RouteOptions.ofMap map = .ok o ↔
        built.options.validate = .ok ⟨⟩ ∧ o = built.options := by
  refine ⟨?_, ?_, fun s => ⟨fun es => RouteSpec.built_of_toEntries s.routes, ?_⟩, ?_⟩
  · intro e leaf hleaf levels hbuilt hbad r
    have hinsert (r : Router φ) : ∃ error, r.insert e = (r, .error error) :=
      exists_error_insert hleaf fun _ => hbuilt.flatten_ne_ok hbad
    exact ⟨hinsert r, fun es he => exists_error_insertAll hinsert he r⟩
  · intro r hr route hroute
    have hclean := hr.clean route hroute
    refine ⟨hclean.urlize, hclean.cache, fun ttl httl => ?_⟩
    exact ⟨hclean.time ttl httl, Response.maxAge_of_le (hclean.time ttl httl)⟩
  · intro r hr
    obtain ⟨es, hes, hinsert⟩ := RouteSource.toRouter_eq_ok_iff.1 hr
    have hdeclared := Declared.insertAll (.start s.knownLocales)
      (RouteSpec.built_of_toEntries s.routes hes)
    rwa [hinsert] at hdeclared
  · intro map es hperm built o
    have hoptions : built.options = RouteOptions.empty.withOptions es := by
      simp only [built, RouteSettings.built, RouteSettings.callAll_options]
      rfl
    rw [hoptions]
    exact RouteOptions.ofMap_eq_ok_iff hperm

theorem options_checked_overridden :
    let outer : List (SettingsCall Unit) :=
      [.option "CACHE" (.str "soon"), .option "CACHE" (.int 60)]
    let own : List (SettingsCall Unit) := [.handler (.func ()), .cache ⟨1500000000⟩]
    let leaf : RouteEntry Unit := .route ⟨none, "users", .built own⟩
    let group : RouteEntry Unit := .group (some "admin") none (.built outer) [leaf]
    let map : Dict Json := .ofList [("URLIZE", .bool false), ("CACHE", .int 60)]
    (∃ error, empty.insert group = (empty, .error error)) ∧
      (∀ res now, (∀ route ∈ (empty.insert leaf).1.stored, ∀ ttl ∈ route.cacheTtl,
        (Response.withCacheHeaders res now ttl).headers.values "cache-control" =
          ["public, max-age=" ++ String.ofList (natText ttl.seconds)])) ∧
      (empty.insert leaf).1.stored.map Route.cacheTtl = [some ⟨1500000000⟩] ∧
      RouteOptions.ofMap map = .ok (RouteSettings.built (φ := Unit)
        [.option "URLIZE" (.bool false), .option "CACHE" (.int 60)]).options := by
  intro outer own leaf group map
  obtain ⟨hrefused, hclean, _, hmap⟩ := options_checked (φ := Unit)
  refine ⟨?_, fun res now route hroute ttl httl => ?_, by decide +kernel, ?_⟩
  · have hbad : RouteOptions.Refuses "CACHE" (.str "soon") := .inr ⟨rfl, nofun⟩
    exact (hrefused group ⟨[⟨some "admin", none, .built outer⟩], ⟨none, "users", .built own⟩⟩
      (by simp [RouteEntry.declared, RouteEntry.leavesBelow, leavesBelowOfAll, group, leaf])
      [outer, own] rfl (.inl ⟨outer, by simp, _, _, by simp [outer], hbad⟩) empty).1
  · exact ((hclean _ (.insert (.start _) (.route none "users" own)) route hroute).2.2 ttl httl).2
      res now
  · have hentries : map.entries = [("CACHE", .int 60), ("URLIZE", .bool false)] := by
      have hlt : "CACHE" < "URLIZE" := by decide
      simp [map, Dict.ofList, Dict.insertMany, Dict.insert, Dict.empty, insertEntry, hlt]
    have hperm : [("URLIZE", .bool false), ("CACHE", .int 60)].Perm map.entries := by
      rw [hentries]
      exact .swap _ _ []
    exact (hmap map _ hperm _).2 ⟨Except.eq_ok_of_toOption (by decide +kernel), rfl⟩

end Router

end UrlRouter
