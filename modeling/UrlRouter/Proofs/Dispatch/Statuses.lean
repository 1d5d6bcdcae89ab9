import UrlRouter.Proofs.Dispatch.Runs
import UrlRouter.Proofs.Registration.Table

/-!
The status of a successful dispatch. A rendered route applies its own response code; a response from
the cache has the status of the dispatch that stored it, which may have been one of another route.
-/

namespace UrlRouter

variable {φ σ κ : Type}

structure CacheStore.Keeps (store : CacheStore κ) (holds : κ → String → String → Prop) : Prop where
  of_get : ∀ now key c text, (store.get now key c).1 = some text → holds c key text
  after_get : ∀ now key c other text, holds (store.get now key c).2 other text → holds c other text
  after_set : ∀ now key value ttl c other text,
    holds (store.set now key value ttl c) other text →
      other = key ∧ text = value ∨ holds c other text

namespace MemoryCache

def Holds (c : MemoryCache) (key text : String) : Prop :=
  ∃ e, c.entries.get? key = some e ∧ e.value = text

theorem keeps_store : store.Keeps Holds := by
  constructor
  · intro now key c text h
    rw [store, get_fst] at h
    obtain ⟨e, he, hvalue⟩ := Option.map_eq_some_iff.1 h
    exact ⟨e, (Option.filter_eq_some_iff.1 he).1, hvalue⟩
  · rintro now key c other text ⟨e, he, hvalue⟩
    rw [store, entries_get] at he
    split at he
    · exact ⟨e, (Option.filter_eq_some_iff.1 he).1, hvalue⟩
    · exact ⟨e, he, hvalue⟩
  · rintro now key value ttl c other text ⟨e, he, hvalue⟩
    rw [store, entries_set] at he
    split at he
    · next hkey =>
      cases he
      exact .inl ⟨hkey.symm, hvalue.symm⟩
    · exact .inr ⟨e, he, hvalue⟩

theorem not_holds_empty (key text : String) : ¬ empty.Holds key text := by
  rintro ⟨e, he, _⟩
  cases he

end MemoryCache

namespace Dispatcher

structure Wrote (d : Dispatcher φ σ κ) (s : Served κ σ) (p : Plan φ σ) (body text : String) :
    Prop where
  planned : d.Plans s.visit.request p
  caches : p.route.cacheTtl.isSome
  rendered : s.result = .ok ⟨body, some p.route.name, false⟩
  status : s.response.status = p.route.settings.responseCode.getD s.visit.response.status
  text_eq : text = (CachedResponse.capture s.response body).text

def Sourced (d : Dispatcher φ σ κ) (holds : κ → String → String → Prop)
    (earlier : List (Served κ σ)) (c : κ) : Prop :=
  ∀ key text, holds c key text → ∃ s ∈ earlier, ∃ p body, p.key = key ∧ d.Wrote s p body text

def run (d : Dispatcher φ σ κ) : Memory κ σ → List Visit → List (Served κ σ)
  | _, [] => []
  | m, v :: visits => d.serve m v :: d.run (d.serve m v).memory visits

theorem mem_routes_of_plans {d : Dispatcher φ σ κ} {req : Request} {p : Plan φ σ}
    (h : d.Plans req p) : p.route ∈ d.router.routes := by
  obtain ⟨route, hmem, hroute⟩ := List.exists_of_findSome?_eq_some h.resolved
  obtain ⟨args, _, heq⟩ := Option.map_eq_some_iff.1 hroute
  cases heq
  exact hmem

section Keeps

variable {d : Dispatcher φ σ κ} {holds : κ → String → String → Prop}
variable (hkeeps : ∀ store ∈ d.cache, store.Keeps holds)

include hkeeps

theorem holds_of_look {now : Instant} {p : Plan φ σ} {c c' : κ} {r : Option CachedResponse}
    (h : d.look now p c = (r, c')) :
    (∀ key text, holds c' key text → holds c key text) ∧
      ∀ hit, r = some hit → ∃ text, holds c p.key text ∧ CachedResponse.read? text = some hit := by
  unfold look at h
  split at h
  · next ttl store httl hstore =>
    have hstore := hkeeps store hstore
    obtain ⟨rfl, rfl⟩ := Prod.mk.inj h
    refine ⟨fun key text => hstore.after_get now p.key c key text, fun hit hhit => ?_⟩
    obtain ⟨text, htext, hread⟩ := Option.bind_eq_some_iff.1 hhit
    exact ⟨text, hstore.of_get now p.key c text htext, hread⟩
  · obtain ⟨rfl, rfl⟩ := Prod.mk.inj h
    exact ⟨fun _ _ hh => hh, fun hit hhit => nomatch hhit⟩

theorem Serves.holds_or_wrote {m : Memory κ σ} {v : Visit} {s : Served κ σ} (h : d.Serves m v s)
    {key text : String} (hholds : holds s.memory.cache key text) :
    holds m.cache key text ∨ ∃ p body, p.key = key ∧ d.Wrote s p body text := by
  cases h with
  | unrouted | unprepared | refused => exact .inl hholds
  | replayed _ _ hlook => exact .inl ((holds_of_look hkeeps hlook).1 key text hholds)
  | failed _ _ hlook => exact .inl ((holds_of_look hkeeps hlook).1 key text hholds)
  | signalled _ _ hlook => exact .inl ((holds_of_look hkeeps hlook).1 key text hholds)
  | @rendered p body c code hp _ hlook _ =>
    have hlooked := (holds_of_look hkeeps hlook).1 key text
    simp only [store] at hholds
    split at hholds
    · next ttl store httl hstore =>
      rcases (hkeeps store hstore).after_set _ _ _ _ _ _ _ hholds with ⟨rfl, rfl⟩ | hholds
      · refine .inr ⟨p, body, rfl, hp, ?_, rfl, p.status_respond v.now v.response, rfl⟩
        rw [httl, Option.isSome_some]
      · exact .inl (hlooked hholds)
    · exact .inl (hlooked hholds)

theorem Sourced.serve {earlier : List (Served κ σ)} {m : Memory κ σ}
    (h : d.Sourced holds earlier m.cache) (v : Visit) :
    d.Sourced holds (earlier ++ [d.serve m v]) (d.serve m v).memory.cache := by
  intro key text hholds
  rcases (d.serves_serve m v).holds_or_wrote hkeeps hholds with hholds | hwrote
  · obtain ⟨s, hs, hwrote⟩ := h key text hholds
    exact ⟨s, List.mem_append_left _ hs, hwrote⟩
  · exact ⟨_, List.mem_append_right _ (List.mem_singleton_self _), hwrote⟩

theorem Sourced.run {earlier before after : List (Served κ σ)} {m : Memory κ σ}
    {visits : List Visit} {s : Served κ σ} (h : d.Sourced holds earlier m.cache)
    (hrun : d.run m visits = before ++ s :: after) :
    ∃ m' v, d.Serves m' v s ∧ d.Sourced holds (earlier ++ before) m'.cache := by
  -- Each dispatch that is passed joins the earlier ones, from which the cache stays sourced.
  induction before generalizing earlier m visits with
  | nil =>
    cases visits with
    | nil => cases hrun
    | cons v visits =>
      obtain ⟨rfl, _⟩ := List.cons.inj hrun
      rw [List.append_nil]
      exact ⟨m, v, d.serves_serve m v, h⟩
  | cons b before ih =>
    cases visits with
    | nil => cases hrun
    | cons v visits =>
      obtain ⟨rfl, hrest⟩ := List.cons.inj hrun
      obtain ⟨m', w, hserves, hsourced⟩ := ih (h.serve hkeeps v) hrest
      rw [List.append_assoc] at hsourced
      exact ⟨m', w, hserves, hsourced⟩

end Keeps

theorem StatusResult.not_routes {d : Dispatcher φ σ κ} (hd : d.router.Reachable) {status : Status}
    {o : Outcome} {r : Route φ} (h : d.StatusResult status (.ok o)) (hr : r ∈ d.router.routes) :
    o.route ≠ some r.name := by
  intro hname
  obtain ⟨_, hroute⟩ := h o rfl
  obtain ⟨route, hroute, hsame⟩ := hroute _ hname
  have hstatus := hd.filed.errors _ (hd.filed.errorRoute?_eq_some_iff.1 hroute)
  obtain ⟨n, hn⟩ := hd.filed.named r hr
  cases hstatus.symm.trans (hsame.trans hn)

theorem status_of_success {d : Dispatcher φ σ κ} (hd : d.router.Reachable)
    {holds : κ → String → String → Prop} (hkeeps : ∀ store ∈ d.cache, store.Keeps holds)
    {m : Memory κ σ} (hempty : ∀ key text, ¬ holds m.cache key text) {visits : List Visit}
    {before after : List (Served κ σ)} {s : Served κ σ}
    (hrun : d.run m visits = before ++ s :: after) {o : Outcome} (hok : s.result = .ok o)
    {r : Route φ} (hr : r ∈ d.router.routes) (hname : o.route = some r.name) :
    (o.fromCache = false →
      s.response.status = r.settings.responseCode.getD s.visit.response.status) ∧
    (o.fromCache = true → ∃ s' ∈ before, ∃ p p', d.Plans s.visit.request p ∧ p.route = r ∧
      d.Plans s'.visit.request p' ∧ p'.route.cacheTtl.isSome ∧ p'.key = p.key ∧
      s'.result = .ok ⟨o.body, some p'.route.name, false⟩ ∧
      s.response.status = s'.response.status ∧
      s'.response.status = p'.route.settings.responseCode.getD s'.visit.response.status) := by
  have hstart : d.Sourced holds [] m.cache := fun key text h => absurd h (hempty key text)
  obtain ⟨m', v, hserves, hsourced⟩ := hstart.run hkeeps hrun
  clear hrun
  have hroute {p : Plan φ σ} (hp : d.Plans v.request p)
      (hsame : some p.route.name = some r.name) : p.route = r :=
    List.inj_on_of_nodup_map (hd.filed.nodup_names hd.tabled) (mem_routes_of_plans hp) hr
      (Option.some.inj hsame)
  -- Only a replay and a rendering name a path route; statuses name error routes at most.
  cases hserves with
  | unrouted _ hstatus =>
    cases hok
    exact absurd hname (hstatus.not_routes hd hr)
  | signalled _ _ _ _ hstatus =>
    cases hok
    exact absurd hname (hstatus.not_routes hd hr)
  | unprepared => cases hok
  | refused => cases hok
  | failed => cases hok
  | @replayed p hit c hp _ hlook =>
    cases hok
    have hpr := hroute hp hname
    refine ⟨nofun, fun _ => ?_⟩
    obtain ⟨text, hholds, hread⟩ := (holds_of_look hkeeps hlook).2 hit rfl
    obtain ⟨s', hs', p', body, hkey, hwrote⟩ := hsourced p.key text hholds
    rw [hwrote.text_eq, CachedResponse.read?_capture] at hread
    cases hread
    exact ⟨s', hs', p, p', hp, hpr, hwrote.planned, hwrote.caches, hkey,
      hwrote.rendered, CachedResponse.status_replay_capture .., hwrote.status⟩
  | @rendered p body c code hp =>
    cases hok
    have hpr := hroute hp hname
    refine ⟨fun _ => ?_, nofun⟩
    rw [← hpr]
    exact p.status_respond v.now v.response

theorem serve_twin {p q : Plan Unit Nat} {status other : Status} (hp : Twin "a" status p)
    (hq : Twin "b" other q) :
    let shared := (twinPages.serve ⟨.empty, 0⟩ (.get "/a" ⟨0⟩ .new)).memory
    twinPages.serve shared (.get "/b" ⟨5⟩ .new) =
      ⟨.get "/b" ⟨5⟩ .new, .ok ⟨"page", some (.named "b"), true⟩,
        (CachedResponse.capture (p.respond ⟨0⟩ .new) "page").replay .new, [q.told], shared⟩ := by
  have hlasting : ∀ u ∈ [] ++ [Visit.get "/b" ⟨5⟩ .new],
      ∀ deadline ∈ (⟨0⟩ : Instant).after? (.ofSeconds 60), u.now.nanos < deadline.nanos :=
    lasting_singleton (by decide +kernel)
  rw [← hq.name_eq]
  exact (hp.stores ⟨0⟩ .new).serve_after rfl hlasting rfl (hq.planned ⟨5⟩ .new)
    (by rw [hq.caches, Option.isSome_some]) (hq.key_eq.trans hp.key_eq.symm) rfl

theorem status_of_success_twin :
    let first := twinPages.serve ⟨.empty, 0⟩ (.get "/a" ⟨0⟩ .new)
    let second := twinPages.serve first.memory (.get "/b" ⟨5⟩ .new)
    twinPages.router.Reachable ∧ (∀ store ∈ twinPages.cache, store.Keeps MemoryCache.Holds) ∧
      (∀ key text, ¬ MemoryCache.empty.Holds key text) ∧
      twinPages.run ⟨.empty, 0⟩ [.get "/a" ⟨0⟩ .new, .get "/b" ⟨5⟩ .new] = [first] ++ second :: [] ∧
      ∃ r ∈ twinPages.router.routes, second.result = .ok ⟨"page", some r.name, true⟩ ∧
        ∃ s' ∈ [first], ∃ p p', twinPages.Plans second.visit.request p ∧ p.route = r ∧
          twinPages.Plans s'.visit.request p' ∧ p'.route.cacheTtl.isSome ∧ p'.key = p.key ∧
          s'.result = .ok ⟨"page", some p'.route.name, false⟩ ∧
          second.response.status = s'.response.status ∧
          s'.response.status = p'.route.settings.responseCode.getD s'.visit.response.status := by
  intro first second
  obtain ⟨p, q, hp, hq⟩ := exists_twins
  have hkeeps : ∀ store ∈ twinPages.cache, store.Keeps MemoryCache.Holds := by
    intro store hstore
    cases hstore
    exact MemoryCache.keeps_store
  have hsecond : second.result = .ok ⟨"page", some q.route.name, true⟩ := by
    rw [hq.name_eq]
    exact congrArg Served.result (serve_twin hp hq)
  have hrun : twinPages.run ⟨.empty, 0⟩ [.get "/a" ⟨0⟩ .new, .get "/b" ⟨5⟩ .new] =
      [first] ++ second :: [] := rfl
  obtain ⟨_, hcached⟩ := status_of_success reachable_twinPages hkeeps MemoryCache.not_holds_empty
    hrun hsecond hq.mem rfl
  exact ⟨reachable_twinPages, hkeeps, MemoryCache.not_holds_empty, hrun, q.route, hq.mem, hsecond,
    hcached rfl⟩

/-- The second page has a response code of its own, which is not applied. -/
theorem twin_status_not_applied :
    let first := twinPages.serve ⟨.empty, 0⟩ (.get "/a" ⟨0⟩ .new)
    let second := twinPages.serve first.memory (.get "/b" ⟨5⟩ .new)
    twinPages.router.Reachable ∧ ∃ r ∈ twinPages.router.routes,
      second.result = .ok ⟨"page", some r.name, true⟩ ∧ r.name = .named "b" ∧
      r.settings.responseCode = some ⟨202, by decide⟩ ∧
      second.response.status = ⟨201, by decide⟩ := by
  intro first second
  obtain ⟨p, q, hp, hq⟩ := exists_twins
  have hsecond : second = _ := serve_twin hp hq
  refine ⟨reachable_twinPages, q.route, hq.mem, ?_, hq.name_eq, hq.status_eq, ?_⟩
  · rw [hsecond, hq.name_eq]
  · rw [hsecond]
    refine (CachedResponse.status_replay_capture ..).trans ?_
    rw [Plan.status_respond, hp.status_eq, Option.getD_some]

end Dispatcher

end UrlRouter
