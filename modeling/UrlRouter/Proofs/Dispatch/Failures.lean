import UrlRouter.Proofs.Dispatch.Runs

/-!
What a failed dispatch leaves behind: nothing in the headers, nothing new in the cache, and in the
status only what the rendering of a status puts there.
-/

namespace UrlRouter

variable {φ σ κ : Type}

def CacheStore.DropsExpired (store : CacheStore κ)
    (stored? : κ → String → Option MemoryCache.Entry) : Prop :=
  ∀ now key c other, stored? (store.get now key c).2 other = stored? c other ∨
    stored? (store.get now key c).2 other = none ∧
      ∃ e, stored? c other = some e ∧ e.alive now = false

namespace MemoryCache

def stored? (c : MemoryCache) (key : String) : Option Entry := c.entries.get? key

theorem dropsExpired_store : store.DropsExpired stored? := by
  intro now key c other
  simp only [store, stored?, entries_get]
  by_cases hkey : key = other
  · rw [if_pos hkey]
    cases he : c.entries.get? other with
    | none => exact .inl rfl
    | some e =>
      cases halive : e.alive now with
      | true => exact .inl (by rw [Option.filter_some, halive, if_pos rfl])
      | false => exact .inr ⟨by simp [halive], e, rfl, halive⟩
  · rw [if_neg hkey]
    exact .inl rfl

end MemoryCache

namespace Dispatcher

inductive Renders (d : Dispatcher φ σ κ) (m : Memory κ σ) (v : Visit) : Status → Prop
  | unrouted : d.router.resolve v.request = none → Renders d m v v.missing
  | signalled {p : Plan φ σ} {s : Status} {fallback : Option String} :
      d.Plans v.request p → (p.route.cacheTtl.isSome → v.sessionActive = false) →
      (d.look v.now p m.cache).1 = none →
      ((d.codeOf v.request p).run.run m.code).1 = .error (.status s fallback) →
      Renders d m v s

structure Runs (d : Dispatcher φ σ κ) (m : Memory κ σ) (v : Visit) (p : Plan φ σ) : Prop where
  planned : d.Plans v.request p
  session : p.route.cacheTtl.isSome → v.sessionActive = false
  missing : (d.look v.now p m.cache).1 = none

inductive RendersOn (d : Dispatcher φ σ κ) (m : Memory κ σ) (v : Visit) :
    Status → Option String → σ → Prop
  | unrouted : d.router.resolve v.request = none → RendersOn d m v v.missing none m.code
  | signalled {p : Plan φ σ} {s : Status} {fallback : Option String} {code : σ} :
      d.Runs m v p →
      (d.codeOf v.request p).run.run m.code = (.error (.status s fallback), code) →
      RendersOn d m v s fallback code

/-- What fails in the rendering of a status is the error route, which has set its status by then. -/
theorem ending_of_error {d : Dispatcher φ σ κ} {req : Request} {s : Status}
    {fallback : Option String} {code : σ} {error : RouterError}
    (h : (d.ending req s fallback code).result = .error error) :
    ∃ route, d.router.errorRoute? s = some route ∧
      (d.ending req s fallback code).status = route.settings.responseCode.getD s ∧
      ∃ message, error = .badRouteUsage route.name.text message ∨
        error = .handler route.name.text message := by
  cases hroute : d.router.errorRoute? s with
  | none =>
    simp only [ending, hroute] at h
    cases h
  | some route =>
    refine ⟨route, rfl, ?_⟩
    simp only [ending, hroute] at h ⊢
    split
    · next e he =>
      simp only [he] at h
      cases h
      exact ⟨rfl, e.message, .inl rfl⟩
    · next i hi =>
      simp only [hi] at h
      split at h
      · cases h
      · cases h
      · next message _ _ =>
        cases h
        exact ⟨rfl, message, .inl rfl⟩
      · next message _ _ =>
        cases h
        exact ⟨rfl, message, .inr rfl⟩

theorem RendersOn.serve_eq {d : Dispatcher φ σ κ} {m : Memory κ σ} {v : Visit} {s : Status}
    {fallback : Option String} {code : σ} (h : d.RendersOn m v s fallback code) :
    let e := d.ending v.request s fallback code
    (d.serve m v).result = e.result ∧ (d.serve m v).response = v.response.withStatus e.status ∧
      (d.serve m v).memory.code = e.code := by
  cases h with
  | unrouted hresolve =>
    rw [serve_of_unresolved m hresolve]
    exact ⟨rfl, rfl, rfl⟩
  | signalled hruns hcode =>
    rw [serve_of_status hruns.planned hruns.session (Prod.ext hruns.missing rfl) hcode]
    exact ⟨rfl, rfl, rfl⟩

theorem Renders.exists_rendersOn {d : Dispatcher φ σ κ} {m : Memory κ σ} {v : Visit} {s : Status}
    (h : d.Renders m v s) : ∃ fallback code, d.RendersOn m v s fallback code := by
  cases h with
  | unrouted hresolve => exact ⟨none, m.code, .unrouted hresolve⟩
  | signalled hp hsession hlook hcode =>
    exact ⟨_, _, .signalled ⟨hp, hsession, hlook⟩ (Prod.ext hcode rfl)⟩

theorem Renders.serve_eq {d : Dispatcher φ σ κ} {m : Memory κ σ} {v : Visit} {s : Status}
    (h : d.Renders m v s) : ∃ fallback code,
      (d.serve m v).result = (d.ending v.request s fallback code).result ∧
      (d.serve m v).response =
        v.response.withStatus (d.ending v.request s fallback code).status := by
  obtain ⟨fallback, code, hrenders⟩ := h.exists_rendersOn
  obtain ⟨hresult, hresponse, _⟩ := hrenders.serve_eq
  exact ⟨fallback, code, hresult, hresponse⟩

theorem look_cache (d : Dispatcher φ σ κ) (now : Instant) (p : Plan φ σ) (c : κ) :
    (d.look now p c).2 = c ∨
      ∃ store ∈ d.cache, (d.look now p c).2 = (store.get now p.key c).2 := by
  unfold look
  cases p.route.cacheTtl with
  | none => exact .inl rfl
  | some ttl =>
    cases hcache : d.cache with
    | none => exact .inl rfl
    | some store => exact .inr ⟨store, rfl, rfl⟩

theorem Serves.of_error {d : Dispatcher φ σ κ} {m : Memory κ σ} {v : Visit} {s : Served κ σ}
    (h : d.Serves m v s) {error : RouterError} (herror : s.result = .error error) :
    s.response.headers = v.response.headers ∧
      (s.memory.cache = m.cache ∨
        ∃ store ∈ d.cache, ∃ key, s.memory.cache = (store.get v.now key m.cache).2) ∧
      ((∃ status, d.Renders m v status) ∨ s.response = v.response) := by
  have hlooked {p : Plan φ σ} {c : κ} (hlook : d.look v.now p m.cache = (none, c)) :
      c = m.cache ∨ ∃ store ∈ d.cache, ∃ key, c = (store.get v.now key m.cache).2 := by
    have hcache := d.look_cache v.now p m.cache
    rw [hlook] at hcache
    exact hcache.imp_right fun ⟨store, hstore, hc⟩ => ⟨store, hstore, p.key, hc⟩
  cases h with
  | unrouted hresolve => exact ⟨rfl, .inl rfl, .inl ⟨_, .unrouted hresolve⟩⟩
  | unprepared => exact ⟨rfl, .inl rfl, .inr rfl⟩
  | refused => exact ⟨rfl, .inl rfl, .inr rfl⟩
  | replayed => cases herror
  | failed _ _ hlook => exact ⟨rfl, hlooked hlook, .inr rfl⟩
  | signalled hp hsession hlook hcode =>
    have hrenders := Renders.signalled hp hsession (by rw [hlook]) (by rw [hcode])
    exact ⟨rfl, hlooked hlook, .inl ⟨_, hrenders⟩⟩
  | rendered => cases herror

theorem run_renderError_of_unresolved {d : Dispatcher φ σ κ} {req : Request} {s : Status}
    {st st' : DispatchState κ σ} {code : Nat}
    (h : (d.renderError req s).run.run st = (.error (.unresolvedStatus code), st')) : st' = st := by
  unfold renderError at h
  cases hroute : d.router.errorRoute? s with
  | none =>
    rw [hroute] at h
    exact (Prod.mk.inj h).2.symm
  | some route =>
    rw [hroute] at h
    dsimp only at h
    rw [run_renderStatus_eq] at h
    obtain ⟨_, _, _, message, herror | herror⟩ := ending_of_error (Prod.mk.inj h).1
    · cases herror
    · cases herror

theorem failure_leaves_no_trace (d : Dispatcher φ σ κ) :
    (∀ m v error, (d.serve m v).result = .error error →
      let s := d.serve m v
      s.response.headers = v.response.headers ∧
        (s.memory.cache = m.cache ∨
          ∃ store ∈ d.cache, ∃ key, s.memory.cache = (store.get v.now key m.cache).2) ∧
        (∀ stored?, (∀ store ∈ d.cache, store.DropsExpired stored?) → ∀ key,
          stored? s.memory.cache key = stored? m.cache key ∨
            stored? s.memory.cache key = none ∧
              ∃ e, stored? m.cache key = some e ∧ e.alive v.now = false) ∧
        (∀ status, d.Renders m v status → ∃ route, d.router.errorRoute? status = some route ∧
          s.response.status = route.settings.responseCode.getD status) ∧
        ((∀ status, ¬ d.Renders m v status) → s.response.status = v.response.status)) ∧
    ∀ req status st st' code,
      (d.renderError req status).run.run st = (.error (.unresolvedStatus code), st') → st' = st := by
  refine ⟨fun m v error herror => ?_, fun _ _ _ _ _ => run_renderError_of_unresolved⟩
  intro s
  obtain ⟨hheaders, hcache, hstatus⟩ := (d.serves_serve m v).of_error herror
  refine ⟨hheaders, hcache, fun stored? hdrops key => ?_, fun status hrenders => ?_,
    fun hnone => ?_⟩
  · rcases hcache with hcache | ⟨store, hstore, asked, hcache⟩
    · exact .inl (by rw [hcache])
    · rw [hcache]
      exact hdrops store hstore v.now asked m.cache key
  · obtain ⟨fallback, code, hresult, hresponse⟩ := hrenders.serve_eq
    obtain ⟨route, hroute, hfinal, _⟩ := ending_of_error (hresult.symm.trans herror)
    exact ⟨route, hroute, by rw [hresponse, ← hfinal]; rfl⟩
  · rcases hstatus with ⟨status, hrenders⟩ | hsame
    · exact absurd hrenders (hnone status)
    · rw [hsame]

/-- A page that is kept, whose action signals that there is none, and an error route whose code
fails. -/
def lostPage : Dispatcher Unit Unit MemoryCache where
  router := (Router.empty.insertAll
    [.route ⟨some (.named "a"), "/a",
        .withCache (.withHandler .empty (.target "Page" none)) (.ofSeconds 60)⟩,
      .route ⟨some (.error .notFound), "",
        .withResponseCode (.withHandler .empty (.func ())) ⟨410, by decide⟩⟩]).1
  handlers := .ofList
    [("Page", .withMethod .empty "get" ⟨[], fun _ _ => throw (.status .notFound none)⟩)]
  call _ _ _ := throw (.other "broken")
  cache := some MemoryCache.store
  locale := none

theorem reachable_lostPage : lostPage.router.Reachable := .insertAll _ (.start .empty)

theorem routes_lostPage : lostPage.router.routes.map (fun route =>
    ((route.pattern, route.isOpen), route.handler, route.cacheTtl)) =
    [(("/a", true), .target "Page" none, some (.ofSeconds 60))] := by
  decide +kernel

theorem errorRoute_lostPage : (lostPage.router.errorRoute? .notFound).map (fun route =>
    (route.handler, route.settings.responseCode)) = some (.func (), some ⟨410, by decide⟩) := by
  decide +kernel

theorem exists_plans_lostPage (now : Instant) (res : Response) :
    ∃ p, lostPage.Plans (Visit.get "/a" now res).request p ∧
      p.route.cacheTtl = some (.ofSeconds 60) ∧ p.key = "Page::get(\x7b\x7d)" ∧
      ∀ req, (lostPage.codeOf req p).run.run () = (.error (.status .notFound none), ()) := by
  obtain ⟨a, rest, hroutes, ha, hrest⟩ := List.map_eq_cons_iff.1 routes_lostPage
  obtain rfl := List.map_eq_nil_iff.1 hrest
  simp only [Prod.mk.injEq] at ha
  obtain ⟨⟨hpattern, hopen⟩, hhandler, hcaches⟩ := ha
  obtain ⟨hopen, hargs⟩ := Route.Open.of_isOpen "/a".toList
    (reachable_lostPage.tabled.compiled a (by simp [hroutes])) hopen
    (by rw [hpattern]; decide +kernel) (by decide)
  let lost : Target Unit Unit :=
    ⟨"Page", "get", none, ⟨[], fun _ _ => throw (.status .notFound none)⟩⟩
  refine ⟨⟨a, a.settings.args, .target lost⟩, ?_, hcaches, ?_, fun _ => rfl⟩
  · have htext :
        (stripQuery (SimpleRequest.new .get "/a").toRequest.path).toList = "/a".toList := by
      decide +kernel
    exact plans_of_open [] hroutes hopen htext (by simp) hhandler (by decide) (by simp) rfl
  · have hkey : cacheKey "Page::get" .empty = "Page::get(\x7b\x7d)" := by decide +kernel
    rw [hargs]
    exact hkey

/-- The page is asked for when its entry is expired. The entry is dropped, and the dispatch fails in
the error route of the status that the action signals. -/
theorem lostPage_leaves_no_trace :
    let c := MemoryCache.empty.set ⟨0⟩ "Page::get(\x7b\x7d)" "old" (.ofSeconds 60)
    let v := Visit.get "/a" ⟨60000000000⟩ .new
    let s := lostPage.serve ⟨c, ()⟩ v
    (∀ store ∈ lostPage.cache, store.DropsExpired MemoryCache.stored?) ∧
      lostPage.Renders ⟨c, ()⟩ v .notFound ∧
      (∃ error, s.result = .error error) ∧
      s.response.headers = v.response.headers ∧
      s.response.status = ⟨410, by decide⟩ ∧
      (∀ key, s.memory.cache.stored? key = c.stored? key ∨ s.memory.cache.stored? key = none ∧
        ∃ e, c.stored? key = some e ∧ e.alive v.now = false) := by
  intro c v s
  obtain ⟨p, hp, hcaches, hkey, hcode⟩ := exists_plans_lostPage ⟨60000000000⟩ .new
  have hdrops : ∀ store ∈ lostPage.cache, store.DropsExpired MemoryCache.stored? := by
    intro store hstore
    cases hstore
    exact MemoryCache.dropsExpired_store
  have hidle : p.route.cacheTtl.isSome → v.sessionActive = false := fun _ => rfl
  have hlook : (lostPage.look v.now p c).1 = none := by
    simp only [look, hcaches, hkey]
    decide +kernel
  have hrenders : lostPage.Renders ⟨c, ()⟩ v .notFound :=
    .signalled hp hidle hlook (by rw [hcode])
  obtain ⟨route, hroute, hfound⟩ := Option.map_eq_some_iff.1 errorRoute_lostPage
  obtain ⟨hhandler, hstatus⟩ := Prod.mk.inj hfound
  have herror : s.result = .error (.handler route.name.text "broken") := by
    have hserve : s = _ := serve_of_status hp hidle (Prod.ext hlook rfl) (hcode v.request)
    rw [hserve, ending, hroute]
    simp only [hhandler]
    rfl
  obtain ⟨hheaders, _, hentries, hrendered, _⟩ :=
    (failure_leaves_no_trace lostPage).1 ⟨c, ()⟩ v _ herror
  obtain ⟨route', hroute', hfinal⟩ := hrendered _ hrenders
  cases hroute.symm.trans hroute'
  rw [hstatus, Option.getD_some] at hfinal
  exact ⟨hdrops, hrenders, ⟨_, herror⟩, hheaders, hfinal,
    hentries _ hdrops⟩

end Dispatcher

end UrlRouter
