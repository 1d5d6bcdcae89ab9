import UrlRouter.Proofs.Dispatch.CacheKey
import UrlRouter.Proofs.Dispatch.Replay
import UrlRouter.Proofs.Dispatch.Steps
import UrlRouter.Proofs.Route.Literal

/-!
Runs of dispatches that share a cache in memory. What a handler has rendered for a key is given again
to each request with that key, without any code, until its time is over.
-/

namespace UrlRouter

variable {φ σ : Type}

namespace MemoryCache

theorem get_of_alive {now : Instant} {key : String} {c : MemoryCache} {e : Entry}
    (he : c.entries.get? key = some e) (halive : e.alive now = true) :
    c.get now key = (some e.value, c) := by
  simp only [get, he, halive, if_true]

theorem entries_get_of_alive {now : Instant} {key other : String} {c : MemoryCache} {e : Entry}
    (he : c.entries.get? other = some e) (halive : e.alive now = true) :
    (c.get now key).2.entries.get? other = some e := by
  rw [entries_get, he]
  split
  · rw [Option.filter_some, halive, if_pos rfl]
  · rfl

end MemoryCache

theorem Plan.textual_respond {p : Plan φ σ} {res : Response} (h : res.headers.Textual)
    (now : Instant) : (p.respond now res).headers.Textual := by
  unfold Plan.respond
  cases p.route.cacheTtl with
  | none => exact h
  | some ttl => exact Response.textual_withCacheHeaders h now ttl

namespace Dispatcher

def after {κ : Type} (d : Dispatcher φ σ κ) (m : Memory κ σ) (visits : List Visit) : Memory κ σ :=
  visits.foldl (fun m v => (d.serve m v).memory) m

section InMemory

variable {d : Dispatcher φ σ MemoryCache} (hcache : d.cache = some MemoryCache.store)

include hcache

theorem look_of_alive (now : Instant) {p : Plan φ σ} {c : MemoryCache} {e : MemoryCache.Entry}
    (hcaches : p.route.cacheTtl.isSome) (he : c.entries.get? p.key = some e)
    (halive : e.alive now = true) : d.look now p c = (CachedResponse.read? e.value, c) := by
  obtain ⟨ttl, httl⟩ := Option.isSome_iff_exists.1 hcaches
  simp only [look, httl, hcache, MemoryCache.store, MemoryCache.get_of_alive he halive,
    Option.bind_some]

theorem entries_look {now : Instant} {p : Plan φ σ} {key : String} {c : MemoryCache}
    {e : MemoryCache.Entry} (he : c.entries.get? key = some e) (halive : e.alive now = true) :
    (d.look now p c).2.entries.get? key = some e := by
  unfold look
  cases p.route.cacheTtl with
  | none => exact he
  | some ttl =>
    rw [hcache]
    exact MemoryCache.entries_get_of_alive he halive

theorem entries_store {now : Instant} {p : Plan φ σ} {key text : String} {c : MemoryCache}
    (hother : p.route.cacheTtl.isSome → p.key ≠ key) :
    (d.store now p text c).entries.get? key = c.entries.get? key := by
  unfold store
  cases httl : p.route.cacheTtl with
  | none => rfl
  | some ttl =>
    have hne : p.key ≠ key := hother (by rw [httl, Option.isSome_some])
    rw [hcache]
    exact (MemoryCache.entries_set ..).trans (if_neg hne)

theorem Serves.keeps_entry {m : Memory MemoryCache σ} {v : Visit} {s : Served MemoryCache σ}
    (h : d.Serves m v s) {key : String} {e : MemoryCache.Entry}
    (he : m.cache.entries.get? key = some e) (halive : e.alive v.now = true)
    (hread : (CachedResponse.read? e.value).isSome) :
    s.memory.cache.entries.get? key = some e := by
  have hlooked {p : Plan φ σ} {r : Option CachedResponse} {c : MemoryCache}
      (hlook : d.look v.now p m.cache = (r, c)) : c.entries.get? key = some e := by
    have hkept := entries_look hcache (p := p) he halive
    rwa [hlook] at hkept
  cases h with
  | unrouted | unprepared | refused => exact he
  | replayed _ _ hlook => exact hlooked hlook
  | failed _ _ hlook => exact hlooked hlook
  | signalled _ _ hlook => exact hlooked hlook
  | @rendered p body c code _ _ hlook =>
    -- A plan with this key would have been given the entry.
    have hother : p.route.cacheTtl.isSome → p.key ≠ key := by
      rintro hcaches rfl
      rw [look_of_alive hcache v.now hcaches he halive] at hlook
      rw [(Prod.mk.inj hlook).1] at hread
      cases hread
    exact (entries_store hcache hother).trans (hlooked hlook)

theorem after_keeps_entry {visits : List Visit} {m : Memory MemoryCache σ} {key : String}
    {e : MemoryCache.Entry} (he : m.cache.entries.get? key = some e)
    (halive : ∀ v ∈ visits, e.alive v.now = true) (hread : (CachedResponse.read? e.value).isSome) :
    (d.after m visits).cache.entries.get? key = some e := by
  induction visits generalizing m with
  | nil => exact he
  | cons v visits ih =>
    have hkept := (d.serves_serve m v).keeps_entry hcache he (halive v (by simp)) hread
    exact ih hkept fun u hu => halive u (by simp [hu])

end InMemory

structure Stores {κ : Type} (d : Dispatcher φ σ κ) (m : Memory κ σ) (v : Visit) (p : Plan φ σ)
    (ttl : Duration) (body : String) : Prop where
  planned : d.Plans v.request p
  caches : p.route.cacheTtl = some ttl
  idle : v.sessionActive = false
  missing : (d.look v.now p m.cache).1 = none
  answered : ((d.codeOf v.request p).run.run m.code).1 = .ok body

theorem Stores.serve_eq {κ : Type} {d : Dispatcher φ σ κ} {m : Memory κ σ} {v : Visit}
    {p : Plan φ σ} {ttl : Duration} {body : String} (h : d.Stores m v p ttl body) :
    ∃ c code, d.serve m v =
      ⟨v, .ok (.rendered body p.route.name), p.respond v.now v.response, [p.told],
        ⟨d.store v.now p (CachedResponse.capture (p.respond v.now v.response) body).text c,
          code⟩⟩ := by
  have hserves := d.serves_serve m v
  generalize d.serve m v = s at hserves
  have hanswered := h.answered
  have hmissing := h.missing
  cases hserves with
  | unrouted hresolve => cases hresolve.symm.trans h.planned.resolved
  | unprepared hnone => exact absurd h.planned (hnone p)
  | refused _ _ hactive => cases h.idle.symm.trans hactive
  | replayed hp _ hlook =>
    cases hp.unique h.planned
    rw [hlook] at hmissing
    cases hmissing
  | failed hp _ _ hcode =>
    cases hp.unique h.planned
    rw [hcode] at hanswered
    cases hanswered
  | signalled hp _ _ hcode =>
    cases hp.unique h.planned
    rw [hcode] at hanswered
    cases hanswered
  | @rendered p' body' c code hp _ _ hcode =>
    cases hp.unique h.planned
    rw [hcode] at hanswered
    cases hanswered
    exact ⟨c, code, rfl⟩

section InMemory

variable {d : Dispatcher φ σ MemoryCache} (hcache : d.cache = some MemoryCache.store)
variable {m : Memory MemoryCache σ} {v w : Visit} {p q : Plan φ σ} {ttl : Duration} {body : String}
variable {between : List Visit}

include hcache

theorem Stores.entry_after (h : d.Stores m v p ttl body)
    (hlasting : ∀ u ∈ between, ∀ deadline ∈ v.now.after? ttl, u.now.nanos < deadline.nanos) :
    (d.after (d.serve m v).memory between).cache.entries.get? p.key =
      some ⟨(CachedResponse.capture (p.respond v.now v.response) body).text, v.now.after? ttl⟩ := by
  obtain ⟨c, code, hfirst⟩ := h.serve_eq
  refine after_keeps_entry hcache ?_ ?_ ?_
  · rw [hfirst]
    simp only [store, h.caches, hcache]
    exact (MemoryCache.entries_set ..).trans (if_pos rfl)
  · intro u hu
    simpa [MemoryCache.Entry.alive, Option.all_eq_true] using hlasting u hu
  · rw [CachedResponse.read?_capture, Option.isSome_some]

theorem Stores.serve_after (h : d.Stores m v p ttl body)
    (hlasting : ∀ u ∈ between ++ [w], ∀ deadline ∈ v.now.after? ttl, u.now.nanos < deadline.nanos)
    {e : Dispatcher φ σ MemoryCache} (he : e.cache = d.cache) (hq : e.Plans w.request q)
    (hcaches : q.route.cacheTtl.isSome) (hkey : q.key = p.key) (hidle : w.sessionActive = false) :
    let shared := d.after (d.serve m v).memory between
    e.serve shared w =
      ⟨w, .ok ⟨body, some q.route.name, true⟩,
        (CachedResponse.capture (p.respond v.now v.response) body).replay w.response, [q.told],
        shared⟩ := by
  intro shared
  have hentry : shared.cache.entries.get? p.key = _ := h.entry_after hcache
    fun u hu => hlasting u (List.mem_append_left _ hu)
  rw [← hkey] at hentry
  have hlook := look_of_alive (he.trans hcache) w.now hcaches hentry
    (by simpa [MemoryCache.Entry.alive, Option.all_eq_true] using hlasting w (by simp))
  rw [CachedResponse.read?_capture] at hlook
  exact serve_of_hit hq hidle hlook

theorem serve_again_of_stores (hstores : d.Stores m v p ttl body)
    (htextual : v.response.headers.Textual)
    (hlasting : ∀ u ∈ between ++ [w], ∀ deadline ∈ v.now.after? ttl, u.now.nanos < deadline.nanos)
    (hq : d.Plans w.request q) (hcaches : q.route.cacheTtl.isSome) (hkey : q.key = p.key)
    (hidle : w.sessionActive = false) :
    let first := d.serve m v
    let shared := d.after first.memory between
    let again := d.serve shared w
    first.result = .ok ⟨body, some p.route.name, false⟩ ∧
      again.result = .ok ⟨body, some q.route.name, true⟩ ∧
      again.memory = shared ∧
      again.response.status = first.response.status ∧
      (∀ name, again.response.headers.values name =
        if first.response.headers.values name = [] then w.response.headers.values name
        else first.response.headers.values name) ∧
      ∀ (call : φ → Args → Context φ → HandlerM σ String) (handlers : HandlerRegistry φ σ)
        (q' : Plan φ σ), { d with call, handlers }.Plans w.request q' → q'.key = q.key →
          { d with call, handlers }.serve shared w = again := by
  intro first shared again
  obtain ⟨c, code, hfirst⟩ := hstores.serve_eq
  replace hfirst : first = _ := hfirst
  have hagain : again = _ := hstores.serve_after hcache hlasting rfl hq hcaches hkey hidle
  refine ⟨?_, ?_, ?_, ?_, ?_, ?_⟩
  · rw [hfirst]
    rfl
  · rw [hagain]
  · rw [hagain]
  · rw [hagain, hfirst]
    exact CachedResponse.status_replay_capture ..
  · intro name
    rw [hagain, hfirst]
    exact CachedResponse.values_replay_capture (Plan.textual_respond htextual v.now) body
      w.response name
  · intro call handlers q' hq' hkey'
    -- The router takes both to one route, and the key tells that they have one descriptor.
    have hresolved : some (q'.route, q'.args) = some (q.route, q.args) :=
      hq'.resolved.symm.trans hq.resolved
    obtain ⟨hroute, hargs⟩ := Prod.mk.inj (Option.some.inj hresolved)
    have htold : q'.told = q.told := by
      rw [Plan.told, Plan.told, (cacheKey_split hkey').1, hroute, hargs]
    have hother := hstores.serve_after hcache hlasting (e := { d with call, handlers }) rfl hq'
      (hroute ▸ hcaches) (hkey'.trans hkey) hidle
    rw [hother, hagain, hroute, htold]

end InMemory

end Dispatcher

theorem lasting_singleton {w : Visit} {start : Instant} {ttl : Duration}
    (h : (start.after? ttl).all (fun deadline => w.now.nanos < deadline.nanos) = true) :
    ∀ u ∈ [] ++ [w], ∀ deadline ∈ start.after? ttl, u.now.nanos < deadline.nanos := by
  intro u hu deadline hdeadline
  rw [List.mem_singleton.1 hu]
  rw [Option.mem_def.1 hdeadline] at h
  simpa using h

def Visit.get (path : String) (now : Instant) (res : Response) : Visit :=
  ⟨now, (SimpleRequest.new .get path).toRequest, false, res⟩

namespace Dispatcher

theorem plans_of_open {κ : Type} {d : Dispatcher φ σ κ} {req : Request} {route : Route φ}
    (before : List (Route φ)) {after : List (Route φ)} {text : List Char} {controller : String}
    {action : Option String} {t : Target φ σ} (hroutes : d.router.routes = before ++ route :: after)
    (hopen : route.Open d.router.locales text) (htext : (stripQuery req.path).toList = text)
    (hbefore : ∀ b ∈ before, ∃ other, b.Open d.router.locales other ∧ other ≠ text)
    (hhandler : route.handler = .target controller action) (hcontroller : '<' ∉ controller.toList)
    (haction : ∀ name ∈ action, '<' ∉ name.toList)
    (ht : d.handlers.target controller action req = .ok t) :
    d.Plans req ⟨route, route.settings.args, .target t⟩ where
  resolved := Router.resolve_of_open before hroutes hopen htext hbefore
  prepared := by
    rw [hhandler]
    exact HandlerRef.invocation_of_no_brackets hcontroller haction ht _

def twinPage (name : String) (status : Status) : RouteEntry Unit :=
  .route ⟨some (.named name), "/" ++ name,
    .withResponseCode (.withCache (.withHandler .empty (.target "Page" none)) (.ofSeconds 60))
      status⟩

/-- Two pages that keep what one action renders, each with a status of its own. The action counts
how often it runs. -/
def twinPages : Dispatcher Unit Nat MemoryCache where
  router := (Router.empty.insertAll
    [twinPage "a" ⟨201, by decide⟩, twinPage "b" ⟨202, by decide⟩]).1
  handlers := .ofList [("Page", .withMethod .empty "get" ⟨[], fun _ _ => do
    modify (· + 1)
    return "page"⟩)]
  call _ _ _ := return ""
  cache := some MemoryCache.store
  locale := none

theorem reachable_twinPages : twinPages.router.Reachable := .insertAll _ (.start .empty)

structure Twin (name : String) (status : Status) (p : Plan Unit Nat) : Prop where
  planned : ∀ now res, twinPages.Plans (Visit.get ("/" ++ name) now res).request p
  mem : p.route ∈ twinPages.router.routes
  name_eq : p.route.name = .named name
  caches : p.route.cacheTtl = some (.ofSeconds 60)
  status_eq : p.route.settings.responseCode = some status
  key_eq : p.key = "Page::get(\x7b\x7d)"
  answers : ∀ req n, (twinPages.codeOf req p).run.run n = (.ok "page", n + 1)

theorem twin_of_resolve (name : String) {route : Route Unit} {status : Status}
    (hresolve : twinPages.router.resolve (SimpleRequest.new .get ("/" ++ name)).toRequest =
      some (route, .empty)) (hmem : route ∈ twinPages.router.routes)
    (hroute : (route.name, route.handler, route.cacheTtl, route.settings.responseCode) =
      (.named name, .target "Page" none, some (.ofSeconds 60), some status)) :
    ∃ p, Twin name status p := by
  simp only [Prod.mk.injEq] at hroute
  obtain ⟨hname, hhandler, hcaches, hstatus⟩ := hroute
  have htarget : ∃ t, t.descriptor = "Page::get" ∧
      twinPages.handlers.target "Page" none (SimpleRequest.new .get ("/" ++ name)).toRequest =
        .ok t ∧ ∀ args cx n, (t.run args cx).run.run n = (.ok "page", n + 1) := by
    unfold SimpleRequest.new
    split <;> exact ⟨_, rfl, rfl, fun _ _ _ => rfl⟩
  obtain ⟨t, hdescriptor, ht, hrun⟩ := htarget
  refine ⟨⟨route, .empty, .target t⟩, fun now res => ⟨hresolve, ?_⟩, hmem, hname, hcaches, hstatus,
    ?_, fun req n => hrun _ _ n⟩
  · rw [hhandler]
    exact HandlerRef.invocation_of_no_bracket (by decide) ht _
  · have hkey : cacheKey "Page::get" .empty = "Page::get(\x7b\x7d)" := by decide +kernel
    rw [Plan.key, Plan.descriptor, Invocation.descriptor, hdescriptor, hkey]

theorem Twin.stores {name : String} {status : Status} {p : Plan Unit Nat} (h : Twin name status p)
    (now : Instant) (res : Response) :
    twinPages.Stores ⟨.empty, 0⟩ (.get ("/" ++ name) now res) p (.ofSeconds 60) "page" := by
  refine ⟨h.planned now res, h.caches, rfl, ?_, by rw [h.answers]⟩
  rw [look, h.caches]
  rfl

set_option synthInstance.maxSize 1000 in
theorem routes_twinPages : twinPages.router.routes.map (fun route =>
    ((route.pattern, route.settings.args.entries.isEmpty && route.settings.method.isNone &&
      (route.settings.inputs.isEmpty && route.settings.conditions.isEmpty)),
      route.name, route.handler, route.cacheTtl, route.settings.responseCode)) =
    [(("/a", true), .named "a", .target "Page" none, some (.ofSeconds 60),
        some ⟨201, by decide⟩),
      (("/b", true), .named "b", .target "Page" none, some (.ofSeconds 60),
        some ⟨202, by decide⟩)] := by
  decide +kernel

theorem exists_twins : ∃ p q, Twin "a" ⟨201, by decide⟩ p ∧ Twin "b" ⟨202, by decide⟩ q := by
  obtain ⟨a, rest, hroutes, ha, hrest⟩ := List.map_eq_cons_iff.1 routes_twinPages
  obtain ⟨b, rest, rfl, hb, hrest⟩ := List.map_eq_cons_iff.1 hrest
  obtain rfl := List.map_eq_nil_iff.1 hrest
  rw [Prod.mk.injEq] at ha hb
  have hopen {route : Route Unit} {text : String} (hmem : route ∈ twinPages.router.routes)
      (hsplit : (split text.toList).toOption = some [.literal text.toList])
      (hbare : text.toList.all Regex.isBare = true)
      (h : (route.pattern, route.isOpen) = (text, true)) :
      route.Open twinPages.router.locales text.toList ∧ route.settings.args = .empty := by
    obtain ⟨rfl, hopen⟩ := Prod.mk.inj h
    have hcompiled := reachable_twinPages.tabled.compiled route hmem
    exact Route.Open.of_isOpen _ hcompiled hopen hsplit hbare
  obtain ⟨hopena, hargsa⟩ := hopen (by simp [hroutes]) (by decide +kernel) (by decide) ha.1
  obtain ⟨hopenb, hargsb⟩ := hopen (by simp [hroutes]) (by decide +kernel) (by decide) hb.1
  have hresolvea : twinPages.router.resolve (SimpleRequest.new .get "/a").toRequest =
      some (a, a.settings.args) :=
    Router.resolve_of_open [] hroutes hopena (by decide +kernel) (by simp)
  have hresolveb : twinPages.router.resolve (SimpleRequest.new .get "/b").toRequest =
      some (b, b.settings.args) :=
    Router.resolve_of_open [a] hroutes hopenb (by decide +kernel)
      (by simpa using ⟨_, hopena, by decide⟩)
  rw [hargsa] at hresolvea
  rw [hargsb] at hresolveb
  obtain ⟨p, hp⟩ := twin_of_resolve "a" hresolvea (by simp [hroutes]) ha.2
  obtain ⟨q, hq⟩ := twin_of_resolve "b" hresolveb (by simp [hroutes]) hb.2
  exact ⟨p, q, hp, hq⟩

/-- The twin of the rendered page is asked for in the last moment of the entry, after the page itself
and a path without a page. -/
theorem serve_again_of_stores_twin :
    let v : Visit := .get "/a" ⟨0⟩ ⟨.ok, (Headers.empty.insert "x-tag" "old").insert "age" "1"⟩
    let between : List Visit := [.get "/none" ⟨3⟩ .new, .get "/a" ⟨5⟩ .new]
    let w : Visit := .get "/b" ⟨59999999999⟩ ⟨.notFound, Headers.empty.insert "x-tag" "new"⟩
    let first := twinPages.serve ⟨.empty, 0⟩ v
    let shared := twinPages.after first.memory between
    let again := twinPages.serve shared w
    ∃ p q, twinPages.Stores ⟨.empty, 0⟩ v p (.ofSeconds 60) "page" ∧
      v.response.headers.Textual ∧
      (∀ u ∈ between ++ [w], ∀ deadline ∈ v.now.after? (.ofSeconds 60),
        u.now.nanos < deadline.nanos) ∧
      twinPages.Plans w.request q ∧ q.route.cacheTtl.isSome ∧ q.key = p.key ∧
      w.sessionActive = false ∧
      first.result = .ok ⟨"page", some (.named "a"), false⟩ ∧
      again.result = .ok ⟨"page", some (.named "b"), true⟩ ∧
      again.memory = shared ∧
      again.response.status = first.response.status ∧
      ∀ name, again.response.headers.values name =
        if first.response.headers.values name = [] then w.response.headers.values name
        else first.response.headers.values name := by
  intro v between w first shared again
  obtain ⟨p, q, hp, hq⟩ := exists_twins
  have hstores : twinPages.Stores ⟨.empty, 0⟩ v p (.ofSeconds 60) "page" := hp.stores ⟨0⟩ _
  have htextual : v.response.headers.Textual :=
    (Headers.Textual.empty.insert (by decide +kernel) (by decide)).insert (by decide +kernel)
      (by decide)
  have hlasting : ∀ u ∈ between ++ [w], ∀ deadline ∈ v.now.after? (.ofSeconds 60),
      u.now.nanos < deadline.nanos := by
    have hdeadline : v.now.after? (.ofSeconds 60) = some ⟨60000000000⟩ := by decide +kernel
    intro u hu deadline hd
    rw [hdeadline, Option.mem_some_iff] at hd
    simp only [between, w, List.cons_append, List.nil_append, List.mem_cons, List.not_mem_nil,
      or_false] at hu
    rcases hu with rfl | rfl | rfl <;> rw [← hd] <;> decide
  have hcaches : q.route.cacheTtl.isSome := by rw [hq.caches, Option.isSome_some]
  have hkey : q.key = p.key := hq.key_eq.trans hp.key_eq.symm
  obtain ⟨hfirst, hagain, hmemory, hstatus, hheaders, _⟩ :=
    serve_again_of_stores rfl hstores htextual hlasting (hq.planned _ _) hcaches hkey rfl
  rw [hp.name_eq] at hfirst
  rw [hq.name_eq] at hagain
  exact ⟨p, q, hstores, htextual, hlasting, hq.planned _ _, hcaches, hkey, rfl, hfirst, hagain,
    hmemory, hstatus, hheaders⟩

end Dispatcher

end UrlRouter
