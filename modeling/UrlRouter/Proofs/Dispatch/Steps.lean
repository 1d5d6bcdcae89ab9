import UrlRouter.Dispatch.Dispatcher
import UrlRouter.Proofs.Except
import UrlRouter.Proofs.Stateful

/-!
How a dispatch goes. A request comes to a plan before any code runs; the plan is refused, given again
from the cache, or rendered by its handler, and without one a status is rendered.
-/

namespace UrlRouter

variable {φ σ κ : Type}

structure Plan (φ σ : Type) where
  route : Route φ
  args : Args
  invocation : Invocation φ σ

namespace Plan

def descriptor (p : Plan φ σ) : String := p.invocation.descriptor p.route

def key (p : Plan φ σ) : String := cacheKey p.descriptor p.args

def told (p : Plan φ σ) : Match := ⟨p.route.name.text, p.route.regex.source, p.descriptor, p.args⟩

def respond (p : Plan φ σ) (now : Instant) (res : Response) : Response :=
  let res := res.withStatus (p.route.settings.responseCode.getD res.status)
  match p.route.cacheTtl with
  | some ttl => res.withCacheHeaders now ttl
  | none => res

theorem status_respond (p : Plan φ σ) (now : Instant) (res : Response) :
    (p.respond now res).status = p.route.settings.responseCode.getD res.status := by
  unfold respond
  cases p.route.cacheTtl <;> rfl

end Plan

def HandlerError.failure? (route : Route φ) : HandlerError → Option RouterError
  | .status _ _ => none
  | .badUsage message => some (.badRouteUsage route.name.text message)
  | .other message => some (.handler route.name.text message)

theorem HandlerError.failure?_eq_none_iff {route : Route φ} {e : HandlerError} :
    e.failure? route = none ↔ ∃ s fallback, e = .status s fallback := by
  cases e <;> simp [failure?]

structure Visit where
  now : Instant
  request : Request
  sessionActive : Bool
  response : Response

def Visit.missing (v : Visit) : Status :=
  if v.response.status.isError then v.response.status else .notFound

structure Memory (κ σ : Type) where
  cache : κ
  code : σ

structure Served (κ σ : Type) where
  visit : Visit
  result : Except RouterError Outcome
  response : Response
  matched : List Match
  memory : Memory κ σ

namespace Dispatcher

def serve (d : Dispatcher φ σ κ) (m : Memory κ σ) (v : Visit) : Served κ σ :=
  let (result, st) := (d.dispatch v.now v.request v.sessionActive).run.run
    ⟨v.response, m.cache, [], m.code⟩
  ⟨v, result, st.response, st.matched, ⟨st.cache, st.code⟩⟩

structure Plans (d : Dispatcher φ σ κ) (req : Request) (p : Plan φ σ) : Prop where
  resolved : d.router.resolve req = some (p.route, p.args)
  prepared : p.route.handler.invocation d.handlers req p.args = .ok p.invocation

def codeOf (d : Dispatcher φ σ κ) (req : Request) (p : Plan φ σ) : HandlerM σ String :=
  match p.invocation with
  | .func f => d.call f p.args ⟨d.router, req, d.currentLocale, some p.route⟩
  | .target t => t.run p.args ⟨d.router, req, d.currentLocale, some p.route⟩

def look (d : Dispatcher φ σ κ) (now : Instant) (p : Plan φ σ) (c : κ) : Option CachedResponse × κ :=
  match p.route.cacheTtl, d.cache with
  | some _, some store =>
      let (text, c) := store.get now p.key c
      (text.bind CachedResponse.read?, c)
  | _, _ => (none, c)

def store (d : Dispatcher φ σ κ) (now : Instant) (p : Plan φ σ) (text : String) (c : κ) : κ :=
  match p.route.cacheTtl, d.cache with
  | some ttl, some store => store.set now p.key text ttl c
  | _, _ => c

def StatusResult (d : Dispatcher φ σ κ) (s : Status) (result : Except RouterError Outcome) : Prop :=
  ∀ o, result = .ok o → o.fromCache = false ∧
    ∀ name, o.route = some name → ∃ route, d.router.errorRoute? s = some route ∧ route.name = name

theorem statusResult_error (d : Dispatcher φ σ κ) (s : Status) (e : RouterError) :
    d.StatusResult s (.error e) := by
  intro o ho
  cases ho

theorem statusResult_inline (d : Dispatcher φ σ κ) (s s' : Status) (fallback : Option String) :
    d.StatusResult s (.ok (.inline s' fallback)) := by
  intro o ho
  cases ho
  exact ⟨rfl, fun name hname => nomatch hname⟩

theorem statusResult_rendered {d : Dispatcher φ σ κ} {s : Status} {route : Route φ}
    (h : d.router.errorRoute? s = some route) (body : String) :
    d.StatusResult s (.ok (.rendered body route.name)) := by
  intro o ho
  cases ho
  exact ⟨rfl, fun name hname => ⟨route, h, Option.some.inj hname⟩⟩

inductive Serves (d : Dispatcher φ σ κ) (m : Memory κ σ) (v : Visit) : Served κ σ → Prop
  | unrouted {result : Except RouterError Outcome} {s final : Status} {code : σ} :
      d.router.resolve v.request = none → d.StatusResult s result →
      Serves d m v ⟨v, result, v.response.withStatus final, [], ⟨m.cache, code⟩⟩
  | unprepared {error : RouterError} :
      (∀ p, ¬ d.Plans v.request p) → Serves d m v ⟨v, .error error, v.response, [], m⟩
  | refused {p : Plan φ σ} :
      d.Plans v.request p → p.route.cacheTtl.isSome → v.sessionActive = true →
      Serves d m v
        ⟨v, .error (.cachedSessionRoute p.route.name.text), v.response, [p.told], m⟩
  | replayed {p : Plan φ σ} {hit : CachedResponse} {c : κ} :
      d.Plans v.request p → v.sessionActive = false →
      d.look v.now p m.cache = (some hit, c) →
      Serves d m v
        ⟨v, .ok ⟨hit.output, some p.route.name, true⟩, hit.replay v.response, [p.told], ⟨c, m.code⟩⟩
  | failed {p : Plan φ σ} {e : HandlerError} {error : RouterError} {c : κ} {code : σ} :
      d.Plans v.request p → (p.route.cacheTtl.isSome → v.sessionActive = false) →
      d.look v.now p m.cache = (none, c) →
      (d.codeOf v.request p).run.run m.code = (.error e, code) →
      (∀ s fallback, e ≠ .status s fallback) →
      Serves d m v ⟨v, .error error, v.response, [p.told], ⟨c, code⟩⟩
  | signalled {p : Plan φ σ} {s final : Status} {fallback : Option String}
      {result : Except RouterError Outcome} {c : κ} {code code' : σ} :
      d.Plans v.request p → (p.route.cacheTtl.isSome → v.sessionActive = false) →
      d.look v.now p m.cache = (none, c) →
      (d.codeOf v.request p).run.run m.code = (.error (.status s fallback), code) →
      d.StatusResult s result →
      Serves d m v ⟨v, result, v.response.withStatus final, [p.told], ⟨c, code'⟩⟩
  | rendered {p : Plan φ σ} {body : String} {c : κ} {code : σ} :
      d.Plans v.request p → (p.route.cacheTtl.isSome → v.sessionActive = false) →
      d.look v.now p m.cache = (none, c) →
      (d.codeOf v.request p).run.run m.code = (.ok body, code) →
      Serves d m v
        ⟨v, .ok (.rendered body p.route.name), p.respond v.now v.response, [p.told],
          ⟨d.store v.now p (CachedResponse.capture (p.respond v.now v.response) body).text c, code⟩⟩

theorem Plans.unique {d : Dispatcher φ σ κ} {req : Request} {p q : Plan φ σ} (hp : d.Plans req p)
    (hq : d.Plans req q) : p = q := by
  obtain ⟨route, args, i⟩ := p
  obtain ⟨route', args', i'⟩ := q
  obtain ⟨hresolved, hprepared⟩ := hp
  obtain ⟨hresolved', hprepared'⟩ := hq
  cases hresolved.symm.trans hresolved'
  cases hprepared.symm.trans hprepared'
  rfl

theorem run_invoke (d : Dispatcher φ σ κ) (req : Request) (p : Plan φ σ) (st : DispatchState κ σ) :
    (d.invoke req p.route p.args p.invocation).run.run st =
      (.ok ((d.codeOf req p).run.run st.code).1,
        { st with code := ((d.codeOf req p).run.run st.code).2 }) := by
  obtain ⟨route, args, i⟩ := p
  cases i <;> rfl

theorem run_setStatus (s : Status) (st : DispatchState κ σ) :
    (setStatus s : DispatchM κ σ Unit).run.run st =
      (.ok ⟨⟩, { st with response := st.response.withStatus s }) := rfl

theorem run_setResponseCode (route : Route φ) (st : DispatchState κ σ) :
    (setResponseCode route : DispatchM κ σ Unit).run.run st =
      (.ok ⟨⟩, { st with
        response := st.response.withStatus (route.settings.responseCode.getD st.response.status) })
    := by
  unfold setResponseCode
  cases route.settings.responseCode <;> rfl

theorem run_prepare (d : Dispatcher φ σ κ) (req : Request) (route : Route φ) (args : Args)
    (st : DispatchState κ σ) :
    (d.prepare req route args).run.run st =
      ((route.handler.invocation d.handlers req args).mapError fun e =>
        .badRouteUsage route.name.text e.message, st) := by
  unfold prepare
  cases route.handler.invocation d.handlers req args <;> rfl

structure Ending (σ : Type) where
  result : Except RouterError Outcome
  status : Status
  code : σ

/-- A rendered status without the response and the cache: the error route is prepared and run on the
state of the code. -/
def ending (d : Dispatcher φ σ κ) (req : Request) (s : Status) (fallback : Option String) (code : σ) :
    Ending σ :=
  match d.router.errorRoute? s with
  | none => ⟨.ok (.inline s fallback), s, code⟩
  | some route =>
      let status := route.settings.responseCode.getD s
      let args := route.settings.args.insert "status" (.int s.code)
      match route.handler.invocation d.handlers req args with
      | .error e => ⟨.error (.badRouteUsage route.name.text e.message), status, code⟩
      | .ok i =>
          match (d.codeOf req ⟨route, args, i⟩).run.run code with
          | (.ok body, code) => ⟨.ok (.rendered body route.name), status, code⟩
          | (.error (.status s fallback), code) => ⟨.ok (.inline s fallback), s, code⟩
          | (.error (.badUsage message), code) =>
              ⟨.error (.badRouteUsage route.name.text message), status, code⟩
          | (.error (.other message), code) =>
              ⟨.error (.handler route.name.text message), status, code⟩

theorem statusResult_ending (d : Dispatcher φ σ κ) (req : Request) (s : Status)
    (fallback : Option String) (code : σ) :
    d.StatusResult s (d.ending req s fallback code).result := by
  unfold ending
  split
  · exact d.statusResult_inline s s fallback
  · next route hroute =>
    dsimp only
    split
    · exact d.statusResult_error s _
    · split
      · exact statusResult_rendered hroute _
      · exact d.statusResult_inline s _ _
      · exact d.statusResult_error s _
      · exact d.statusResult_error s _

theorem run_renderStatus_eq (d : Dispatcher φ σ κ) (req : Request) (s : Status)
    (fallback : Option String) (st : DispatchState κ σ) :
    let e := d.ending req s fallback st.code
    (d.renderStatus req s fallback).run.run st =
      (e.result, { st with response := st.response.withStatus e.status, code := e.code }) := by
  intro e
  rw [renderStatus, run_bind_ok (run_setStatus s st)]
  cases hroute : d.router.errorRoute? s with
  | none =>
    simp only [e, ending, hroute]
    rfl
  | some route =>
    dsimp only
    rw [run_bind_ok (run_setResponseCode route _)]
    simp only [e, ending, hroute]
    generalize route.settings.args.insert "status" (.int s.code) = args
    cases hi : route.handler.invocation d.handlers req args with
    | error error =>
      rw [run_bind_error (by rw [run_prepare, hi, Except.mapError_error])]
      rfl
    | ok i =>
      rw [run_bind_ok (by rw [run_prepare, hi, Except.mapError_ok]),
        run_bind_ok (run_invoke d req ⟨route, args, i⟩ _)]
      dsimp only
      rcases (d.codeOf req ⟨route, args, i⟩).run.run st.code with ⟨(⟨s', fallback⟩ | _ | _) | body, code⟩
      all_goals rfl

theorem run_lookup (d : Dispatcher φ σ κ) (now : Instant) (p : Plan φ σ)
    (httl : p.route.cacheTtl.isSome) (st : DispatchState κ σ) :
    (d.lookup now p.key).run.run st =
      (.ok (d.look now p st.cache).1, { st with cache := (d.look now p st.cache).2 }) := by
  obtain ⟨ttl, httl⟩ := Option.isSome_iff_exists.1 httl
  unfold lookup look
  rw [httl]
  cases d.cache <;> rfl

theorem run_keep (d : Dispatcher φ σ κ) (now : Instant) (p : Plan φ σ) (body : String)
    (ttl : Duration) (httl : p.route.cacheTtl = some ttl) (st : DispatchState κ σ) :
    (d.keep now p.key body ttl).run.run st =
      (.ok ⟨⟩, { st with
        response := st.response.withCacheHeaders now ttl
        cache := d.store now p
          (CachedResponse.capture (st.response.withCacheHeaders now ttl) body).text st.cache }) := by
  unfold keep store
  rw [httl]
  cases d.cache <;> rfl

theorem run_perform_ok {d : Dispatcher φ σ κ} {req : Request} {p : Plan φ σ}
    {st : DispatchState κ σ} {body : String} {code : σ}
    (h : (d.codeOf req p).run.run st.code = (.ok body, code)) (now : Instant) :
    (d.perform now req p.route p.args p.invocation p.key).run.run st =
      (.ok (.rendered body p.route.name),
        { st with
          response := p.respond now st.response
          cache := d.store now p
            (CachedResponse.capture (p.respond now st.response) body).text st.cache
          code }) := by
  rw [perform, run_bind_ok (run_invoke d req p st), h]
  dsimp only
  rw [run_bind_ok (run_setResponseCode p.route _)]
  cases httl : p.route.cacheTtl with
  | none =>
    simp only [Plan.respond, store, httl]
    rfl
  | some ttl =>
    dsimp only
    rw [run_bind_ok (run_keep d now p body ttl httl _)]
    simp only [Plan.respond, httl]
    rfl

theorem run_perform_status {d : Dispatcher φ σ κ} {req : Request} {p : Plan φ σ}
    {st : DispatchState κ σ} {s : Status} {fallback : Option String} {code : σ}
    (h : (d.codeOf req p).run.run st.code = (.error (.status s fallback), code)) (now : Instant) :
    (d.perform now req p.route p.args p.invocation p.key).run.run st =
      (d.renderStatus req s fallback).run.run { st with code } := by
  rw [perform, run_bind_ok (run_invoke d req p st), h]

theorem run_perform_error {d : Dispatcher φ σ κ} {req : Request} {p : Plan φ σ}
    {st : DispatchState κ σ} {e : HandlerError} {error : RouterError} {code : σ}
    (h : (d.codeOf req p).run.run st.code = (.error e, code))
    (he : e.failure? p.route = some error) (now : Instant) :
    (d.perform now req p.route p.args p.invocation p.key).run.run st =
      (.error error, { st with code }) := by
  rw [perform, run_bind_ok (run_invoke d req p st), h]
  cases e <;> cases he <;> rfl

theorem run_dispatch {d : Dispatcher φ σ κ} {req : Request} {p : Plan φ σ} (hp : d.Plans req p)
    (now : Instant) (active : Bool) (st : DispatchState κ σ) :
    (d.dispatch now req active).run.run st =
      if p.route.cacheTtl.isSome ∧ active = true then
        (.error (.cachedSessionRoute p.route.name.text),
          { st with matched := st.matched ++ [p.told] })
      else
        match d.look now p st.cache with
        | (some hit, c) =>
            (.ok ⟨hit.output, some p.route.name, true⟩,
              { st with
                response := hit.replay st.response
                cache := c
                matched := st.matched ++ [p.told] })
        | (none, c) =>
            (d.perform now req p.route p.args p.invocation p.key).run.run
              { st with cache := c, matched := st.matched ++ [p.told] } := by
  have hprepared : (d.prepare req p.route p.args).run.run st = (.ok p.invocation, st) := by
    rw [run_prepare, hp.prepared, Except.mapError_ok]
  rw [dispatch, hp.resolved]
  dsimp only
  rw [dispatchTo, run_bind_ok hprepared]
  dsimp only
  have htold : (modify fun st => { st with matched := st.matched ++ [p.told] } :
      DispatchM κ σ PUnit).run.run st =
      (.ok ⟨⟩, { st with matched := st.matched ++ [p.told] }) := rfl
  rw [← Plan.descriptor, ← Plan.key, ← Plan.told, run_bind_ok htold]
  cases httl : p.route.cacheTtl with
  | none =>
    have hlook : d.look now p st.cache = (none, st.cache) := by rw [look, httl]
    rw [hlook]
    rfl
  | some ttl =>
    have hcaches : p.route.cacheTtl.isSome = true := by rw [httl, Option.isSome_some]
    cases active with
    | true => rfl
    | false =>
      have hlook := run_lookup d now p hcaches { st with matched := st.matched ++ [p.told] }
      simp only [Option.isSome_some, Bool.false_eq_true, and_false, if_true, if_false]
      rw [run_bind_ok hlook]
      rcases d.look now p st.cache with ⟨_ | hit, c⟩ <;> rfl

theorem serve_of_run {d : Dispatcher φ σ κ} {m : Memory κ σ} {v : Visit}
    {result : Except RouterError Outcome} {res : Response} {c : κ} {told : List Match} {code : σ}
    (h : (d.dispatch v.now v.request v.sessionActive).run.run ⟨v.response, m.cache, [], m.code⟩ =
      (result, ⟨res, c, told, code⟩)) :
    d.serve m v = ⟨v, result, res, told, ⟨c, code⟩⟩ := by
  rw [serve, h]

theorem caches_of_look {d : Dispatcher φ σ κ} {now : Instant} {p : Plan φ σ} {c c' : κ}
    {hit : CachedResponse} (h : d.look now p c = (some hit, c')) :
    p.route.cacheTtl.isSome = true := by
  unfold look at h
  cases httl : p.route.cacheTtl with
  | none =>
    rw [httl] at h
    cases h
  | some ttl => rfl

theorem serve_of_hit {d : Dispatcher φ σ κ} {m : Memory κ σ} {v : Visit} {p : Plan φ σ}
    {hit : CachedResponse} {c : κ} (hp : d.Plans v.request p) (hidle : v.sessionActive = false)
    (hlook : d.look v.now p m.cache = (some hit, c)) :
    d.serve m v =
      ⟨v, .ok ⟨hit.output, some p.route.name, true⟩, hit.replay v.response, [p.told],
        ⟨c, m.code⟩⟩ := by
  have hrun := run_dispatch hp v.now v.sessionActive ⟨v.response, m.cache, [], m.code⟩
  rw [if_neg (by simp [hidle])] at hrun
  simp only [hlook] at hrun
  exact serve_of_run hrun

theorem serve_of_refused {d : Dispatcher φ σ κ} (m : Memory κ σ) {v : Visit} {p : Plan φ σ}
    (hp : d.Plans v.request p) (hcaches : p.route.cacheTtl.isSome) (hactive : v.sessionActive = true) :
    d.serve m v =
      ⟨v, .error (.cachedSessionRoute p.route.name.text), v.response, [p.told], m⟩ := by
  have hrun := run_dispatch hp v.now v.sessionActive ⟨v.response, m.cache, [], m.code⟩
  rw [if_pos ⟨hcaches, hactive⟩] at hrun
  exact serve_of_run hrun

section Missing

variable {d : Dispatcher φ σ κ} {m : Memory κ σ} {v : Visit} {p : Plan φ σ} {c : κ} {code : σ}
variable (hp : d.Plans v.request p) (hsession : p.route.cacheTtl.isSome → v.sessionActive = false)
variable (hlook : d.look v.now p m.cache = (none, c))

include hp hsession hlook

theorem run_dispatch_of_missing :
    (d.dispatch v.now v.request v.sessionActive).run.run ⟨v.response, m.cache, [], m.code⟩ =
      (d.perform v.now v.request p.route p.args p.invocation p.key).run.run
        ⟨v.response, c, [p.told], m.code⟩ := by
  have hallowed : ¬ (p.route.cacheTtl.isSome ∧ v.sessionActive = true) := by
    rintro ⟨hcaches, hactive⟩
    rw [hsession hcaches] at hactive
    cases hactive
  have hrun := run_dispatch hp v.now v.sessionActive ⟨v.response, m.cache, [], m.code⟩
  rw [if_neg hallowed] at hrun
  simpa only [hlook, List.nil_append] using hrun

theorem serve_of_answer {body : String}
    (hcode : (d.codeOf v.request p).run.run m.code = (.ok body, code)) :
    d.serve m v =
      ⟨v, .ok (.rendered body p.route.name), p.respond v.now v.response, [p.told],
        ⟨d.store v.now p (CachedResponse.capture (p.respond v.now v.response) body).text c,
          code⟩⟩ := by
  have hrun := run_dispatch_of_missing hp hsession hlook
  rw [run_perform_ok hcode] at hrun
  exact serve_of_run hrun

theorem serve_of_status {s : Status} {fallback : Option String}
    (hcode : (d.codeOf v.request p).run.run m.code = (.error (.status s fallback), code)) :
    let e := d.ending v.request s fallback code
    d.serve m v = ⟨v, e.result, v.response.withStatus e.status, [p.told], ⟨c, e.code⟩⟩ := by
  have hrun := run_dispatch_of_missing hp hsession hlook
  rw [run_perform_status hcode, run_renderStatus_eq] at hrun
  exact serve_of_run hrun

theorem serve_of_failure {e : HandlerError} {error : RouterError}
    (hcode : (d.codeOf v.request p).run.run m.code = (.error e, code))
    (he : e.failure? p.route = some error) :
    d.serve m v = ⟨v, .error error, v.response, [p.told], ⟨c, code⟩⟩ := by
  have hrun := run_dispatch_of_missing hp hsession hlook
  rw [run_perform_error hcode he] at hrun
  exact serve_of_run hrun

end Missing

theorem serve_of_unresolved {d : Dispatcher φ σ κ} (m : Memory κ σ) {v : Visit}
    (h : d.router.resolve v.request = none) :
    let e := d.ending v.request v.missing none m.code
    d.serve m v = ⟨v, e.result, v.response.withStatus e.status, [], ⟨m.cache, e.code⟩⟩ := by
  refine serve_of_run ?_
  rw [dispatch, h]
  exact d.run_renderStatus_eq v.request v.missing none ⟨v.response, m.cache, [], m.code⟩

theorem serve_of_unprepared {d : Dispatcher φ σ κ} (m : Memory κ σ) {v : Visit} {route : Route φ}
    {args : Args} {e : InvocationError} (hresolve : d.router.resolve v.request = some (route, args))
    (he : route.handler.invocation d.handlers v.request args = .error e) :
    d.serve m v =
      ⟨v, .error (.badRouteUsage route.name.text e.message), v.response, [], m⟩ := by
  refine serve_of_run ?_
  rw [dispatch, hresolve]
  dsimp only
  rw [dispatchTo, run_bind_error (by rw [run_prepare, he, Except.mapError_error])]

inductive Course (d : Dispatcher φ σ κ) (m : Memory κ σ) (v : Visit) : Prop
  | unrouted : d.router.resolve v.request = none → Course d m v
  | unprepared {route : Route φ} {args : Args} {e : InvocationError} :
      d.router.resolve v.request = some (route, args) →
      route.handler.invocation d.handlers v.request args = .error e → Course d m v
  | refused {p : Plan φ σ} :
      d.Plans v.request p → p.route.cacheTtl.isSome → v.sessionActive = true → Course d m v
  | replayed {p : Plan φ σ} {hit : CachedResponse} {c : κ} :
      d.Plans v.request p → v.sessionActive = false → d.look v.now p m.cache = (some hit, c) →
      Course d m v
  | failed {p : Plan φ σ} {e : HandlerError} {error : RouterError} {c : κ} {code : σ} :
      d.Plans v.request p → (p.route.cacheTtl.isSome → v.sessionActive = false) →
      d.look v.now p m.cache = (none, c) →
      (d.codeOf v.request p).run.run m.code = (.error e, code) →
      e.failure? p.route = some error → Course d m v
  | signalled {p : Plan φ σ} {s : Status} {fallback : Option String} {c : κ} {code : σ} :
      d.Plans v.request p → (p.route.cacheTtl.isSome → v.sessionActive = false) →
      d.look v.now p m.cache = (none, c) →
      (d.codeOf v.request p).run.run m.code = (.error (.status s fallback), code) → Course d m v
  | answered {p : Plan φ σ} {body : String} {c : κ} {code : σ} :
      d.Plans v.request p → (p.route.cacheTtl.isSome → v.sessionActive = false) →
      d.look v.now p m.cache = (none, c) →
      (d.codeOf v.request p).run.run m.code = (.ok body, code) → Course d m v

theorem course (d : Dispatcher φ σ κ) (m : Memory κ σ) (v : Visit) : d.Course m v := by
  cases hresolve : d.router.resolve v.request with
  | none => exact .unrouted hresolve
  | some found =>
    obtain ⟨route, args⟩ := found
    cases hprepared : route.handler.invocation d.handlers v.request args with
    | error e => exact .unprepared hresolve hprepared
    | ok i =>
      -- The session is looked at first, then the cache, and the code runs only when both let it.
      have hp : d.Plans v.request ⟨route, args, i⟩ := ⟨hresolve, hprepared⟩
      by_cases hrefused : route.cacheTtl.isSome ∧ v.sessionActive = true
      · exact .refused hp hrefused.1 hrefused.2
      · have hsession : route.cacheTtl.isSome → v.sessionActive = false := by
          intro hcaches
          simpa using fun hactive => hrefused ⟨hcaches, hactive⟩
        rcases hlook : d.look v.now ⟨route, args, i⟩ m.cache with ⟨_ | hit, c⟩
        · rcases hcode : (d.codeOf v.request ⟨route, args, i⟩).run.run m.code with ⟨e | body, code⟩
          · cases he : e.failure? route with
            | none =>
              obtain ⟨s, fallback, rfl⟩ := HandlerError.failure?_eq_none_iff.1 he
              exact .signalled hp hsession hlook hcode
            | some error => exact .failed hp hsession hlook hcode he
          · exact .answered hp hsession hlook hcode
        · exact .replayed hp (hsession (caches_of_look hlook)) hlook

theorem not_plans_of_unprepared {d : Dispatcher φ σ κ} {req : Request} {route : Route φ}
    {args : Args} {e : InvocationError} (hresolve : d.router.resolve req = some (route, args))
    (he : route.handler.invocation d.handlers req args = .error e) (p : Plan φ σ) :
    ¬ d.Plans req p := by
  rintro ⟨hroute, hinvocation⟩
  cases hresolve.symm.trans hroute
  cases he.symm.trans hinvocation

theorem serves_serve (d : Dispatcher φ σ κ) (m : Memory κ σ) (v : Visit) :
    d.Serves m v (d.serve m v) := by
  cases d.course m v with
  | unrouted hresolve =>
    rw [serve_of_unresolved m hresolve]
    exact .unrouted hresolve (d.statusResult_ending _ _ _ _)
  | unprepared hresolve he =>
    rw [serve_of_unprepared m hresolve he]
    exact .unprepared (not_plans_of_unprepared hresolve he)
  | refused hp hcaches hactive =>
    rw [serve_of_refused m hp hcaches hactive]
    exact .refused hp hcaches hactive
  | replayed hp hidle hlook =>
    rw [serve_of_hit hp hidle hlook]
    exact .replayed hp hidle hlook
  | failed hp hsession hlook hcode he =>
    rw [serve_of_failure hp hsession hlook hcode he]
    refine .failed hp hsession hlook hcode ?_
    rintro s fallback rfl
    cases he
  | signalled hp hsession hlook hcode =>
    rw [serve_of_status hp hsession hlook hcode]
    exact .signalled hp hsession hlook hcode (d.statusResult_ending _ _ _ _)
  | answered hp hsession hlook hcode =>
    rw [serve_of_answer hp hsession hlook hcode]
    exact .rendered hp hsession hlook hcode

end Dispatcher

end UrlRouter
