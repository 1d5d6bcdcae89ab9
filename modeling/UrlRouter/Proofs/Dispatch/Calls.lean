import UrlRouter.Proofs.Dispatch.Failures
import UrlRouter.Proofs.Entries
import UrlRouter.Proofs.Http.Headers

/-!
Which code a dispatch calls. Code that notes its calls does the same as the code it is made from, so
the calls of a dispatch can be told from the notes: those of one handler at most for the route, and
of one at most for a status.
-/

namespace UrlRouter

variable {φ σ κ α : Type}

inductive Callee (φ : Type) where
  | func (f : φ)
  | init (controller : String)
  | action (controller action : String)

structure Call (φ : Type) where
  callee : Callee φ
  args : Args
  route : Option (Route φ)

abbrev Logged (φ σ : Type) := σ × List (Call φ)

def logged (call : Call φ) (code : HandlerM σ α) : HandlerM (Logged φ σ) α :=
  ExceptT.mk <| modifyGet fun st =>
    let (result, state) := code.run.run st.1
    (result, (state, st.2 ++ [call]))

/-- From the state the second code notes these calls, and does as the first one in all else. -/
def Notes (code : HandlerM σ α) (noting : HandlerM (Logged φ σ) α) (state : σ)
    (calls : List (Call φ)) : Prop :=
  ∀ log, noting.run.run (state, log) =
    ((code.run.run state).1, ((code.run.run state).2, log ++ calls))

theorem notes_logged (call : Call φ) (code : HandlerM σ α) (state : σ) :
    Notes code (logged call code) state [call] := fun _ => rfl

def Endpoint.logged (callee : Callee φ) (e : Endpoint φ σ α) : Endpoint φ (Logged φ σ) α where
  params := []
  action bound cx := UrlRouter.logged ⟨callee, bound.all, cx.route⟩ (e.call bound.all cx)

theorem Endpoint.notes_call (callee : Callee φ) (e : Endpoint φ σ α) (args : Args)
    (cx : Context φ) (state : σ) :
    Notes (e.call args cx) ((e.logged callee).call args cx) state [⟨callee, args, cx.route⟩] :=
  notes_logged _ _ state

def Controller.logged (name : String) (c : Controller φ σ) : Controller φ (Logged φ σ) where
  init := c.init.map (Endpoint.logged (.init name))
  methods := c.methods.mapValues fun action => Endpoint.logged (.action name action)

def HandlerRegistry.logged (handlers : HandlerRegistry φ σ) : HandlerRegistry φ (Logged φ σ) :=
  handlers.mapValues Controller.logged

namespace Target

def logged (t : Target φ σ) : Target φ (Logged φ σ) where
  controllerName := t.controllerName
  methodName := t.methodName
  init := t.init.map (Endpoint.logged (.init t.controllerName))
  method := t.method.logged (.action t.controllerName t.methodName)

def callees (t : Target φ σ) : List (Callee φ) :=
  match t.init with
  | some _ => [.init t.controllerName, .action t.controllerName t.methodName]
  | none => [.action t.controllerName t.methodName]

theorem run_of_init_none {t : Target φ σ} (h : t.init = none) (args : Args) (cx : Context φ) :
    t.run args cx = t.method.call args cx := by
  obtain ⟨controller, action, init, method⟩ := t
  obtain rfl : init = none := h
  rfl

theorem run_of_init_some {t : Target φ σ} {e : Endpoint φ σ (Option String)}
    (h : t.init = some e) (args : Args) (cx : Context φ) :
    t.run args cx = e.call args cx >>= fun early =>
      match early with
      | some output => pure output
      | none => t.method.call args cx := by
  obtain ⟨controller, action, init, method⟩ := t
  obtain rfl : init = some e := h
  rfl

theorem exists_notes_run (t : Target φ σ) (args : Args) (cx : Context φ) (state : σ) :
    ∃ calls, calls ≠ [] ∧ calls <+: t.callees.map (⟨·, args, cx.route⟩) ∧
      Notes (t.run args cx) (t.logged.run args cx) state calls := by
  have hmethod := t.method.notes_call (.action t.controllerName t.methodName) args cx
  cases hinit : t.init with
  | none =>
    have hlogged : t.logged.init = none := by rw [logged, hinit, Option.map_none]
    rw [run_of_init_none hinit, run_of_init_none hlogged, callees, hinit]
    exact ⟨_, List.cons_ne_nil _ _, List.prefix_rfl, hmethod state⟩
  | some e =>
    have hlogged : t.logged.init = some (e.logged (.init t.controllerName)) := by
      rw [logged, hinit, Option.map_some]
    have hcall := e.notes_call (.init t.controllerName) args cx state
    rw [run_of_init_some hinit, run_of_init_some hlogged, callees, hinit]
    rcases hrun : (e.call args cx).run.run state with ⟨error | (_ | output), next⟩
    · refine ⟨[_], List.cons_ne_nil _ _, List.prefix_append _ _, fun log => ?_⟩
      rw [run_bind_error hrun, run_bind_error (by rw [hcall, hrun])]
    · refine ⟨[_, _], List.cons_ne_nil _ _, List.prefix_rfl, fun log => ?_⟩
      rw [run_bind_ok hrun, run_bind_ok (by rw [hcall, hrun])]
      refine (hmethod next _).trans ?_
      rw [List.append_assoc]
      rfl
    · refine ⟨[_], List.cons_ne_nil _ _, List.prefix_append _ _, fun log => ?_⟩
      rw [run_bind_ok hrun, run_bind_ok (by rw [hcall, hrun])]
      rfl

end Target

namespace HandlerRegistry

variable (handlers : HandlerRegistry φ σ)

theorem target_logged (controller : String) (method : Option String) (req : Request) :
    handlers.logged.target controller method req =
      (handlers.target controller method req).map Target.logged := by
  have hselect (c : Controller φ σ) : (c.logged controller).select req = c.select req := by
    simp only [Controller.select, Controller.hasMethod, Dict.contains, Controller.logged,
      Dict.get?_mapValues, Option.isSome_map]
    rfl
  unfold target
  rw [logged, Dict.get?_mapValues]
  cases handlers.get? controller with
  | none => rfl
  | some c =>
    rw [Option.map_some]
    dsimp only
    rw [hselect]
    generalize method.getD (c.select req) = name
    rw [Controller.logged, Dict.get?_mapValues]
    cases c.methods.get? name <;> rfl

end HandlerRegistry

namespace Invocation

def logged : Invocation φ σ → Invocation φ (Logged φ σ)
  | .func f => .func f
  | .target t => .target t.logged

def callees : Invocation φ σ → List (Callee φ)
  | .func f => [.func f]
  | .target t => t.callees

end Invocation

theorem HandlerRef.invocation_logged (ref : HandlerRef φ) (handlers : HandlerRegistry φ σ)
    (req : Request) (args : Args) :
    ref.invocation handlers.logged req args =
      (ref.invocation handlers req args).map Invocation.logged := by
  cases ref with
  | func f => rfl
  | target controller method =>
    rw [invocation, invocation]
    cases renderToken args controller with
    | error e => rfl
    | ok controller =>
      cases method.mapM (renderToken args) with
      | error e => rfl
      | ok method =>
        dsimp only
        rw [handlers.target_logged]
        cases handlers.target controller method req <;> rfl

namespace Plan

def logged (p : Plan φ σ) : Plan φ (Logged φ σ) := ⟨p.route, p.args, p.invocation.logged⟩

def calls (p : Plan φ σ) : List (Call φ) :=
  p.invocation.callees.map (⟨·, p.args, some p.route⟩)

theorem descriptor_logged (p : Plan φ σ) : p.logged.descriptor = p.descriptor := by
  obtain ⟨route, args, f | t⟩ := p <;> rfl

theorem key_logged (p : Plan φ σ) : p.logged.key = p.key := by
  rw [key, descriptor_logged]
  rfl

theorem told_logged (p : Plan φ σ) : p.logged.told = p.told := by
  rw [told, descriptor_logged]
  rfl

end Plan

def Memory.logging (m : Memory κ σ) (log : List (Call φ)) : Memory κ (Logged φ σ) :=
  ⟨m.cache, (m.code, log)⟩

def Served.logging (s : Served κ σ) (log : List (Call φ)) : Served κ (Logged φ σ) :=
  ⟨s.visit, s.result, s.response, s.matched, s.memory.logging log⟩

namespace Dispatcher

def logged (d : Dispatcher φ σ κ) : Dispatcher φ (Logged φ σ) κ where
  router := d.router
  handlers := d.handlers.logged
  call f args cx := UrlRouter.logged ⟨.func f, args, cx.route⟩ (d.call f args cx)
  cache := d.cache
  locale := d.locale

theorem exists_notes_codeOf (d : Dispatcher φ σ κ) (req : Request) (p : Plan φ σ) (state : σ) :
    ∃ calls, calls ≠ [] ∧ calls <+: p.calls ∧
      Notes (d.codeOf req p) (d.logged.codeOf req p.logged) state calls := by
  obtain ⟨route, args, f | t⟩ := p
  · exact ⟨_, List.cons_ne_nil _ _, List.prefix_rfl, notes_logged _ _ state⟩
  · exact t.exists_notes_run args ⟨d.router, req, d.currentLocale, some route⟩ state

theorem invocation_logged (d : Dispatcher φ σ κ) (ref : HandlerRef φ) (req : Request)
    (args : Args) :
    ref.invocation d.logged.handlers req args =
      (ref.invocation d.handlers req args).map Invocation.logged :=
  ref.invocation_logged d.handlers req args

theorem Plans.logged {d : Dispatcher φ σ κ} {req : Request} {p : Plan φ σ} (h : d.Plans req p) :
    d.logged.Plans req p.logged := by
  refine ⟨h.resolved, ?_⟩
  change p.route.handler.invocation d.logged.handlers req p.args = _
  rw [d.invocation_logged, h.prepared]
  rfl

theorem look_logged (d : Dispatcher φ σ κ) (now : Instant) (p : Plan φ σ) (c : κ) :
    d.logged.look now p.logged c = d.look now p c := by
  unfold look
  rw [p.key_logged]
  rfl

theorem store_logged (d : Dispatcher φ σ κ) (now : Instant) (p : Plan φ σ) (text : String) (c : κ) :
    d.logged.store now p.logged text c = d.store now p text c := by
  unfold store
  rw [p.key_logged]
  rfl

structure PlansStatus (d : Dispatcher φ σ κ) (req : Request) (s : Status) (p : Plan φ σ) :
    Prop where
  registered : d.router.errorRoute? s = some p.route
  args : p.args = p.route.settings.args.insert "status" (.int s.code)
  prepared : p.route.handler.invocation d.handlers req p.args = .ok p.invocation

section Ending

variable {d : Dispatcher φ σ κ} {req : Request} {s : Status}

def endingOf (s : Status) (route : Route φ) : Except HandlerError String × σ → Ending σ
  | (.ok body, code) =>
      ⟨.ok (.rendered body route.name), route.settings.responseCode.getD s, code⟩
  | (.error (.status s fallback), code) => ⟨.ok (.inline s fallback), s, code⟩
  | (.error (.badUsage message), code) =>
      ⟨.error (.badRouteUsage route.name.text message), route.settings.responseCode.getD s, code⟩
  | (.error (.other message), code) =>
      ⟨.error (.handler route.name.text message), route.settings.responseCode.getD s, code⟩

theorem ending_of_planned {p : Plan φ σ} (h : d.PlansStatus req s p) (fallback : Option String)
    (code : σ) :
    d.ending req s fallback code = endingOf s p.route ((d.codeOf req p).run.run code) := by
  have hprepared := h.prepared
  have hplan : (⟨p.route, p.args, p.invocation⟩ : Plan φ σ) = p := rfl
  rw [h.args] at hprepared hplan
  simp only [ending, h.registered, hprepared, hplan]
  rcases (d.codeOf req p).run.run code with ⟨(_ | _ | _) | body, code⟩ <;> rfl

def Ending.logging (e : Ending σ) (log : List (Call φ)) : Ending (Logged φ σ) :=
  ⟨e.result, e.status, (e.code, log)⟩

theorem endingOf_logging (s : Status) (route : Route φ) (result : Except HandlerError String)
    (code : σ) (log : List (Call φ)) :
    endingOf s route (result, (code, log)) = (endingOf s route (result, code)).logging log := by
  rcases result with (_ | _ | _) | body <;> rfl

theorem PlansStatus.logged {p : Plan φ σ} (h : d.PlansStatus req s p) :
    d.logged.PlansStatus req s p.logged := by
  refine ⟨h.registered, h.args, ?_⟩
  change p.route.handler.invocation d.logged.handlers req p.args = _
  rw [d.invocation_logged, h.prepared]
  rfl

theorem ending_logged_of_unplanned (h : ∀ p, ¬ d.PlansStatus req s p) (fallback : Option String)
    (code : σ) (log : List (Call φ)) :
    d.logged.ending req s fallback (code, log) = (d.ending req s fallback code).logging log := by
  have hrouter : d.logged.router = d.router := rfl
  rw [ending, ending, hrouter]
  cases hroute : d.router.errorRoute? s with
  | none => rfl
  | some route =>
    dsimp only
    rw [d.invocation_logged]
    cases hi : route.handler.invocation d.handlers req
        (route.settings.args.insert "status" (.int s.code)) with
    | error e => rfl
    | ok i => exact absurd ⟨hroute, rfl, hi⟩ (h ⟨route, _, i⟩)

end Ending

/-- The calls of one handler, called once, if there is a plan for one: these are the first calls of
the plan. -/
def CalledOnce (plan : Plan φ σ → Prop) (calls : List (Call φ)) : Prop :=
  (∃ p, plan p ∧ calls ≠ [] ∧ calls <+: p.calls) ∨ (∀ p, ¬ plan p) ∧ calls = []

theorem exists_notes_ending (d : Dispatcher φ σ κ) (req : Request) (s : Status)
    (fallback : Option String) (code : σ) :
    ∃ calls, CalledOnce (d.PlansStatus req s) calls ∧
      ∀ log, d.logged.ending req s fallback (code, log) =
        (d.ending req s fallback code).logging (log ++ calls) := by
  by_cases hplanned : ∃ p, d.PlansStatus req s p
  · obtain ⟨p, hp⟩ := hplanned
    obtain ⟨calls, hne, hprefix, hnotes⟩ := d.exists_notes_codeOf req p code
    refine ⟨calls, .inl ⟨p, hp, hne, hprefix⟩, fun log => ?_⟩
    rw [ending_of_planned hp.logged, hnotes log, endingOf_logging, ending_of_planned hp]
    rfl
  · have hnone : ∀ p, ¬ d.PlansStatus req s p := not_exists.1 hplanned
    refine ⟨[], .inr ⟨hnone, rfl⟩, fun log => ?_⟩
    rw [ending_logged_of_unplanned hnone, List.append_nil]

def RunsStatus (d : Dispatcher φ σ κ) (m : Memory κ σ) (v : Visit) (p : Plan φ σ) : Prop :=
  ∃ s fallback code, d.RendersOn m v s fallback code ∧ d.PlansStatus v.request s p

section Served

variable {d : Dispatcher φ σ κ} {m : Memory κ σ} {v : Visit} {p : Plan φ σ}

theorem RendersOn.of_plans {s : Status} {fallback : Option String} {code : σ}
    (h : d.RendersOn m v s fallback code) (hp : d.Plans v.request p) :
    d.Runs m v p ∧
      (d.codeOf v.request p).run.run m.code = (.error (.status s fallback), code) := by
  cases h with
  | unrouted hresolve => cases hresolve.symm.trans hp.resolved
  | signalled hruns hcode =>
    obtain rfl := hruns.planned.unique hp
    exact ⟨hruns, hcode⟩

theorem RendersOn.unique {s s' : Status} {fallback fallback' : Option String} {code code' : σ}
    (h : d.RendersOn m v s fallback code) (h' : d.RendersOn m v s' fallback' code') :
    s = s' ∧ fallback = fallback' ∧ code = code' := by
  cases h with
  | unrouted hresolve =>
    cases h' with
    | unrouted => exact ⟨rfl, rfl, rfl⟩
    | signalled hruns => cases hresolve.symm.trans hruns.planned.resolved
  | signalled hruns hcode =>
    cases hcode.symm.trans (h'.of_plans hruns.planned).2
    exact ⟨rfl, rfl, rfl⟩

theorem RendersOn.runsStatus_eq {s : Status} {fallback : Option String} {code : σ}
    (h : d.RendersOn m v s fallback code) : d.RunsStatus m v = d.PlansStatus v.request s := by
  funext p
  refine propext ⟨?_, fun hp => ⟨s, fallback, code, h, hp⟩⟩
  rintro ⟨s', fallback', code', h', hp⟩
  obtain ⟨rfl, _⟩ := h.unique h'
  exact hp

theorem calledOnce_nil_of_not {plan : Plan φ σ → Prop} (h : ∀ p, ¬ plan p) : CalledOnce plan [] :=
  .inr ⟨h, rfl⟩

theorem not_runsStatus_of_plans (hp : d.Plans v.request p)
    (h : d.Runs m v p → ∀ s fallback code,
      (d.codeOf v.request p).run.run m.code ≠ (.error (.status s fallback), code)) (q : Plan φ σ) :
    ¬ d.RunsStatus m v q := by
  rintro ⟨s, fallback, code, hrenders, _⟩
  obtain ⟨hruns, hcode⟩ := hrenders.of_plans hp
  exact h hruns s fallback code hcode

theorem look_logged_eq {found : Option CachedResponse} {c : κ}
    (h : d.look v.now p m.cache = (found, c)) (log : List (Call φ)) :
    d.logged.look v.now p.logged (m.logging log).cache = (found, c) :=
  (d.look_logged v.now p m.cache).trans h

theorem exists_notes_serve_of_not_runs (hp : d.Plans v.request p) (h : ¬ d.Runs m v p) :
    CalledOnce (d.Runs m v) [] ∧ CalledOnce (d.RunsStatus m v) [] ∧
      ∀ log, d.logged.serve (m.logging log) v = (d.serve m v).logging log := by
  refine ⟨calledOnce_nil_of_not fun q hq => ?_,
    calledOnce_nil_of_not (not_runsStatus_of_plans hp fun hruns => absurd hruns h), fun log => ?_⟩
  · obtain rfl := hq.planned.unique hp
    exact h hq
  by_cases hrefused : p.route.cacheTtl.isSome ∧ v.sessionActive = true
  · rw [serve_of_refused m hp hrefused.1 hrefused.2,
      serve_of_refused (m.logging log) hp.logged hrefused.1 hrefused.2, p.told_logged]
    rfl
  · have hsession : p.route.cacheTtl.isSome → v.sessionActive = false := by
      intro hcaches
      simpa using fun hactive => hrefused ⟨hcaches, hactive⟩
    rcases hlook : d.look v.now p m.cache with ⟨_ | hit, c⟩
    · exact absurd ⟨hp, hsession, by rw [hlook]⟩ h
    · have hidle := hsession (caches_of_look hlook)
      rw [serve_of_hit hp hidle hlook, serve_of_hit hp.logged hidle (look_logged_eq hlook log),
        p.told_logged]
      rfl

theorem exists_notes_serve_of_runs (h : d.Runs m v p) :
    ∃ own rendering, CalledOnce (d.Runs m v) own ∧ CalledOnce (d.RunsStatus m v) rendering ∧
      ∀ log, d.logged.serve (m.logging log) v =
        (d.serve m v).logging (log ++ own ++ rendering) := by
  obtain ⟨hp, hsession, hmissing⟩ := id h
  have hlook : d.look v.now p m.cache = (none, (d.look v.now p m.cache).2) := Prod.ext hmissing rfl
  have hlogged := look_logged_eq (p := p) hlook
  obtain ⟨own, hne, hprefix, hnotes⟩ := d.exists_notes_codeOf v.request p m.code
  have hown : CalledOnce (d.Runs m v) own := .inl ⟨p, h, hne, hprefix⟩
  rcases hcode : (d.codeOf v.request p).run.run m.code with ⟨e | body, code⟩
  · cases he : e.failure? p.route with
    | some error =>
      refine ⟨own, [], hown, calledOnce_nil_of_not (not_runsStatus_of_plans hp
        fun _ s fallback code' hstatus => ?_), fun log => ?_⟩
      · cases hcode.symm.trans hstatus
        cases he
      · have hcode' := hnotes log
        rw [hcode] at hcode'
        rw [serve_of_failure hp hsession hlook hcode he,
          serve_of_failure hp.logged hsession (hlogged log) hcode' he, p.told_logged,
          List.append_nil]
        rfl
    | none =>
      obtain ⟨s, fallback, rfl⟩ := HandlerError.failure?_eq_none_iff.1 he
      have hrenders : d.RendersOn m v s fallback code := .signalled h hcode
      obtain ⟨calls, hcalls, hending⟩ := d.exists_notes_ending v.request s fallback code
      rw [← hrenders.runsStatus_eq] at hcalls
      refine ⟨own, calls, hown, hcalls, fun log => ?_⟩
      have hcode' := hnotes log
      rw [hcode] at hcode'
      rw [serve_of_status hp hsession hlook hcode,
        serve_of_status hp.logged hsession (hlogged log) hcode', p.told_logged, hending]
      rfl
  · refine ⟨own, [], hown, calledOnce_nil_of_not (not_runsStatus_of_plans hp
      fun _ s fallback code' hstatus => ?_), fun log => ?_⟩
    · cases hcode.symm.trans hstatus
    · have hcode' := hnotes log
      rw [hcode] at hcode'
      rw [serve_of_answer hp hsession hlook hcode,
        serve_of_answer hp.logged hsession (hlogged log) hcode', p.told_logged, store_logged,
        List.append_nil]
      rfl

end Served

theorem exists_notes_serve (d : Dispatcher φ σ κ) (m : Memory κ σ) (v : Visit) :
    ∃ own rendering, CalledOnce (d.Runs m v) own ∧ CalledOnce (d.RunsStatus m v) rendering ∧
      ∀ log, d.logged.serve (m.logging log) v =
        (d.serve m v).logging (log ++ own ++ rendering) := by
  cases hresolve : d.router.resolve v.request with
  | none =>
    have hrenders : d.RendersOn m v v.missing none m.code := .unrouted hresolve
    obtain ⟨calls, hcalls, hnotes⟩ := d.exists_notes_ending v.request v.missing none m.code
    rw [← hrenders.runsStatus_eq] at hcalls
    refine ⟨[], calls, calledOnce_nil_of_not fun p hp => ?_, hcalls, fun log => ?_⟩
    · cases hresolve.symm.trans hp.planned.resolved
    · rw [serve_of_unresolved m hresolve, serve_of_unresolved (m.logging log) hresolve]
      simp only [Memory.logging, hnotes, List.append_nil]
      rfl
  | some found =>
    obtain ⟨route, args⟩ := found
    cases hi : route.handler.invocation d.handlers v.request args with
    | error e =>
      have hnone := not_plans_of_unprepared hresolve hi
      have hlogged : route.handler.invocation d.logged.handlers v.request args = .error e := by
        rw [d.invocation_logged, hi]
        rfl
      refine ⟨[], [], calledOnce_nil_of_not fun p hp => hnone p hp.planned,
        calledOnce_nil_of_not ?_, fun log => ?_⟩
      · rintro p ⟨s, fallback, code, hrenders, _⟩
        cases hrenders with
        | unrouted hunrouted => cases hresolve.symm.trans hunrouted
        | signalled hruns => exact hnone _ hruns.planned
      · rw [serve_of_unprepared m hresolve hi,
          serve_of_unprepared (d := d.logged) (m.logging log) hresolve hlogged]
        simp only [List.append_nil]
        rfl
    | ok i =>
      have hp : d.Plans v.request ⟨route, args, i⟩ := ⟨hresolve, hi⟩
      by_cases hruns : d.Runs m v ⟨route, args, i⟩
      · exact exists_notes_serve_of_runs hruns
      · obtain ⟨hown, hrendering, hserve⟩ := exists_notes_serve_of_not_runs hp hruns
        exact ⟨[], [], hown, hrendering, by simpa using hserve⟩

section Effects

variable {d : Dispatcher φ σ κ} {m : Memory κ σ} {v : Visit} {s : Served κ σ}

theorem Serves.matched_of_plans (h : d.Serves m v s) {p : Plan φ σ} (hp : d.Plans v.request p) :
    s.matched = [p.told] := by
  cases h with
  | unrouted hresolve => cases hresolve.symm.trans hp.resolved
  | unprepared hnone => exact absurd hp (hnone p)
  | refused hq | replayed hq | failed hq | signalled hq | rendered hq =>
    obtain rfl := hq.unique hp
    rfl

theorem Serves.matched_eq_nil (h : d.Serves m v s) (hnone : ∀ p, ¬ d.Plans v.request p) :
    s.matched = [] := by
  cases h with
  | unrouted | unprepared => rfl
  | refused hp | replayed hp | failed hp | signalled hp | rendered hp =>
    exact absurd hp (hnone _)

def cacheHeaderNames : List String := ["cache-control", "expires", "pragma", "vary"]

theorem Serves.values_headers (h : d.Serves m v s)
    (hfresh : ∀ o, s.result = .ok o → o.fromCache = false) {name : String}
    (hname : name ∉ cacheHeaderNames) :
    s.response.headers.values name = v.response.headers.values name := by
  cases h with
  | unrouted | unprepared | refused | failed | signalled => rfl
  | replayed => cases hfresh _ rfl
  | @rendered p =>
    rw [Plan.respond]
    cases p.route.cacheTtl with
    | none => rfl
    | some ttl => exact Headers.values_insertAll_of_not_mem hname _

end Effects

theorem effects_of_dispatch (d : Dispatcher φ σ κ) (m : Memory κ σ) (v : Visit) :
    let s := d.serve m v
    (∀ p, d.Plans v.request p → s.matched = [p.told]) ∧
    ((∀ p, ¬ d.Plans v.request p) → s.matched = []) ∧
    (∃ own rendering, CalledOnce (d.Runs m v) own ∧ CalledOnce (d.RunsStatus m v) rendering ∧
      ∀ log, d.logged.serve (m.logging log) v = s.logging (log ++ own ++ rendering)) ∧
    (∀ status fallback code p final text code', d.RendersOn m v status fallback code →
      d.PlansStatus v.request status p →
      (d.codeOf v.request p).run.run code = (.error (.status final text), code') →
      s.result = .ok ⟨text.getD final.text, none, false⟩ ∧
        s.response = v.response.withStatus final ∧ s.memory.code = code') ∧
    ((∀ o, s.result = .ok o → o.fromCache = false) → ∀ name ∉ cacheHeaderNames,
      s.response.headers.values name = v.response.headers.values name) := by
  intro s
  have hserves : d.Serves m v s := d.serves_serve m v
  refine ⟨fun p hp => hserves.matched_of_plans hp, hserves.matched_eq_nil,
    d.exists_notes_serve m v, ?_, fun hfresh name hname => hserves.values_headers hfresh hname⟩
  intro status fallback code p final text code' hrenders hp hcode
  obtain ⟨hresult, hresponse, hstate⟩ := hrenders.serve_eq
  rw [ending_of_planned hp, hcode] at hresult hresponse hstate
  exact ⟨hresult, hresponse, hstate⟩

/-- The error route of a status that no route is found for signals another one, which has an error
route as well. -/
example :
    let failure : Status := ⟨500, by decide⟩
    let signals (s signalled : Status) : RouteEntry Status :=
      .route ⟨some (.error s), "", .withHandler .empty (.func signalled)⟩
    let d : Dispatcher Status Unit Unit :=
      { router := (Router.empty.insertAll [signals .notFound failure, signals failure .notFound]).1
        handlers := .empty
        call := fun s _ _ => throw (.status s none)
        cache := none
        locale := none }
    let s := d.logged.serve (Memory.logging ⟨(), ()⟩ []) (Visit.get "/a" ⟨0⟩ .new)
    s.result.toOption = some ⟨"500 Internal Server Error", none, false⟩ ∧
      s.response.status = failure ∧
      s.memory.code.2.map (fun call => call.route.map (·.name)) = [some (.error .notFound)] := by
  decide +kernel

end Dispatcher

end UrlRouter
