import UrlRouter.Dispatch.CacheHeaders
import UrlRouter.Dispatch.CachedResponse
import UrlRouter.Dispatch.Invocation
import UrlRouter.Router.Resolve

/-!
Dispatch: the first route that takes a request renders it, from the cache where the route allows.
Without a route, or when its handler answers by a status, the error route of that status renders,
and without one a short text.
-/

namespace UrlRouter

structure Match where
  route : String
  regex : String
  handler : String
  args : Args

namespace Match

def event : String := "router.matched"

def data (m : Match) : Json :=
  .object
    [("route", .str m.route),
      ("regex", .str m.regex),
      ("handler", .str m.handler),
      ("args", .ofArgs m.args)]

end Match

structure Outcome where
  body : String
  /-- absent when no route rendered the body -/
  route : Option RouteName
  fromCache : Bool
  deriving DecidableEq

namespace Outcome

def rendered (body : String) (name : RouteName) : Outcome := ⟨body, some name, false⟩

def inline (s : Status) (fallback : Option String) : Outcome :=
  ⟨fallback.getD s.text, none, false⟩

end Outcome

structure DispatchState (κ σ : Type) where
  response : Response
  cache : κ
  matched : List Match
  code : σ

abbrev DispatchM (κ σ : Type) := ExceptT RouterError (StateM (DispatchState κ σ))

structure Dispatcher (φ σ κ : Type) where
  router : Router φ
  handlers : HandlerRegistry φ σ
  call : φ → Args → Context φ → HandlerM σ String
  cache : Option (CacheStore κ)
  locale : Option LocaleSource

namespace Dispatcher

variable {φ σ κ : Type}

def currentLocale (d : Dispatcher φ σ κ) : String :=
  match d.locale with
  | some source => source.current
  | none => d.router.locales.default

def setStatus (s : Status) : DispatchM κ σ Unit :=
  modify fun st => { st with response := st.response.withStatus s }

def setResponseCode (route : Route φ) : DispatchM κ σ Unit :=
  match route.settings.responseCode with
  | some code => setStatus code
  | none => pure ()

def prepare (d : Dispatcher φ σ κ) (req : Request) (route : Route φ) (args : Args) :
    DispatchM κ σ (Invocation φ σ) :=
  match route.handler.invocation d.handlers req args with
  | .ok i => pure i
  | .error e => throw (.badRouteUsage route.name.text e.message)

def invoke (d : Dispatcher φ σ κ) (req : Request) (route : Route φ) (args : Args)
    (i : Invocation φ σ) : DispatchM κ σ (Except HandlerError String) :=
  let cx : Context φ := ⟨d.router, req, d.currentLocale, some route⟩
  let code : HandlerM σ String :=
    match i with
    | .func f => d.call f args cx
    | .target t => t.run args cx
  modifyGet fun st =>
    let (result, code) := code.run.run st.code
    (result, { st with code })

/-- Renders the error route of a status, or a short text. A status that its handler signals is
answered by a short text. -/
def renderStatus (d : Dispatcher φ σ κ) (req : Request) (s : Status) (fallback : Option String) :
    DispatchM κ σ Outcome := do
  setStatus s
  match d.router.errorRoute? s with
  | none => return .inline s fallback
  | some route =>
      setResponseCode route
      let args := route.settings.args.insert "status" (.int s.code)
      let i ← d.prepare req route args
      match ← d.invoke req route args i with
      | .ok body => return .rendered body route.name
      | .error (.status s fallback) =>
          setStatus s
          return .inline s fallback
      | .error (.badUsage message) => throw (.badRouteUsage route.name.text message)
      | .error (.other message) => throw (.handler route.name.text message)

def lookup (d : Dispatcher φ σ κ) (now : Instant) (key : String) :
    DispatchM κ σ (Option CachedResponse) :=
  match d.cache with
  | none => pure none
  | some store => do
      let text ← modifyGet fun st =>
        let (text, cache) := store.get now key st.cache
        (text, { st with cache })
      return text.bind CachedResponse.read?

def keep (d : Dispatcher φ σ κ) (now : Instant) (key body : String) (ttl : Duration) :
    DispatchM κ σ Unit := do
  modify fun st => { st with response := st.response.withCacheHeaders now ttl }
  match d.cache with
  | none => pure ()
  | some store =>
      modify fun st =>
        let entry := CachedResponse.capture st.response body
        { st with cache := store.set now key entry.text ttl st.cache }

def perform (d : Dispatcher φ σ κ) (now : Instant) (req : Request) (route : Route φ) (args : Args)
    (i : Invocation φ σ) (key : String) : DispatchM κ σ Outcome := do
  match ← d.invoke req route args i with
  | .error (.status s fallback) => d.renderStatus req s fallback
  | .error (.badUsage message) => throw (.badRouteUsage route.name.text message)
  | .error (.other message) => throw (.handler route.name.text message)
  | .ok body =>
      setResponseCode route
      match route.cacheTtl with
      | some ttl => d.keep now key body ttl
      | none => pure ()
      return .rendered body route.name

/-- Renders a request by a route, or gives again what the cache has for it. No response is cached
while the session is active. -/
def dispatchTo (d : Dispatcher φ σ κ) (now : Instant) (req : Request) (sessionActive : Bool)
    (route : Route φ) (args : Args) : DispatchM κ σ Outcome := do
  let i ← d.prepare req route args
  let descriptor := i.descriptor route
  let key := cacheKey descriptor args
  let told : Match := ⟨route.name.text, route.regex.source, descriptor, args⟩
  modify fun st => { st with matched := st.matched ++ [told] }
  if route.cacheTtl.isSome then
    if sessionActive then throw (.cachedSessionRoute route.name.text)
    match ← d.lookup now key with
    | some hit =>
        modify fun st => { st with response := hit.replay st.response }
        return ⟨hit.output, some route.name, true⟩
    | none => d.perform now req route args i key
  else d.perform now req route args i key

def dispatch (d : Dispatcher φ σ κ) (now : Instant) (req : Request) (sessionActive : Bool) :
    DispatchM κ σ Outcome := do
  match d.router.resolve req with
  | some (route, args) => d.dispatchTo now req sessionActive route args
  | none =>
      let current := (← get).response.status
      d.renderStatus req (if current.isError then current else .notFound) none

def renderError (d : Dispatcher φ σ κ) (req : Request) (s : Status) : DispatchM κ σ Outcome := do
  match d.router.errorRoute? s with
  | none => throw (.unresolvedStatus s.code)
  | some _ => d.renderStatus req s none

end Dispatcher

end UrlRouter
