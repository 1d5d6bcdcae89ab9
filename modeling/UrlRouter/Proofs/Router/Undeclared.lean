import Mathlib.Data.List.Find
import UrlRouter.Proofs.Dispatch.Steps
import UrlRouter.Proofs.Registration.Reachable
import UrlRouter.Router.Resolve

/-!
What routing reads of a request. Routes look at its method, at its path before the question mark and
at the fields that their inputs name, so requests that agree on these are not told apart.
-/

namespace UrlRouter

variable {φ : Type}

structure Request.AgreeOn (names : List String) (req other : Request) : Prop where
  method : req.method = other.method
  path : stripQuery req.path = stripQuery other.path
  query : ∀ name ∈ names, req.query? name = other.query? name
  post : req.method = .post → ∀ name ∈ names, req.post? name = other.post? name

theorem Request.AgreeOn.mono {names fewer : List String} {req other : Request}
    (h : req.AgreeOn names other) (hsub : fewer ⊆ names) : req.AgreeOn fewer other :=
  ⟨h.method, h.path, fun name hname => h.query name (hsub hname),
    fun hpost name hname => h.post hpost name (hsub hname)⟩

theorem Request.AgreeOn.field?_eq {names : List String} {req other : Request}
    (h : req.AgreeOn names other) {name : String} (hname : name ∈ names) :
    req.field? name = other.field? name := by
  rw [Request.field?, Request.field?, ← h.method, ← h.query name hname]
  split
  · next hpost => rw [h.post hpost name hname]
  · rfl

theorem collectInputs_congr {req other : Request} {inputs : List Input}
    (h : ∀ i ∈ inputs, req.field? i.name = other.field? i.name) :
    collectInputs req inputs = collectInputs other inputs := by
  induction inputs with
  | nil => rfl
  | cons i inputs ih =>
    obtain ⟨hi, hinputs⟩ := List.forall_mem_cons.1 h
    rw [collectInputs, collectInputs, hi, ih hinputs]

namespace Route

def inputNames (route : Route φ) : List String := route.settings.inputs.map (·.name)

def offered? (req : Request) (route : Route φ) : Option Args :=
  if route.accepts req.method then
    (route.captures? (stripQuery req.path)).bind fun captures =>
      (collectInputs req route.settings.inputs).map fun inputs =>
        mergeArgs route.settings.args inputs captures
  else none

theorem accept?_eq_filter (req : Request) (route : Route φ) :
    route.accept? req =
      (route.offered? req).filter fun args => route.settings.conditions.all fun c => c args := by
  rw [accept?, offered?]
  by_cases hmethod : route.accepts req.method = true
  · rw [if_neg (not_not_intro hmethod), if_pos hmethod]
    cases route.captures? (stripQuery req.path) with
    | none => rfl
    | some captures =>
      cases collectInputs req route.settings.inputs with
      | none => rfl
      | some inputs => simp [Option.filter]
  · rw [if_pos hmethod, if_neg hmethod]
    rfl

theorem offered?_congr {route : Route φ} {req other : Request}
    (h : req.AgreeOn route.inputNames other) : route.offered? req = route.offered? other := by
  have hinputs : collectInputs req route.settings.inputs =
      collectInputs other route.settings.inputs :=
    collectInputs_congr fun i hi => h.field?_eq (List.mem_map_of_mem hi)
  rw [offered?, offered?, h.method, h.path, hinputs]

end Route

namespace Router

def inputNames (r : Router φ) : List String := r.routes.flatMap Route.inputNames

structure TreatsAlike (r : Router φ) (req other : Request) : Prop where
  resolved : r.resolve req = r.resolve other
  offered : ∀ route ∈ r.routes, route.offered? req = route.offered? other
  planned : ∀ (σ κ : Type) (d : Dispatcher φ σ κ), d.router = r →
    (∀ controller method,
      d.handlers.target controller method req = d.handlers.target controller method other) →
    ∀ p, d.Plans req p ↔ d.Plans other p

theorem resolve_congr {r : Router φ} {req other : Request}
    (h : ∀ route ∈ r.routes, route.offered? req = route.offered? other) :
    r.resolve req = r.resolve other := by
  rw [resolve, resolve, ← List.head?_filterMap, ← List.head?_filterMap]
  refine congrArg List.head? (List.filterMap_congr fun route hroute => ?_)
  rw [route.accept?_eq_filter req, route.accept?_eq_filter other, h route hroute]

variable {r : Router φ} {req other : Request}

theorem TreatsAlike.of_agreeOn (h : req.AgreeOn r.inputNames other) : r.TreatsAlike req other := by
  have hoffered : ∀ route ∈ r.routes, route.offered? req = route.offered? other := by
    intro route hroute
    exact Route.offered?_congr (h.mono fun name hname => List.mem_flatMap.2 ⟨route, hroute, hname⟩)
  have hresolve := resolve_congr hoffered
  refine ⟨hresolve, hoffered, ?_⟩
  rintro σ κ d rfl htarget p
  have hinvocation : p.route.handler.invocation d.handlers req p.args =
      p.route.handler.invocation d.handlers other p.args := by
    cases p.route.handler with
    | func f => rfl
    | target controller method => simp only [HandlerRef.invocation, htarget]
  constructor
  · rintro ⟨hresolved, hprepared⟩
    exact ⟨hresolve ▸ hresolved, hinvocation ▸ hprepared⟩
  · rintro ⟨hresolved, hprepared⟩
    exact ⟨hresolve ▸ hresolved, hinvocation ▸ hprepared⟩

end Router

theorem Form.find?_filter {names : List String} {name : String} (h : name ∈ names)
    (pairs : List (String × String)) :
    find? (pairs.filter (·.1 ∈ names)) name = find? pairs name := by
  rw [find?, find?, List.find?_filter]
  refine congrArg _ (List.find?_congr fun pair _ => ?_)
  by_cases hpair : pair.1 = name
  · simp [hpair, h]
  · simp [hpair]

theorem SimpleRequest.agreeOn {names : List String} {req other : SimpleRequest}
    (hmethod : req.method = other.method) (hpath : stripQuery req.path = stripQuery other.path)
    (hquery : req.query.filter (·.1 ∈ names) = other.query.filter (·.1 ∈ names))
    (hpost : req.method = .post →
      req.post.filter (·.1 ∈ names) = other.post.filter (·.1 ∈ names)) :
    req.toRequest.AgreeOn names other.toRequest where
  method := hmethod
  path := hpath
  query name hname := by
    change Form.find? req.query name = Form.find? other.query name
    rw [← Form.find?_filter hname, hquery, Form.find?_filter hname]
  post h name hname := by
    change Form.find? req.post name = Form.find? other.post name
    rw [← Form.find?_filter hname, hpost h, Form.find?_filter hname]

namespace Router

theorem undeclared_data_ignored (r : Router φ) :
    (∀ req other : Request, req.AgreeOn r.inputNames other → r.TreatsAlike req other) ∧
      (∀ (req : Request) (post? : String → Option String), req.method ≠ .post →
        r.TreatsAlike req { req with post? }) ∧
      ∀ req other : SimpleRequest, req.method = other.method →
        stripQuery req.path = stripQuery other.path →
        req.query.filter (·.1 ∈ r.inputNames) = other.query.filter (·.1 ∈ r.inputNames) →
        (req.method = .post →
          req.post.filter (·.1 ∈ r.inputNames) = other.post.filter (·.1 ∈ r.inputNames)) →
        r.TreatsAlike req.toRequest other.toRequest :=
  ⟨fun _ _ => .of_agreeOn,
    fun _ _ hpost => .of_agreeOn ⟨rfl, rfl, fun _ _ => rfl, fun h => absurd h hpost⟩,
    fun _ _ hmethod hpath hquery hpost =>
      .of_agreeOn (SimpleRequest.agreeOn hmethod hpath hquery hpost)⟩

theorem undeclared_data_ignored_page :
    let page : RouteDefinition Unit := ⟨some (.named "page"), "/list",
      { (.withHandler .empty (.func ()) : RouteSettings Unit) with
        inputs := [⟨"page", .int, true⟩] }⟩
    let all : RouteDefinition Unit := ⟨some (.named "all"), "/list",
      .withHandler .empty (.func ())⟩
    let r := (Router.empty.insertAll [.route page, .route all]).1
    let plain : SimpleRequest := ⟨.get, "/list", [("page", "7")], [], false⟩
    let crowded : SimpleRequest :=
      ⟨.get, "/list?a?b", [("debug", "1"), ("page", "7"), ("x", "")], [("page", "8")], true⟩
    r.Reachable ∧ r.inputNames = ["page"] ∧
      plain.toRequest.AgreeOn r.inputNames crowded.toRequest ∧
      r.TreatsAlike plain.toRequest crowded.toRequest ∧
      r.TreatsAlike plain.toRequest { plain.toRequest with post? := fun _ => some "9" } := by
  intro page all r plain crowded
  have hnames : r.inputNames = ["page"] := by decide +kernel
  have hagree : plain.toRequest.AgreeOn r.inputNames crowded.toRequest := by
    refine SimpleRequest.agreeOn rfl (by decide) ?_ (by decide)
    rw [hnames]
    decide
  obtain ⟨hdeclared, hposted, _⟩ := undeclared_data_ignored r
  exact ⟨.insertAll _ (.start .empty), hnames, hagree, hdeclared _ _ hagree,
    hposted _ _ (by decide)⟩

end Router

end UrlRouter
