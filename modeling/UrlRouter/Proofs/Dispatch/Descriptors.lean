import UrlRouter.Proofs.Dispatch.Statuses

/-!
The handlers behind a cache key. A key has the name of a class and that of a method in one text, or
the name of the route for a function. Two handlers can share a key where the name of a class runs
into the name of a method, or starts as the keys of functions do.
-/

namespace UrlRouter

variable {φ σ κ : Type}

theorem colons_eq_append_iff {u m n : List Char} :
    ':' :: ':' :: m = u ++ ':' :: ':' :: n ↔
      (u = [] ∧ m = n) ∨ (u = [':'] ∧ m = ':' :: n) ∨
        ∃ x, u = ':' :: ':' :: x ∧ m = x ++ ':' :: ':' :: n := by
  match u with
  | [] => simp
  | [c] =>
    simp only [List.singleton_append, List.cons.injEq]
    constructor
    · rintro ⟨rfl, _, rfl⟩
      simp
    · rintro (⟨h, _⟩ | ⟨⟨rfl, _⟩, rfl⟩ | ⟨x, ⟨_, h⟩, _⟩)
      · cases h
      · simp
      · cases h
  | c :: c' :: x =>
    simp only [List.cons_append, List.cons.injEq]
    constructor
    · rintro ⟨rfl, rfl, rfl⟩
      simp
    · rintro (⟨h, _⟩ | ⟨⟨_, h⟩, _⟩ | ⟨y, ⟨rfl, rfl, rfl⟩, rfl⟩)
      · cases h
      · cases h
      · simp

namespace Target

/-- The class of the other target goes on with the method of this one, up to the last colons. -/
def Extends (s t : Target φ σ) : Prop :=
  (t.controllerName = s.controllerName ++ ":" ∧ s.methodName = ":" ++ t.methodName) ∨
    ∃ x, t.controllerName = s.controllerName ++ "::" ++ x ∧ s.methodName = x ++ "::" ++ t.methodName

/-- The class starts as the keys of functions do, and goes on with the name of the route. -/
def Mimics (t : Target φ σ) (route : Route φ) : Prop :=
  ∃ x, t.controllerName = "fn@" ++ x ∧ route.name.text = x ++ "::" ++ t.methodName

theorem toList_descriptor (t : Target φ σ) :
    t.descriptor.toList = t.controllerName.toList ++ ':' :: ':' :: t.methodName.toList := by
  simp [descriptor]

theorem extends_iff {s t : Target φ σ} :
    s.Extends t ∨ (s.controllerName = t.controllerName ∧ s.methodName = t.methodName) ↔
      ∃ u, t.controllerName.toList = s.controllerName.toList ++ u ∧
        ':' :: ':' :: s.methodName.toList = u ++ ':' :: ':' :: t.methodName.toList := by
  simp only [Extends, colons_eq_append_iff, ← String.toList_inj, String.toList_append]
  constructor
  · rintro ((⟨h, hm⟩ | ⟨x, h, hm⟩) | ⟨h, hm⟩)
    · exact ⟨[':'], h, .inr (.inl ⟨rfl, hm⟩)⟩
    · exact ⟨':' :: ':' :: x.toList, by simpa using h,
        .inr (.inr ⟨x.toList, rfl, by simpa using hm⟩)⟩
    · exact ⟨[], by simpa using h.symm, .inl ⟨rfl, hm⟩⟩
  · rintro ⟨u, h, ⟨rfl, hm⟩ | ⟨rfl, hm⟩ | ⟨x, rfl, hm⟩⟩
    · exact .inr ⟨by simpa using h.symm, hm⟩
    · exact .inl (.inl ⟨h, hm⟩)
    · exact .inl (.inr ⟨String.ofList x, by simpa using h, by simpa using hm⟩)

theorem descriptor_eq_iff {s t : Target φ σ} :
    s.descriptor = t.descriptor ↔
      (s.controllerName = t.controllerName ∧ s.methodName = t.methodName) ∨
        s.Extends t ∨ t.Extends s := by
  rw [← String.toList_inj, toList_descriptor, toList_descriptor, List.append_eq_append_iff,
    ← extends_iff]
  have hother : (∃ u, s.controllerName.toList = t.controllerName.toList ++ u ∧
      ':' :: ':' :: t.methodName.toList = u ++ ':' :: ':' :: s.methodName.toList) ↔ _ :=
    extends_iff.symm
  rw [hother]
  constructor
  · rintro ((h | h) | (h | ⟨h, hm⟩))
    · exact .inr (.inl h)
    · exact .inl h
    · exact .inr (.inr h)
    · exact .inl ⟨h.symm, hm.symm⟩
  · rintro (h | h | h)
    · exact .inl (.inr h)
    · exact .inl (.inl h)
    · exact .inr (.inl h)

theorem descriptor_eq_func_iff {t : Target φ σ} {route : Route φ} :
    "fn@" ++ route.name.text = t.descriptor ↔ t.Mimics route := by
  rw [Mimics, ← String.toList_inj, toList_descriptor, String.toList_append]
  simp only [← String.toList_inj, String.toList_append]
  generalize route.name.text.toList = n
  generalize t.methodName.toList = m
  have hmark : "fn@".toList = ['f', 'n', '@'] := rfl
  rw [hmark]
  match t.controllerName.toList with
  | [] => simp
  | [a] => simp
  | [a, b] => simp
  | a :: b :: c :: x =>
    simp only [List.cons_append, List.nil_append, List.cons.injEq]
    constructor
    · rintro ⟨rfl, rfl, rfl, rfl⟩
      exact ⟨String.ofList x, by simp⟩
    · rintro ⟨y, ⟨rfl, rfl, rfl, rfl⟩, rfl⟩
      simp

end Target

namespace Plan

def SameHandler (p q : Plan φ σ) : Prop :=
  match p.invocation, q.invocation with
  | .func _, .func _ => p.route = q.route
  | .target s, .target t => s.controllerName = t.controllerName ∧ s.methodName = t.methodName
  | _, _ => False

def Overlaps (p q : Plan φ σ) : Prop :=
  match p.invocation, q.invocation with
  | .func _, .func _ => False
  | .func _, .target t => t.Mimics p.route
  | .target s, .func _ => s.Mimics q.route
  | .target s, .target t => s.Extends t ∨ t.Extends s

end Plan

structure PlainClass (name : String) : Prop where
  function : ¬ "fn@".toList <+: name.toList
  inner : ¬ "::".toList <:+: name.toList
  last : ¬ [':'] <:+ name.toList

namespace Target

theorem not_mimics {t : Target φ σ} (h : PlainClass t.controllerName) (route : Route φ) :
    ¬ t.Mimics route := by
  rintro ⟨x, hx, _⟩
  exact h.function ⟨x.toList, by rw [hx, String.toList_append]⟩

theorem not_extends {s t : Target φ σ} (h : PlainClass t.controllerName) : ¬ s.Extends t := by
  rintro (⟨hc, _⟩ | ⟨x, hc, _⟩)
  · exact h.last ⟨s.controllerName.toList, by rw [hc, String.toList_append]; rfl⟩
  · exact h.inner ⟨s.controllerName.toList, x.toList, by rw [hc]; simp⟩

end Target

theorem HandlerRegistry.isSome_of_target {handlers : HandlerRegistry φ σ} {controller : String}
    {action : Option String} {req : Request} {t : Target φ σ}
    (h : handlers.target controller action req = .ok t) :
    (handlers.get? t.controllerName).isSome = true := by
  unfold target at h
  split at h
  · cases h
  · next c hc =>
    dsimp only at h
    split at h
    · cases h
    · cases h
      rw [hc, Option.isSome_some]

theorem HandlerRef.isSome_of_invocation {handlers : HandlerRegistry φ σ} {ref : HandlerRef φ}
    {req : Request} {args : Args} {t : Target φ σ}
    (h : ref.invocation handlers req args = .ok (.target t)) :
    (handlers.get? t.controllerName).isSome = true := by
  unfold invocation at h
  split at h
  · cases h
  split at h
  · cases h
  · cases h
  split at h
  · cases h
  · next ht =>
    cases h
    exact HandlerRegistry.isSome_of_target ht

theorem Router.eq_of_name_text_eq {r : Router φ} (hr : r.Reachable) {a b : Route φ}
    (ha : a ∈ r.routes) (hb : b ∈ r.routes) (h : a.name.text = b.name.text) : a = b := by
  obtain ⟨m, hm⟩ := hr.filed.named a ha
  obtain ⟨n, hn⟩ := hr.filed.named b hb
  rw [hm, hn] at h
  have hname : a.name = b.name := by rw [hm, hn, show m = n from h]
  exact List.inj_on_of_nodup_map (hr.filed.nodup_names hr.tabled) ha hb hname

namespace Dispatcher

variable {d : Dispatcher φ σ κ} {req req' : Request} {p q : Plan φ σ}

theorem Plans.descriptor_eq_iff (hd : d.router.Reachable) (hp : d.Plans req p)
    (hq : d.Plans req' q) : p.descriptor = q.descriptor ↔ p.SameHandler q ∨ p.Overlaps q := by
  have hproute := mem_routes_of_plans hp
  have hqroute := mem_routes_of_plans hq
  obtain ⟨route, args, i⟩ := p
  obtain ⟨route', args', i'⟩ := q
  cases i with
  | func f =>
    cases i' with
    | func f' =>
      change "fn@" ++ route.name.text = "fn@" ++ route'.name.text ↔ route = route' ∨ False
      rw [or_false, String.append_right_inj]
      exact ⟨Router.eq_of_name_text_eq hd hproute hqroute, fun h => by rw [h]⟩
    | target t =>
      change "fn@" ++ route.name.text = t.descriptor ↔ False ∨ t.Mimics route
      rw [false_or, Target.descriptor_eq_func_iff]
  | target s =>
    cases i' with
    | func f' =>
      change s.descriptor = "fn@" ++ route'.name.text ↔ False ∨ s.Mimics route'
      rw [false_or, eq_comm, Target.descriptor_eq_func_iff]
    | target t => exact Target.descriptor_eq_iff

theorem Plans.plainClass (hp : d.Plans req p)
    (hplain : ∀ name, (d.handlers.get? name).isSome = true → PlainClass name) {t : Target φ σ}
    (ht : p.invocation = .target t) : PlainClass t.controllerName := by
  have hprepared := hp.prepared
  rw [ht] at hprepared
  exact hplain _ (HandlerRef.isSome_of_invocation hprepared)

theorem Plans.not_overlaps (hp : d.Plans req p) (hq : d.Plans req' q)
    (hplain : ∀ name, (d.handlers.get? name).isSome = true → PlainClass name) :
    ¬ p.Overlaps q := by
  have hclass {t : Target φ σ} := hp.plainClass hplain (t := t)
  have hclass' {t : Target φ σ} := hq.plainClass hplain (t := t)
  obtain ⟨route, args, i⟩ := p
  obtain ⟨route', args', i'⟩ := q
  cases i with
  | func f =>
    cases i' with
    | func f' => exact id
    | target t => exact Target.not_mimics (hclass' rfl) route
  | target s =>
    cases i' with
    | func f' => exact Target.not_mimics (hclass rfl) route'
    | target t =>
      rintro (h | h)
      · exact Target.not_extends (hclass' rfl) h
      · exact Target.not_extends (hclass rfl) h

theorem key_eq_iff_handler (hd : d.router.Reachable) (hp : d.Plans req p) (hq : d.Plans req' q) :
    (p.key = q.key ↔ (p.SameHandler q ∨ p.Overlaps q) ∧
      (Json.ofArgs p.args).render = (Json.ofArgs q.args).render) ∧
    ((∀ name, (d.handlers.get? name).isSome = true → PlainClass name) →
      p.key = q.key → p.SameHandler q) := by
  have hkey : p.key = q.key ↔ (p.SameHandler q ∨ p.Overlaps q) ∧
      (Json.ofArgs p.args).render = (Json.ofArgs q.args).render := by
    rw [Plan.key, Plan.key, cacheKey_eq_iff_render, hp.descriptor_eq_iff hd hq]
  refine ⟨hkey, fun hplain h => ?_⟩
  exact (hkey.1 h).1.resolve_right (hp.not_overlaps hq hplain)

theorem key_eq_iff_handler_twins :
    ∃ p q, twinPages.router.Reachable ∧
      twinPages.Plans (SimpleRequest.new .get "/a").toRequest p ∧
      twinPages.Plans (SimpleRequest.new .get "/b").toRequest q ∧
      (∀ name, (twinPages.handlers.get? name).isSome = true → PlainClass name) ∧
      p.key = q.key ∧ p.SameHandler q := by
  obtain ⟨p, q, hp, hq⟩ := exists_twins
  have hplain : ∀ name, (twinPages.handlers.get? name).isSome = true → PlainClass name := by
    intro name hname
    obtain ⟨c, hc⟩ := Option.isSome_iff_exists.1 hname
    have hnames : twinPages.handlers.entries.map Prod.fst = ["Page"] := by decide +kernel
    have hmem := List.mem_map_of_mem (f := Prod.fst) (Dict.get?_eq_some_iff.1 hc)
    rw [hnames, List.mem_singleton] at hmem
    obtain rfl := hmem
    exact ⟨by decide, by decide, by decide⟩
  have hkey : p.key = q.key := hp.key_eq.trans hq.key_eq.symm
  obtain ⟨_, hsame⟩ :=
    key_eq_iff_handler reachable_twinPages (hp.planned ⟨0⟩ .new) (hq.planned ⟨0⟩ .new)
  exact ⟨p, q, reachable_twinPages, hp.planned ⟨0⟩ .new, hq.planned ⟨0⟩ .new, hplain, hkey,
    hsame hplain hkey⟩

def keptPage (name controller action : String) : RouteEntry Unit :=
  .route ⟨some (.named name), "/" ++ name,
    .withCache (.withHandler .empty (.target controller (some action))) (.ofSeconds 60)⟩

/-- Two pages of classes of their own, where one class is named after the other and the start of its
method. -/
def nestedClasses : Dispatcher Unit Unit MemoryCache where
  router := (Router.empty.insertAll
    [keptPage "a" "Admin" "Users::list", keptPage "b" "Admin::Users" "list"]).1
  handlers := .ofList
    [("Admin", .withMethod .empty "Users::list" ⟨[], fun _ _ => return "names"⟩),
      ("Admin::Users", .withMethod .empty "list" ⟨[], fun _ _ => return "secrets"⟩)]
  call _ _ _ := return ""
  cache := some MemoryCache.store
  locale := none

theorem reachable_nestedClasses : nestedClasses.router.Reachable := .insertAll _ (.start .empty)

theorem routes_nestedClasses : nestedClasses.router.routes.map (fun route =>
    ((route.pattern, route.isOpen), route.name, route.handler, route.cacheTtl)) =
    [(("/a", true), .named "a", .target "Admin" (some "Users::list"), some (.ofSeconds 60)),
      (("/b", true), .named "b", .target "Admin::Users" (some "list"), some (.ofSeconds 60))] := by
  decide +kernel

/-- One page is answered by what the action of the other has rendered. -/
theorem nestedClasses_share_key :
    let first : Visit := .get "/a" ⟨0⟩ .new
    let second : Visit := .get "/b" ⟨5⟩ .new
    ∃ p q, nestedClasses.router.Reachable ∧ nestedClasses.Plans first.request p ∧
      nestedClasses.Plans second.request q ∧ p.route.cacheTtl.isSome ∧ q.route.cacheTtl.isSome ∧
      p.key = q.key ∧ ¬ p.SameHandler q ∧
      (nestedClasses.serve (nestedClasses.serve ⟨.empty, ()⟩ first).memory second).result =
        .ok ⟨"names", some (.named "b"), true⟩ := by
  intro first second
  obtain ⟨a, rest, hroutes, ha, hrest⟩ := List.map_eq_cons_iff.1 routes_nestedClasses
  obtain ⟨b, rest, rfl, hb, hrest⟩ := List.map_eq_cons_iff.1 hrest
  obtain rfl := List.map_eq_nil_iff.1 hrest
  simp only [Prod.mk.injEq] at ha hb
  obtain ⟨⟨hpatterna, hopena⟩, hnamea, hhandlera, hcachesa⟩ := ha
  obtain ⟨⟨hpatternb, hopenb⟩, hnameb, hhandlerb, hcachesb⟩ := hb
  have hcompiled := reachable_nestedClasses.tabled.compiled
  obtain ⟨hopena, hargsa⟩ := Route.Open.of_isOpen "/a".toList
    (hcompiled a (by simp [hroutes])) hopena (by rw [hpatterna]; decide +kernel) (by decide)
  obtain ⟨hopenb, hargsb⟩ := Route.Open.of_isOpen "/b".toList
    (hcompiled b (by simp [hroutes])) hopenb (by rw [hpatternb]; decide +kernel) (by decide)
  let names : Target Unit Unit := ⟨"Admin", "Users::list", none, ⟨[], fun _ _ => return "names"⟩⟩
  let secrets : Target Unit Unit :=
    ⟨"Admin::Users", "list", none, ⟨[], fun _ _ => return "secrets"⟩⟩
  have hp : nestedClasses.Plans first.request ⟨a, .empty, .target names⟩ := by
    rw [← hargsa]
    exact plans_of_open [] hroutes hopena (by decide +kernel) (by simp) hhandlera
      (by decide) (by simp) rfl
  have hq : nestedClasses.Plans second.request ⟨b, .empty, .target secrets⟩ := by
    rw [← hargsb]
    exact plans_of_open [a] hroutes hopenb (by decide +kernel)
      (by simpa using ⟨_, hopena, by decide⟩) hhandlerb (by decide) (by simp) rfl
  have hkey : Plan.key ⟨b, .empty, .target secrets⟩ = Plan.key ⟨a, .empty, .target names⟩ := by
    have hdescriptor : secrets.descriptor = names.descriptor := by decide
    exact cacheKey_eq_iff_render.2 ⟨hdescriptor, rfl⟩
  have hstores : nestedClasses.Stores ⟨.empty, ()⟩ first ⟨a, .empty, .target names⟩ (.ofSeconds 60)
      "names" := by
    refine ⟨hp, hcachesa, rfl, ?_, rfl⟩
    rw [look, hcachesa]
    rfl
  have hcaches : b.cacheTtl.isSome = true := by rw [hcachesb, Option.isSome_some]
  have hlasting : ∀ u ∈ [] ++ [second], ∀ deadline ∈ first.now.after? (.ofSeconds 60),
      u.now.nanos < deadline.nanos := lasting_singleton (by decide +kernel)
  have hserved := hstores.serve_after rfl hlasting rfl hq hcaches hkey rfl
  refine ⟨_, _, reachable_nestedClasses, hp, hq, by rw [hcachesa, Option.isSome_some], hcaches,
    hkey.symm, ?_, ?_⟩
  · rintro ⟨hclass, _⟩
    exact absurd hclass (by decide)
  · rw [← hnameb]
    exact congrArg Served.result hserved

end Dispatcher

end UrlRouter
