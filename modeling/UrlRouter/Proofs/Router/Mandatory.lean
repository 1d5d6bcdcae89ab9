import UrlRouter.Proofs.Router.Query
import UrlRouter.Router.Resolve

/-!
Mandatory inputs of generated addresses. A request for an address has a value for such an input if
its fields may be posted, or if the address was made from that value and holds it in its query.
-/

namespace UrlRouter

variable {φ : Type}

namespace Route

variable {route : Route φ} {data : Args}

def Conveys (route : Route φ) (m : Method) (data : Args) (name : String) : Prop :=
  m = .post ∨ name ∉ route.compiled.names ∧
    (m.submitsBody = true → ∃ v, data.get? name = some v ∧ v ≠ .null)

theorem exists_value_of_queryPairs {inputs : List Input} {pairs : List (String × String)}
    (h : route.queryPairs data inputs = .ok pairs) (hneeds : route.needsQuery = true) {i : Input}
    (hi : i ∈ inputs) (hmandatory : i.mandatory = true) (hunused : i.name ∉ route.compiled.names) :
    ∃ v, data.get? i.name = some v ∧ v ≠ .null := by
  induction inputs generalizing pairs with
  | nil => cases hi
  | cons first inputs ih =>
    rw [queryPairs] at h
    rcases List.mem_cons.1 hi with rfl | hi
    · rw [if_neg hunused] at h
      split at h
      · next text htext =>
        obtain ⟨v, hv, htext⟩ := Option.bind_eq_some_iff.1 htext
        refine ⟨v, hv, ?_⟩
        rintro rfl
        cases htext
      · rw [hmandatory, hneeds] at h
        cases h
    · split at h
      · exact ih h hi
      split at h
      · obtain ⟨rest, hrest, _⟩ := Except.map_eq_ok_iff.1 h
        exact ih hrest hi
      split at h
      · cases h
      · exact ih h hi

theorem isSome_find?_queryPairs_iff {pairs : List (String × String)}
    (h : route.queryPairs data route.settings.inputs = .ok pairs) {name : String} :
    (Form.find? pairs name).isSome = true ↔ ∃ v, route.Queries data name v := by
  simp only [Option.isSome_iff_exists, route.find?_queryPairs_eq_some_iff h]
  constructor
  · rintro ⟨_, v, hv, _⟩
    exact ⟨v, hv⟩
  · rintro ⟨v, hv⟩
    have hsome : v.valueText? ≠ none := fun hnone =>
      hv.present (Json.valueText?_eq_none_iff.1 hnone)
    obtain ⟨text, htext⟩ := Option.ne_none_iff_exists'.1 hsome
    exact ⟨text, v, hv, htext⟩

theorem exists_queries_iff {pairs : List (String × String)}
    (h : route.queryPairs data route.settings.inputs = .ok pairs) {m : Method}
    (hm : route.settings.method = some m) {i : Input} (hi : i ∈ route.settings.inputs)
    (hmandatory : i.mandatory = true) :
    (∃ v, route.Queries data i.name v) ↔ i.name ∉ route.compiled.names ∧
      (m.submitsBody = true → ∃ v, data.get? i.name = some v ∧ v ≠ .null) := by
  constructor
  · rintro ⟨v, hv⟩
    exact ⟨hv.unused, fun _ => ⟨v, hv.given, hv.present⟩⟩
  · rintro ⟨hunused, hgiven⟩
    have hvalue : ∃ v, data.get? i.name = some v ∧ v ≠ .null := by
      by_cases hsubmits : m.submitsBody = true
      · exact hgiven hsubmits
      · have hneeds : route.needsQuery = true := by
          rw [needsQuery, hm]
          simpa using hsubmits
        exact exists_value_of_queryPairs h hneeds hi hmandatory hunused
    obtain ⟨v, hv, hne⟩ := hvalue
    exact ⟨v, ⟨i, hi, rfl⟩, hunused, hv, hne⟩

end Route

def SimpleRequest.posted (m : Method) (target : String) (fields : List (String × String)) :
    SimpleRequest :=
  { SimpleRequest.new m target with post := fields }

theorem SimpleRequest.field?_toRequest (req : SimpleRequest) (name : String) :
    req.toRequest.field? name = if req.method = .post then
      (Form.find? req.post name).or (Form.find? req.query name) else Form.find? req.query name :=
  rfl

theorem Form.isSome_find?_of_mem {α : Type} {f : α → String} {as : List α} {a : α} (h : a ∈ as) :
    (Form.find? (as.map fun a => (f a, "")) (f a)).isSome = true := by
  rw [Form.find?, Option.isSome_map, List.find?_isSome]
  exact ⟨(f a, ""), List.mem_map_of_mem h, by simp⟩

namespace Router

variable {r : Router φ} {name locale : String} {data : Args} {link : Link} {route : Route φ}

theorem field?_urlFor_mandatory (hroute : r.route? name = some route)
    (hlink : r.urlFor name data locale = .ok link) (hpath : '?' ∉ link.path.toList) {m : Method}
    (hm : route.settings.method = some m) :
    (∀ i ∈ route.settings.inputs, i.mandatory = true →
      ((∃ fields,
          ((SimpleRequest.posted m link.text fields).toRequest.field? i.name).isSome = true) ↔
        route.Conveys m data i.name)) ∧
    ∃ fields, ∀ i ∈ route.settings.inputs, i.mandatory = true → route.Conveys m data i.name →
      ((SimpleRequest.posted m link.text fields).toRequest.field? i.name).isSome = true := by
  obtain ⟨pairs, hpairs, hnew⟩ := exists_new_urlFor hroute hlink hpath m
  have hfield (fields : List (String × String)) (n : String) :
      (SimpleRequest.posted m link.text fields).toRequest.field? n = if m = .post then
        (Form.find? fields n).or (Form.find? pairs n) else Form.find? pairs n := by
    rw [SimpleRequest.field?_toRequest, SimpleRequest.posted, hnew]
  have hsuits : ∀ i ∈ route.settings.inputs, i.mandatory = true → route.Conveys m data i.name →
      ((SimpleRequest.posted m link.text (route.settings.inputs.map fun i => (i.name, ""))
        ).toRequest.field? i.name).isSome = true := by
    intro i hi hmandatory hconveys
    rw [hfield]
    split
    · have hposted := Form.isSome_find?_of_mem (f := Input.name) hi
      rw [Option.isSome_or, hposted, Bool.true_or]
    · next hne =>
      have hqueries := (route.exists_queries_iff hpairs hm hi hmandatory).2
        (hconveys.resolve_left hne)
      exact (route.isSome_find?_queryPairs_iff hpairs).2 hqueries
  refine ⟨fun i hi hmandatory => ⟨?_, fun hconveys => ⟨_, hsuits i hi hmandatory hconveys⟩⟩,
    _, hsuits⟩
  rintro ⟨fields, hsome⟩
  rw [hfield] at hsome
  split at hsome
  · next hpost => exact .inl hpost
  · have hqueries := (route.isSome_find?_queryPairs_iff hpairs).1 hsome
    exact .inr ((route.exists_queries_iff hpairs hm hi hmandatory).1 hqueries)

theorem field?_urlFor_mandatory_put :
    let inputs : List Input := [⟨"id", .int, true⟩, ⟨"tag", .string, true⟩]
    let settings : RouteSettings Unit := .withHandler .empty (.func ())
    let item : RouteDefinition Unit := ⟨some (.named "item"), "/item/\x7b\x7bC:<id>\x7d\x7d",
      { settings with method := some .put, inputs := inputs }⟩
    let r := (Router.empty.insert (.route item)).1
    let data : Args := .ofList [("id", .int 7), ("tag", .str "a b")]
    ∃ route link, r.Reachable ∧ r.route? "item" = some route ∧ route.settings.method = some .put ∧
      r.urlFor "item" data "en" = .ok link ∧ link.text = "/item/7?tag=a+b" ∧
      (∃ fields,
        ((SimpleRequest.posted .put link.text fields).toRequest.field? "tag").isSome = true) ∧
      ∀ fields, (SimpleRequest.posted .put link.text fields).toRequest.field? "id" = none := by
  intro inputs settings item r data
  have hroute : (r.route? "item").map (fun route => (route.settings.method,
      route.settings.inputs.map (fun i => (i.name, i.mandatory)), route.compiled.names)) =
        some (some .put, [("id", true), ("tag", true)], ["id"]) := by
    decide +kernel
  have hlink : (r.urlFor "item" data "en").toOption.map (fun link => (link.path, link.text)) =
      some ("/item/7", "/item/7?tag=a+b") := by
    decide +kernel
  obtain ⟨route, hroute, hparts⟩ := Option.map_eq_some_iff.1 hroute
  simp only [Prod.mk.injEq] at hparts
  obtain ⟨hmethod, hinputs, hused⟩ := hparts
  obtain ⟨link, hlink, htexts⟩ := Option.map_eq_some_iff.1 hlink
  obtain ⟨hpath, htext⟩ := Prod.mk.inj htexts
  have hlink := Except.eq_ok_of_toOption hlink
  have hinput (n : String) (hn : (n, true) ∈ [("id", true), ("tag", true)]) :
      ∃ i ∈ route.settings.inputs, i.name = n ∧ i.mandatory = true := by
    rw [← hinputs, List.mem_map] at hn
    obtain ⟨i, hi, heq⟩ := hn
    exact ⟨i, hi, Prod.mk.inj heq⟩
  obtain ⟨hfound, _⟩ := field?_urlFor_mandatory hroute hlink (by rw [hpath]; decide) hmethod
  refine ⟨route, link, .insert _ (.start .empty), hroute, hmethod, hlink, htext, ?_, ?_⟩
  · obtain ⟨i, hi, hname, hmandatory⟩ := hinput "tag" (by simp)
    have hiff := hfound i hi hmandatory
    rw [hname] at hiff
    exact hiff.2 (.inr ⟨by rw [hused]; decide, fun _ => ⟨.str "a b", rfl, by simp⟩⟩)
  · intro fields
    obtain ⟨i, hi, hname, hmandatory⟩ := hinput "id" (by simp)
    have hiff := hfound i hi hmandatory
    rw [hname] at hiff
    by_contra hsome
    rcases hiff.1 ⟨fields, Option.isSome_iff_ne_none.2 hsome⟩ with hpost | ⟨hunused, _⟩
    · exact absurd hpost (by decide)
    · exact hunused (by rw [hused]; simp)

/-- A value in the path is not looked for there, and one for the body is not either unless the
request posts it. -/
theorem field?_urlFor_mandatory_eq_none :
    let settings (m : Method) (i : String) : RouteSettings Unit :=
      ⟨some m, some (.func ()), [⟨i, .string, true⟩], .empty, [], .empty, none⟩
    let r := (Router.empty.insertAll [
      .route ⟨some (.named "user"), "/user/\x7b\x7bC:<id>\x7d\x7d", settings .get "id"⟩,
      .route ⟨some (.named "item"), "/item", settings .put "tag"⟩]).1
    ∃ user item userLink itemLink, r.Reachable ∧
      r.route? "user" = some user ∧ user.settings.method = some .get ∧
      (∃ i ∈ user.settings.inputs, i.name = "id" ∧ i.mandatory = true) ∧
      r.urlFor "user" (.ofList [("id", .int 7)]) "en" = .ok userLink ∧
      '?' ∉ userLink.path.toList ∧
      (∀ fields, (SimpleRequest.posted .get userLink.text fields).toRequest.field? "id" = none) ∧
      r.route? "item" = some item ∧ item.settings.method = some .put ∧
      (∃ i ∈ item.settings.inputs, i.name = "tag" ∧ i.mandatory = true) ∧
      r.urlFor "item" .empty "en" = .ok itemLink ∧ '?' ∉ itemLink.path.toList ∧
      ∀ fields, (SimpleRequest.posted .put itemLink.text fields).toRequest.field? "tag" = none := by
  intro settings r
  have hroute (name n : String) (m : Method) (h : (r.route? name).map (fun route =>
      (route.settings.method, route.settings.inputs.map fun i => (i.name, i.mandatory))) =
        some (some m, [(n, true)])) :
      ∃ route, r.route? name = some route ∧ route.settings.method = some m ∧
        ∃ i ∈ route.settings.inputs, i.name = n ∧ i.mandatory = true := by
    obtain ⟨route, hroute, hparts⟩ := Option.map_eq_some_iff.1 h
    obtain ⟨hmethod, hinputs⟩ := Prod.mk.inj hparts
    obtain ⟨i, rest, hcons, heq, _⟩ := List.map_eq_cons_iff.1 hinputs
    exact ⟨route, hroute, hmethod, i, by simp [hcons], Prod.mk.inj heq⟩
  have hlink (name path : String) (m : Method) (data : Args) (hm : m ≠ .post)
      (h : (r.urlFor name data "en").toOption = some (.new path))
      (hnew : '?' ∉ path.toList ∧ SimpleRequest.new m path = ⟨m, path, [], [], false⟩) :
      ∃ link, r.urlFor name data "en" = .ok link ∧ '?' ∉ link.path.toList ∧ ∀ fields n,
        (SimpleRequest.posted m link.text fields).toRequest.field? n = none := by
    refine ⟨.new path, Except.eq_ok_of_toOption h, hnew.1, fun fields n => ?_⟩
    have htext : (Link.new path).text = path := by simp [Link.new, Link.text]
    rw [SimpleRequest.field?_toRequest, SimpleRequest.posted, htext, hnew.2, if_neg hm]
    rfl
  obtain ⟨user, huser⟩ := hroute "user" "id" .get (by decide +kernel)
  obtain ⟨item, hitem⟩ := hroute "item" "tag" .put (by decide +kernel)
  obtain ⟨userLink, huserLink, huserPath, huserNone⟩ :=
    hlink "user" "/user/7" .get (.ofList [("id", .int 7)]) (by decide) (by decide +kernel)
      (by decide +kernel)
  obtain ⟨itemLink, hitemLink, hitemPath, hitemNone⟩ :=
    hlink "item" "/item" .put .empty (by decide) (by decide +kernel) (by decide +kernel)
  exact ⟨user, item, userLink, itemLink, .insertAll _ (.start .empty), huser.1, huser.2.1,
    huser.2.2, huserLink, huserPath, fun fields => huserNone fields "id", hitem.1, hitem.2.1,
    hitem.2.2, hitemLink, hitemPath, fun fields => hitemNone fields "tag"⟩

end Router

end UrlRouter
