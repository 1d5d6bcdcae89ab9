import UrlRouter.Http.Request
import UrlRouter.Proofs.Entries
import UrlRouter.Proofs.Http.Form
import UrlRouter.Proofs.Registration.Reachable
import UrlRouter.Proofs.Route.Generated

namespace UrlRouter

variable {φ : Type}

def Route.queried? (route : Route φ) (data : Args) (name : String) : Option String :=
  if name ∈ route.compiled.names then none else (data.get? name).bind Json.valueText?

theorem Route.queryPairs_eq {route : Route φ} {data : Args} {inputs : List Input}
    {pairs : List (String × String)} (h : route.queryPairs data inputs = .ok pairs) :
    pairs = inputs.filterMap fun i => (route.queried? data i.name).map fun v => (i.name, v) := by
  induction inputs generalizing pairs with
  | nil =>
    cases h
    rfl
  | cons i inputs ih =>
    rw [queryPairs] at h
    rw [List.filterMap_cons, queried?]
    split at h
    · next hused =>
      rw [if_pos hused]
      exact ih h
    next hunused =>
    rw [if_neg hunused]
    split at h
    · next v hv =>
      obtain ⟨rest, hrest, rfl⟩ := Except.map_eq_ok_iff.1 h
      rw [hv]
      exact congrArg ((i.name, v) :: ·) (ih hrest)
    · next hnone =>
      rw [hnone]
      split at h
      · cases h
      · exact ih h

theorem Route.find?_queryPairs {route : Route φ} {data : Args} {inputs : List Input}
    {pairs : List (String × String)} (h : route.queryPairs data inputs = .ok pairs)
    (name : String) :
    Form.find? pairs name =
      if name ∈ inputs.map (·.name) then route.queried? data name else none := by
  rw [Form.find?, find?_eq_findEntry, route.queryPairs_eq h, findEntry_filterMap, ← findSome?_name,
    List.findSome?_map]
  rfl

structure Route.Queries (route : Route φ) (data : Args) (name : String) (v : Json) : Prop where
  declared : ∃ i ∈ route.settings.inputs, i.name = name
  unused : name ∉ route.compiled.names
  given : data.get? name = some v
  present : v ≠ .null

theorem Route.find?_queryPairs_eq_some_iff {route : Route φ} {data : Args}
    {pairs : List (String × String)}
    (h : route.queryPairs data route.settings.inputs = .ok pairs) {name text : String} :
    Form.find? pairs name = some text ↔
      ∃ v, route.Queries data name v ∧ v.valueText? = some text := by
  rw [route.find?_queryPairs h]
  constructor
  · intro htext
    split at htext
    · next hdeclared =>
      unfold queried? at htext
      split at htext
      · cases htext
      · next hunused =>
        obtain ⟨v, hv, htext⟩ := Option.bind_eq_some_iff.1 htext
        refine ⟨v, ⟨List.mem_map.1 hdeclared, hunused, hv, ?_⟩, htext⟩
        rintro rfl
        cases htext
    · cases htext
  · rintro ⟨v, ⟨hdeclared, hunused, hv, _⟩, htext⟩
    rw [if_pos (List.mem_map.2 hdeclared), queried?, if_neg hunused, hv]
    exact htext

def Link.ofPairs (path : String) (pairs : List (String × String)) : Link :=
  { Link.new path with query := if pairs = [] then none else some (Form.encodePairs pairs) }

namespace Router

variable {r : Router φ} {name locale : String} {data : Args} {link : Link} {route : Route φ}

theorem exists_queryPairs_of_urlFor (hroute : r.route? name = some route)
    (h : r.urlFor name data locale = .ok link) :
    ∃ pairs, route.queryPairs data route.settings.inputs = .ok pairs ∧
      link = .ofPairs link.path pairs := by
  rw [urlFor, hroute] at h
  dsimp only at h
  split at h
  · cases h
  · cases h
  split at h
  · cases h
  · next hpairs =>
    cases h
    exact ⟨[], hpairs, rfl⟩
  · next pairs hne hpairs =>
    cases h
    refine ⟨pairs, hpairs, ?_⟩
    rw [Link.ofPairs, if_neg hne]
    rfl

end Router

theorem SimpleRequest.new_ofPairs {path : String} (hpath : '?' ∉ path.toList) (m : Method)
    (pairs : List (String × String)) :
    SimpleRequest.new m (Link.ofPairs path pairs).text = ⟨m, path, pairs, [], false⟩ := by
  by_cases hpairs : pairs = []
  · have htext : (Link.ofPairs path pairs).text = path := by
      simp [Link.ofPairs, Link.new, Link.text, hpairs]
    rw [htext, new_of_not_mem hpath, hpairs]
  · have htext : (Link.ofPairs path pairs).text.toList =
        path.toList ++ '?' :: (Form.encodePairs pairs).toList := by
      simp [Link.ofPairs, Link.new, Link.text, hpairs]
    rw [new_of_append htext hpath, String.ofList_toList, String.ofList_toList,
      Form.decodePairs_encodePairs]

namespace Router

theorem exists_new_urlFor {r : Router φ} {name locale : String} {data : Args} {link : Link}
    {route : Route φ} (hroute : r.route? name = some route)
    (hlink : r.urlFor name data locale = .ok link) (hpath : '?' ∉ link.path.toList)
    (m : Method) :
    ∃ pairs, route.queryPairs data route.settings.inputs = .ok pairs ∧
      SimpleRequest.new m link.text = ⟨m, link.path, pairs, [], false⟩ := by
  obtain ⟨pairs, hpairs, hof⟩ := exists_queryPairs_of_urlFor hroute hlink
  refine ⟨pairs, hpairs, ?_⟩
  rw [hof]
  exact SimpleRequest.new_ofPairs hpath m pairs

theorem query_urlFor {r : Router φ} {name locale : String} {data : Args} {link : Link}
    {route : Route φ} (hroute : r.route? name = some route)
    (hlink : r.urlFor name data locale = .ok link) (hpath : '?' ∉ link.path.toList)
    (m : Method) :
    let req := (SimpleRequest.new m link.text).toRequest
    req.method = m ∧ req.path = link.path ∧
      (∀ n v, route.Queries data n v →
        ∃ text, v.valueText? = some text ∧ req.query? n = some text) ∧
      ∀ n, (∀ v, ¬ route.Queries data n v) → req.query? n = none := by
  intro req
  obtain ⟨pairs, hpairs, hnew⟩ := exists_new_urlFor hroute hlink hpath m
  have hquery (n text : String) : req.query? n = some text ↔
      ∃ v, route.Queries data n v ∧ v.valueText? = some text := by
    rw [← route.find?_queryPairs_eq_some_iff hpairs]
    exact iff_of_eq (congrArg (fun req : SimpleRequest => Form.find? req.query n = some text) hnew)
  refine ⟨congrArg SimpleRequest.method hnew, congrArg SimpleRequest.path hnew, ?_, ?_⟩
  · intro n v hv
    have hsome : v.valueText? ≠ none := fun hnone =>
      hv.present (Json.valueText?_eq_none_iff.1 hnone)
    obtain ⟨text, htext⟩ := Option.ne_none_iff_exists'.1 hsome
    exact ⟨text, htext, (hquery n text).2 ⟨v, hv, htext⟩⟩
  · intro n hn
    rw [Option.eq_none_iff_forall_ne_some]
    intro text htext
    obtain ⟨v, hv, _⟩ := (hquery n text).1 htext
    exact hn v hv

theorem query_urlFor_separators :
    let inputs : List Input := [⟨"a&b=c", .string, false⟩, ⟨"", .string, true⟩,
      ⟨"id", .string, false⟩, ⟨"snow ☃?", .string, false⟩, ⟨"gone", .string, false⟩]
    let settings : RouteSettings Unit := .withHandler .empty (.func ())
    let list : RouteDefinition Unit :=
      ⟨some (.named "list"), "/list/\x7b\x7bC:<id>\x7d\x7d", { settings with inputs := inputs }⟩
    let r := (Router.empty.insert (.route list)).1
    let data : Args := .ofList [("a&b=c", .str "1+1=2&%41 é"), ("", .str ""), ("id", .int 7),
      ("snow ☃?", .bool true), ("gone", .null)]
    ∃ route link, r.Reachable ∧ r.route? "list" = some route ∧
      r.urlFor "list" data "en" = .ok link ∧ '?' ∉ link.path.toList ∧
      link.text =
        "/list/7?a%26b%3Dc=1%2B1%3D2%26%2541+%C3%A9&=&snow+%E2%98%83%3F=true" ∧
      let req := (SimpleRequest.new .post link.text).toRequest
      req.path = "/list/7" ∧ req.query? "" = some "" ∧ req.query? "a&b=c" = some "1+1=2&%41 é" ∧
        req.query? "id" = none ∧ req.query? "gone" = none := by
  intro inputs settings list r data
  have hroute : (r.route? "list").map (fun route =>
      (route.settings.inputs.map (·.name), route.compiled.names)) =
        some (["a&b=c", "", "id", "snow ☃?", "gone"], ["id"]) := by
    decide +kernel
  have hlink : (r.urlFor "list" data "en").toOption.map (fun link => (link.path, link.text)) =
      some ("/list/7",
        "/list/7?a%26b%3Dc=1%2B1%3D2%26%2541+%C3%A9&=&snow+%E2%98%83%3F=true") := by
    decide +kernel
  obtain ⟨route, hroute, hparts⟩ := Option.map_eq_some_iff.1 hroute
  obtain ⟨hinputs, hused⟩ := Prod.mk.inj hparts
  obtain ⟨link, hlink, htexts⟩ := Option.map_eq_some_iff.1 hlink
  obtain ⟨hpath, htext⟩ := Prod.mk.inj htexts
  have hlink := Except.eq_ok_of_toOption hlink
  have hquestion : '?' ∉ link.path.toList := by
    rw [hpath]
    decide
  have hqueries {n text : String} (hdeclared : n ∈ ["a&b=c", "", "id", "snow ☃?", "gone"])
      (hunused : n ∉ ["id"]) (hgiven : data.get? n = some (.str text)) :
      route.Queries data n (.str text) :=
    ⟨List.mem_map.1 (hinputs ▸ hdeclared), hused ▸ hunused, hgiven, by simp⟩
  obtain ⟨_, hreq, hsome, hnone⟩ := query_urlFor hroute hlink hquestion .post
  obtain ⟨_, hempty, hqempty⟩ := hsome "" _ (hqueries (by decide) (by decide) rfl)
  obtain ⟨_, hpair, hqpair⟩ := hsome "a&b=c" _ (hqueries (by decide) (by decide) rfl)
  cases hempty
  cases hpair
  refine ⟨route, link, .insert _ (.start .empty), hroute, hlink, hquestion, htext,
    hreq.trans hpath, hqempty, hqpair, hnone _ fun v hv => ?_, hnone _ fun v hv => ?_⟩
  · exact hv.unused (by rw [hused]; simp)
  · have hgiven : data.get? "gone" = some .null := rfl
    exact hv.present (Option.some.inj (hv.given.symm.trans hgiven))

end Router

end UrlRouter
