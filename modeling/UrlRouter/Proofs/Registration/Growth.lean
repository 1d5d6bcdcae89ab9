import UrlRouter.Proofs.Registration.Table
import UrlRouter.Proofs.Route.Literal
import UrlRouter.Router.Reverse

/-!
Routers that grow. Registrations add routes behind those that are there and take no name or status
again, so whatever has been answered is answered in the same way ever after.
-/

namespace UrlRouter

variable {φ : Type}

namespace Router

inductive Grows (r : Router φ) : Router φ → Prop where
  | refl : Grows r r
  | insert {r' : Router φ} (e : RouteEntry φ) : Grows r r' → Grows r (r'.insert e).1
  | insertAll {r' : Router φ} (es : List (RouteEntry φ)) : Grows r r' → Grows r (r'.insertAll es).1
  | nest {r' : Router φ} (name : String) (es : List (RouteEntry φ)) :
      Grows r r' → Grows r (r'.nest name es).1

theorem Grows.induction {P : Router φ → Prop}
    (hadd : ∀ r route, P r → r.Admits route → P (r.add route)) {r r' : Router φ}
    (h : r.Grows r') (hr : P r) : P r' := by
  induction h with
  | refl => exact hr
  | insert e _ ih => exact insert_induction hadd ih e
  | nest name es _ ih => exact insert_induction hadd ih _
  | insertAll es _ ih => exact insertAll_induction hadd ih es

structure Extends (r r' : Router φ) : Prop where
  locales : r'.locales = r.locales
  routes : r.routes <+: r'.routes
  names : ∀ n i, r.names.get? n = some i → r'.names.get? n = some i
  errors : ∀ s route, r.errorRoute? s = some route → r'.errorRoute? s = some route

theorem Extends.refl (r : Router φ) : r.Extends r :=
  ⟨rfl, List.prefix_rfl, fun _ _ h => h, fun _ _ h => h⟩

theorem routes_prefix_add (r : Router φ) (route : Route φ) : r.routes <+: (r.add route).routes := by
  cases hname : route.name with
  | named n =>
    rw [routes_add_of_named hname]
    exact List.prefix_append _ _
  | error s =>
    have hsame : (r.add route).routes = r.routes := routes_add_of_error hname
    exact hsame ▸ List.prefix_rfl

theorem Extends.add {r r' : Router φ} {route : Route φ} (h : r.Extends r')
    (ha : r'.Admits route) : r.Extends (r'.add route) := by
  refine ⟨(locales_add r' route).trans h.locales, h.routes.trans (routes_prefix_add r' route), ?_,
    ?_⟩
  · intro n i hn
    have hold := h.names n i hn
    -- A name that is taken is not that of an admitted route.
    have hne : route.name ≠ .named n := by
      intro hname
      have hfresh := ha.fresh
      rw [hname] at hfresh
      cases hold.symm.trans hfresh
    rw [names_add, if_neg hne]
    exact hold
  · intro s a hs
    rw [errorRoute?_add, h.errors s a hs, Option.some_or]

theorem Grows.extends {r r' : Router φ} (h : r.Grows r') : r.Extends r' :=
  h.induction (fun _ _ => Extends.add) (Extends.refl r)

theorem Extends.route? {r r' : Router φ} (h : r.Extends r') {n : String} {route : Route φ}
    (hroute : r.route? n = some route) : r'.route? n = some route := by
  obtain ⟨i, hi, hroute⟩ := Option.bind_eq_some_iff.1 hroute
  refine Option.bind_eq_some_iff.2 ⟨i, h.names n i hi, ?_⟩
  obtain ⟨rest, hrest⟩ := h.routes
  have hlt : i < r.routes.length := (List.getElem?_eq_some_iff.1 hroute).1
  rw [← hrest, List.getElem?_append_left hlt]
  exact hroute

theorem Extends.urlFor {r r' : Router φ} (h : r.Extends r') {n : String} {route : Route φ}
    (hroute : r.route? n = some route) (data : Args) (locale : String) :
    r'.urlFor n data locale = r.urlFor n data locale := by
  rw [Router.urlFor, Router.urlFor, h.route? hroute, hroute, h.locales]

theorem findSome?_of_isPrefix {α β : Type} {f : α → Option β} {as bs : List α} (h : as <+: bs)
    {b : β} (hb : as.findSome? f = some b) : bs.findSome? f = some b := by
  obtain ⟨rest, rfl⟩ := h
  rw [List.findSome?_append, hb, Option.some_or]

theorem Extends.resolve {r r' : Router φ} (h : r.Extends r') {req : Request}
    {answer : Route φ × Args} (hanswer : r.resolve req = some answer) :
    r'.resolve req = some answer :=
  findSome?_of_isPrefix h.routes hanswer

theorem Extends.find {r r' : Router φ} (h : r.Extends r') {m : Method} {path : String}
    {answer : Route φ × List (String × String)} (hanswer : r.find m path = some answer) :
    r'.find m path = some answer :=
  findSome?_of_isPrefix (h.routes.filter _) hanswer

theorem answers_kept {r r' : Router φ} (hr : r.Reachable) (h : r.Grows r') :
    (∀ req route args, r.resolve req = some (route, args) →
      r'.resolve req = some (route, args)) ∧
    (∀ m path route captures, r.find m path = some (route, captures) →
      r'.find m path = some (route, captures)) ∧
    (∀ route ∈ r.routes, ∀ n, route.name = .named n →
      (r.route? n = some route ∧ r'.route? n = some route) ∧
        ∀ data locale, r'.urlFor n data locale = r.urlFor n data locale) ∧
    (∀ s route, (s, route) ∈ r.errors →
      r.errorRoute s = .ok route ∧ r'.errorRoute s = .ok route) ∧
    r.routes <+: r'.routes := by
  have hext := h.extends
  refine ⟨fun req route args => hext.resolve, fun m path route captures => hext.find, ?_, ?_,
    hext.routes⟩
  · intro route hmem n hname
    have hroute : r.route? n = some route := hr.tabled.route?_eq hmem hname
    exact ⟨⟨hroute, hext.route? hroute⟩, hext.urlFor hroute⟩
  · intro s route hmem
    have hs : r.errorRoute? s = some route := hr.filed.errorRoute?_eq_some_iff.2 hmem
    rw [errorRoute, errorRoute, hs, hext.errors s route hs]
    exact ⟨rfl, rfl⟩

theorem answers_kept_shadowed :
    let r := ((empty : Router Unit).insertAll [.line "/a >>> A", .line "404 >>> Missing"]).1
    let r' := ((r.insertAll [.line "GET /a >>> B", .line "/a >>> C"]).1.nest "g"
      [.line "c >>> C", .line "404 >>> D"]).1
    r.Reachable ∧ r.Grows r' ∧ r'.routes.map (·.pattern) = ["/a", "/a"] ∧
      ∃ route, r.routes = [route] ∧ r.find .get "/a" = some (route, []) ∧
        r'.find .get "/a" = some (route, []) ∧ r'.route? "a" = some route := by
  intro r r'
  have hr : r.Reachable := .insertAll _ (.start _)
  have hgrows : r.Grows r' := .nest _ _ (.insertAll _ .refl)
  obtain ⟨_, hfind, hnamed, _⟩ := answers_kept hr hgrows
  refine ⟨hr, hgrows, by decide +kernel, ?_⟩
  have hmap : r.routes.map (fun route => (route.name, route.pattern, route.accepts .get)) =
      [(.named "a", "/a", true)] := by decide +kernel
  obtain ⟨route, rest, hroutes, hroute, hrest⟩ := List.map_eq_cons_iff.1 hmap
  obtain rfl := List.map_eq_nil_iff.1 hrest
  simp only [Prod.mk.injEq] at hroute
  obtain ⟨hname, hpattern, haccepts⟩ := hroute
  have hmem : route ∈ r.routes := by simp [hroutes]
  have hsplit : split route.pattern.toList = .ok [.literal "/a".toList] := by
    rw [hpattern]
    exact Except.eq_ok_of_toOption (by decide +kernel)
  have hbare : "/a".toList.all Regex.isBare = true := by decide +kernel
  have hcaptures : route.captures? "/a" = some [] :=
    (hr.tabled.compiled route hmem).captures?_literal hsplit (List.all_eq_true.1 hbare) "/a"
  have hfound : r.find .get "/a" = some (route, []) := by
    have hstrip : stripQuery "/a" = "/a" := by decide +kernel
    simp [find, hroutes, haccepts, hstrip, hcaptures]
  exact ⟨route, hroutes, hfound, hfind _ _ _ _ hfound, (hnamed route hmem "a" hname).1.2⟩

end Router

end UrlRouter
