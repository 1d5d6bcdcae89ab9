import Mathlib.Data.List.TakeWhile
import UrlRouter.Proofs.Router.RoundTrip

/-!
The way back from a path of strings as they stand. A search leaves out what follows the first
question mark of a path, so it finds the strings again unless one of them has a question mark.
-/

namespace UrlRouter

open Regex

variable {φ : Type} {data : Args} {ps : List Piece}

def Piece.string? (data : Args) : Piece → Option (String × String)
  | .literal _ => none
  | .token t => t.nameString.bind fun name =>
      match data.get? name with
      | some (.str s) => some (name, s)
      | _ => none

structure CapturesOnly (ps : List Piece) : Prop where
  plain : ∀ p ∈ ps, p.Plain
  kind : ∀ t, .token t ∈ ps → t.kind = .capture
  separated : Separated ps

theorem CapturesOnly.segmented (h : CapturesOnly ps) : Segmented ps where
  plain := h.plain
  kind t ht := .inl (h.kind t ht)
  separated := h.separated
  slash t ht hoptional := by
    rw [h.kind t ht] at hoptional
    cases hoptional
  once := by
    have hnone : ps.countP Piece.isOptional = 0 := by
      rw [List.countP_eq_zero]
      intro p hp
      cases p with
      | literal text => exact Bool.false_ne_true
      | token t =>
        rw [Piece.isOptional, h.kind t hp]
        exact Bool.false_ne_true
    omega

def Filled (data : Args) (ps : List Piece) : Prop :=
  ∀ t, .token t ∈ ps → ∃ name s, (Piece.token t).string? data = some (name, s) ∧
    s ≠ "" ∧ '/' ∉ s.toList

theorem PathData.segment?_eq_of_str {d : PathData} (hurlize : d.urlize = false) {name s : String}
    (h : d.values.get? name = some (.str s)) (hs : s ≠ "") : d.segment? name = some s := by
  rw [segment?, text?, h, hurlize]
  simp [Json.valueText?, Option.filter_some, hs]

theorem Piece.segment?_eq_string? {d : PathData} (hurlize : d.urlize = false)
    (hfilled : Filled d.values ps) {p : Piece} (hp : p ∈ ps) :
    p.segment? d = p.string? d.values := by
  cases p with
  | literal text => rfl
  | token t =>
    obtain ⟨name, s, hstring, hs, _⟩ := hfilled t hp
    rw [hstring]
    obtain ⟨n, hn, hvalue⟩ := Option.bind_eq_some_iff.1 hstring
    split at hvalue
    · next text htext =>
      cases hvalue
      rw [Piece.segment?, hn, Option.bind_some, PathData.segment?_eq_of_str hurlize htext hs]
      rfl
    · cases hvalue

theorem mem_of_readingOf {locales : Locales} {b w a : List Char} {caps : Captures}
    (hkind : ∀ t, .token t ∈ ps → t.kind = .capture) (hnamed : ∀ t, .token t ∈ ps → t.Named)
    (hw : readingOf locales ps b w a caps) {e : String × List Char} (he : e ∈ caps) {c : Char}
    (hc : c ∈ e.2) : c ∈ w := by
  induction ps generalizing b w caps with
  | nil =>
    obtain ⟨_, rfl⟩ := hw
    cases he
  | cons p ps ih =>
    have hrest {b w caps} (hv : readingOf locales ps b w a caps) (he : e ∈ caps) : c ∈ w :=
      ih (fun t ht => hkind t (List.mem_cons_of_mem p ht))
        (fun t ht => hnamed t (List.mem_cons_of_mem p ht)) hv he
    cases p with
    | literal text =>
      obtain ⟨v, rfl, hv⟩ := readingOf_literal_cons.1 hw
      exact List.mem_append_right text (hrest hv he)
    | token t =>
      have hk := hkind t List.mem_cons_self
      obtain ⟨name, hname⟩ := (hnamed t List.mem_cons_self).exists_name (by rw [hk]; rfl)
      rw [readingOf_capture_cons hk hname] at hw
      obtain ⟨seg, v, later, rfl, _, rfl, hv⟩ := hw
      rcases List.mem_append.1 he with he | he
      · simp [hrest hv he]
      · rw [List.mem_singleton.1 he] at hc
        simp [show c ∈ seg from hc]

theorem Route.CompiledFor.mem_of_captures? {locales : Locales} {route : Route φ}
    (h : route.CompiledFor locales) (hsplit : split route.pattern.toList = .ok ps)
    (hps : CapturesOnly ps) {path : String} {got : List (String × String)}
    (hgot : route.captures? path = some got) {name s : String} (hmem : (name, s) ∈ got) {c : Char}
    (hc : c ∈ s.toList) : c ∈ path.toList := by
  obtain ⟨caps, hread, rfl⟩ := h.reading_of_captures? hsplit hps.plain hgot
  obtain ⟨⟨n, text⟩, he, heq⟩ := List.mem_map.1 hmem
  cases heq
  rw [String.toList_ofList] at hc
  exact mem_of_readingOf hps.kind (named_of_split hsplit) hread (List.mem_reverse.1 he) hc

theorem question_not_mem_stripQuery (path : String) : '?' ∉ (stripQuery path).toList := by
  rw [stripQuery, String.toList_ofList]
  intro hmem
  simpa using List.mem_takeWhile_imp hmem

namespace Router

variable {r : Router φ}

theorem find_of_routes_eq {route : Route φ} (h : r.routes = [route]) {m : Method}
    (hm : route.accepts m = true) (path : String) :
    r.find m path = (route.captures? (stripQuery path)).map fun got => (route, got) := by
  simp [find, h, hm]

theorem find_urlFor_verbatim_iff (hr : r.Reachable) {route : Route φ} (hroute : route ∈ r.routes)
    {name : String} (hname : route.name = .named name) (hurlize : route.urlize = false)
    (hsplit : split route.pattern.toList = .ok ps) (hps : CapturesOnly ps)
    (hfilled : Filled data ps) {locale : String} {link : Link}
    (hlink : r.urlFor name data locale = .ok link) {alone : Router φ}
    (halone : alone.routes = [route]) {m : Method} (hm : route.accepts m = true) :
    alone.find m link.path = some (route, ps.filterMap (Piece.string? data)) ↔
      ∀ p ∈ ps, ∀ n s, p.string? data = some (n, s) → '?' ∉ s.toList := by
  have htabled := hr.tabled
  have hcompiled := htabled.compiled route hroute
  have hpath := generatePath_of_urlFor (htabled.route?_eq hroute hname) hlink
  have htexts := (generatePath_eq_ok_iff hsplit).1 hpath
  have hstring : ∀ p ∈ ps, p.segment? ⟨r.locales.translations, data, locale, route.urlize⟩ =
      p.string? data := fun p => Piece.segment?_eq_string? hurlize hfilled
  rw [find_of_routes_eq halone hm]
  constructor
  · intro hfound p hp n s hs hquestion
    obtain ⟨got, hgot, heq⟩ := Option.map_eq_some_iff.1 hfound
    have hmem : (n, s) ∈ got := by
      rw [(Prod.mk.inj heq).2]
      exact List.mem_filterMap.2 ⟨p, hp, hs⟩
    exact question_not_mem_stripQuery link.path
      (hcompiled.mem_of_captures? hsplit hps hgot hmem hquestion)
  · intro hquestion
    have hstrip : stripQuery link.path = link.path := by
      refine stripQuery_eq_self
        (question_not_mem_of_segments (named_of_split hsplit) hps.segmented ?_ htexts)
      intro p hp n s hs
      rw [hstring p hp] at hs
      exact hquestion p hp n s hs
    have hcaps := hcompiled.captures?_of_segments hsplit hps.segmented (fun p hp n s hs => by
      rw [hstring p hp] at hs
      cases p with
      | literal text => cases hs
      | token t =>
        obtain ⟨_, _, hstring, _, hslash⟩ := hfilled t hp
        cases hstring.symm.trans hs
        exact hslash) htexts
    rw [String.ofList_toList, List.filterMap_congr hstring] at hcaps
    rw [hstrip, hcaps]
    rfl

theorem find_urlFor_verbatim_unslugged :
    let data := Dict.ofList [("title", .str "50% Off & \"Ünï\" #1\n"), ("part", .str "..")]
    ∃ (r : Router Unit) (route : Route Unit) (ps : List Piece) (link : Link),
      r.Reachable ∧ r.routes = [route] ∧ route.name = .named "raw" ∧ route.urlize = false ∧
      route.pattern = "/raw/\x7b\x7bC:<title>\x7d\x7d/\x7b\x7bC:v-<part>\x7d\x7d" ∧
      split route.pattern.toList = .ok ps ∧ CapturesOnly ps ∧ Filled data ps ∧
      r.urlFor "raw" data "en" = .ok link ∧
      link.path = "/raw/50% Off & \"Ünï\" #1\n/v-.." ∧
      r.find .get link.path = some (route,
        [("title", "50% Off & \"Ünï\" #1\n"), ("part", "..")]) := by
  intro data
  obtain ⟨r, route, hreachable, hlocales, hroutes, hname, hpattern, hurlize, haccepts, hinputs⟩ :=
    exists_reachable_single_of .empty "raw"
      "/raw/\x7b\x7bC:<title>\x7d\x7d/\x7b\x7bC:v-<part>\x7d\x7d"
      ((RouteSettings.withHandler .empty (.func ())).withUrlize false) false (by decide +kernel)
  have hmem : route ∈ r.routes := hroutes ▸ List.mem_cons_self
  have hsplit : split route.pattern.toList = .ok [.literal "/raw/".toList,
      .token ⟨.capture, [], some "title".toList, []⟩, .literal ['/'],
      .token ⟨.capture, "v-".toList, some "part".toList, []⟩] := by
    rw [hpattern]
    exact Except.eq_ok_of_toOption (by decide +kernel)
  have hps : CapturesOnly [.literal "/raw/".toList,
      .token ⟨.capture, [], some "title".toList, []⟩, .literal ['/'],
      .token ⟨.capture, "v-".toList, some "part".toList, []⟩] := by
    refine ⟨by decide, by simp, ?_, ?_, trivial⟩ <;> simp [AtSlash, Piece.front]
  have hfilled : Filled data [.literal "/raw/".toList,
      .token ⟨.capture, [], some "title".toList, []⟩, .literal ['/'],
      .token ⟨.capture, "v-".toList, some "part".toList, []⟩] := by
    intro t ht
    simp only [List.mem_cons, Piece.token.injEq, reduceCtorEq, false_or, List.not_mem_nil,
      or_false] at ht
    rcases ht with rfl | rfl
    · exact ⟨"title", "50% Off & \"Ünï\" #1\n", by decide +kernel, by decide, by decide⟩
    · exact ⟨"part", "..", by decide +kernel, by decide, by decide⟩
  have hpath : generatePath ⟨r.locales.translations, data, "en", route.urlize⟩ route.pattern =
      .ok "/raw/50% Off & \"Ünï\" #1\n/v-.." := by
    rw [hlocales, hpattern, hurlize]
    exact Except.eq_ok_of_toOption (by decide +kernel)
  have hlink := urlFor_of_generatePath (hreachable.tabled.route?_eq hmem hname) hinputs hpath
  have hfind := (find_urlFor_verbatim_iff hreachable hmem hname hurlize hsplit hps hfilled hlink
    hroutes haccepts).2 (by
      intro p hp n s hs
      simp only [List.mem_cons, List.not_mem_nil, or_false] at hp
      rcases hp with rfl | rfl | rfl | rfl
      · cases hs
      · cases hs
        decide
      · cases hs
      · cases hs
        decide)
  exact ⟨r, route, _, _, hreachable, hroutes, hname, hurlize, hpattern, hsplit, hps, hfilled, hlink,
    rfl, hfind⟩

/-- A string is cut at its question mark. -/
theorem find_urlFor_cut_string :
    let data := Dict.ofList [("title", .str "a?b")]
    ∃ (r : Router Unit) (route : Route Unit) (ps : List Piece) (link : Link),
      r.Reachable ∧ r.routes = [route] ∧ route.name = .named "raw" ∧ route.urlize = false ∧
      route.pattern = "/raw/\x7b\x7bC:<title>\x7d\x7d" ∧
      split route.pattern.toList = .ok ps ∧ CapturesOnly ps ∧ Filled data ps ∧
      r.urlFor "raw" data "en" = .ok link ∧ link.path = "/raw/a?b" ∧ route.accepts .get = true ∧
      r.find .get link.path = some (route, [("title", "a")]) := by
  intro data
  obtain ⟨r, route, hreachable, hlocales, hroutes, hname, hpattern, hurlize, haccepts, hinputs⟩ :=
    exists_reachable_single_of .empty "raw" "/raw/\x7b\x7bC:<title>\x7d\x7d"
      ((RouteSettings.withHandler .empty (.func ())).withUrlize false) false (by decide +kernel)
  have hmem : route ∈ r.routes := hroutes ▸ List.mem_cons_self
  have hsplit : split route.pattern.toList = .ok [.literal "/raw/".toList,
      .token ⟨.capture, [], some "title".toList, []⟩] := by
    rw [hpattern]
    exact Except.eq_ok_of_toOption (by decide +kernel)
  have hps : CapturesOnly [.literal "/raw/".toList,
      .token ⟨.capture, [], some "title".toList, []⟩] := by
    refine ⟨by decide, by simp, ?_, trivial⟩
    simp [AtSlash]
  have hfilled : Filled data [.literal "/raw/".toList,
      .token ⟨.capture, [], some "title".toList, []⟩] := by
    intro t ht
    obtain rfl : t = ⟨.capture, [], some "title".toList, []⟩ := by simpa using ht
    exact ⟨"title", "a?b", by decide +kernel, by decide, by decide⟩
  have hpath : generatePath ⟨r.locales.translations, data, "en", route.urlize⟩ route.pattern =
      .ok "/raw/a?b" := by
    rw [hlocales, hpattern, hurlize]
    exact Except.eq_ok_of_toOption (by decide +kernel)
  have hlink := urlFor_of_generatePath (hreachable.tabled.route?_eq hmem hname) hinputs hpath
  -- What is left of the path is the one of the shorter string.
  let left : PathData := ⟨Translations.empty, Dict.ofList [("title", .str "a")], "en", false⟩
  have hcaps : route.captures? "/raw/a" = some [("title", "a")] :=
    (hreachable.tabled.compiled route hmem).captures?_of_segments (d := left) hsplit hps.segmented
      (by
        intro p hp n s hs
        simp only [List.mem_cons, List.not_mem_nil, or_false] at hp
        rcases hp with rfl | rfl
        · cases hs
        · cases hs
          decide)
      (Except.eq_ok_of_toOption (by decide +kernel))
  refine ⟨r, route, _, _, hreachable, hroutes, hname, hurlize, hpattern, hsplit, hps, hfilled,
    hlink, rfl, haccepts, ?_⟩
  have hstrip : stripQuery (Link.new "/raw/a?b").path = "/raw/a" := by decide +kernel
  rw [find_of_routes_eq hroutes haccepts, hstrip, hcaps]
  rfl

end Router

end UrlRouter
