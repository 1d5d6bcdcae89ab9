import UrlRouter.Proofs.Pattern.Segmented
import UrlRouter.Proofs.Pattern.Slug
import UrlRouter.Proofs.Route.Captures
import UrlRouter.Proofs.Route.Generated
import UrlRouter.Router.Resolve

/-!
The way back from a generated path. Where every value is a slug in a path segment of its own, the
route captures the slugs again.
-/

namespace UrlRouter

open Regex

def slugOf? (data : Args) (name : String) : Option String :=
  (((data.get? name).bind Json.valueText?).map urlize).filter (· ≠ "")

def Piece.slug? (data : Args) : Piece → Option (String × String)
  | .literal _ => none
  | .token t => t.nameString.bind fun name => (slugOf? data name).map fun text => (name, text)

def Piece.segment? (d : PathData) : Piece → Option (String × String)
  | .literal _ => none
  | .token t => t.nameString.bind fun name => (d.segment? name).map fun text => (name, text)

theorem segment?_eq_slugOf? {d : PathData} (h : d.urlize = true) (name : String) :
    d.segment? name = slugOf? d.values name := by
  simp only [PathData.segment?, PathData.text?, slugOf?, h, if_true]

theorem Piece.segment?_eq_slug? {d : PathData} (h : d.urlize = true) (p : Piece) :
    p.segment? d = p.slug? d.values := by
  cases p with
  | literal text => rfl
  | token t =>
    unfold Piece.segment? Piece.slug?
    simp only [segment?_eq_slugOf? h]

theorem exists_urlize_of_slugOf? {data : Args} {name s : String} (h : slugOf? data name = some s) :
    s.toList ≠ [] ∧ ∃ text, s = urlize text := by
  obtain ⟨hs, hne⟩ := Option.filter_eq_some_iff.1 h
  obtain ⟨text, _, rfl⟩ := Option.map_eq_some_iff.1 hs
  refine ⟨?_, text, rfl⟩
  simpa using hne

section

variable {locales : Locales} {d : PathData} {t : Token} {ps : List Piece} {u : List Char}

theorem Token.segment_cases (hnamed : t.Named) (hkind : t.kind = .capture ∨ t.kind = .optional)
    (h : t.text d = .ok u) :
    (t.kind = .optional ∧ (Piece.token t).segment? d = none ∧ u = []) ∨
      ∃ name s, t.name = some name ∧ d.segment? (String.ofList name) = some s ∧
        (Piece.token t).segment? d = some (String.ofList name, s) ∧ u = t.lead ++ s.toList := by
  have hneeds : t.kind.needsName = true := by rcases hkind with hkind | hkind <;> rw [hkind] <;> rfl
  obtain ⟨name, hname⟩ := hnamed.exists_name hneeds
  have hsegment : (Piece.token t).segment? d =
      (d.segment? (String.ofList name)).map fun text => (String.ofList name, text) := by
    rw [Piece.segment?, nameString, hname]
    rfl
  rcases text_cases hkind hname h with ⟨hoptional, hnone, rfl⟩ | ⟨s, hs, rfl⟩
  · rw [hnone] at hsegment
    exact .inl ⟨hoptional, hsegment, rfl⟩
  · rw [hs] at hsegment
    exact .inr ⟨name, s, hname, hs, hsegment, rfl⟩

theorem Token.slug_cases (hurlize : d.urlize = true) (hnamed : t.Named)
    (hkind : t.kind = .capture ∨ t.kind = .optional) (h : t.text d = .ok u) :
    (t.kind = .optional ∧ (Piece.token t).slug? d.values = none ∧ u = []) ∨
      ∃ name text, t.name = some name ∧
        (Piece.token t).slug? d.values = some (String.ofList name, urlize text) ∧
        (urlize text).toList ≠ [] ∧ u = t.lead ++ (urlize text).toList := by
  rw [← Piece.segment?_eq_slug? hurlize]
  rcases segment_cases hnamed hkind h with hnone | ⟨name, s, hname, hs, hsegment, rfl⟩
  · exact .inl hnone
  · rw [segment?_eq_slugOf? hurlize] at hs
    obtain ⟨hne, text, rfl⟩ := exists_urlize_of_slugOf? hs
    exact .inr ⟨name, text, hname, hsegment, hne, rfl⟩

theorem Token.reading_text (hnamed : t.Named) (hkind : t.kind = .capture ∨ t.kind = .optional)
    (hslash : ∀ n s, (Piece.token t).segment? d = some (n, s) → '/' ∉ s.toList)
    (h : t.text d = .ok u) (b a : List Char) :
    t.reading locales b u a
      (((Piece.token t).segment? d).map fun (n, s) => (n, s.toList)).toList := by
  rcases segment_cases hnamed hkind h with
    ⟨hoptional, hsegment, rfl⟩ | ⟨name, s, hname, hs, hsegment, rfl⟩
  · rw [hsegment, reading, hoptional]
    exact .inl ⟨rfl, rfl⟩
  · have hvalue : ((Reading.word t.lead).append (held (some name) .segment)) b
        (t.lead ++ s.toList) a [(String.ofList name, s.toList)] :=
      ⟨t.lead, _, [], _, rfl, rfl, ⟨rfl, rfl⟩, [], rfl, segment?_ne_nil hs, hslash _ _ hsegment,
        rfl⟩
    rw [hsegment, reading, hname]
    rcases hkind with hkind | hkind
    · rw [hkind]
      exact hvalue
    · rw [hkind]
      exact .inr hvalue

theorem Token.question_not_mem_text (hnamed : t.Named)
    (hkind : t.kind = .capture ∨ t.kind = .optional) (hlead : ∀ c ∈ t.lead, isBare c = true)
    (hquestion : ∀ n s, (Piece.token t).segment? d = some (n, s) → '?' ∉ s.toList)
    (h : t.text d = .ok u) : '?' ∉ u := by
  have hbare : '?' ∉ t.lead := fun hmem => absurd (hlead _ hmem) (by decide)
  rcases segment_cases hnamed hkind h with ⟨_, _, rfl⟩ | ⟨name, s, _, _, hsegment, rfl⟩
  · exact List.not_mem_nil
  · rw [List.mem_append, not_or]
    exact ⟨hbare, hquestion _ _ hsegment⟩

end

section

variable {φ : Type} {locales : Locales} {route : Route φ} {d : PathData} {ps : List Piece}
  {out : List Char}

theorem Route.CompiledFor.captures?_of_segments (h : route.CompiledFor locales)
    (hsplit : split route.pattern.toList = .ok ps) (hps : Segmented ps)
    (hslash : ∀ p ∈ ps, ∀ n s, p.segment? d = some (n, s) → '/' ∉ s.toList)
    (hout : texts d ps = .ok out) :
    route.captures? (String.ofList out) = some (ps.filterMap (Piece.segment? d)) := by
  have hnamed := named_of_split hsplit
  have hpath : (String.ofList out).toList = out := String.toList_ofList
  have hread : readingOf locales ps [] (String.ofList out).toList []
      (ps.filterMap fun p => (p.segment? d).map fun (n, s) => (n, s.toList)).reverse := by
    rw [hpath]
    refine readingOf_texts hout (fun p hp u hu b a => ?_) [] []
    cases p with
    | literal text =>
      cases hu
      exact ⟨rfl, rfl⟩
    | token t => exact t.reading_text (hnamed t hp) (hps.kind t hp) (hslash _ hp) hu b a
  obtain ⟨got, hgot⟩ := Option.isSome_iff_exists.1 (h.isSome_captures? hsplit hps.plain hread)
  obtain ⟨caps, hcaps, rfl⟩ := h.reading_of_captures? hsplit hps.plain hgot
  rw [hgot, captures_unique hps hnamed hcaps hread, List.reverse_reverse, List.map_filterMap]
  refine congrArg some (congrArg (List.filterMap · ps) (funext fun p => ?_))
  cases p.segment? d <;> simp

theorem question_not_mem_of_segments (hnamed : ∀ t, .token t ∈ ps → t.Named) (hps : Segmented ps)
    (hquestion : ∀ p ∈ ps, ∀ n s, p.segment? d = some (n, s) → '?' ∉ s.toList)
    (hout : texts d ps = .ok out) : '?' ∉ out := by
  refine not_mem_texts hout fun p hp u hu => ?_
  have hplain := hps.plain p hp
  cases p with
  | literal text =>
    cases hu
    exact fun hmem => absurd (hplain _ hmem) (by decide)
  | token t =>
    exact t.question_not_mem_text (hnamed t hp) (hps.kind t hp) hplain.lead (hquestion _ hp) hu

theorem exists_urlize_of_segment? (hurlize : d.urlize = true) {p : Piece} {n s : String}
    (h : p.segment? d = some (n, s)) : ∃ text, s = urlize text := by
  rw [Piece.segment?_eq_slug? hurlize] at h
  cases p with
  | literal text => cases h
  | token t =>
    obtain ⟨_, _, h⟩ := Option.bind_eq_some_iff.1 h
    obtain ⟨text, hslug, heq⟩ := Option.map_eq_some_iff.1 h
    cases heq
    exact (exists_urlize_of_slugOf? hslug).2

theorem Route.CompiledFor.captures?_of_texts (h : route.CompiledFor locales)
    (hsplit : split route.pattern.toList = .ok ps) (hps : Segmented ps) (hurlize : d.urlize = true)
    (hout : texts d ps = .ok out) :
    route.captures? (String.ofList out) = some (ps.filterMap (Piece.slug? d.values)) := by
  rw [← funext (Piece.segment?_eq_slug? hurlize)]
  refine h.captures?_of_segments hsplit hps (fun p _ n s hs => ?_) hout
  obtain ⟨text, rfl⟩ := exists_urlize_of_segment? hurlize hs
  exact slash_not_mem_urlize text

theorem question_not_mem_of_texts (hnamed : ∀ t, .token t ∈ ps → t.Named) (hps : Segmented ps)
    (hurlize : d.urlize = true) (hout : texts d ps = .ok out) : '?' ∉ out := by
  refine question_not_mem_of_segments hnamed hps (fun p _ n s hs => ?_) hout
  obtain ⟨text, rfl⟩ := exists_urlize_of_segment? hurlize hs
  exact question_not_mem_urlize text

end

theorem stripQuery_eq_self {path : String} (h : '?' ∉ path.toList) : stripQuery path = path := by
  have hall := takeWhile_ne_append h (v := []) (by simp)
  rw [List.append_nil] at hall
  rw [stripQuery, hall, String.ofList_toList]

namespace Router

variable {φ : Type} {r : Router φ}

theorem find_of_captures? {m : Method} {path : String} {j : Nat} {route : Route φ}
    (hroute : r.routes[j]? = some route) (hm : route.accepts m = true)
    (hcaps : (route.captures? (stripQuery path)).isSome = true) :
    ∃ i ≤ j, ∃ found got, r.routes[i]? = some found ∧ found.accepts m = true ∧
      found.captures? (stripQuery path) = some got ∧ r.find m path = some (found, got) := by
  unfold find
  generalize r.routes = routes at hroute
  induction routes generalizing j with
  | nil => simp at hroute
  | cons first routes ih =>
    have hlater (hskip : ¬ (first.accepts m = true ∧
        (first.captures? (stripQuery path)).isSome = true)) : ∃ k, j = k + 1 := by
      cases j with
      | zero =>
        cases hroute
        exact absurd ⟨hm, hcaps⟩ hskip
      | succ k => exact ⟨k, rfl⟩
    by_cases hfirst : first.accepts m = true
    · rw [List.filter_cons, if_pos hfirst, List.findSome?_cons]
      cases hgot : first.captures? (stripQuery path) with
      | some got => exact ⟨0, Nat.zero_le j, first, got, rfl, hfirst, hgot, rfl⟩
      | none =>
        obtain ⟨k, rfl⟩ := hlater (by simp [hgot])
        obtain ⟨i, hi, hfound⟩ := ih hroute
        exact ⟨i + 1, by omega, hfound⟩
    · rw [List.filter_cons, if_neg hfirst]
      obtain ⟨k, rfl⟩ := hlater (fun h => hfirst h.1)
      obtain ⟨i, hi, hfound⟩ := ih hroute
      exact ⟨i + 1, by omega, hfound⟩

theorem captures_urlFor (hr : r.Reachable) {route : Route φ} (hroute : route ∈ r.routes)
    {name : String} (hname : route.name = .named name) (hurlize : route.urlize = true)
    {ps : List Piece} (hsplit : split route.pattern.toList = .ok ps) (hps : Segmented ps)
    {data : Args} {locale : String} {link : Link} (hlink : r.urlFor name data locale = .ok link) :
    route.captures? link.path = some (ps.filterMap (Piece.slug? data)) ∧
    (∀ t, .token t ∈ ps → t.kind = .capture → ((Piece.token t).slug? data).isSome = true) ∧
    ∀ (m : Method) (j : Nat), route.accepts m = true → r.routes[j]? = some route →
      ∃ i ≤ j, ∃ found got, r.routes[i]? = some found ∧ found.accepts m = true ∧
        found.captures? link.path = some got ∧ r.find m link.path = some (found, got) := by
  have htabled := hr.tabled
  have hcompiled := htabled.compiled route hroute
  have hnamed := named_of_split hsplit
  have hpath := generatePath_of_urlFor (htabled.route?_eq hroute hname) hlink
  have htexts := (generatePath_eq_ok_iff hsplit).1 hpath
  -- The path is read as it was put together, and in no other way.
  have hcaps := hcompiled.captures?_of_texts hsplit hps hurlize htexts
  rw [String.ofList_toList] at hcaps
  refine ⟨hcaps, fun t ht hkind => ?_, fun m j hm hj => ?_⟩
  · obtain ⟨u, hu⟩ := exists_texts_iff.1 ⟨_, htexts⟩ _ ht
    rcases t.slug_cases hurlize (hnamed t ht) (.inl hkind) hu with
      ⟨hoptional, _⟩ | ⟨_, _, _, hslug, _⟩
    · rw [hkind] at hoptional
      cases hoptional
    · rw [hslug]
      rfl
  · have hstrip : stripQuery link.path = link.path :=
      stripQuery_eq_self (question_not_mem_of_texts hnamed hps hurlize htexts)
    have hfound := find_of_captures? hj hm (by rw [hstrip, hcaps]; rfl)
    rwa [hstrip] at hfound

/-- The text behind the value left out looks like the value. -/
theorem captures_urlFor_left_out :
    let data := Dict.ofList [("cat", .str "Sci-Fi & More")]
    ∃ (r : Router Unit) (route : Route Unit) (ps : List Piece) (link : Link),
      r.Reachable ∧ route ∈ r.routes ∧ route.name = .named "list" ∧ route.urlize = true ∧
      route.pattern = "/list/\x7b\x7bC:<cat>\x7d\x7d\x7b\x7bO:/page-<page>\x7d\x7d/page-end" ∧
      split route.pattern.toList = .ok ps ∧ Segmented ps ∧
      r.urlFor "list" data "en" = .ok link ∧ link.path = "/list/sci-fi-more/page-end" ∧
      route.captures? link.path = some [("cat", "sci-fi-more")] ∧
      r.find .get link.path = some (route, [("cat", "sci-fi-more")]) := by
  intro data
  obtain ⟨r, route, hreachable, hlocales, hroutes, hname, hpattern, hurlize, haccepts, hinputs⟩ :=
    exists_reachable_single .empty "list"
      "/list/\x7b\x7bC:<cat>\x7d\x7d\x7b\x7bO:/page-<page>\x7d\x7d/page-end" (by decide +kernel)
  have hmem : route ∈ r.routes := hroutes ▸ List.mem_cons_self
  have hsplit : split route.pattern.toList = .ok [.literal "/list/".toList,
      .token ⟨.capture, [], some "cat".toList, []⟩,
      .token ⟨.optional, "/page-".toList, some "page".toList, []⟩,
      .literal "/page-end".toList] := by
    rw [hpattern]
    exact Except.eq_ok_of_toOption (by decide +kernel)
  have hps : Segmented [.literal "/list/".toList,
      .token ⟨.capture, [], some "cat".toList, []⟩,
      .token ⟨.optional, "/page-".toList, some "page".toList, []⟩,
      .literal "/page-end".toList] := by
    refine ⟨by decide, by simp, ⟨?_, ?_, trivial⟩, by simp, by decide⟩ <;>
      simp [AtSlash, Piece.front]
  have hpath : generatePath ⟨r.locales.translations, data, "en", route.urlize⟩ route.pattern =
      .ok "/list/sci-fi-more/page-end" := by
    rw [hlocales, hpattern, hurlize]
    exact Except.eq_ok_of_toOption (by decide +kernel)
  have hlink := urlFor_of_generatePath (hreachable.tabled.route?_eq hmem hname) hinputs hpath
  obtain ⟨hcaps, _, hfind⟩ := captures_urlFor hreachable hmem hname hurlize hsplit hps hlink
  have hslugs : route.captures? "/list/sci-fi-more/page-end" = some [("cat", "sci-fi-more")] := by
    refine hcaps.trans ?_
    decide +kernel
  refine ⟨r, route, _, _, hreachable, hmem, hname, hurlize, hpattern, hsplit, hps, hlink, rfl,
    hslugs, ?_⟩
  obtain ⟨i, hi, found, got, hfound, _, hgot, heq⟩ := hfind .get 0 haccepts (by rw [hroutes]; rfl)
  obtain rfl : i = 0 := by omega
  rw [hroutes] at hfound
  cases hfound
  cases hslugs.symm.trans hgot
  exact heq

end Router

end UrlRouter
