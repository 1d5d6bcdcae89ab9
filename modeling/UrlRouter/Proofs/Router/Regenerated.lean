import UrlRouter.Proofs.Pattern.SlugRuns
import UrlRouter.Proofs.Route.Exchange
import UrlRouter.Proofs.Router.Resolution

/-!
Slugs of slugs. A slug is kept as it is unless it was made from a dotted capital I, whose combining
dot the next slug leaves out; so a path comes again from what it holds of any other values.
-/

namespace UrlRouter

open Unicode

structure Rereads (ps : List Piece) (d e : PathData) : Prop where
  translations : e.translations = d.translations
  locale : e.locale = d.locale
  slugs : e.urlize = d.urlize
  segment : ∀ t, .token t ∈ ps → t.kind.needsName = true → ∀ name ∈ t.nameString,
    e.text? name = d.segment? name
  word : ∀ t, .token t ∈ ps → t.kind = .translated →
    t.nameString.bind e.text? = t.nameString.bind d.text?

def Token.Undotted (t : Token) (d : PathData) : Prop :=
  t.kind.needsName = true → ∀ name ∈ t.nameString, ∀ text ∈ d.text? name, dottedI ∉ text.toList

theorem mem_urlize_iff {s : String} : combiningDot ∈ (urlize s).toList ↔ dottedI ∈ s.toList := by
  rw [toList_urlize, combiningDot_mem_slug_iff]

theorem urlize_urlize_eq_iff {s : String} : urlize (urlize s) = urlize s ↔ dottedI ∉ s.toList := by
  rw [← slug_slug_eq_iff, ← String.toList_inj, toList_urlize, toList_urlize]

theorem combiningDot_not_mem_urlize_urlize (s : String) :
    combiningDot ∉ (urlize (urlize s)).toList := by
  rw [mem_urlize_iff, toList_urlize]
  exact dottedI_not_mem_slug s.toList

theorem isAlphanumeric_of_isSlugChar {c : Char} (h : c = '-' ∨ isSlugChar c = true) :
    isAlphanumeric c = true ∨ c ∈ ['-', '_', '.', '~'] := by
  rcases h with rfl | h
  · exact .inr (by decide)
  · simp only [isSlugChar, Bool.or_eq_true, beq_iff_eq] at h
    rcases h with ((h | rfl) | rfl) | rfl
    · exact .inl h
    · exact .inr (by decide)
    · exact .inr (by decide)
    · exact .inr (by decide)

theorem forall_mem_urlize_iff {s : String} :
    (∀ c ∈ (urlize s).toList, isAlphanumeric c = true ∨ c ∈ ['-', '_', '.', '~']) ↔
      dottedI ∉ s.toList := by
  constructor
  · intro h hdotted
    rcases h combiningDot (mem_urlize_iff.2 hdotted) with h | h
    · revert h
      decide +kernel
    · revert h
      decide
  · intro h c hc
    rw [toList_urlize] at hc
    exact isAlphanumeric_of_isSlugChar (isSlugChar_of_mem_slug h hc)

section

variable {d e : PathData} {ps : List Piece} {t : Token} {name s text : String}

theorem PathData.exists_text_of_segment? (hurlize : d.urlize = true)
    (h : d.segment? name = some s) :
    ∃ text, d.text? name = some text ∧ s = UrlRouter.urlize text := by
  rw [segment?, hurlize] at h
  obtain ⟨hs, _⟩ := Option.filter_eq_some_iff.1 h
  obtain ⟨text, htext, rfl⟩ := Option.map_eq_some_iff.1 hs
  exact ⟨text, htext, rfl⟩

theorem PathData.segment?_of_mem (hurlize : d.urlize = true) (htext : d.text? name = some text)
    (h : dottedI ∈ text.toList) : d.segment? name = some (UrlRouter.urlize text) := by
  have hne : UrlRouter.urlize text ≠ "" := by
    intro heq
    have hdot := mem_urlize_iff.2 h
    rw [heq] at hdot
    cases hdot
  rw [segment?, htext, hurlize]
  simp [hne]

theorem PathData.segment?_again (hurlize : e.urlize = true) (h : e.text? name = d.segment? name) :
    e.segment? name = ((d.segment? name).map UrlRouter.urlize).filter (· ≠ "") := by
  rw [segment?, h, hurlize]
  rfl

namespace Rereads

theorem segment?_eq (h : Rereads ps d e) (hurlize : d.urlize = true) (ht : .token t ∈ ps)
    (hneeds : t.kind.needsName = true) (hname : t.nameString = some name)
    (hdot : t.Undotted d) : e.segment? name = d.segment? name := by
  rw [PathData.segment?_again (h.slugs.trans hurlize) (h.segment t ht hneeds name hname)]
  cases hs : d.segment? name with
  | none => rfl
  | some s =>
    obtain ⟨text, htext, rfl⟩ := d.exists_text_of_segment? hurlize hs
    have hstable := urlize_urlize_eq_iff.2 (hdot hneeds name hname text htext)
    have hne : urlize text ≠ "" := by simpa using segment?_ne_nil hs
    simp [hstable, hne]

theorem text_eq (h : Rereads ps d e) (hurlize : d.urlize = true) (ht : .token t ∈ ps)
    (hnamed : t.Named) (hdot : t.Undotted d) : t.text e = t.text d := by
  refine t.text_congr h.translations h.locale (fun hneeds => ?_) (h.word t ht)
  obtain ⟨n, hname⟩ := hnamed.exists_nameString hneeds
  rw [hname]
  exact h.segment?_eq hurlize ht hneeds hname hdot

/-- A dotted capital I has left a combining dot in the segment, which is not there again. -/
theorem count_text_lt (h : Rereads ps d e) (hurlize : d.urlize = true) (ht : .token t ∈ ps)
    (hdot : ¬ t.Undotted d) {u v : List Char} (hu : t.text d = .ok u) (hv : t.text e = .ok v) :
    v.count combiningDot < u.count combiningDot := by
  simp only [Token.Undotted, not_forall, not_not] at hdot
  obtain ⟨hneeds, name, hname, text, htext, hdotted⟩ := hdot
  have hs := d.segment?_of_mem hurlize htext hdotted
  have hagain := PathData.segment?_again (h.slugs.trans hurlize) (h.segment t ht hneeds name hname)
  have hpos : 0 < (urlize text).toList.count combiningDot :=
    List.count_pos_iff.2 (mem_urlize_iff.2 hdotted)
  have hzero : (urlize (urlize text)).toList.count combiningDot = 0 :=
    List.count_eq_zero.2 (combiningDot_not_mem_urlize_urlize text)
  rw [t.text_of_segment? hneeds hname hs] at hu
  cases hu
  rw [List.count_append]
  cases hslug : e.segment? name with
  | some s =>
    rw [hs] at hagain
    obtain ⟨heq, _⟩ := Option.filter_eq_some_iff.1 (hagain.symm.trans hslug)
    obtain rfl : urlize (urlize text) = s := Option.some.inj heq
    rw [t.text_of_segment? hneeds hname hslug] at hv
    cases hv
    rw [List.count_append]
    omega
  | none =>
    rw [t.text_of_segment?_eq_none hneeds hname hslug] at hv
    split at hv
    · cases hv
      rw [List.count_nil]
      omega
    · cases hv

theorem generatePath_eq_iff (h : Rereads ps d e) (hurlize : d.urlize = true)
    {pattern path : String} (hsplit : split pattern.toList = .ok ps)
    (hpath : generatePath d pattern = .ok path) :
    generatePath e pattern = .ok path ↔ ∀ t, .token t ∈ ps → t.Undotted d := by
  have hnamed := named_of_split hsplit
  rw [generatePath_eq_ok_iff hsplit] at hpath ⊢
  constructor
  · intro hagain
    by_contra hdot
    simp only [not_forall] at hdot
    obtain ⟨t, ht, hdot⟩ := hdot
    refine Nat.lt_irrefl (path.toList.count combiningDot) ?_
    refine measure_texts_lt (fun u v => List.count_append) (fun t' ht' u v hu hv => ?_) ht
      (fun u v hu hv => h.count_text_lt hurlize ht hdot hu hv) hpath hagain
    by_cases hdot' : t'.Undotted d
    · cases hu.symm.trans ((h.text_eq hurlize ht' (hnamed t' ht') hdot').symm.trans hv)
      exact Nat.le_refl _
    · exact Nat.le_of_lt (h.count_text_lt hurlize ht' hdot' hu hv)
  · intro hdot
    rw [← hpath]
    exact texts_congr fun t ht => h.text_eq hurlize ht (hnamed t ht) (hdot t ht)

end Rereads

theorem capture?_slugs {data : Args} (ht : .token t ∈ ps) (hname : t.nameString = some name) :
    capture? (ps.filterMap (Piece.slug? data)) name = slugOf? data name := by
  have hslug {n s : String} (h : (n, s) ∈ ps.filterMap (Piece.slug? data)) :
      slugOf? data n = some s := by
    obtain ⟨p, _, hp⟩ := List.mem_filterMap.1 h
    cases p with
    | literal text => cases hp
    | token t =>
      obtain ⟨n', _, hp⟩ := Option.bind_eq_some_iff.1 hp
      obtain ⟨s', hs', heq⟩ := Option.map_eq_some_iff.1 hp
      cases heq
      exact hs'
  rw [capture?]
  cases hfound : (ps.filterMap (Piece.slug? data)).find? (·.1 == name) with
  | some pair =>
    have hfst := List.find?_some hfound
    obtain rfl : pair.1 = name := by simpa using hfst
    exact (hslug (List.mem_of_find?_eq_some hfound)).symm
  | none =>
    rw [Option.map_none, eq_comm, Option.eq_none_iff_forall_ne_some]
    intro s hs
    have hmem : (name, s) ∈ ps.filterMap (Piece.slug? data) :=
      List.mem_filterMap.2 ⟨.token t, ht, by simp [Piece.slug?, hname, hs]⟩
    exact absurd (beq_self_eq_true name) (List.find?_eq_none.1 hfound _ hmem)

end

variable {φ : Type}

theorem Route.get?_captureArgs {route : Route φ} {path : String}
    {captures : List (String × String)} (h : route.captures? path = some captures) (key : String) :
    (captureArgs captures).get? key = (capture? captures key).map .str := by
  rw [captureArgs, mergeArgs, Dict.get?_insertMany_eq, route.findEntry_captures h,
    Dict.get?_insertMany_eq]
  simp [findEntry]

theorem Route.rereads_captureArgs {route : Route φ} {path locale : String} {ps : List Piece}
    (hps : Segmented ps) {data : Args} {translations : Translations}
    (h : route.captures? path = some (ps.filterMap (Piece.slug? data))) :
    Rereads ps ⟨translations, data, locale, true⟩
      ⟨translations, captureArgs (ps.filterMap (Piece.slug? data)), locale, true⟩ where
  translations := rfl
  locale := rfl
  slugs := rfl
  segment t ht _ name hname := by
    rw [segment?_eq_slugOf? rfl, ← capture?_slugs ht hname, PathData.text?,
      route.get?_captureArgs h]
    cases capture? (ps.filterMap (Piece.slug? data)) name <;> rfl
  word t ht hkind := by
    rcases hps.kind t ht with hkind' | hkind' <;>
    · rw [hkind] at hkind'
      cases hkind'

theorem urlize_stable_iff (s : String) :
    ((∀ c ∈ (urlize s).toList, isAlphanumeric c = true ∨ c ∈ ['-', '_', '.', '~']) ↔
      dottedI ∉ s.toList) ∧
    (urlize (urlize s) = urlize s ↔ dottedI ∉ s.toList) ∧
    (∀ (d e : PathData) (ps : List Piece) (pattern path : String), d.urlize = true →
      split pattern.toList = .ok ps → generatePath d pattern = .ok path → Rereads ps d e →
      (generatePath e pattern = .ok path ↔ ∀ t, .token t ∈ ps → t.Undotted d)) ∧
    ∀ {φ : Type} (r : Router φ) (route : Route φ) (name locale : String) (data : Args)
      (ps : List Piece) (link : Link), r.Reachable → route ∈ r.routes → route.name = .named name →
      route.urlize = true → split route.pattern.toList = .ok ps → Segmented ps →
      r.urlFor name data locale = .ok link →
      ∃ captures, route.captures? link.path = some captures ∧
        (generatePath ⟨r.locales.translations, captureArgs captures, locale, true⟩ route.pattern =
            .ok link.path ↔
          ∀ t, .token t ∈ ps → t.Undotted ⟨r.locales.translations, data, locale, true⟩) := by
  refine ⟨forall_mem_urlize_iff, urlize_urlize_eq_iff,
    fun d e ps pattern path hurlize hsplit hpath h => h.generatePath_eq_iff hurlize hsplit hpath,
    fun r route name locale data ps link hr hroute hname hurlize hsplit hps hlink => ?_⟩
  have hpath := Router.generatePath_of_urlFor (hr.tabled.route?_eq hroute hname) hlink
  rw [hurlize] at hpath
  have hcaptures := (hr.tabled.compiled route hroute).captures?_of_texts hsplit hps rfl
    ((generatePath_eq_ok_iff hsplit).1 hpath)
  rw [String.ofList_toList] at hcaptures
  refine ⟨_, hcaptures, ?_⟩
  exact (route.rereads_captureArgs hps hcaptures).generatePath_eq_iff rfl hsplit hpath

theorem urlize_stable_iff_cities :
    let data (city : String) : Args := .ofList [("city", .str city)]
    ∃ (r : Router Unit) (route : Route Unit), r.Reachable ∧ route ∈ r.routes ∧
      route.pattern = "/in/\x7b\x7bC:<city>\x7d\x7d" ∧
      (∃ link, r.urlFor "city" (data "Sankt Pölten") "de" = .ok link ∧
        link.path = "/in/sankt-pölten" ∧ ∃ captures, route.captures? link.path = some captures ∧
          generatePath ⟨.empty, captureArgs captures, "de", true⟩ route.pattern = .ok link.path) ∧
      (∃ link, r.urlFor "city" (data "İzmir") "tr" = .ok link ∧
        link.path = "/in/i\u0307zmir" ∧ ∃ captures, route.captures? link.path = some captures ∧
          generatePath ⟨.empty, captureArgs captures, "tr", true⟩ route.pattern ≠ .ok link.path) ∧
      urlize (urlize "Sankt Pölten") = urlize "Sankt Pölten" ∧
      urlize (urlize "İzmir") ≠ urlize "İzmir" ∧
      generatePath ⟨.empty, data "sankt-pölten", "de", true⟩ route.pattern =
        .ok "/in/sankt-pölten" := by
  intro data
  obtain ⟨r, route, hreachable, hlocales, hroutes, hname, hpattern, hurlize, -, hinputs⟩ :=
    Router.exists_reachable_single .empty "city" "/in/\x7b\x7bC:<city>\x7d\x7d" (by decide +kernel)
  have hmem : route ∈ r.routes := hroutes ▸ List.mem_cons_self
  have hsplit : split route.pattern.toList = .ok [.literal "/in/".toList,
      .token ⟨.capture, [], some "city".toList, []⟩] := by
    rw [hpattern]
    exact Except.eq_ok_of_toOption (by decide +kernel)
  have hps : Segmented [.literal "/in/".toList,
      .token ⟨.capture, [], some "city".toList, []⟩] := by
    refine ⟨by decide, by simp, ⟨?_, trivial⟩, by simp, by decide⟩
    simp [AtSlash]
  have htranslations : r.locales.translations = .empty := by rw [hlocales]; rfl
  have hundotted (city locale : String) :
      (∀ t, Piece.token t ∈ [Piece.literal "/in/".toList,
          .token ⟨.capture, [], some "city".toList, []⟩] →
        t.Undotted ⟨r.locales.translations, data city, locale, true⟩) ↔ dottedI ∉ city.toList := by
    have htext : (⟨r.locales.translations, data city, locale, true⟩ : PathData).text? "city" =
        some city := rfl
    simp [Token.Undotted, Token.nameString, Kind.needsName, htext]
  obtain ⟨-, hkeptSlug, hpaths, hroute⟩ := urlize_stable_iff "Sankt Pölten"
  obtain ⟨-, hlostSlug, -⟩ := urlize_stable_iff "İzmir"
  have hlink (city locale path : String)
      (h : (generatePath ⟨.empty, data city, locale, true⟩
        "/in/\x7b\x7bC:<city>\x7d\x7d").toOption = some path) :
      r.urlFor "city" (data city) locale = .ok (.new path) := by
    refine Router.urlFor_of_generatePath (hreachable.tabled.route?_eq hmem hname) hinputs ?_
    rw [htranslations, hpattern, hurlize]
    exact Except.eq_ok_of_toOption h
  have hkept := hlink "Sankt Pölten" "de" "/in/sankt-pölten" (by decide +kernel)
  have hlost := hlink "İzmir" "tr" "/in/i\u0307zmir" (by decide +kernel)
  obtain ⟨kept, hkeptCaptures, hkeptIff⟩ :=
    hroute r route "city" "de" _ _ _ hreachable hmem hname hurlize hsplit hps hkept
  obtain ⟨lost, hlostCaptures, hlostIff⟩ :=
    hroute r route "city" "tr" _ _ _ hreachable hmem hname hurlize hsplit hps hlost
  rw [hundotted, htranslations] at hkeptIff hlostIff
  have hagain := (hpaths ⟨.empty, data "Sankt Pölten", "de", true⟩
    ⟨.empty, data "sankt-pölten", "de", true⟩ _ _ "/in/sankt-pölten" rfl hsplit
    (by rw [hpattern]; exact Except.eq_ok_of_toOption (by decide +kernel))
    ⟨rfl, rfl, rfl, by simp [Token.nameString]; decide +kernel, by simp⟩).2
      (htranslations ▸ (hundotted "Sankt Pölten" "de").2 (by decide))
  exact ⟨r, route, hreachable, hmem, hpattern,
    ⟨_, hkept, rfl, kept, hkeptCaptures, hkeptIff.2 (by decide)⟩,
    ⟨_, hlost, rfl, lost, hlostCaptures, fun h => hlostIff.1 h (by decide)⟩,
    hkeptSlug.2 (by decide), fun h => hlostSlug.1 h (by decide), hagain⟩

/-- The combining dot is no character of a slug, and the slug of the slug is without it. -/
theorem urlize_dottedI :
    urlize "İ" = "i\u0307" ∧
      ¬ (∀ c ∈ (urlize "İ").toList, isAlphanumeric c = true ∨ c ∈ ['-', '_', '.', '~']) ∧
      urlize (urlize "İ") = "i" := by
  have hslug : urlize "İ" = "i\u0307" := by decide +kernel
  refine ⟨hslug, fun h => forall_mem_urlize_iff.1 h (by decide), ?_⟩
  rw [hslug]
  decide +kernel

end UrlRouter
