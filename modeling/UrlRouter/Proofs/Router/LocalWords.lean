import UrlRouter.Proofs.Route.Captures
import UrlRouter.Proofs.Route.Generated

/-!
Words of locales in paths. A pattern matches all words of a key, and the key itself when it has
none; a path takes the word of one locale, and the key when that locale has none. The two agree
unless the key has words in other locales only.
-/

namespace UrlRouter

open Regex

namespace Translations

def Covers (t : Translations) (key locale : String) : Prop :=
  (t.translate? key locale).isSome = true ∨ key ∈ t.words key

theorem mem_words_of_translate? {t : Translations} {key locale w : String}
    (h : t.translate? key locale = some w) : w ∈ t.words key := by
  obtain ⟨ws, hws, hw⟩ := Option.bind_eq_some_iff.1 h
  have hmem := Dict.get?_eq_some_iff.1 hw
  have hne : ws.isEmpty = false := by
    rw [Dict.isEmpty, List.isEmpty_eq_false_iff]
    exact List.ne_nil_of_mem hmem
  rw [words, hws]
  dsimp only
  rw [hne, if_neg Bool.false_ne_true]
  exact List.mem_map_of_mem hmem

theorem getD_translate?_mem_words_iff {t : Translations} {key locale : String} :
    (t.translate? key locale).getD key ∈ t.words key ↔ t.Covers key locale := by
  rw [Covers]
  cases h : t.translate? key locale with
  | none => simp
  | some w => simpa using mem_words_of_translate? h

end Translations

namespace Token

def alternatives (locales : Locales) (t : Token) : List String :=
  match t.kind with
  | .locale => locales.available
  | _ => distinctWords locales.translations t.keys

def localWord (d : PathData) (t : Token) : String :=
  match t.kind, t.keys with
  | .translated, [key] => (d.translations.translate? key d.locale).getD key
  | _, _ => d.locale

structure Agrees (locales : Locales) (d : PathData) (t : Token) : Prop where
  text : t.text d = .ok (t.lead ++ (t.localWord d).toList)
  source : t.source locales =
    .ok (t.lead ++ group t.name (alternation (t.alternatives locales)))
  mem : t.localWord d ∈ t.alternatives locales

variable {locales : Locales} {d : PathData} {t : Token}

theorem agrees_of_locale (hkind : t.kind = .locale) (h : d.locale ∈ locales.available) :
    t.Agrees locales d := by
  have hword : t.localWord d = d.locale := by rw [localWord, hkind]
  have halternatives : t.alternatives locales = locales.available := by rw [alternatives, hkind]
  refine ⟨?_, ?_, ?_⟩
  · rw [hword, Token.text, hkind]
  · rw [halternatives, Token.source, hkind]
    exact if_neg (List.ne_nil_of_mem h)
  · rw [hword, halternatives]
    exact h

theorem agrees_iff_of_translated {key : String} (hkind : t.kind = .translated)
    (hkeys : t.keys = [key]) (hd : d.translations = locales.translations) :
    t.Agrees locales d ↔ locales.translations.Covers key d.locale := by
  have hword : t.localWord d = (locales.translations.translate? key d.locale).getD key := by
    rw [localWord, hkind, hkeys, hd]
  have halternatives : t.alternatives locales = distinctWords locales.translations [key] := by
    rw [alternatives, hkind, hkeys]
  have hmem : t.localWord d ∈ t.alternatives locales ↔
      locales.translations.Covers key d.locale := by
    rw [hword, halternatives, mem_distinctWords, ← Translations.getD_translate?_mem_words_iff]
    simp
  rw [← hmem]
  refine ⟨Agrees.mem, fun h => ⟨?_, ?_, h⟩⟩
  · rw [hword, Token.text, hkind, hkeys, hd]
  · rw [halternatives, Token.source, hkind, hkeys]

theorem reading_of_agrees (hkind : t.kind = .locale ∨ t.kind = .translated)
    (h : t.Agrees locales d) (b a : List Char) :
    t.reading locales b (t.lead ++ (t.localWord d).toList) a
      (t.captureName?.map fun n => (String.ofList n, (t.localWord d).toList)).toList := by
  have hread : ((Reading.word t.lead).append (held t.name (word (t.alternatives locales)))) b
      (t.lead ++ (t.localWord d).toList) a
      (t.name.map fun n => (String.ofList n, (t.localWord d).toList)).toList := by
    have hmem : (t.localWord d).toList ∈ (t.alternatives locales).map String.toList :=
      List.mem_map_of_mem h.mem
    refine ⟨t.lead, _, [], _, rfl, (List.append_nil _).symm, ⟨rfl, rfl⟩, ?_⟩
    cases t.name with
    | none => exact ⟨hmem, rfl⟩
    | some n => exact ⟨[], rfl, hmem, rfl⟩
  rw [alternatives] at hread
  rcases hkind with hkind | hkind
  · rw [hkind] at hread
    rw [captureName?, reading, hkind]
    exact hread
  · rw [hkind] at hread
    rw [captureName?, reading, hkind]
    exact hread

end Token

structure Worded (ps : List Piece) : Prop where
  plain : ∀ p ∈ ps, p.Plain
  kind : ∀ t, .token t ∈ ps → t.kind = .locale ∨ t.kind = .translated ∧ ∃ key, t.keys = [key]

def Piece.localWord? (d : PathData) : Piece → Option (String × List Char)
  | .literal _ => none
  | .token t => t.captureName?.map fun n => (String.ofList n, (t.localWord d).toList)

section

variable {φ : Type} {locales : Locales} {route : Route φ} {ps : List Piece} {d : PathData}

theorem Route.CompiledFor.isSome_captures?_of_agrees (h : route.CompiledFor locales)
    (hsplit : split route.pattern.toList = .ok ps) (hps : Worded ps)
    (hagrees : ∀ t, .token t ∈ ps → t.Agrees locales d) :
    ∃ path, generatePath d route.pattern = .ok path ∧ (route.captures? path).isSome = true := by
  obtain ⟨out, hout⟩ : ∃ out, texts d ps = .ok out := by
    refine exists_texts_iff.2 fun p hp => ?_
    cases p with
    | literal text => exact ⟨text, rfl⟩
    | token t => exact ⟨_, (hagrees t hp).text⟩
  have hpath : (String.ofList out).toList = out := String.toList_ofList
  have hread : readingOf locales ps [] (String.ofList out).toList []
      (ps.filterMap (Piece.localWord? d)).reverse := by
    rw [hpath]
    refine readingOf_texts hout (fun p hp u hu b a => ?_) [] []
    cases p with
    | literal text =>
      cases hu
      exact ⟨rfl, rfl⟩
    | token t =>
      have ht := hagrees t hp
      cases ht.text.symm.trans hu
      exact t.reading_of_agrees ((hps.kind t hp).imp_right And.left) ht b a
  refine ⟨String.ofList out, (generatePath_eq_ok_iff hsplit).2 ?_, ?_⟩
  · rw [hpath]
    exact hout
  · exact h.isSome_captures? hsplit hps.plain hread

end

namespace Router

variable {φ : Type} {r : Router φ}

theorem agrees_iff_covers (hr : r.Reachable) {route : Route φ} (hroute : route ∈ r.routes)
    {name : String} (hname : route.name = .named name) {ps : List Piece}
    (hsplit : split route.pattern.toList = .ok ps) (hps : Worded ps) {locale : String}
    (hlocale : locale ∈ r.locales.available) (data : Args) :
    ((∀ t, .token t ∈ ps →
        t.Agrees r.locales ⟨r.locales.translations, data, locale, route.urlize⟩) ∧
      ∃ path,
        generatePath ⟨r.locales.translations, data, locale, route.urlize⟩ route.pattern = .ok path ∧
        (∀ link, r.urlFor name data locale = .ok link → link.path = path) ∧
        (route.captures? path).isSome = true) ↔
    ∀ t, .token t ∈ ps → t.kind = .translated → ∀ key ∈ t.keys,
      r.locales.translations.Covers key locale := by
  have htabled := hr.tabled
  have hcompiled := htabled.compiled route hroute
  constructor
  · rintro ⟨hagrees, _⟩ t ht hkind key hkey
    rcases hps.kind t ht with hlocale | ⟨_, key', hkeys⟩
    · rw [hkind] at hlocale
      cases hlocale
    · rw [hkeys, List.mem_singleton] at hkey
      rw [hkey]
      exact (Token.agrees_iff_of_translated hkind hkeys rfl).1 (hagrees t ht)
  · intro hcovers
    have hagrees : ∀ t, .token t ∈ ps →
        t.Agrees r.locales ⟨r.locales.translations, data, locale, route.urlize⟩ := by
      intro t ht
      rcases hps.kind t ht with hkind | ⟨hkind, key, hkeys⟩
      · exact Token.agrees_of_locale hkind hlocale
      · have hcovered := hcovers t ht hkind key (by rw [hkeys]; exact List.mem_singleton_self key)
        exact (Token.agrees_iff_of_translated hkind hkeys rfl).2 hcovered
    obtain ⟨path, hpath, hcaps⟩ := hcompiled.isSome_captures?_of_agrees hsplit hps hagrees
    refine ⟨hagrees, path, hpath, fun link hlink => ?_, hcaps⟩
    have hlinkPath := generatePath_of_urlFor (htabled.route?_eq hroute hname) hlink
    exact Except.ok.inj (hlinkPath.symm.trans hpath)

theorem agrees_iff_covers_untranslated :
    ∃ (r : Router Unit) (route : Route Unit) (ps : List Piece),
      r.Reachable ∧ route ∈ r.routes ∧ route.name = .named "about" ∧
      route.pattern =
        "/\x7b\x7bL:<lang>\x7d\x7d/\x7b\x7bT:about\x7d\x7d-\x7b\x7bT:us\x7d\x7d" ∧
      split route.pattern.toList = .ok ps ∧ Worded ps ∧ "fr" ∈ r.locales.available ∧
      r.locales.translations.Covers "about" "fr" ∧ r.locales.translations.Covers "us" "fr" ∧
      (route.captures? "/fr/apropos-us").isSome = true := by
  obtain ⟨r, route, hreachable, hlocales, hroutes, hname, hpattern, hurlize, _⟩ :=
    exists_reachable_single ⟨["en", "fr"], Translations.empty.insert "about" "fr" "apropos"⟩ "about"
      "/\x7b\x7bL:<lang>\x7d\x7d/\x7b\x7bT:about\x7d\x7d-\x7b\x7bT:us\x7d\x7d"
      (by decide +kernel)
  have hmem : route ∈ r.routes := hroutes ▸ List.mem_cons_self
  have hsplit : split route.pattern.toList =
      .ok [.literal ['/'], .token ⟨.locale, [], some "lang".toList, []⟩, .literal ['/'],
        .token ⟨.translated, [], none, "about".toList⟩, .literal ['-'],
        .token ⟨.translated, [], none, "us".toList⟩] := by
    rw [hpattern]
    exact Except.eq_ok_of_toOption (by decide +kernel)
  have hkeys : Token.keys ⟨.translated, [], none, "about".toList⟩ = ["about"] ∧
      Token.keys ⟨.translated, [], none, "us".toList⟩ = ["us"] := by decide +kernel
  have hps : Worded [.literal ['/'], .token ⟨.locale, [], some "lang".toList, []⟩, .literal ['/'],
      .token ⟨.translated, [], none, "about".toList⟩, .literal ['-'],
      .token ⟨.translated, [], none, "us".toList⟩] := by
    refine ⟨by decide, fun t ht => ?_⟩
    simp only [List.mem_cons, Piece.token.injEq, reduceCtorEq, false_or, List.not_mem_nil,
      or_false] at ht
    rcases ht with rfl | rfl | rfl
    · exact .inl rfl
    · exact .inr ⟨rfl, "about", hkeys.1⟩
    · exact .inr ⟨rfl, "us", hkeys.2⟩
  have hlocale : "fr" ∈ r.locales.available := by simp [hlocales]
  have habout : r.locales.translations.Covers "about" "fr" := by
    rw [hlocales]
    exact .inl (by decide +kernel)
  have hus : r.locales.translations.Covers "us" "fr" := by
    rw [hlocales]
    exact .inr (by decide +kernel)
  obtain ⟨_, path, hpath, _, hcaps⟩ :=
    (agrees_iff_covers hreachable hmem hname hsplit hps hlocale .empty).2 (by
      intro t ht hkind key hkey
      simp only [List.mem_cons, Piece.token.injEq, reduceCtorEq, false_or, List.not_mem_nil,
        or_false] at ht
      rcases ht with rfl | rfl | rfl
      · cases hkind
      · rw [hkeys.1, List.mem_singleton] at hkey
        rw [hkey]
        exact habout
      · rw [hkeys.2, List.mem_singleton] at hkey
        rw [hkey]
        exact hus)
  have hgenerated : generatePath ⟨r.locales.translations, .empty, "fr", route.urlize⟩ route.pattern =
      .ok "/fr/apropos-us" := by
    rw [hlocales, hpattern, hurlize]
    exact Except.eq_ok_of_toOption (by decide +kernel)
  cases hpath.symm.trans hgenerated
  exact ⟨r, route, _, hreachable, hmem, hname, hpattern, hsplit, hps, hlocale, habout, hus, hcaps⟩

/-- A key with a word in another locale only stands for itself in the path, but the route does not
match it. -/
theorem left_untranslated_not_matched :
    ∃ (r : Router Unit) (route : Route Unit) (link : Link),
      r.Reachable ∧ route ∈ r.routes ∧ route.name = .named "about" ∧
      split route.pattern.toList =
        .ok [.literal ['/'], .token ⟨.translated, [], none, "about".toList⟩] ∧
      Worded [.literal ['/'], .token ⟨.translated, [], none, "about".toList⟩] ∧
      "en" ∈ r.locales.available ∧ r.locales.translations.translate? "about" "fr" = some "apropos" ∧
      r.urlFor "about" .empty "en" = .ok link ∧ link.path = "/about" ∧
      route.captures? link.path = none := by
  obtain ⟨r, route, hreachable, hlocales, hroutes, hname, hpattern, hurlize, _, hinputs⟩ :=
    exists_reachable_single ⟨["en", "fr"], Translations.empty.insert "about" "fr" "apropos"⟩ "about"
      "/\x7b\x7bT:about\x7d\x7d" (by decide +kernel)
  have hmem : route ∈ r.routes := hroutes ▸ List.mem_cons_self
  have hsplit : split route.pattern.toList =
      .ok [.literal ['/'], .token ⟨.translated, [], none, "about".toList⟩] := by
    rw [hpattern]
    exact Except.eq_ok_of_toOption (by decide +kernel)
  have hps : Worded [.literal ['/'], .token ⟨.translated, [], none, "about".toList⟩] := by
    refine ⟨by decide, fun t ht => ?_⟩
    obtain rfl : t = ⟨.translated, [], none, "about".toList⟩ := by simpa using ht
    exact .inr ⟨rfl, "about", by decide +kernel⟩
  have hpath : generatePath ⟨r.locales.translations, .empty, "en", route.urlize⟩ route.pattern =
      .ok "/about" := by
    rw [hlocales, hpattern, hurlize]
    exact Except.eq_ok_of_toOption (by decide +kernel)
  have hlink := urlFor_of_generatePath (hreachable.tabled.route?_eq hmem hname) hinputs hpath
  have hnone : route.captures? "/about" = none := by
    cases hgot : route.captures? "/about" with
    | none => rfl
    | some got =>
      have hcompiled := hreachable.tabled.compiled route hmem
      obtain ⟨caps, hread, _⟩ := hcompiled.reading_of_captures? hsplit hps.plain hgot
      simp only [readingOf, Piece.reading, Token.reading, Reading.append_nil] at hread
      obtain ⟨_, _, _, _, hw, _, ⟨rfl, rfl⟩, _, x, _, _, rfl, _, ⟨rfl, rfl⟩, hx, _⟩ := hread
      rw [hlocales] at hx
      have hwords : distinctWords (Translations.empty.insert "about" "fr" "apropos")
        (Token.keys ⟨.translated, [], none, "about".toList⟩) = ["apropos"] := by decide +kernel
      rw [hwords] at hx
      obtain rfl : x = "apropos".toList := by simpa using hx
      exact absurd hw (by decide)
  refine ⟨r, route, _, hreachable, hmem, hname, hsplit, hps, by simp [hlocales], ?_, hlink, rfl,
    hnone⟩
  rw [hlocales]
  decide +kernel

end Router

end UrlRouter
