import UrlRouter.Proofs.Registration.Table
import UrlRouter.Proofs.Route.Captures

namespace UrlRouter

open Regex

namespace Token

def StandsFor (locales : Locales) (t : Token) (w : String) : Prop :=
  match t.kind with
  | .translated => ∃ key ∈ t.keys, w ∈ locales.translations.words key
  | .locale => w ∈ locales.available
  | _ => False

variable {locales : Locales} {t : Token} {name b w a : List Char} {caps : Captures}

theorem reading_eq_named (hkind : t.kind = .translated ∨ t.kind = .locale) (hlead : t.lead = [])
    (hname : t.name = some name) :
    ∃ words, t.reading locales = (word words).named (String.ofList name) ∧
      ∀ w, w ∈ words ↔ t.StandsFor locales w := by
  have hfront : Reading.word t.lead = .nil := by rw [hlead]; rfl
  rcases hkind with hkind | hkind
  · refine ⟨distinctWords locales.translations t.keys, ?_, fun w => ?_⟩
    · rw [reading, hkind, hname, hfront]
      exact Reading.nil_append _
    · rw [mem_distinctWords, StandsFor, hkind]
  · refine ⟨locales.available, ?_, fun w => ?_⟩
    · rw [reading, hkind, hname, hfront]
      exact Reading.nil_append _
    · rw [StandsFor, hkind]

theorem reading_iff_standsFor (hkind : t.kind = .translated ∨ t.kind = .locale)
    (hlead : t.lead = []) (hname : t.name = some name) :
    t.reading locales b w a caps ↔
      t.StandsFor locales (String.ofList w) ∧ caps = [(String.ofList name, w)] := by
  obtain ⟨words, hreading, hwords⟩ := @reading_eq_named locales t name hkind hlead hname
  have hmem : w ∈ words.map String.toList ↔ t.StandsFor locales (String.ofList w) := by
    rw [← hwords, List.mem_map]
    constructor
    · rintro ⟨word, hword, rfl⟩
      rwa [String.ofList_toList]
    · intro hword
      exact ⟨_, hword, String.toList_ofList⟩
  rw [hreading, ← hmem]
  constructor
  · rintro ⟨_, rfl, hw, rfl⟩
    exact ⟨hw, rfl⟩
  · rintro ⟨hw, rfl⟩
    exact ⟨[], rfl, hw, rfl⟩

end Token

theorem readingOf_literalPieces (locales : Locales) (text : List Char) (ps : List Piece) :
    readingOf locales (literalPieces text ++ ps) =
      (Reading.word text).append (readingOf locales ps) := by
  rw [literalPieces]
  split
  · next hempty =>
    rw [hempty]
    exact (Reading.nil_append _).symm
  · rfl

theorem readingOf_between {locales : Locales} {before after w : List Char} {t : Token}
    {caps : Captures} :
    readingOf locales (literalPieces before ++ .token t :: literalPieces after) [] w [] caps ↔
      ∃ v, w = before ++ v ++ after ∧ t.reading locales before.reverse v after caps := by
  have ht : (Piece.token t).reading locales = t.reading locales := rfl
  have hafter : readingOf locales (literalPieces after) = .word after := by
    have hpieces := readingOf_literalPieces locales after []
    rwa [List.append_nil, readingOf, Reading.append_nil] at hpieces
  rw [readingOf_literalPieces, readingOf, hafter, ht]
  constructor
  · rintro ⟨_, _, _, _, rfl, rfl, ⟨rfl, rfl⟩, v, _, d, _, rfl, rfl, hv, rfl, rfl⟩
    exact ⟨v, (List.append_assoc ..).symm, by simpa using hv⟩
  · rintro ⟨v, rfl, hv⟩
    refine ⟨before, v ++ after, [], caps, List.append_assoc .., (List.append_nil _).symm,
      ⟨rfl, rfl⟩, v, after, caps, [], rfl, rfl, ?_, rfl, rfl⟩
    simpa using hv

structure WordBetween (pattern : String) (before : List Char) (t : Token) (name after : List Char) :
    Prop where
  pieces : split pattern.toList = .ok (literalPieces before ++ .token t :: literalPieces after)
  bareBefore : ∀ c ∈ before, isBare c = true
  bareAfter : ∀ c ∈ after, isBare c = true
  kind : t.kind = .translated ∨ t.kind = .locale
  lead : t.lead = []
  name : t.name = some name

theorem plain_of_mem_literalPieces {text : List Char} (h : ∀ c ∈ text, isBare c = true) {p : Piece}
    (hp : p ∈ literalPieces text) : p.Plain := by
  rw [literalPieces] at hp
  split at hp
  · cases hp
  · rw [List.mem_singleton.1 hp]
    exact h

theorem WordBetween.plain {pattern : String} {before name after : List Char} {t : Token}
    (h : WordBetween pattern before t name after) :
    ∀ p ∈ literalPieces before ++ .token t :: literalPieces after, p.Plain := by
  have ht : t.Plain := by
    refine ⟨by simp [h.lead], fun hneeds => ?_⟩
    rcases h.kind with hkind | hkind <;> simp [hkind, Kind.needsName] at hneeds
  intro p hp
  rcases List.mem_append.1 hp with hp | hp
  · exact plain_of_mem_literalPieces h.bareBefore hp
  · rcases List.mem_cons.1 hp with rfl | hp
    · exact ht
    · exact plain_of_mem_literalPieces h.bareAfter hp

namespace Router

variable {φ : Type} {r : Router φ}

theorem captures?_word_iff (hr : r.Reachable) {route : Route φ} (hroute : route ∈ r.stored)
    {before name after : List Char} {t : Token}
    (hpattern : WordBetween route.pattern before t name after) (path : String)
    (captures : List (String × String)) :
    route.captures? path = some captures ↔
      ∃ w, t.StandsFor r.locales w ∧ path.toList = before ++ w.toList ++ after ∧
        captures = [(String.ofList name, w)] := by
  have hcompiled := (hr.filed.prepared route hroute).1
  have hreading := @Token.reading_iff_standsFor r.locales t name
  constructor
  · intro hcaptures
    obtain ⟨caps, hread, rfl⟩ :=
      hcompiled.reading_of_captures? hpattern.pieces hpattern.plain hcaptures
    obtain ⟨v, hpath, hv⟩ := readingOf_between.1 hread
    obtain ⟨hstands, rfl⟩ := (hreading hpattern.kind hpattern.lead hpattern.name).1 hv
    exact ⟨String.ofList v, hstands, by rw [String.toList_ofList, hpath], rfl⟩
  · rintro ⟨w, hstands, hpath, rfl⟩
    have hread : readingOf r.locales (literalPieces before ++ .token t :: literalPieces after) []
        path.toList [] [(String.ofList name, w.toList)] := by
      refine readingOf_between.2 ⟨w.toList, hpath, ?_⟩
      refine (hreading hpattern.kind hpattern.lead hpattern.name).2 ⟨?_, rfl⟩
      rwa [String.ofList_toList]
    obtain ⟨got, hgot⟩ := Option.isSome_iff_exists.1
      (hcompiled.isSome_captures? hpattern.pieces hpattern.plain hread)
    -- What is found need not be this reading, but between fixed texts there is one word only.
    obtain ⟨caps, hcaps, rfl⟩ := hcompiled.reading_of_captures? hpattern.pieces hpattern.plain hgot
    obtain ⟨v, hsame, hv⟩ := readingOf_between.1 hcaps
    obtain ⟨_, rfl⟩ := (hreading hpattern.kind hpattern.lead hpattern.name).1 hv
    obtain rfl : v = w.toList :=
      List.append_cancel_left (List.append_cancel_right (hsame.symm.trans hpath))
    rw [hgot, List.reverse_singleton, List.map_singleton]
    simp only [String.ofList_toList]

theorem captures?_word_iff_dotted :
    ∃ (r : Router Unit) (route : Route Unit), r.Reachable ∧ route ∈ r.stored ∧
      route.pattern = "/\x7b\x7bT:<page>about|us\x7d\x7d/x" ∧
      r.locales.translations.words "about" = ["a.b", "", "a"] ∧
      (∀ w, route.captures? ("/" ++ w ++ "/x") = some [("page", w)] ↔ w ∈ ["a.b", "", "a", "us"]) ∧
      route.captures? "/azb/x" = none := by
  let table := ((Translations.empty.insert "about" "de" "a.b").insert "about" "en" "").insert
    "about" "fr" "a"
  obtain ⟨r, route, hr, hlocales, hroutes, _, hpattern, _⟩ :=
    exists_reachable_single ⟨["en"], table⟩ "page" "/\x7b\x7bT:<page>about|us\x7d\x7d/x"
      (by decide +kernel)
  have hmem : route ∈ r.stored := by simp [stored, hroutes]
  let t : Token := ⟨.translated, [], some "page".toList, "about|us".toList⟩
  have hbetween : WordBetween route.pattern ['/'] t "page".toList "/x".toList := by
    have hbare : ['/'].all isBare = true ∧ "/x".toList.all isBare = true := by decide
    refine ⟨?_, List.all_eq_true.1 hbare.1, List.all_eq_true.1 hbare.2, .inl rfl, rfl, rfl⟩
    rw [hpattern]
    exact Except.eq_ok_of_toOption (by decide +kernel)
  have hwords (w : String) : t.StandsFor r.locales w ↔ w ∈ ["a.b", "", "a", "us"] := by
    have hkeys : t.keys = ["about", "us"] := by decide +kernel
    have habout : table.words "about" = ["a.b", "", "a"] := by decide +kernel
    have hus : table.words "us" = ["us"] := by decide +kernel
    rw [hlocales]
    change (∃ key ∈ t.keys, w ∈ table.words key) ↔ _
    simp [hkeys, habout, hus, or_assoc]
  have hiff := captures?_word_iff hr hmem hbetween
  refine ⟨r, route, hr, hmem, hpattern, ?_, fun w => ?_, ?_⟩
  · rw [hlocales]
    decide +kernel
  · rw [hiff, ← hwords]
    constructor
    · rintro ⟨v, hv, _, heq⟩
      obtain rfl : w = v := by simpa using heq
      exact hv
    · intro hw
      exact ⟨w, hw, by simp, rfl⟩
  · rw [Option.eq_none_iff_forall_ne_some]
    intro captures hcaptures
    have hnone : ∀ w ∈ ["a.b", "", "a", "us"],
        "/azb/x".toList ≠ ['/'] ++ w.toList ++ "/x".toList := by decide +kernel
    obtain ⟨w, hw, hpath, _⟩ := (hiff "/azb/x" captures).1 hcaptures
    exact hnone w ((hwords w).1 hw) hpath

end Router

end UrlRouter
