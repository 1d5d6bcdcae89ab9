import UrlRouter.Proofs.Pattern.Reading
import UrlRouter.Router.Reverse

namespace UrlRouter

open Regex

variable {d : PathData} {ps : List Piece} {out : List Char}

theorem readingOf_texts {locales : Locales} {held : Piece → Option (String × List Char)}
    (h : texts d ps = .ok out)
    (hp : ∀ p ∈ ps, ∀ u, p.text d = .ok u → ∀ b a, p.reading locales b u a (held p).toList)
    (b a : List Char) : readingOf locales ps b out a (ps.filterMap held).reverse := by
  induction ps generalizing out b with
  | nil =>
    cases h
    exact ⟨rfl, rfl⟩
  | cons p ps ih =>
    obtain ⟨u, v, hu, hv, rfl⟩ := Except.flatten_mapM_cons_eq_ok_iff.1 h
    rw [List.forall_mem_cons] at hp
    refine ⟨u, v, (held p).toList, (ps.filterMap held).reverse, rfl, ?_, hp.1 u hu b _, ?_⟩
    · rw [List.filterMap_cons]
      cases held p <;> simp
    · exact ih hv hp.2 _

theorem not_mem_texts {c : Char} (h : texts d ps = .ok out)
    (hp : ∀ p ∈ ps, ∀ u, p.text d = .ok u → c ∉ u) : c ∉ out := by
  induction ps generalizing out with
  | nil =>
    cases h
    exact List.not_mem_nil
  | cons p ps ih =>
    obtain ⟨u, v, hu, hv, rfl⟩ := Except.flatten_mapM_cons_eq_ok_iff.1 h
    rw [List.forall_mem_cons] at hp
    rw [List.mem_append, not_or]
    exact ⟨hp.1 u hu, ih hv hp.2⟩

theorem exists_texts_iff : (∃ out, texts d ps = .ok out) ↔ ∀ p ∈ ps, ∃ u, p.text d = .ok u := by
  induction ps with
  | nil => exact ⟨fun _ => by simp, fun _ => ⟨[], rfl⟩⟩
  | cons p ps ih =>
    rw [List.forall_mem_cons, ← ih]
    constructor
    · rintro ⟨out, h⟩
      obtain ⟨u, v, hu, hv, _⟩ := Except.flatten_mapM_cons_eq_ok_iff.1 h
      exact ⟨⟨u, hu⟩, v, hv⟩
    · rintro ⟨⟨u, hu⟩, v, hv⟩
      exact ⟨u ++ v, Except.flatten_mapM_cons_eq_ok_iff.2 ⟨u, v, hu, hv, rfl⟩⟩

theorem generatePath_eq {pattern : String} (hsplit : split pattern.toList = .ok ps) :
    generatePath d pattern = (texts d ps).map String.ofList := by
  rw [generatePath, hsplit]
  change (texts d ps >>= fun out => pure (String.ofList out)) = _
  cases texts d ps <;> rfl

theorem generatePath_eq_ok_iff {pattern : String} (hsplit : split pattern.toList = .ok ps)
    {path : String} :
    generatePath d pattern = .ok path ↔ texts d ps = .ok path.toList := by
  rw [generatePath_eq hsplit, Except.map_eq_ok_iff]
  constructor
  · rintro ⟨out, hout, rfl⟩
    rw [String.toList_ofList]
    exact hout
  · intro h
    exact ⟨path.toList, h, String.ofList_toList⟩

theorem segment?_ne_nil {d : PathData} {name s : String} (h : d.segment? name = some s) :
    s.toList ≠ [] := by
  obtain ⟨_, hne⟩ := Option.filter_eq_some_iff.1 h
  simpa using hne

theorem Token.text_cases {t : Token} {name u : List Char}
    (hkind : t.kind = .capture ∨ t.kind = .optional) (hname : t.name = some name)
    (h : t.text d = .ok u) :
    (t.kind = .optional ∧ d.segment? (String.ofList name) = none ∧ u = []) ∨
      ∃ s, d.segment? (String.ofList name) = some s ∧ u = t.lead ++ s.toList := by
  have hget : t.nameString.getD "" = String.ofList name := by rw [nameString, hname]; rfl
  rw [text] at h
  rcases hkind with hkind | hkind
  · rw [hkind] at h
    dsimp only at h
    rw [hget] at h
    split at h
    · next s hs =>
      cases h
      exact .inr ⟨s, hs, rfl⟩
    · cases h
  · rw [hkind] at h
    dsimp only at h
    rw [hget] at h
    split at h
    · next s hs =>
      cases h
      exact .inr ⟨s, hs, rfl⟩
    · next hs =>
      cases h
      exact .inl ⟨hkind, hs, rfl⟩

theorem Router.generatePath_of_urlFor {φ : Type} {r : Router φ} {name : String}
    {data : Args} {locale : String} {link : Link} {route : Route φ}
    (hroute : r.route? name = some route) (h : r.urlFor name data locale = .ok link) :
    generatePath ⟨r.locales.translations, data, locale, route.urlize⟩ route.pattern =
      .ok link.path := by
  rw [urlFor, hroute] at h
  dsimp only at h
  split at h
  · cases h
  · cases h
  · next path hpath =>
    split at h
    · cases h
    · cases h
      exact hpath
    · cases h
      exact hpath

theorem Router.urlFor_of_generatePath {φ : Type} {r : Router φ} {name : String} {data : Args}
    {locale path : String} {route : Route φ} (hroute : r.route? name = some route)
    (hinputs : route.settings.inputs = [])
    (h : generatePath ⟨r.locales.translations, data, locale, route.urlize⟩ route.pattern =
      .ok path) : r.urlFor name data locale = .ok (.new path) := by
  rw [urlFor, hroute]
  dsimp only
  rw [h, hinputs]
  rfl

end UrlRouter
