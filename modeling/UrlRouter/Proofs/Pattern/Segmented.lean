import UrlRouter.Proofs.Pattern.Reading

/-!
Patterns with one value to a path segment. They read a word in one way only: a value ends where its
segment ends, and whether the optional one is there shows in the number of slashes.
-/

namespace UrlRouter

open Regex

namespace Piece

def front : Piece → List Char
  | .literal text => text
  | .token t => t.lead

def isOptional : Piece → Bool
  | .literal _ => false
  | .token t => t.kind == .optional

end Piece

def AtSlash (ps : List Piece) : Prop := ∀ p ∈ ps.head?, p.front.head? = some '/'

def Separated : List Piece → Prop
  | [] => True
  | .literal _ :: ps => Separated ps
  | .token _ :: ps => AtSlash ps ∧ Separated ps

structure Segmented (ps : List Piece) : Prop where
  plain : ∀ p ∈ ps, p.Plain
  kind : ∀ t, .token t ∈ ps → t.kind = .capture ∨ t.kind = .optional
  separated : Separated ps
  slash : ∀ t, .token t ∈ ps → t.kind = .optional → t.lead.head? = some '/'
  once : ps.countP Piece.isOptional ≤ 1

namespace Segmented

variable {p : Piece} {t : Token} {ps : List Piece}

theorem tail (h : Segmented (p :: ps)) : Segmented ps where
  plain q hq := h.plain q (List.mem_cons_of_mem p hq)
  kind t ht := h.kind t (List.mem_cons_of_mem p ht)
  separated := by
    have hseparated := h.separated
    cases p with
    | literal text => exact hseparated
    | token t => exact hseparated.2
  slash t ht := h.slash t (List.mem_cons_of_mem p ht)
  once := Nat.le_trans (List.sublist_cons_self p ps).countP_le h.once

theorem kind_of_optional (h : Segmented (.token t :: ps)) (hkind : t.kind = .optional) :
    ∀ t', .token t' ∈ ps → t'.kind = .capture := by
  have honce := h.once
  have hfirst : (Piece.token t).isOptional = true := by rw [Piece.isOptional, hkind]; rfl
  rw [List.countP_cons_of_pos hfirst] at honce
  have hnone : ps.countP Piece.isOptional = 0 := by omega
  rw [List.countP_eq_zero] at hnone
  intro t' ht'
  refine (h.tail.kind t' ht').resolve_right fun hoptional => hnone _ ht' ?_
  rw [Piece.isOptional, hoptional]
  rfl

end Segmented

def valueThen (lead name : List Char) (m : Reading) : Reading := fun b w a caps =>
  ∃ seg v e, w = lead ++ (seg ++ v) ∧ (seg ≠ [] ∧ '/' ∉ seg) ∧
    caps = e ++ [(String.ofList name, seg)] ∧ m ((lead ++ seg).reverse ++ b) v a e

theorem append_held_segment (lead name : List Char) (m : Reading) :
    ((Reading.word lead).append (Token.held (some name) .segment)).append m =
      valueThen lead name m := by
  refine Reading.ext fun b w a caps => ?_
  constructor
  · rintro ⟨_, v, _, e, rfl, rfl, ⟨_, seg, _, d, rfl, rfl, ⟨rfl, rfl⟩, hseg⟩, hv⟩
    obtain ⟨_, rfl, hne, hslash, rfl⟩ := hseg
    exact ⟨seg, v, e, List.append_assoc .., ⟨hne, hslash⟩, rfl, hv⟩
  · rintro ⟨seg, v, e, rfl, ⟨hne, hslash⟩, rfl, hv⟩
    refine ⟨lead ++ seg, v, _, e, (List.append_assoc ..).symm, rfl, ?_, hv⟩
    exact ⟨lead, seg, [], _, rfl, rfl, ⟨rfl, rfl⟩, [], rfl, hne, hslash, rfl⟩

section

variable {locales : Locales} {t : Token} {ps : List Piece} {b w a b' w' a' : List Char}
  {caps caps' : Captures}

theorem readingOf_literal_cons {text : List Char} :
    readingOf locales (.literal text :: ps) b w a caps ↔
      ∃ v, w = text ++ v ∧ readingOf locales ps (text.reverse ++ b) v a caps := by
  constructor
  · rintro ⟨_, v, _, e, rfl, rfl, ⟨rfl, rfl⟩, hv⟩
    rw [List.append_nil]
    exact ⟨v, rfl, hv⟩
  · rintro ⟨v, rfl, hv⟩
    exact ⟨text, v, [], caps, rfl, (List.append_nil _).symm, ⟨rfl, rfl⟩, hv⟩

theorem readingOf_capture_cons {name : List Char} (hkind : t.kind = .capture)
    (hname : t.name = some name) :
    readingOf locales (.token t :: ps) = valueThen t.lead name (readingOf locales ps) := by
  rw [readingOf, Piece.reading, Token.reading, hkind, hname]
  exact append_held_segment ..

theorem readingOf_optional_cons {name : List Char} (hkind : t.kind = .optional)
    (hname : t.name = some name) :
    readingOf locales (.token t :: ps) =
      (readingOf locales ps).either (valueThen t.lead name (readingOf locales ps)) := by
  rw [readingOf, Piece.reading, Token.reading, hkind, hname, ← append_held_segment]
  dsimp only
  rw [Reading.either_append, Reading.nil_append]

theorem head_append_of_head {u v : List Char} (h : u.head? = some '/') :
    ∀ c ∈ (u ++ v).head?, c = '/' := by
  rw [List.head?_append, h]
  simp

theorem head_of_readingOf (h : Segmented ps) (hnamed : ∀ t, .token t ∈ ps → t.Named)
    (hslash : AtSlash ps) (hw : readingOf locales ps b w a caps) : ∀ c ∈ w.head?, c = '/' := by
  induction ps generalizing b w caps with
  | nil =>
    obtain ⟨rfl, _⟩ := hw
    simp
  | cons p ps ih =>
    have hfront : p.front.head? = some '/' := hslash p rfl
    cases p with
    | literal text =>
      obtain ⟨v, rfl, _⟩ := readingOf_literal_cons.1 hw
      exact head_append_of_head hfront
    | token t =>
      have ht := hnamed t List.mem_cons_self
      rcases h.kind t List.mem_cons_self with hkind | hkind
      · obtain ⟨name, hname⟩ := ht.exists_name (by rw [hkind]; rfl)
        rw [readingOf_capture_cons hkind hname] at hw
        obtain ⟨seg, v, e, rfl, _⟩ := hw
        exact head_append_of_head hfront
      · obtain ⟨name, hname⟩ := ht.exists_name (by rw [hkind]; rfl)
        rw [readingOf_optional_cons hkind hname] at hw
        rcases hw with hw | ⟨seg, v, e, rfl, _⟩
        · exact ih h.tail (fun t ht => hnamed t (List.mem_cons_of_mem _ ht)) h.separated.1 hw
        · exact head_append_of_head hfront

theorem count_of_readingOf (hkind : ∀ t, .token t ∈ ps → t.kind = .capture)
    (hnamed : ∀ t, .token t ∈ ps → t.Named) (hw : readingOf locales ps b w a caps)
    (hw' : readingOf locales ps b' w' a' caps') : w.count '/' = w'.count '/' := by
  induction ps generalizing b w caps b' w' caps' with
  | nil =>
    obtain ⟨rfl, _⟩ := hw
    obtain ⟨rfl, _⟩ := hw'
    rfl
  | cons p ps ih =>
    have hrest {b w b' w' caps caps'} (hv : readingOf locales ps b w a caps)
        (hv' : readingOf locales ps b' w' a' caps') : w.count '/' = w'.count '/' :=
      ih (fun t ht => hkind t (List.mem_cons_of_mem p ht))
        (fun t ht => hnamed t (List.mem_cons_of_mem p ht)) hv hv'
    cases p with
    | literal text =>
      obtain ⟨v, rfl, hv⟩ := readingOf_literal_cons.1 hw
      obtain ⟨v', rfl, hv'⟩ := readingOf_literal_cons.1 hw'
      rw [List.count_append, List.count_append, hrest hv hv']
    | token t =>
      have hk := hkind t List.mem_cons_self
      obtain ⟨name, hname⟩ := (hnamed t List.mem_cons_self).exists_name (by rw [hk]; rfl)
      rw [readingOf_capture_cons hk hname] at hw hw'
      obtain ⟨seg, v, e, rfl, ⟨_, hseg⟩, _, hv⟩ := hw
      obtain ⟨seg', v', e', rfl, ⟨_, hseg'⟩, _, hv'⟩ := hw'
      simp only [List.count_append, List.count_eq_zero.2 hseg, List.count_eq_zero.2 hseg']
      rw [hrest hv hv']

theorem takeWhile_ne_append {c : Char} {u v : List Char} (hu : c ∉ u) (hv : ∀ x ∈ v.head?, x = c) :
    (u ++ v).takeWhile (· ≠ c) = u := by
  rw [List.takeWhile_append_of_pos fun x hx => by simpa using ne_of_mem_of_not_mem hx hu]
  cases v with
  | nil => simp
  | cons x v => simp [hv x rfl]

theorem segment_unique {u v u' v' : List Char} (h : u ++ v = u' ++ v') (hu : '/' ∉ u)
    (hu' : '/' ∉ u') (hv : ∀ c ∈ v.head?, c = '/') (hv' : ∀ c ∈ v'.head?, c = '/') :
    u = u' ∧ v = v' := by
  have heq : u = u' := by
    rw [← takeWhile_ne_append hu hv, h, takeWhile_ne_append hu' hv']
  subst heq
  exact ⟨rfl, List.append_cancel_left h⟩

theorem valueThen_unique {lead name : List Char} {m : Reading}
    (hhead : ∀ {b w a caps}, m b w a caps → ∀ c ∈ w.head?, c = '/')
    (hm : ∀ {b b' w a a' caps caps'}, m b w a caps → m b' w a' caps' → caps = caps')
    (hw : valueThen lead name m b w a caps) (hw' : valueThen lead name m b' w a' caps') :
    caps = caps' := by
  obtain ⟨seg, v, e, rfl, ⟨_, hseg⟩, rfl, hv⟩ := hw
  obtain ⟨seg', v', e', heq, ⟨_, hseg'⟩, rfl, hv'⟩ := hw'
  obtain ⟨rfl, rfl⟩ :=
    segment_unique (List.append_cancel_left heq) hseg hseg' (hhead hv) (hhead hv')
  rw [hm hv hv']

theorem not_reading_of_valueThen {lead name : List Char} (hlead : lead.head? = some '/')
    (hkind : ∀ t, .token t ∈ ps → t.kind = .capture) (hnamed : ∀ t, .token t ∈ ps → t.Named)
    (hw : valueThen lead name (readingOf locales ps) b w a caps) :
    ¬ readingOf locales ps b' w a' caps' := by
  intro hw'
  obtain ⟨seg, v, e, rfl, _, _, hv⟩ := hw
  have hcount := count_of_readingOf hkind hnamed hw' hv
  have hpos : 0 < lead.count '/' := List.count_pos_iff.2 (List.mem_of_mem_head? hlead)
  rw [List.count_append, List.count_append] at hcount
  omega

theorem captures_unique (h : Segmented ps) (hnamed : ∀ t, .token t ∈ ps → t.Named)
    (hw : readingOf locales ps b w a caps) (hw' : readingOf locales ps b' w a' caps') :
    caps = caps' := by
  induction ps generalizing b w a caps b' a' caps' with
  | nil =>
    obtain ⟨_, rfl⟩ := hw
    obtain ⟨_, rfl⟩ := hw'
    rfl
  | cons p ps ih =>
    have hnamed' : ∀ t, .token t ∈ ps → t.Named := fun t ht => hnamed t (List.mem_cons_of_mem p ht)
    have hrest {b b' w a a' caps caps'} (hv : readingOf locales ps b w a caps)
        (hv' : readingOf locales ps b' w a' caps') : caps = caps' := ih h.tail hnamed' hv hv'
    cases p with
    | literal text =>
      obtain ⟨v, rfl, hv⟩ := readingOf_literal_cons.1 hw
      obtain ⟨v', heq, hv'⟩ := readingOf_literal_cons.1 hw'
      cases List.append_cancel_left heq
      exact hrest hv hv'
    | token t =>
      have hhead {b w a caps} (hv : readingOf locales ps b w a caps) :
          ∀ c ∈ w.head?, c = '/' := head_of_readingOf h.tail hnamed' h.separated.1 hv
      have ht := hnamed t List.mem_cons_self
      rcases h.kind t List.mem_cons_self with hkind | hkind
      · obtain ⟨name, hname⟩ := ht.exists_name (by rw [hkind]; rfl)
        rw [readingOf_capture_cons hkind hname] at hw hw'
        exact valueThen_unique hhead hrest hw hw'
      · obtain ⟨name, hname⟩ := ht.exists_name (by rw [hkind]; rfl)
        have hcaptures := h.kind_of_optional hkind
        have hlead := h.slash t List.mem_cons_self hkind
        rw [readingOf_optional_cons hkind hname] at hw hw'
        -- The value is there in both words or in neither, as they have the same slashes.
        rcases hw with hw | hw <;> rcases hw' with hw' | hw'
        · exact hrest hw hw'
        · exact absurd hw (not_reading_of_valueThen hlead hcaptures hnamed' hw')
        · exact absurd hw' (not_reading_of_valueThen hlead hcaptures hnamed' hw)
        · exact valueThen_unique hhead hrest hw hw'

end

end UrlRouter
