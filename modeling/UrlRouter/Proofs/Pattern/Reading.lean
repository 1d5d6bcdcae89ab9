import UrlRouter.Pattern.Compile
import UrlRouter.Proofs.Except
import UrlRouter.Proofs.Pattern.Names
import UrlRouter.Proofs.Regex.Means

/-!
What patterns match. Where the texts between and in front of the values are bare and the values
have the default form, a pattern reads its pieces one after the other.
-/

namespace UrlRouter

open Regex

namespace Token

def held (name : Option (List Char)) (m : Reading) : Reading :=
  match name with
  | some n => m.named (String.ofList n)
  | none => m

def word (words : List String) : Reading := .anyWord (words.map String.toList)

def reading (locales : Locales) (t : Token) : Reading :=
  let front : Reading := .word t.lead
  match t.kind with
  | .capture => front.append (held t.name .segment)
  | .optional => Reading.nil.either (front.append (held t.name .segment))
  | .silent => front.append .segment
  | .translated =>
      front.append (held t.name (word (distinctWords locales.translations t.keys)))
  | .locale => front.append (held t.name (word locales.available))

def captureName? (t : Token) : Option (List Char) := if t.kind = .silent then none else t.name

structure Plain (t : Token) : Prop where
  lead : ∀ c ∈ t.lead, isBare c = true
  body : t.kind.needsName = true → t.body = []

instance (t : Token) : Decidable t.Plain :=
  decidable_of_iff (t.lead.all isBare = true ∧ (t.kind.needsName = true → t.body = []))
    ⟨fun h => ⟨List.all_eq_true.1 h.1, h.2⟩, fun h => ⟨List.all_eq_true.2 h.lead, h.body⟩⟩

end Token

namespace Piece

def reading (locales : Locales) : Piece → Reading
  | .literal text => .word text
  | .token t => t.reading locales

def captureName? : Piece → Option (List Char)
  | .literal _ => none
  | .token t => t.captureName?

def Plain : Piece → Prop
  | .literal text => ∀ c ∈ text, isBare c = true
  | .token t => t.Plain

instance : DecidablePred Plain
  | .literal text => decidable_of_iff (text.all isBare = true) List.all_eq_true
  | .token t => inferInstanceAs (Decidable t.Plain)

end Piece

def readingOf (locales : Locales) : List Piece → Reading
  | [] => .nil
  | p :: ps => (p.reading locales).append (readingOf locales ps)

theorem mem_foldl_distinct {x : String} (words seen : List String) :
    x ∈ words.foldl (fun ws w => if w ∈ ws then ws else ws ++ [w]) seen ↔ x ∈ seen ∨ x ∈ words := by
  induction words generalizing seen with
  | nil => simp
  | cons w words ih =>
    rw [List.foldl_cons, ih, List.mem_cons]
    split
    · next hw =>
      constructor
      · exact Or.imp_right .inr
      · rintro (hx | rfl | hx)
        · exact .inl hx
        · exact .inl hw
        · exact .inr hx
    · rw [List.mem_append, List.mem_singleton, or_assoc]

theorem mem_distinctWords {t : Translations} {keys : List String} {w : String} :
    w ∈ distinctWords t keys ↔ ∃ key ∈ keys, w ∈ t.words key := by
  rw [distinctWords, mem_foldl_distinct, List.mem_flatMap]
  simp

theorem distinctWords_ne_nil (t : Translations) {keys : List String} (h : keys ≠ []) :
    distinctWords t keys ≠ [] := by
  obtain ⟨key, hkey⟩ := List.exists_mem_of_ne_nil keys h
  obtain ⟨w, hw⟩ := List.exists_mem_of_ne_nil _ (t.words_ne_nil key)
  exact List.ne_nil_of_mem (mem_distinctWords.2 ⟨key, hkey, hw⟩)

namespace Token

theorem keys_ne_nil (t : Token) : t.keys ≠ [] := by
  rw [keys, ne_eq, List.map_eq_nil_iff]
  exact Text.pieces_ne_nil '|' t.body

theorem means_group {name : Option (List Char)} {body : List Char} {m : Reading}
    (hname : ∀ n ∈ name, isIdentifier n = true) (h : MeansBody body [] m) :
    Means (group name body) name.toList (held name m) := by
  cases name with
  | none => exact h.plain
  | some n =>
    have hid := hname n rfl
    exact h.named (isGroupName_of_isIdentifier hid) (not_mem_of_isIdentifier hid)

theorem meansBody_alternation {words : List String} (h : words ≠ []) :
    MeansBody (alternation words) [] (word words) := by
  have hwords : words.map (fun w => Regex.escape w.toList) =
      (words.map String.toList).map Regex.escape := (List.map_map).symm
  rw [alternation, hwords]
  exact .words (by simpa using h)

theorem means {locales : Locales} {t : Token} {src : List Char} (hplain : t.Plain)
    (hnamed : t.Named) (h : t.source locales = .ok src) :
    Means src t.captureName?.toList (t.reading locales) := by
  have hlead : Means t.lead [] (.word t.lead) := .text hplain.lead
  have hdefault : t.kind.needsName = true →
      (if t.body = [] then defaultBody else t.body) = ['[', '^', '/', ']', '+'] := by
    intro hneeds
    rw [if_pos (hplain.body hneeds)]
    rfl
  unfold source at h
  rw [captureName?, reading]
  cases hkind : t.kind with
  | capture =>
    rw [hkind] at h hdefault
    rw [hdefault rfl] at h
    cases h
    exact hlead.append (means_group hnamed.identifier Means.segment.body)
  | optional =>
    rw [hkind] at h hdefault
    rw [hdefault rfl] at h
    cases h
    exact (hlead.append (means_group hnamed.identifier Means.segment.body)).body.optional
  | silent =>
    rw [hkind] at h hdefault
    rw [hdefault rfl] at h
    cases h
    exact hlead.append Means.segment.body.plain
  | translated =>
    rw [hkind] at h
    cases h
    have hwords := distinctWords_ne_nil locales.translations t.keys_ne_nil
    exact hlead.append (means_group hnamed.identifier (meansBody_alternation hwords))
  | locale =>
    rw [hkind] at h
    dsimp only at h
    split at h
    · cases h
    · next hwords =>
      cases h
      exact hlead.append (means_group hnamed.identifier (meansBody_alternation hwords))

variable {locales : Locales} {b w a : List Char} {caps : Captures}

theorem captures_of_held {name : Option (List Char)} {m : Reading}
    (hm : ∀ {b w a caps}, m b w a caps → caps = []) (h : held name m b w a caps) :
    caps = name.toList.map fun n => (String.ofList n, w) := by
  cases name with
  | none => exact hm h
  | some n =>
    obtain ⟨d, rfl, hd⟩ := h
    rw [hm hd]
    rfl

theorem captures_of_lead {lead : List Char} {m : Reading}
    (h : (Reading.word lead).append m b w a caps) :
    ∃ v, w = lead ++ v ∧ m (lead.reverse ++ b) v a caps := by
  obtain ⟨_, v, _, e, rfl, rfl, ⟨rfl, rfl⟩, hv⟩ := h
  rw [List.append_nil]
  exact ⟨v, rfl, hv⟩

theorem captures_of_reading {t : Token} (h : t.reading locales b w a caps) :
    caps = [] ∨ ∃ text, caps = t.captureName?.toList.map fun n => (String.ofList n, text) := by
  have hsegment {b w a caps} (h : Reading.segment b w a caps) : caps = [] := h.2.2
  have hword {words b w a caps} (h : word words b w a caps) : caps = [] := h.2
  rw [captureName?]
  unfold reading at h
  cases hkind : t.kind with
  | capture =>
    rw [hkind] at h
    obtain ⟨v, _, hv⟩ := captures_of_lead h
    exact .inr ⟨v, captures_of_held hsegment hv⟩
  | optional =>
    rw [hkind] at h
    rcases h with ⟨_, rfl⟩ | h
    · exact .inl rfl
    · obtain ⟨v, _, hv⟩ := captures_of_lead h
      exact .inr ⟨v, captures_of_held hsegment hv⟩
  | silent =>
    rw [hkind] at h
    obtain ⟨v, _, hv⟩ := captures_of_lead h
    exact .inl (hsegment hv)
  | translated =>
    rw [hkind] at h
    obtain ⟨v, _, hv⟩ := captures_of_lead h
    exact .inr ⟨v, captures_of_held hword hv⟩
  | locale =>
    rw [hkind] at h
    obtain ⟨v, _, hv⟩ := captures_of_lead h
    exact .inr ⟨v, captures_of_held hword hv⟩

end Token

theorem Piece.means {locales : Locales} {p : Piece} {src : List Char} (hplain : p.Plain)
    (hnamed : ∀ t, p = .token t → t.Named) (h : p.source locales = .ok src) :
    Means src p.captureName?.toList (p.reading locales) := by
  cases p with
  | literal text =>
    cases h
    exact .text hplain
  | token t => exact Token.means hplain (hnamed t rfl) h

theorem means_readingOf {locales : Locales} {ps : List Piece} {src : List Char}
    (hplain : ∀ p ∈ ps, p.Plain) (hnamed : ∀ t, .token t ∈ ps → t.Named)
    (h : sources locales ps = .ok src) :
    Means src (ps.filterMap Piece.captureName?) (readingOf locales ps) := by
  induction ps generalizing src with
  | nil =>
    cases h
    exact .nil
  | cons p ps ih =>
    obtain ⟨u, v, hu, hv, rfl⟩ := Except.flatten_mapM_cons_eq_ok_iff.1 h
    rw [List.forall_mem_cons] at hplain
    have hfirst : Means u p.captureName?.toList (p.reading locales) :=
      p.means hplain.1 (fun t ht => hnamed t (by simp [ht])) hu
    have hrest := ih hplain.2 (fun t ht => hnamed t (List.mem_cons_of_mem p ht)) hv
    have hnames : (p :: ps).filterMap Piece.captureName? =
        p.captureName?.toList ++ ps.filterMap Piece.captureName? := by
      rw [List.filterMap_cons]
      cases p.captureName? <;> rfl
    rw [hnames]
    exact hfirst.append hrest

theorem Piece.sublist_of_reading {locales : Locales} {p : Piece} {b w a : List Char}
    {caps : Captures} (h : p.reading locales b w a caps) :
    (caps.reverse.map (·.1)).Sublist (p.captureName?.toList.map String.ofList) := by
  cases p with
  | literal text =>
    obtain ⟨_, rfl⟩ := h
    exact List.nil_sublist _
  | token t =>
    rcases t.captures_of_reading h with rfl | ⟨text, rfl⟩
    · exact List.nil_sublist _
    · rw [captureName?]
      cases t.captureName? <;> exact List.Sublist.refl _

theorem sublist_of_readingOf {locales : Locales} {ps : List Piece} {b w a : List Char}
    {caps : Captures} (h : readingOf locales ps b w a caps) :
    (caps.reverse.map (·.1)).Sublist
      ((ps.filterMap Piece.captureName?).map String.ofList) := by
  induction ps generalizing b w caps with
  | nil =>
    obtain ⟨_, rfl⟩ := h
    exact List.nil_sublist _
  | cons p ps ih =>
    obtain ⟨u, v, d, e, rfl, rfl, hp, hps⟩ := h
    have hnames : (p :: ps).filterMap Piece.captureName? =
        p.captureName?.toList ++ ps.filterMap Piece.captureName? := by
      rw [List.filterMap_cons]
      cases p.captureName? <;> rfl
    rw [hnames, List.map_append, List.reverse_append, List.map_append]
    exact (Piece.sublist_of_reading hp).append (ih hps)

end UrlRouter
