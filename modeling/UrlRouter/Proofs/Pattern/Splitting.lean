import Mathlib.Data.List.Chain
import UrlRouter.Proofs.Except
import UrlRouter.Proofs.Pattern.Closing
import UrlRouter.Proofs.Pattern.Names
import UrlRouter.Proofs.Text.Cut

/-!
Splitting is exact. The pieces of a pattern have its text and a certain shape, and pieces of this
shape that can be told apart in their text are the pieces of it. What stands in front of a text is
split without regard to it, but for literal text that goes on there.
-/

namespace UrlRouter

open Text

theorem readNamed_of_not_mem {value : List Char} (h : '<' ∉ value) :
    readNamed value = .ok ([], none, value) := by
  rw [readNamed, cut_singleton_eq_none_iff.2 h]

theorem readNamed_named {lead name : List Char} (hlead : '<' ∉ lead)
    (hname : isIdentifier name = true) (body : List Char) :
    readNamed (lead ++ '<' :: name ++ '>' :: body) = .ok (lead, some name, body) := by
  have hopen : cut ['<'] (lead ++ '<' :: name ++ '>' :: body) = some (lead, name ++ '>' :: body) :=
    cut_singleton_eq_some_iff.2 ⟨by simp, hlead⟩
  have hclose : cut ['>'] (name ++ '>' :: body) = some (name, body) :=
    cut_singleton_eq_some_iff.2 ⟨rfl, not_mem_of_isIdentifier hname⟩
  rw [readNamed, hopen]
  dsimp only
  rw [hclose]
  dsimp only
  rw [if_pos hname]

theorem readNamed_cases {value lead body : List Char} {name : Option (List Char)}
    (h : readNamed value = .ok (lead, name, body)) :
    (name = none ∧ lead = [] ∧ value = body ∧ '<' ∉ body) ∨
      ∃ n, name = some n ∧ value = lead ++ '<' :: n ++ '>' :: body ∧ '<' ∉ lead := by
  unfold readNamed at h
  split at h
  · next hcut =>
    cases h
    exact .inl ⟨rfl, rfl, rfl, cut_singleton_eq_none_iff.1 hcut⟩
  · next hopen =>
    split at h
    · cases h
    · next hclose =>
      split at h
      · cases h
        obtain ⟨rfl, hlead⟩ := cut_singleton_eq_some_iff.1 hopen
        obtain ⟨rfl, _⟩ := cut_singleton_eq_some_iff.1 hclose
        exact .inr ⟨_, rfl, by simp, hlead⟩
      · cases h

structure Token.Shaped (t : Token) : Prop extends t.Named where
  unnamed : t.name = none → t.lead = []

structure Token.Delimited (t : Token) : Prop where
  lead : '<' ∉ t.lead
  body : t.name = none → '<' ∉ t.body
  inner : Enclosed 0 t.inner

namespace Token

def value (t : Token) : List Char :=
  match t.name with
  | some n => t.lead ++ '<' :: n ++ '>' :: t.body
  | none => t.body

theorem inner_eq (t : Token) : t.inner = [t.kind.letter] ++ ':' :: t.value := rfl

theorem readNamed_value {t : Token} (h : t.Shaped) (hdelimited : t.Delimited) :
    readNamed t.value = .ok (t.lead, t.name, t.body) := by
  rw [value]
  cases hname : t.name with
  | some n => exact readNamed_named hdelimited.lead (h.identifier n hname) t.body
  | none =>
    rw [h.unnamed hname]
    exact readNamed_of_not_mem (hdelimited.body hname)

theorem read_inner {t : Token} (h : t.Shaped) (hdelimited : t.Delimited) :
    read t.inner = .ok t := by
  have hcut : cut [':'] t.inner = some ([t.kind.letter], t.value) :=
    cut_singleton_eq_some_iff.2 ⟨t.inner_eq, by cases t.kind <;> decide⟩
  have hneeds : ¬ (t.kind.needsName && t.name.isNone) = true := by
    rw [Bool.and_eq_true, not_and, Bool.not_eq_true, Option.isNone_eq_false_iff]
    exact h.needed
  rw [read, hcut]
  dsimp only
  rw [Kind.read?_eq_some_iff.2 rfl]
  dsimp only
  rw [readNamed_value h hdelimited]
  dsimp only
  rw [if_neg hneeds]

theorem of_read {raw : List Char} {t : Token} (h : read raw = .ok t) :
    raw = t.inner ∧ t.Shaped ∧ '<' ∉ t.lead ∧ (t.name = none → '<' ∉ t.body) := by
  have hnamed := named_of_read h
  unfold read at h
  split at h
  · cases h
  · next letter value hcut =>
    split at h
    · cases h
    · next kind hkind =>
      split at h
      · cases h
      · next lead name body hvalue =>
        split at h
        · cases h
        cases h
        obtain ⟨rfl, _⟩ := cut_singleton_eq_some_iff.1 hcut
        obtain rfl := Kind.read?_eq_some_iff.1 hkind
        rcases readNamed_cases hvalue with ⟨rfl, rfl, rfl, hbody⟩ | ⟨n, rfl, rfl, hlead⟩
        · exact ⟨rfl, ⟨hnamed, fun _ => rfl⟩, List.not_mem_nil, fun _ => hbody⟩
        · exact ⟨rfl, ⟨hnamed, by simp⟩, hlead, by simp⟩

end Token

def prepend (text : List Char) : List Piece → List Piece
  | .literal v :: ps => .literal (text ++ v) :: ps
  | ps => literalPieces text ++ ps

def Piece.attach : Piece → List Piece → List Piece
  | .literal text, ps => prepend text ps
  | .token t, ps => .token t :: ps

def mergeLiterals (ps : List Piece) : List Piece := ps.foldr Piece.attach []

theorem prepend_literalPieces (text v : List Char) :
    prepend text (literalPieces v) = literalPieces (text ++ v) := by
  unfold literalPieces
  split
  · next h => simp [prepend, literalPieces, h]
  · next h => simp [prepend, h]

theorem prepend_literalPieces_append (text before : List Char) (t : Token) (ps : List Piece) :
    prepend text (literalPieces before ++ .token t :: ps) =
      literalPieces (text ++ before) ++ .token t :: ps := by
  unfold literalPieces
  split
  · next h => simp [prepend, literalPieces, h]
  · next h => simp [prepend, h]

def readToken (inner : List Char) : Except PatternError (Token × List Piece) :=
  match closeToken 0 inner with
  | none => .error (.unterminated (String.ofList ('\x7b' :: '\x7b' :: inner)))
  | some (raw, rest) =>
      match Token.read raw with
      | .error e => .error e
      | .ok t => (split rest).map fun ps => (t, ps)

theorem split_eq_literalPieces {cs : List Char} (h : ¬ ['\x7b', '\x7b'] <:+: cs) :
    split cs = .ok (literalPieces cs) := by
  rw [split]
  split
  · rfl
  · next hcut =>
    rw [(cut_eq_none_iff (by simp)).2 h] at hcut
    cases hcut

theorem split_of_cut {cs before inner : List Char}
    (h : cut ['\x7b', '\x7b'] cs = some (before, inner)) :
    split cs = (readToken inner).map fun (t, ps) => literalPieces before ++ .token t :: ps := by
  rw [split]
  split
  · next hcut =>
    rw [h] at hcut
    cases hcut
  · next hcut =>
    cases h.symm.trans hcut
    rw [readToken]
    split
    · next hclose => simp [hclose, Except.map]
    · next raw rest hclose =>
      rw [hclose]
      dsimp only
      cases Token.read raw with
      | error e => rfl
      | ok t => cases split rest <;> rfl

theorem split_text_append {text cs : List Char} (h : ¬ ['\x7b', '\x7b'] <:+: text)
    (hend : text.getLast? = some '\x7b' → cs.head? ≠ some '\x7b') :
    split (text ++ cs) = (split cs).map (prepend text) := by
  cases hcut : cut ['\x7b', '\x7b'] cs with
  | none =>
    have hcs := (cut_eq_none_iff (by simp)).1 hcut
    have hboth : ¬ ['\x7b', '\x7b'] <:+: text ++ cs := by
      intro htwice
      rcases pair_infix_append htwice with htext | hcs' | ⟨hlast, hhead⟩
      · exact h htext
      · exact hcs hcs'
      · exact hend hlast hhead
    rw [split_eq_literalPieces hcs, split_eq_literalPieces hboth, Except.map, prepend_literalPieces]
  | some parts =>
    obtain ⟨before, inner⟩ := parts
    obtain ⟨rfl, hbefore, hlast⟩ := cut_pair_eq_some_iff.1 hcut
    have hboth : cut ['\x7b', '\x7b'] (text ++ (before ++ '\x7b' :: '\x7b' :: inner)) =
        some (text ++ before, inner) := by
      refine cut_pair_eq_some_iff.2 ⟨by simp, fun htwice => ?_, ?_⟩
      · rcases pair_infix_append htwice with htext | hbefore' | ⟨hlast, hhead⟩
        · exact h htext
        · exact hbefore hbefore'
        · exact hend hlast (by simp [List.head?_append, hhead])
      · rw [List.getLast?_append]
        cases before with
        | nil => simpa using hend
        | cons b before => simpa using hlast
    rw [split_of_cut hcut, split_of_cut hboth]
    cases readToken inner with
    | error e => rfl
    | ok read => exact congrArg Except.ok (prepend_literalPieces_append ..).symm

theorem split_token_append {t : Token} (h : t.Shaped) (hdelimited : t.Delimited) (cs : List Char) :
    split (t.render ++ cs) = (split cs).map (.token t :: ·) := by
  have hcut : cut ['\x7b', '\x7b'] (t.render ++ cs) =
      some ([], t.inner ++ '\x7d' :: '\x7d' :: cs) :=
    cut_pair_eq_some_iff.2 ⟨by simp [Token.render], by simp, by simp⟩
  rw [split_of_cut hcut, readToken, closeToken_append hdelimited.inner]
  dsimp only
  rw [Token.read_inner h hdelimited]
  cases split cs <;> rfl

namespace Piece

def Shaped : Piece → Prop
  | .literal text => text ≠ [] ∧ ¬ ['\x7b', '\x7b'] <:+: text
  | .token t => t.Shaped

def Delimited : Piece → Prop
  | .literal _ => True
  | .token t => t.Delimited

def Apart : Piece → Piece → Prop
  | .literal _, .literal _ => False
  | _, _ => True

def EndsBefore : Piece → Piece → Prop
  | .literal text, .token _ => text.getLast? ≠ some '\x7b'
  | _, _ => True

end Piece

structure Chained (kind : Piece → Prop) (neighbours : Piece → Piece → Prop) (ps : List Piece) :
    Prop where
  each : ∀ p ∈ ps, kind p
  next : ps.IsChain neighbours

theorem chained_cons_iff {kind : Piece → Prop} {neighbours : Piece → Piece → Prop} {p : Piece}
    {ps : List Piece} :
    Chained kind neighbours (p :: ps) ↔
      kind p ∧ (∀ q ∈ ps.head?, neighbours p q) ∧ Chained kind neighbours ps := by
  constructor
  · intro h
    obtain ⟨hfirst, heach⟩ := List.forall_mem_cons.1 h.each
    obtain ⟨hhead, hnext⟩ := List.isChain_cons.1 h.next
    exact ⟨hfirst, hhead, heach, hnext⟩
  · rintro ⟨hfirst, hhead, heach, hnext⟩
    exact ⟨List.forall_mem_cons.2 ⟨hfirst, heach⟩, List.isChain_cons.2 ⟨hhead, hnext⟩⟩

def Shaped (ps : List Piece) : Prop := Chained Piece.Shaped Piece.Apart ps

def Delimited (ps : List Piece) : Prop := Chained Piece.Delimited Piece.EndsBefore ps

theorem mergeLiterals_of_shaped {ps : List Piece} (h : Shaped ps) : mergeLiterals ps = ps := by
  induction ps with
  | nil => rfl
  | cons p ps ih =>
    obtain ⟨hfirst, hhead, htail⟩ := chained_cons_iff.1 h
    have hmerged : mergeLiterals (p :: ps) = p.attach ps := congrArg p.attach (ih htail)
    rw [hmerged]
    cases p with
    | token t => rfl
    | literal text =>
      have hpieces : literalPieces text = [.literal text] := if_neg hfirst.1
      cases ps with
      | nil => exact (List.append_nil _).trans hpieces
      | cons q ps =>
        cases q with
        | literal v => exact (hhead _ rfl).elim
        | token t => exact congrArg (· ++ Piece.token t :: ps) hpieces

theorem split_render_append {ps : List Piece} {cs : List Char} (h : Shaped ps)
    (hdelimited : Delimited ps)
    (hend : (ps.flatMap Piece.render).getLast? = some '\x7b' → cs.head? ≠ some '\x7b') :
    split (ps.flatMap Piece.render ++ cs) = (split cs).map (ps.foldr Piece.attach) := by
  induction ps with
  | nil => cases hcs : split cs <;> simp [hcs, Except.map]
  | cons p ps ih =>
    obtain ⟨hfirst, hapart, htail⟩ := chained_cons_iff.1 h
    obtain ⟨hpiece, hends, hrest⟩ := chained_cons_iff.1 hdelimited
    rw [List.flatMap_cons, List.getLast?_append] at hend
    have hsplit := ih htail hrest fun hlast => hend (by rw [hlast]; rfl)
    have hmap (f : List Piece → List Piece) :
        ((split cs).map (ps.foldr Piece.attach)).map f =
          (split cs).map fun qs => f (ps.foldr Piece.attach qs) := by
      cases split cs <;> rfl
    rw [List.flatMap_cons, List.append_assoc]
    cases p with
    | token t => exact (split_token_append hfirst hpiece _).trans (by rw [hsplit, hmap]; rfl)
    | literal text =>
      have hmeet : text.getLast? = some '\x7b' →
          (ps.flatMap Piece.render ++ cs).head? ≠ some '\x7b' := by
        intro hlast
        cases ps with
        | nil => exact hend hlast
        | cons q ps =>
          cases q with
          | literal v => exact (hapart _ rfl).elim
          | token t => exact absurd hlast (hends _ rfl)
      exact (split_text_append hfirst.2 hmeet).trans (by rw [hsplit, hmap]; rfl)

theorem render_literalPieces (text : List Char) :
    (literalPieces text).flatMap Piece.render = text := by
  unfold literalPieces
  split
  · next h => exact h.symm
  · exact List.append_nil text

theorem render_of_split {cs : List Char} {ps : List Piece} (h : split cs = .ok ps) :
    ps.flatMap Piece.render = cs := by
  fun_induction split cs generalizing ps with
  | case1 cs hcut =>
    cases h
    exact render_literalPieces cs
  | case2 | case3 | case4 => cases h
  | case5 cs before inner hcut raw rest hclose t hread ps hrest ih =>
    cases h
    obtain ⟨rfl, _⟩ := cut_pair_eq_some_iff.1 hcut
    obtain ⟨rfl, _⟩ := closeToken_eq_some_iff.1 hclose
    obtain ⟨rfl, _⟩ := Token.of_read hread
    rw [List.flatMap_append, render_literalPieces, List.flatMap_cons, ih hrest]
    simp [Piece.render, Token.render]

theorem shaped_literalPieces_append {text : List Char} {ps : List Piece}
    (htext : ¬ ['\x7b', '\x7b'] <:+: text) (hnext : ∀ p ∈ ps.head?, ∃ t, p = .token t)
    (h : Shaped ps) : Shaped (literalPieces text ++ ps) := by
  unfold literalPieces
  split
  · exact h
  · next hne =>
    refine chained_cons_iff.2 ⟨⟨hne, htext⟩, fun p hp => ?_, h⟩
    obtain ⟨t, rfl⟩ := hnext p hp
    trivial

theorem shaped_of_split {cs : List Char} {ps : List Piece} (h : split cs = .ok ps) :
    Shaped ps := by
  fun_induction split cs generalizing ps with
  | case1 cs hcut =>
    cases h
    have hliteral := (cut_eq_none_iff (by simp)).1 hcut
    simpa using shaped_literalPieces_append hliteral (by simp) ⟨by simp, .nil⟩
  | case2 | case3 | case4 => cases h
  | case5 cs before inner hcut raw rest hclose t hread ps hrest ih =>
    cases h
    obtain ⟨_, hliteral, _⟩ := cut_pair_eq_some_iff.1 hcut
    obtain ⟨_, hshaped, _⟩ := Token.of_read hread
    have htoken : Shaped (.token t :: ps) :=
      chained_cons_iff.2 ⟨hshaped, fun _ _ => trivial, ih hrest⟩
    exact shaped_literalPieces_append hliteral (by simp) htoken

theorem delimited_of_split {cs : List Char} {ps : List Piece} (h : split cs = .ok ps) :
    Delimited ps := by
  fun_induction split cs generalizing ps with
  | case1 cs hcut =>
    cases h
    unfold literalPieces
    split
    · exact ⟨by simp, .nil⟩
    · exact ⟨by simp [Piece.Delimited], .singleton _⟩
  | case2 | case3 | case4 => cases h
  | case5 cs before inner hcut raw rest hclose t hread ps hrest ih =>
    cases h
    obtain ⟨_, _, hlast⟩ := cut_pair_eq_some_iff.1 hcut
    obtain ⟨_, hinner⟩ := closeToken_eq_some_iff.1 hclose
    obtain ⟨rfl, _, hlead, hbody⟩ := Token.of_read hread
    have htoken : Delimited (.token t :: ps) :=
      chained_cons_iff.2 ⟨⟨hlead, hbody, hinner⟩, fun _ _ => trivial, ih hrest⟩
    unfold literalPieces
    split
    · exact htoken
    · refine chained_cons_iff.2 ⟨trivial, fun p hp => ?_, htoken⟩
      cases hp
      exact hlast

theorem split_render {ps : List Piece} (h : Shaped ps) (hdelimited : Delimited ps) :
    split (ps.flatMap Piece.render) = .ok ps := by
  have hnil : split [] = .ok [] := split_eq_literalPieces (by simp)
  have hempty : ([] : List Char).head? ≠ some '\x7b' := by simp
  have hsplit := split_render_append h hdelimited fun _ => hempty
  rw [List.append_nil, hnil] at hsplit
  exact hsplit.trans (congrArg Except.ok (mergeLiterals_of_shaped h))

theorem split_eq_ok_iff {cs : List Char} {ps : List Piece} :
    split cs = .ok ps ↔ ps.flatMap Piece.render = cs ∧ Shaped ps ∧ Delimited ps := by
  constructor
  · intro h
    exact ⟨render_of_split h, shaped_of_split h, delimited_of_split h⟩
  · rintro ⟨rfl, h, hdelimited⟩
    exact split_render h hdelimited

end UrlRouter
