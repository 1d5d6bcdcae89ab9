import UrlRouter.Proofs.Decimal.Notation
import UrlRouter.Proofs.Json.Strings

/-!
Quotes in the text of a value. A scan that changes sides at each quote without a backslash ends on
the side where it began, whichever that is, and meets every opening parenthesis on the other one.
-/

namespace UrlRouter.Json

structure Scan where
  inside : Bool
  escaped : Bool

namespace Scan

def step (s : Scan) (c : Char) : Scan :=
  if s.escaped then ⟨s.inside, false⟩
  else if c = '\\' then ⟨s.inside, true⟩
  else if c = '"' then ⟨!s.inside, false⟩
  else s

def run (s : Scan) (cs : List Char) : Scan := cs.foldl step s

def openings : Scan → List Char → List Scan
  | _, [] => []
  | s, c :: cs => if c = '(' then s :: openings (s.step c) cs else openings (s.step c) cs

theorem run_append (s : Scan) (u v : List Char) : s.run (u ++ v) = (s.run u).run v :=
  List.foldl_append

theorem openings_append (s : Scan) (u v : List Char) :
    s.openings (u ++ v) = s.openings u ++ (s.run u).openings v := by
  induction u generalizing s with
  | nil => rfl
  | cons c u ih =>
    rw [List.cons_append, openings, openings, ih]
    split
    · rfl
    · rfl

theorem run_mem_openings (s : Scan) (u v : List Char) : s.run u ∈ s.openings (u ++ '(' :: v) := by
  rw [openings_append]
  exact List.mem_append_right _ List.mem_cons_self

end Scan

/-- From either side the scan comes back, and it meets parentheses on the given side. -/
structure Shields (side : Bool → Bool) (cs : List Char) : Prop where
  back : ∀ b, Scan.run ⟨b, false⟩ cs = ⟨b, false⟩
  opened : ∀ b, ∀ s ∈ Scan.openings ⟨b, false⟩ cs, s = ⟨side b, false⟩

theorem Shields.nil {side : Bool → Bool} : Shields side [] :=
  ⟨fun _ => rfl, fun _ _ h => nomatch h⟩

theorem Shields.append {side : Bool → Bool} {u v : List Char} (hu : Shields side u)
    (hv : Shields side v) : Shields side (u ++ v) := by
  refine ⟨fun b => ?_, fun b s hs => ?_⟩
  · rw [Scan.run_append, hu.back, hv.back]
  · rw [Scan.openings_append, hu.back, List.mem_append] at hs
    rcases hs with hs | hs
    · exact hu.opened b s hs
    · exact hv.opened b s hs

def isPlain (c : Char) : Bool := c ≠ '"' && c ≠ '\\' && c ≠ '('

theorem Shields.cons {side : Bool → Bool} {c : Char} {cs : List Char} (hc : isPlain c = true)
    (hcs : Shields side cs) : Shields side (c :: cs) := by
  simp only [isPlain, ne_eq, Bool.and_eq_true, decide_eq_true_eq] at hc
  obtain ⟨⟨hquote, hslash⟩, hopen⟩ := hc
  have hstep (b : Bool) : Scan.step ⟨b, false⟩ c = ⟨b, false⟩ := by
    simp [Scan.step, hquote, hslash]
  refine ⟨fun b => ?_, fun b s hs => ?_⟩
  · change Scan.run (Scan.step ⟨b, false⟩ c) cs = _
    rw [hstep]
    exact hcs.back b
  · rw [Scan.openings, if_neg hopen, hstep] at hs
    exact hcs.opened b s hs

theorem Shields.of_plain {side : Bool → Bool} {cs : List Char}
    (h : ∀ c ∈ cs, isPlain c = true) : Shields side cs := by
  induction cs with
  | nil => exact .nil
  | cons c cs ih =>
    exact .cons (h c List.mem_cons_self) (ih fun a ha => h a (List.mem_cons_of_mem _ ha))

theorem isPlain_of_isNumeral {c : Char} (h : isNumeral c = true) : isPlain c = true := by
  simp only [isPlain, ne_eq, Bool.and_eq_true, decide_eq_true_eq]
  refine ⟨⟨?_, ?_⟩, ?_⟩
  all_goals
    rintro rfl
    revert h
    decide

theorem isPlain_hexDigit : ∀ n < 16, isPlain (hexDigit n) = true := by
  decide

theorem Shields.escaped {side : Bool → Bool} {c : Char} {cs : List Char} (hc : c ≠ '(')
    (hcs : Shields side cs) : Shields side ('\\' :: c :: cs) := by
  refine ⟨fun b => hcs.back b, fun b s hs => ?_⟩
  have hskip : Scan.openings ⟨b, false⟩ ('\\' :: c :: cs) = Scan.openings ⟨b, false⟩ cs := by
    simp [Scan.openings, Scan.step, hc]
  exact hcs.opened b s (hskip ▸ hs)

theorem Shields.escape (c : Char) : Shields id (escape c) := by
  rcases escape_cases c with ⟨letter, _, hletter, h⟩ | ⟨hcontrol, h⟩ | ⟨hquote, hslash, _, h⟩
  · rw [h]
    refine .escaped ?_ .nil
    rintro rfl
    cases hletter
  · rw [h]
    refine .escaped (by decide) (.of_plain ?_)
    simp only [List.forall_mem_cons, List.not_mem_nil, false_implies, implies_true, and_true]
    exact ⟨by decide, by decide, isPlain_hexDigit _ (by omega), isPlain_hexDigit _ (by omega)⟩
  · rw [h]
    have hstep (b : Bool) : Scan.step ⟨b, false⟩ c = ⟨b, false⟩ := by
      simp [Scan.step, hquote, hslash]
    refine ⟨hstep, fun b s hs => ?_⟩
    simp only [Scan.openings, List.mem_ite_nil_right, List.mem_singleton] at hs
    exact hs.2

theorem Shields.flatMap_escape (cs : List Char) : Shields id (cs.flatMap Json.escape) := by
  induction cs with
  | nil => exact .nil
  | cons c cs ih =>
    rw [List.flatMap_cons]
    exact (Shields.escape c).append ih

theorem Shields.stringText (s : String) : Shields not (stringText s) := by
  have hbody := Shields.flatMap_escape s.toList
  refine ⟨fun b => ?_, fun b a ha => ?_⟩
  · change Scan.run ⟨!b, false⟩ (s.toList.flatMap Json.escape ++ ['"']) = _
    rw [Scan.run_append, hbody.back]
    simp [Scan.run, Scan.step]
  · change a ∈ Scan.openings ⟨!b, false⟩ (s.toList.flatMap Json.escape ++ ['"']) at ha
    rw [Scan.openings_append, List.mem_append] at ha
    rcases ha with ha | ha
    · exact hbody.opened _ a ha
    · cases ha

mutual

theorem Shields.render : ∀ x : Json, Shields not x.render
  | .null | .bool true | .bool false => .of_plain (List.all_eq_true.1 (by decide))
  | .int _ => .of_plain fun _ hc => isPlain_of_isNumeral (isNumeral_of_mem_intText hc)
  | .float _ => .of_plain fun _ hc => isPlain_of_isNumeral (Binary64.isNumeral_of_mem_text hc)
  | .str s => .stringText s
  | .arr [] | .obj [] => .of_plain (List.all_eq_true.1 (by decide))
  | .arr (x :: xs) => .cons (by decide) ((Shields.render x).append (Shields.renderElements xs))
  | .obj ((k, x) :: fs) =>
    .cons (by decide) (((Shields.stringText k).append (.cons (by decide) (Shields.render x))).append
      (Shields.renderFields fs))

theorem Shields.renderElements : ∀ xs : List Json, Shields not (renderElements xs)
  | [] => .of_plain (List.all_eq_true.1 (by decide))
  | x :: xs => .cons (by decide) ((Shields.render x).append (Shields.renderElements xs))

theorem Shields.renderFields : ∀ fs : List (String × Json), Shields not (renderFields fs)
  | [] => .of_plain (List.all_eq_true.1 (by decide))
  | (k, x) :: fs =>
    .cons (by decide) (((Shields.stringText k).append (.cons (by decide) (Shields.render x))).append
      (Shields.renderFields fs))

end

theorem render_ne_append_opening (x y : Json) (u : List Char) :
    x.render ≠ u ++ '(' :: y.render := by
  intro h
  -- From outside, the parenthesis is met inside quotes, and from there the text of `y` does not
  -- lead back outside, where the text of `x` ends.
  have hback := (Shields.render x).back false
  have hside := (Shields.render x).opened false (Scan.run ⟨false, false⟩ u)
    (h ▸ Scan.run_mem_openings _ u y.render)
  rw [h, Scan.run_append, hside] at hback
  change Scan.run ⟨true, false⟩ y.render = _ at hback
  rw [(Shields.render y).back] at hback
  cases hback

theorem append_opening_injective {d e : List Char} {x y : Json}
    (h : d ++ '(' :: x.render = e ++ '(' :: y.render) : d = e ∧ x.render = y.render := by
  rcases List.append_eq_append_iff.1 h with ⟨u, hd, hx⟩ | ⟨u, he, hy⟩
  · cases u with
    | nil => simp_all
    | cons c u =>
      rw [List.cons_append, List.cons.injEq] at hx
      exact absurd hx.2 (render_ne_append_opening x y u)
  · cases u with
    | nil => simp_all
    | cons c u =>
      rw [List.cons_append, List.cons.injEq] at hy
      exact absurd hy.2 (render_ne_append_opening y x u)

end UrlRouter.Json
