import Mathlib.Logic.Relation
import UrlRouter.Pattern.Bytes
import UrlRouter.Proofs.Text.Slice

/-!
The scan for the end of a token. It ends at the same place, whatever the units of the text are, as
long as those that count stand for themselves and nothing else holds them. So it does among bytes,
where the unit behind a backslash can be the first of several that hold one character.
-/

namespace UrlRouter

open Text Relation

namespace Signs

variable {α : Type}

def Plain (signs : Signs α) (x : α) : Prop :=
  x ≠ signs.escape ∧ x ≠ signs.opening ∧ x ≠ signs.closing

/-- Characters are held in units: those that count in one each, which no other character has. -/
structure Carries (signs : Signs α) (encode : Char → List α) : Prop where
  escape : encode '\\' = [signs.escape]
  opening : encode '\x7b' = [signs.opening]
  closing : encode '\x7d' = [signs.closing]
  plain : ∀ c, c ≠ '\\' → c ≠ '\x7b' → c ≠ '\x7d' → ∀ x ∈ encode c, signs.Plain x
  ne_nil : ∀ c, encode c ≠ []

theorem characters_carries : characters.Carries ([·]) where
  escape := rfl
  opening := rfl
  closing := rfl
  plain c hescape hopening hclosing x hx := by
    obtain rfl := List.mem_singleton.1 hx
    exact ⟨hescape, hopening, hclosing⟩
  ne_nil c := List.cons_ne_nil c []

theorem bytes_carries : bytes.Carries String.utf8EncodeChar where
  escape := by decide
  opening := by decide
  closing := by decide
  plain c hescape hopening hclosing x hx := by
    refine ⟨?_, ?_, ?_⟩ <;> rintro rfl
    · exact hescape (eq_of_mem_utf8EncodeChar (by decide) hx)
    · exact hopening (eq_of_mem_utf8EncodeChar (by decide) hx)
    · exact hclosing (eq_of_mem_utf8EncodeChar (by decide) hx)
  ne_nil _ := String.utf8EncodeChar_ne_nil

theorem Carries.exists_encode_eq {signs : Signs α} {encode : Char → List α}
    (h : signs.Carries encode) (c : Char) :
    ∃ x us, encode c = x :: us ∧ (∀ u ∈ us, signs.Plain u) ∧ (x = signs.closing → c = '\x7d') := by
  obtain ⟨x, us, hc⟩ := List.exists_cons_of_ne_nil (h.ne_nil c)
  refine ⟨x, us, hc, ?_⟩
  by_cases hescape : c = '\\'
  · rw [hescape, h.escape] at hc
    obtain ⟨rfl, rfl⟩ := List.cons.inj hc
    exact ⟨by simp, fun hx => absurd hx.symm signs.closing_ne_escape⟩
  by_cases hopening : c = '\x7b'
  · rw [hopening, h.opening] at hc
    obtain ⟨rfl, rfl⟩ := List.cons.inj hc
    exact ⟨by simp, fun hx => absurd hx.symm signs.closing_ne_opening⟩
  by_cases hclosing : c = '\x7d'
  · rw [hclosing, h.closing] at hc
    obtain ⟨rfl, rfl⟩ := List.cons.inj hc
    exact ⟨by simp, fun _ => hclosing⟩
  have hplain := h.plain c hescape hopening hclosing
  rw [hc, List.forall_mem_cons] at hplain
  exact ⟨hplain.2, fun hx => absurd hx hplain.1.2.2⟩

theorem Carries.head?_ne_closing {signs : Signs α} {encode : Char → List α}
    (h : signs.Carries encode) {cs : List Char} (hcs : ∀ rest, cs ≠ '\x7d' :: rest) :
    (cs.flatMap encode).head? ≠ some signs.closing := by
  cases cs with
  | nil => simp
  | cons c cs =>
    obtain ⟨x, us, hc, _, hx⟩ := h.exists_encode_eq c
    rw [List.flatMap_cons, hc, List.cons_append, List.head?_cons, ne_eq, Option.some.injEq]
    intro hclosing
    exact hcs cs (congrArg (· :: cs) (hx hclosing))

end Signs

namespace TokenScan

variable {α : Type} [DecidableEq α] {signs : Signs α} {x y : α} {xs us : List α} {depth : Nat}
  {s t : TokenScan}

def Next (signs : Signs α) (xs : List α) (s t : TokenScan) : Prop :=
  ∃ x ∈ xs[s.pos]?, s.step signs xs x = some t

def Bounded (xs : List α) (s : TokenScan) : Prop :=
  s.depth ≤ s.pos ∧ s.pos ≤ xs.length + 1

theorem depth_of_step (h : s.step signs xs x = some t) : t.depth + s.pos ≤ s.depth + t.pos := by
  grind [step]

theorem Next.bounded (h : Next signs xs s t) (hs : s.Bounded xs) : t.Bounded xs := by
  obtain ⟨x, hx, hstep⟩ := h
  have hpos := (List.getElem?_eq_some_iff.1 hx).1
  have hnext := pos_of_step hstep
  have hdepth := depth_of_step hstep
  exact ⟨by have := hs.1; omega, by omega⟩

theorem bounded_of_reaches (h : ReflTransGen (Next signs xs) start s) : s.Bounded xs := by
  induction h with
  | refl => exact ⟨Nat.le_refl 0, Nat.zero_le _⟩
  | tail _ hnext ih => exact hnext.bounded ih

theorem run_of_length_le (h : xs.length ≤ s.pos) : s.run signs xs = none := by
  rw [run, dif_neg (Nat.not_lt.2 h)]

theorem run_of_getElem? (hx : xs[s.pos]? = some x) :
    s.run signs xs =
      match s.step signs xs x with
      | none => some s.pos
      | some t => t.run signs xs := by
  obtain ⟨hpos, rfl⟩ := List.getElem?_eq_some_iff.1 hx
  rw [run, dif_pos hpos]
  split <;> simp_all

def shift (s : TokenScan) : TokenScan := ⟨s.depth, s.pos + 1⟩

theorem step_shift (s : TokenScan) (x y : α) :
    s.shift.step signs (y :: xs) x = (s.step signs xs x).map shift := by
  simp only [step, shift, List.getElem?_cons_succ, apply_ite (Option.map shift), Option.map_some,
    Option.map_none]
  rfl

theorem run_shift (s : TokenScan) (y : α) :
    s.shift.run signs (y :: xs) = (s.run signs xs).map (· + 1) := by
  fun_induction run signs xs s with
  | case1 s hpos hstep =>
    have hx : (y :: xs)[s.shift.pos]? = some xs[s.pos] := List.getElem?_eq_getElem hpos
    rw [run_of_getElem? hx, step_shift, hstep]
    rfl
  | case2 s hpos t hstep ih =>
    have hx : (y :: xs)[s.shift.pos]? = some xs[s.pos] := List.getElem?_eq_getElem hpos
    rw [run_of_getElem? hx, step_shift, hstep]
    exact ih
  | case3 s hpos => exact run_of_length_le (Nat.succ_le_succ (Nat.le_of_not_lt hpos))

theorem run_nil (s : TokenScan) : s.run signs [] = none := run_of_length_le (Nat.zero_le _)

theorem run_cons (h : step signs (x :: xs) ⟨depth, 0⟩ x = some t.shift) :
    run signs (x :: xs) ⟨depth, 0⟩ = (t.run signs xs).map (· + 1) := by
  have hx : (x :: xs)[(⟨depth, 0⟩ : TokenScan).pos]? = some x := rfl
  rw [run_of_getElem? hx, h]
  exact run_shift t x

theorem run_escape_nil : run signs [signs.escape] ⟨depth, 0⟩ = none := by
  have hstep : step signs [signs.escape] ⟨depth, 0⟩ signs.escape =
      some (shift ⟨depth, 1⟩) := if_pos rfl
  rw [run_cons hstep, run_nil, Option.map_none]

theorem run_escape_cons :
    run signs (signs.escape :: y :: xs) ⟨depth, 0⟩ = (run signs xs ⟨depth, 0⟩).map (· + 2) := by
  have hstep : step signs (signs.escape :: y :: xs) ⟨depth, 0⟩ signs.escape =
      some (shift (shift ⟨depth, 0⟩)) := if_pos rfl
  rw [run_cons hstep, run_shift, Option.map_map]
  rfl

theorem run_opening_cons :
    run signs (signs.opening :: xs) ⟨depth, 0⟩ =
      (run signs xs ⟨depth + 1, 0⟩).map (· + 1) := by
  refine run_cons ?_
  rw [step, if_neg signs.opening_ne_escape, if_pos rfl]
  rfl

theorem run_closing_cons :
    run signs (signs.closing :: xs) ⟨depth + 1, 0⟩ =
      (run signs xs ⟨depth, 0⟩).map (· + 1) := by
  refine run_cons ?_
  rw [step, if_neg signs.closing_ne_escape, if_neg signs.closing_ne_opening,
    if_pos ⟨rfl, Nat.succ_pos depth⟩]
  rfl

theorem run_closed : run signs (signs.closing :: signs.closing :: xs) ⟨0, 0⟩ = some 0 := by
  have hx : (signs.closing :: signs.closing :: xs)[(⟨0, 0⟩ : TokenScan).pos]? =
      some signs.closing := rfl
  rw [run_of_getElem? hx, step, if_neg signs.closing_ne_escape, if_neg signs.closing_ne_opening,
    if_neg (by simp), if_pos ⟨rfl, rfl⟩]

theorem run_lone (h : xs.head? ≠ some signs.closing) :
    run signs (signs.closing :: xs) ⟨0, 0⟩ = (run signs xs ⟨0, 0⟩).map (· + 1) := by
  refine run_cons ?_
  rw [step, if_neg signs.closing_ne_escape, if_neg signs.closing_ne_opening, if_neg (by simp),
    if_neg (by simpa [List.head?_eq_getElem?] using h)]
  rfl

theorem run_plain_append (h : ∀ x ∈ us, signs.Plain x) :
    run signs (us ++ xs) ⟨depth, 0⟩ = (run signs xs ⟨depth, 0⟩).map (· + us.length) := by
  induction us with
  | nil => simp
  | cons x us ih =>
    rw [List.forall_mem_cons] at h
    obtain ⟨⟨hescape, hopening, hclosing⟩, hus⟩ := h
    have hstep : step signs (x :: (us ++ xs)) ⟨depth, 0⟩ x = some (shift ⟨depth, 0⟩) := by
      rw [step, if_neg hescape, if_neg hopening, if_neg (by simp [hclosing]),
        if_neg (by simp [hclosing])]
      rfl
    rw [List.cons_append, run_cons hstep, ih hus, Option.map_map]
    rfl

end TokenScan

section

variable {α : Type}

def rawWidth (encode : Char → List α) (closed : Option (List Char × List Char)) : Option Nat :=
  closed.map fun (raw, _) => (raw.flatMap encode).length

theorem rawWidth_cons (encode : Char → List α) (closed : Option (List Char × List Char))
    (c : Char) :
    rawWidth encode (closed.map fun (raw, rest) => (c :: raw, rest)) =
      (rawWidth encode closed).map (· + (encode c).length) := by
  rw [rawWidth, rawWidth, Option.map_map, Option.map_map]
  congr 1
  funext ⟨raw, rest⟩
  simp [Nat.add_comm]

variable [DecidableEq α] {signs : Signs α} {encode : Char → List α}

theorem Signs.Carries.run_flatMap (h : signs.Carries encode) (depth : Nat) (cs : List Char) :
    TokenScan.run signs (cs.flatMap encode) ⟨depth, 0⟩ = rawWidth encode (closeToken depth cs) := by
  fun_induction closeToken depth cs with
  | case1 depth => exact TokenScan.run_nil _
  | case2 depth =>
    rw [List.flatMap_singleton, h.escape]
    exact TokenScan.run_escape_nil
  | case3 depth c cs ih =>
    -- the scan passes the first unit of the hidden character, and the others do not count
    obtain ⟨x, us, hc, hus, _⟩ := h.exists_encode_eq c
    have htwo : (closeToken depth cs).map (fun (raw, rest) => ('\\' :: c :: raw, rest)) =
        ((closeToken depth cs).map fun (raw, rest) => (c :: raw, rest)).map
          fun (raw, rest) => ('\\' :: raw, rest) := by
      rw [Option.map_map]
      rfl
    rw [htwo, rawWidth_cons, rawWidth_cons, ← ih, List.flatMap_cons, List.flatMap_cons, h.escape,
      hc, List.singleton_append, List.cons_append, TokenScan.run_escape_cons,
      TokenScan.run_plain_append hus, Option.map_map, Option.map_map]
    rfl
  | case4 depth cs ih =>
    rw [rawWidth_cons, ← ih, List.flatMap_cons, h.opening]
    exact TokenScan.run_opening_cons
  | case5 cs depth ih =>
    rw [rawWidth_cons, ← ih, List.flatMap_cons, h.closing]
    exact TokenScan.run_closing_cons
  | case6 rest =>
    rw [List.flatMap_cons, List.flatMap_cons, h.closing]
    exact TokenScan.run_closed
  | case7 cs hlone ih =>
    rw [rawWidth_cons, ← ih, List.flatMap_cons, h.closing]
    exact TokenScan.run_lone (h.head?_ne_closing hlone)
  | case8 depth c cs hback hopen hsucc hzero ih =>
    have hclose : c ≠ '\x7d' := by
      cases depth with
      | zero => exact hzero rfl
      | succ depth => exact hsucc depth rfl
    rw [rawWidth_cons, ← ih, List.flatMap_cons]
    exact TokenScan.run_plain_append (h.plain c hback hopen hclose)

end

theorem closePosition_utf8 (cs : List Char) :
    closePosition .bytes (utf8 cs) = (closeToken 0 cs).map fun (raw, _) => (utf8 raw).length :=
  Signs.bytes_carries.run_flatMap 0 cs

example : closePosition .bytes (utf8 ['\\', 'é', '\x7d', '\x7d']) = some 3 := by cbv

theorem closePosition_characters (cs : List Char) :
    closePosition .characters cs = (closeToken 0 cs).map fun (raw, _) => raw.length := by
  have h := Signs.characters_carries.run_flatMap 0 cs
  simp only [rawWidth, List.flatMap_singleton'] at h
  exact h

end UrlRouter
