import UrlRouter.Pattern.Token

/-!
Where a token ends. The braces that count are those that no backslash hides: a token is closed by
two of them at the first place where the braces inside of it are closed.
-/

namespace UrlRouter

/-- What a character inside a token counts for. A backslash and the character that it hides count
as one other. -/
inductive Mark where
  | opening
  | closing
  | other
  deriving DecidableEq

def Mark.depth (depth : Nat) : Mark → Nat
  | .opening => depth + 1
  | .closing => depth - 1
  | .other => depth

def marks? : List Char → Option (List Mark)
  | [] => some []
  | ['\\'] => none
  | '\\' :: _ :: cs => (marks? cs).map (.other :: ·)
  | '\x7b' :: cs => (marks? cs).map (.opening :: ·)
  | '\x7d' :: cs => (marks? cs).map (.closing :: ·)
  | _ :: cs => (marks? cs).map (.other :: ·)

/-- So many braces are open before the marks, and none behind them. A closing brace that closes
none is followed by something else than a closing brace. -/
structure Balanced (depth : Nat) (ms : List Mark) : Prop where
  closed : ms.foldl Mark.depth depth = 0
  lone : ∀ us vs, ms = us ++ .closing :: vs → us.foldl Mark.depth depth = 0 →
    ∃ m ∈ vs.head?, m ≠ .closing

def Enclosed (depth : Nat) (cs : List Char) : Prop :=
  ∃ ms, marks? cs = some ms ∧ Balanced depth ms

theorem balanced_nil_iff {depth : Nat} : Balanced depth [] ↔ depth = 0 :=
  ⟨Balanced.closed, fun h => ⟨h, by simp⟩⟩

theorem balanced_cons_iff {depth : Nat} {m : Mark} {ms : List Mark} :
    Balanced depth (m :: ms) ↔
      Balanced (m.depth depth) ms ∧
        (m = .closing → depth = 0 → ∃ m' ∈ ms.head?, m' ≠ .closing) := by
  constructor
  · intro h
    refine ⟨⟨h.closed, fun us vs hms hdepth => ?_⟩, fun hm hdepth => ?_⟩
    · exact h.lone (m :: us) vs (congrArg (m :: ·) hms) hdepth
    · exact h.lone [] ms (congrArg (· :: ms) hm) hdepth
  · rintro ⟨hms, hfirst⟩
    refine ⟨hms.closed, fun us vs heq hdepth => ?_⟩
    cases us with
    | nil =>
      cases heq
      exact hfirst rfl hdepth
    | cons u us =>
      cases heq
      exact hms.lone us vs rfl hdepth

theorem head_marks?_iff {cs : List Char} {ms : List Mark} (h : marks? cs = some ms) :
    (∃ m ∈ ms.head?, m ≠ .closing) ↔ ∃ c ∈ cs.head?, c ≠ '\x7d' := by
  unfold marks? at h
  split at h
  · cases h
    simp
  · cases h
  all_goals
    obtain ⟨ms', _, rfl⟩ := Option.map_eq_some_iff.1 h
    simp_all

section

variable {depth : Nat} {c : Char} {cs text : List Char}

theorem enclosed_nil_iff : Enclosed depth [] ↔ depth = 0 := by
  simp [Enclosed, marks?, balanced_nil_iff]

theorem enclosed_mark_iff (depth : Nat) {m : Mark} (h : marks? text = (marks? cs).map (m :: ·)) :
    Enclosed depth text ↔
      Enclosed (m.depth depth) cs ∧ (m = .closing → depth = 0 → ∃ c ∈ cs.head?, c ≠ '\x7d') := by
  rw [Enclosed, Enclosed, h]
  constructor
  · rintro ⟨_, hmap, hbalanced⟩
    obtain ⟨ms, hms, rfl⟩ := Option.map_eq_some_iff.1 hmap
    rw [balanced_cons_iff, head_marks?_iff hms] at hbalanced
    exact ⟨⟨ms, hms, hbalanced.1⟩, hbalanced.2⟩
  · rintro ⟨⟨ms, hms, hbalanced⟩, hlone⟩
    refine ⟨m :: ms, Option.map_eq_some_iff.2 ⟨ms, hms, rfl⟩, ?_⟩
    rw [balanced_cons_iff, head_marks?_iff hms]
    exact ⟨hbalanced, hlone⟩

theorem enclosed_hidden_iff : Enclosed depth ('\\' :: c :: cs) ↔ Enclosed depth cs := by
  have hmarks : marks? ('\\' :: c :: cs) = (marks? cs).map (.other :: ·) := rfl
  simpa [Mark.depth] using enclosed_mark_iff depth hmarks

theorem enclosed_opening_iff : Enclosed depth ('\x7b' :: cs) ↔ Enclosed (depth + 1) cs := by
  have hmarks : marks? ('\x7b' :: cs) = (marks? cs).map (.opening :: ·) := rfl
  simpa [Mark.depth] using enclosed_mark_iff depth hmarks

theorem marks?_closing (cs : List Char) :
    marks? ('\x7d' :: cs) = (marks? cs).map (.closing :: ·) := rfl

theorem enclosed_closing_iff : Enclosed (depth + 1) ('\x7d' :: cs) ↔ Enclosed depth cs := by
  simpa [Mark.depth] using enclosed_mark_iff (depth + 1) (marks?_closing cs)

theorem enclosed_lone_iff :
    Enclosed 0 ('\x7d' :: cs) ↔ Enclosed 0 cs ∧ ∃ c ∈ cs.head?, c ≠ '\x7d' := by
  simpa [Mark.depth] using enclosed_mark_iff 0 (marks?_closing cs)

theorem enclosed_other_iff (hback : c ≠ '\\') (hopen : c ≠ '\x7b') (hclose : c ≠ '\x7d') :
    Enclosed depth (c :: cs) ↔ Enclosed depth cs := by
  have hmarks : marks? (c :: cs) = (marks? cs).map (.other :: ·) := by
    rw [marks?] <;> simp [hback, hopen, hclose]
  simpa [Mark.depth] using enclosed_mark_iff depth hmarks

end

theorem map_cons_eq_some_iff {x : Option (List Char × List Char)} {c : Char}
    {text rest : List Char} :
    (x.map fun (raw, rest) => (c :: raw, rest)) = some (text, rest) ↔
      ∃ raw, x = some (raw, rest) ∧ text = c :: raw := by
  constructor
  · intro h
    obtain ⟨⟨raw, _⟩, hx, heq⟩ := Option.map_eq_some_iff.1 h
    cases heq
    exact ⟨raw, hx, rfl⟩
  · rintro ⟨raw, rfl, rfl⟩
    rfl

theorem enclosed_of_closeToken {depth : Nat} {cs raw rest : List Char}
    (h : closeToken depth cs = some (raw, rest)) : Enclosed depth raw := by
  fun_induction closeToken depth cs generalizing raw with
  | case1 | case2 => cases h
  | case3 depth c cs ih =>
    obtain ⟨⟨raw, _⟩, hraw, heq⟩ := Option.map_eq_some_iff.1 h
    cases heq
    exact enclosed_hidden_iff.2 (ih hraw)
  | case4 depth cs ih =>
    obtain ⟨raw, hraw, rfl⟩ := map_cons_eq_some_iff.1 h
    exact enclosed_opening_iff.2 (ih hraw)
  | case5 cs depth ih =>
    obtain ⟨raw, hraw, rfl⟩ := map_cons_eq_some_iff.1 h
    exact enclosed_closing_iff.2 (ih hraw)
  | case6 rest' =>
    cases h
    exact enclosed_nil_iff.2 rfl
  | case7 cs hlone ih =>
    obtain ⟨raw, hraw, rfl⟩ := map_cons_eq_some_iff.1 h
    refine enclosed_lone_iff.2 ⟨ih hraw, ?_⟩
    have htext := eq_append_of_closeToken hraw
    cases raw with
    | nil => exact absurd htext (hlone _)
    | cons c raw =>
      refine ⟨c, rfl, fun hc => hlone (raw ++ '\x7d' :: '\x7d' :: rest) ?_⟩
      rw [htext, hc]
      rfl
  | case8 depth c cs hback hopen hsucc hzero ih =>
    obtain ⟨raw, hraw, rfl⟩ := map_cons_eq_some_iff.1 h
    have hclose : c ≠ '\x7d' := by
      cases depth with
      | zero => exact hzero rfl
      | succ depth => exact hsucc depth rfl
    exact (enclosed_other_iff hback hopen hclose).2 (ih hraw)

theorem closeToken_append {depth : Nat} {raw : List Char} (h : Enclosed depth raw)
    (rest : List Char) :
    closeToken depth (raw ++ '\x7d' :: '\x7d' :: rest) = some (raw, rest) := by
  fun_induction marks? raw generalizing depth with
  | case1 =>
    cases enclosed_nil_iff.1 h
    rfl
  | case2 =>
    obtain ⟨ms, hms, _⟩ := h
    cases hms
  | case3 c cs ih =>
    have hrest := ih (enclosed_hidden_iff.1 h)
    simp [closeToken, hrest]
  | case4 cs ih =>
    have hrest := ih (enclosed_opening_iff.1 h)
    simp [closeToken, hrest]
  | case5 cs ih =>
    cases depth with
    | succ depth =>
      have hrest := ih (enclosed_closing_iff.1 h)
      simp [closeToken, hrest]
    | zero =>
      obtain ⟨h, c, hc, hne⟩ := enclosed_lone_iff.1 h
      have hrest := ih h
      obtain ⟨cs, rfl⟩ := List.head?_eq_some_iff.1 hc
      rw [List.cons_append, closeToken]
      · rw [hrest]
        rfl
      · simpa using hne
  | case6 c cs hlast hhides hopen hclose ih =>
    have hback : c ≠ '\\' := by
      cases cs with
      | nil => exact fun hc => hlast hc rfl
      | cons d cs => exact fun hc => hhides d cs hc rfl
    have hrest := ih ((enclosed_other_iff hback hopen hclose).1 h)
    rw [List.cons_append, closeToken] <;> simp_all

theorem closeToken_eq_some_iff {cs raw rest : List Char} :
    closeToken 0 cs = some (raw, rest) ↔
      cs = raw ++ '\x7d' :: '\x7d' :: rest ∧ Enclosed 0 raw := by
  constructor
  · intro h
    exact ⟨eq_append_of_closeToken h, enclosed_of_closeToken h⟩
  · rintro ⟨rfl, h⟩
    exact closeToken_append h rest

end UrlRouter
