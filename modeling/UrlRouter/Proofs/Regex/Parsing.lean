import UrlRouter.Regex.Parser

/-!
Reading of the expressions that patterns are made of. A text is read to its items whatever stands
around it, except that a question mark must not follow.
-/

namespace UrlRouter.Regex

def isBare (c : Char) : Bool :=
  !(['\\', '.', '+', '*', '?', '(', ')', '|', '[', '\x7b', '^', '$'].contains c)

theorem isBare_of_not_isMeta {c : Char} (h : isMeta c = false) : isBare c = true := by
  simp [isMeta, isBare] at h ⊢
  simp [h]

structure Reads (src : List Char) (es : List Expr) : Prop where
  head : src.head? ≠ some '?'
  read : ∀ {steps rest} items branches, rest.head? ≠ some '?' → src.length + rest.length < steps →
    ∃ steps', rest.length < steps' ∧ readBody steps false items branches (src ++ rest) =
      readBody steps' false (es.reverse ++ items) branches rest

def ReadsBody (src : List Char) (e : Expr) : Prop :=
  ∀ {steps rest}, src.length + rest.length + 1 < steps →
    readBody steps false [] [] (src ++ ')' :: rest) = some (e, ')' :: rest)

theorem Reads.nil : Reads [] [] :=
  ⟨by simp, fun {steps _} _ _ _ hsteps => ⟨steps, by simpa using hsteps, rfl⟩⟩

theorem Reads.append {u v : List Char} {es fs : List Expr} (hu : Reads u es) (hv : Reads v fs) :
    Reads (u ++ v) (es ++ fs) := by
  have hhead {rest : List Char} (hrest : rest.head? ≠ some '?') : (v ++ rest).head? ≠ some '?' := by
    cases v with
    | nil => exact hrest
    | cons c v => exact hv.head
  refine ⟨?_, fun {steps rest} items branches hrest hsteps => ?_⟩
  · cases u with
    | nil => exact hv.head
    | cons c u => exact hu.head
  · have hlength : u.length + (v ++ rest).length < steps := by
      simpa [Nat.add_assoc] using hsteps
    obtain ⟨i, hi, heq⟩ := hu.read items branches (hhead hrest) hlength
    obtain ⟨j, hj, heq'⟩ := hv.read (es.reverse ++ items) branches hrest (by simpa using hi)
    refine ⟨j, hj, ?_⟩
    rw [List.append_assoc, heq, heq', List.reverse_append, List.append_assoc]

theorem Reads.of_step {c : Char} {src : List Char} {es : List Expr} (hc : c ≠ '?')
    (h : ∀ steps items branches rest, rest.head? ≠ some '?' →
      readBody (steps + 1) false items branches (c :: src ++ rest) =
        readBody steps false (es.reverse ++ items) branches rest) : Reads (c :: src) es := by
  refine ⟨by simpa using hc, fun {steps rest} items branches hrest hsteps => ?_⟩
  cases steps with
  | zero => omega
  | succ steps => exact ⟨steps, by simp at hsteps; omega, h steps items branches rest hrest⟩

theorem readBody_bare {c : Char} (hc : isBare c = true) (steps : Nat) (items branches : List Expr)
    (cs : List Char) : readBody (steps + 1) false items branches (c :: cs) =
      readBody steps false (.char c false :: items) branches cs := by
  rw [readBody.eq_def]
  simp only [skip]
  split
  -- All branches but the last one begin with a character that is not bare.
  all_goals
    next heq =>
      cases heq <;> first | cases hc | rfl

theorem Reads.bare {c : Char} (h : isBare c = true) : Reads [c] [.char c false] :=
  .of_step (by rintro rfl; cases h) fun steps items branches rest _ =>
    readBody_bare h steps items branches rest

theorem Reads.bareText {text : List Char} (h : ∀ c ∈ text, isBare c = true) :
    Reads text (text.map (.char · false)) := by
  induction text with
  | nil => exact .nil
  | cons c text ih =>
    exact (Reads.bare (h c List.mem_cons_self)).append
      (ih fun d hd => h d (List.mem_cons_of_mem _ hd))

theorem readEscape_meta {c : Char} (h : isMeta c = true) (cs : List Char) :
    readEscape false (c :: cs) = some (.char c false, cs) := by
  have hmem : c ∈ ['\\', '.', '+', '*', '?', '(', ')', '|', '[', ']', '\x7b', '\x7d', '^', '$', '#',
      '&', '-', '~'] := by
    simpa [isMeta] using h
  simp only [List.mem_cons, List.not_mem_nil, or_false] at hmem
  rcases hmem with rfl | rfl | rfl | rfl | rfl | rfl | rfl | rfl | rfl | rfl | rfl | rfl | rfl | rfl |
    rfl | rfl | rfl | rfl <;> rfl

theorem Reads.escaped {c : Char} (h : isMeta c = true) : Reads ['\\', c] [.char c false] := by
  refine .of_step (by decide) fun steps items branches rest _ => ?_
  change (readEscape false (c :: rest)).bind _ = _
  rw [readEscape_meta h]
  rfl

theorem Reads.escape (text : List Char) : Reads (escape text) (text.map (.char · false)) := by
  induction text with
  | nil => exact .nil
  | cons c text ih =>
    have hchar : Reads (escapeChar c) [.char c false] := by
      unfold escapeChar
      split
      · next h => exact .escaped h
      · next h => exact .bare (isBare_of_not_isMeta (by simpa using h))
    exact hchar.append ih

theorem readBody_close {steps : Nat} {items branches : List Expr} {rest : List Char}
    (h : 0 < steps) : readBody steps false items branches (')' :: rest) =
      some (.ofParts items branches, ')' :: rest) := by
  cases steps with
  | zero => cases h
  | succ steps => simp [readBody, skip]

theorem Reads.body {src : List Char} {es : List Expr} (h : Reads src es) :
    ReadsBody src (.ofItems es) := by
  intro steps rest hsteps
  have hlength : src.length + (')' :: rest).length < steps := by
    rw [List.length_cons]
    omega
  obtain ⟨i, hi, heq⟩ := h.read [] [] (by simp) hlength
  rw [heq, readBody_close (by omega)]
  simp [Expr.ofParts, Expr.ofBranches]

theorem readBody_branches (parts : List (List Char × List Expr)) (hne : parts ≠ [])
    (h : ∀ part ∈ parts, Reads part.1 part.2) (branches : List Expr) {steps : Nat}
    {rest : List Char}
    (hsteps : (['|'].intercalate (parts.map (·.1))).length + rest.length + 1 < steps) :
    readBody steps false [] branches (['|'].intercalate (parts.map (·.1)) ++ ')' :: rest) =
      some (.ofBranches (branches.reverse ++ parts.map fun part => Expr.ofItems part.2),
        ')' :: rest) := by
  induction parts generalizing steps branches with
  | nil => exact absurd rfl hne
  | cons part parts ih =>
    have hpart := h part List.mem_cons_self
    cases parts with
    | nil =>
      have hlength : part.1.length + (')' :: rest).length < steps := by
        simp at hsteps ⊢
        omega
      obtain ⟨i, hi, heq⟩ := hpart.read [] branches (by simp) hlength
      rw [List.map_singleton, List.intercalate_singleton, heq, readBody_close (by omega)]
      simp [Expr.ofParts]
    | cons next parts =>
      have ih := fun {steps} => @ih (by simp) (fun q hq => h q (List.mem_cons_of_mem _ hq))
        (Expr.ofItems part.2 :: branches) steps
      have hsplit : ['|'].intercalate ((part :: next :: parts).map (·.1)) =
          part.1 ++ '|' :: ['|'].intercalate ((next :: parts).map (·.1)) := by
        simp
      rw [hsplit] at hsteps ⊢
      generalize ['|'].intercalate ((next :: parts).map (·.1)) = tail at hsteps ih ⊢
      have hlength : part.1.length + ('|' :: (tail ++ ')' :: rest)).length < steps := by
        simp at hsteps ⊢
        omega
      obtain ⟨i, hi, heq⟩ := hpart.read [] branches (by simp) hlength
      rw [List.append_assoc, List.cons_append, heq]
      cases i with
      | zero => cases hi
      | succ i =>
        have hbar : readBody (i + 1) false (part.2.reverse ++ []) branches
            ('|' :: (tail ++ ')' :: rest)) =
            readBody i false [] (Expr.ofItems part.2 :: branches) (tail ++ ')' :: rest) := by
          simp [readBody, skip]
        rw [hbar, ih (by simp at hi; omega)]
        simp

theorem ReadsBody.words {words : List (List Char)} (hne : words ≠ []) :
    ReadsBody (['|'].intercalate (words.map escape))
      (.ofBranches (words.map fun w => Expr.ofItems (w.map (.char · false)))) := by
  intro steps rest hsteps
  let parts := words.map fun w => (Regex.escape w, w.map (Expr.char · false))
  have hparts : ∀ part ∈ parts, Reads part.1 part.2 := by
    intro part hpart
    obtain ⟨w, _, rfl⟩ := List.mem_map.1 hpart
    exact .escape w
  have htexts : parts.map (·.1) = words.map Regex.escape := List.map_map
  have hexprs : parts.map (fun part => Expr.ofItems part.2) =
      words.map fun w => Expr.ofItems (w.map (.char · false)) := List.map_map
  have hread := readBody_branches parts (by simpa [parts] using hne) hparts []
    (htexts ▸ hsteps)
  rwa [htexts, hexprs] at hread

def Opens (opening : List Char) (kind : Grouping) : Prop :=
  (∀ cs, readOpening (opening ++ cs) = some (.group kind, cs)) ∧ kind.ignoresBlanks false = false

theorem opens_plain : Opens ['?', ':'] (.plain []) := by
  refine ⟨fun cs => ?_, rfl⟩
  simp [readOpening, readFlags]

theorem splitAtSign_of_not_mem {c : Char} {text : List Char} (h : c ∉ text) (cs : List Char) :
    splitAtSign [c] (text ++ c :: cs) = some (text, cs) := by
  induction text with
  | nil =>
    have hprefix : [c].isPrefixOf? (c :: cs) = some cs := if_pos (beq_self_eq_true c)
    rw [List.nil_append, splitAtSign, hprefix]
  | cons d text ih =>
    rw [List.mem_cons, not_or] at h
    have hprefix : [c].isPrefixOf? (d :: (text ++ c :: cs)) = none := if_neg (by simpa using h.1)
    rw [List.cons_append, splitAtSign, hprefix, ih h.2]
    rfl

theorem opens_named {name : List Char} (hname : isGroupName name = true) (hend : '>' ∉ name) :
    Opens ('?' :: 'P' :: '<' :: name ++ ['>']) (.named name) := by
  refine ⟨fun cs => ?_, rfl⟩
  have hsplit := splitAtSign_of_not_mem hend cs
  simp [readOpening, readGroupName, hsplit, hname]

theorem readBody_group {opening body rest : List Char} {kind : Grouping} {e : Expr} {steps : Nat}
    (hopens : Opens opening kind) (hbody : ReadsBody body e)
    (hsteps : body.length + rest.length + 1 < steps) (items branches : List Expr) :
    readBody (steps + 1) false items branches ('(' :: (opening ++ (body ++ ')' :: rest))) =
      readBody steps false (.group kind e :: items) branches rest := by
  change (readOpening (opening ++ (body ++ ')' :: rest))).bind _ = _
  rw [hopens.1, Option.bind_some]
  dsimp only
  rw [hopens.2, hbody hsteps]
  rfl

theorem Reads.group {opening body : List Char} {kind : Grouping} {e : Expr}
    (hopens : Opens opening kind) (hbody : ReadsBody body e) :
    Reads ('(' :: (opening ++ body ++ [')'])) [.group kind e] := by
  refine ⟨by simp, fun {steps rest} items branches _ hsteps => ?_⟩
  cases steps with
  | zero => cases hsteps
  | succ steps =>
    simp only [List.length_cons, List.length_append, List.length_nil] at hsteps
    refine ⟨steps, by omega, ?_⟩
    simpa using readBody_group hopens hbody (by omega) items branches

theorem readLazy_of_head {cs : List Char} (h : cs.head? ≠ some '?') : readLazy cs = (true, cs) := by
  unfold readLazy
  split
  · exact absurd rfl h
  · rfl

theorem Reads.optional {opening body : List Char} {kind : Grouping} {e : Expr}
    (hopens : Opens opening kind) (hbody : ReadsBody body e) :
    Reads ('(' :: (opening ++ body ++ [')', '?'])) [.loop 0 (some 1) true (.group kind e)] := by
  refine ⟨by simp, fun {steps rest} items branches hrest hsteps => ?_⟩
  simp only [List.length_cons, List.length_append, List.length_nil] at hsteps
  obtain ⟨steps, rfl⟩ : ∃ i, steps = i + 2 := ⟨steps - 2, by omega⟩
  have hlength : body.length + ('?' :: rest).length + 1 < steps + 1 := by
    rw [List.length_cons]
    omega
  refine ⟨steps, by omega, ?_⟩
  simp only [List.cons_append, List.append_assoc, List.nil_append]
  rw [readBody_group hopens hbody hlength]
  simp [readBody, skip, readLazy_of_head hrest, repeatLast]

theorem readClass_noSlash (steps : Nat) (cs : List Char) :
    readClass (steps + 3) false ('^' :: '/' :: ']' :: cs) =
      some (.bracketed true (.range '/' '/'), cs) := by
  have hdashes : leadingDashes false [] ('/' :: ']' :: cs) = some ([], '/' :: ']' :: cs) := by
    rw [leadingDashes]
    simp
  have hrange : readRange false ('/' :: ']' :: cs) = some (.range '/' '/', ']' :: cs) := rfl
  simp [readClass, readItems, skip, step?, hdashes, hrange, Pending.close, ClassExpr.ofItems]

theorem Reads.segment :
    Reads ['[', '^', '/', ']', '+']
      [.loop 1 none true (.charClass (.bracketed true (.range '/' '/')))] := by
  refine ⟨by decide, fun {steps rest} items branches hrest hsteps => ?_⟩
  simp only [List.length_cons, List.length_nil] at hsteps
  obtain ⟨steps, rfl⟩ : ∃ i, steps = i + 3 := ⟨steps - 3, by omega⟩
  refine ⟨steps + 1, by omega, ?_⟩
  have hclass : readClass (2 * (steps + 2) + 2) false ('^' :: '/' :: ']' :: '+' :: rest) =
      some (.bracketed true (.range '/' '/'), '+' :: rest) := readClass_noSlash _ _
  have hopen : readBody (steps + 3) false items branches
      ('[' :: '^' :: '/' :: ']' :: '+' :: rest) =
      readBody (steps + 2) false (.charClass (.bracketed true (.range '/' '/')) :: items) branches
        ('+' :: rest) := by
    change (readClass (2 * (steps + 2) + 2) false ('^' :: '/' :: ']' :: '+' :: rest)).bind _ = _
    rw [hclass]
    rfl
  rw [List.cons_append, List.cons_append, List.cons_append, List.cons_append, List.cons_append,
    List.nil_append, hopen]
  simp [readBody, skip, readLazy_of_head hrest, repeatLast]

theorem read?_eq_some_iff {text : List Char} {e : Expr} : Expr.read? text = some e ↔
    readBody (text.length + 1) false [] [] text = some (e, []) ∧ e.groupNames.Nodup ∧
      e.depth ≤ 250 := by
  unfold Expr.read?
  split
  · next e' hbody =>
    rw [Option.ite_none_right_eq_some, Option.some.injEq]
    constructor
    · rintro ⟨hwell, rfl⟩
      exact ⟨hbody, hwell⟩
    · rintro ⟨hread, hwell⟩
      cases hbody.symm.trans hread
      exact ⟨hwell, rfl⟩
  · next hne =>
    refine ⟨nofun, fun ⟨hread, _⟩ => ?_⟩
    exact (hne e hread).elim

theorem readBody_plainGroup {steps : Nat} {items branches : List Expr} {cs rest : List Char}
    {e : Expr}
    (h : readBody (steps + 1) false items branches ('(' :: '?' :: ':' :: cs) = some (e, rest)) :
    ∃ body cs', readBody steps false [] [] cs = some (body, ')' :: cs') ∧
      readBody steps false (.group (.plain []) body :: items) branches cs' = some (e, rest) := by
  obtain ⟨⟨body, cs'⟩, hbody, h⟩ := Option.bind_eq_some_iff.1 h
  dsimp only at h
  split at h
  · exact ⟨body, _, hbody, h⟩
  · cases h

theorem group_of_read?_anchored {src : List Char} {whole : Expr}
    (h : Expr.read? ('^' :: '(' :: '?' :: ':' :: (src ++ [')', '$'])) = some whole) :
    ∃ body cs,
      readBody (src.length + 5) false [] [] (src ++ [')', '$']) = some (body, ')' :: cs) ∧
      readBody (src.length + 5) false [.group (.plain []) body, .mark .lineStart] [] cs =
        some (whole, []) := by
  obtain ⟨hread, _⟩ := read?_eq_some_iff.1 h
  have hlength : ('^' :: '(' :: '?' :: ':' :: (src ++ [')', '$'])).length + 1 =
      src.length + 7 := by
    simp
  rw [hlength] at hread
  have hmark : readBody (src.length + 6) false [.mark .lineStart] []
      ('(' :: '?' :: ':' :: (src ++ [')', '$'])) = some (whole, []) := hread
  exact readBody_plainGroup hmark

theorem read?_anchored {src : List Char} {e whole : Expr} (h : ReadsBody src e)
    (hread : Expr.read? ('^' :: '(' :: '?' :: ':' :: (src ++ [')', '$'])) = some whole) :
    whole = .seq [.mark .lineStart, .group (.plain []) e, .mark .lineEnd] ∧ e.groupNames.Nodup := by
  obtain ⟨body, cs, hbody, hrest⟩ := group_of_read?_anchored hread
  have hsrc : readBody (src.length + 5) false [] [] (src ++ ')' :: ['$']) =
      some (e, ')' :: ['$']) :=
    h (by simp)
  cases hbody.symm.trans hsrc
  have hwhole : some (Expr.seq [.mark .lineStart, .group (.plain []) e, .mark .lineEnd], []) =
      some (whole, []) := hrest
  cases hwhole
  obtain ⟨_, hnames, _⟩ := read?_eq_some_iff.1 hread
  refine ⟨rfl, ?_⟩
  simpa [Expr.groupNames, namesOfAll] using hnames

end UrlRouter.Regex
