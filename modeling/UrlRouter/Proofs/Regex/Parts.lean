import UrlRouter.Proofs.Regex.Parsing

/-!
The reader of expressions by parts: each equation says what one step takes from the text. Whatever
a reader leaves over is an end of the text it was given.
-/

namespace UrlRouter.Regex

open Unicode

structure Behind (rest cs : List Char) : Prop where
  suffix : rest <:+ cs
  shorter : rest.length < cs.length

theorem behind_cons {rest cs : List Char} (h : rest <:+ cs) (c : Char) : Behind rest (c :: cs) :=
  ⟨h.trans (List.suffix_cons c cs), Nat.lt_succ_of_le h.length_le⟩

theorem Behind.of_suffix {rest mid cs : List Char} (h : Behind rest mid) (hmid : mid <:+ cs) :
    Behind rest cs :=
  ⟨h.suffix.trans hmid, Nat.lt_of_lt_of_le h.shorter hmid.length_le⟩

theorem Behind.end_of {rest mid cs : List Char} (h : rest <:+ mid) (hmid : Behind mid cs) :
    Behind rest cs :=
  ⟨h.trans hmid.suffix, Nat.lt_of_le_of_lt h.length_le hmid.shorter⟩

theorem suffix_dropIgnored (comment : Bool) (cs : List Char) : dropIgnored comment cs <:+ cs := by
  induction cs generalizing comment with
  | nil => simp [dropIgnored]
  | cons c cs ih =>
    have hbehind (comment : Bool) : dropIgnored comment cs <:+ c :: cs :=
      (ih comment).trans (List.suffix_cons c cs)
    cases comment with
    | true => exact hbehind _
    | false =>
      rw [dropIgnored]
      split
      · exact hbehind _
      split
      · exact hbehind _
      · exact List.suffix_rfl

theorem suffix_skip (blanks : Bool) (cs : List Char) : skip blanks cs <:+ cs := by
  unfold skip
  split
  · exact suffix_dropIgnored _ _
  · exact List.suffix_rfl

theorem suffix_of_skip_cons {blanks : Bool} {c : Char} {cs rest : List Char}
    (h : skip blanks cs = c :: rest) : rest <:+ cs :=
  (List.suffix_cons c rest).trans (h ▸ suffix_skip blanks cs)

theorem suffix_step? {blanks : Bool} {cs rest : List Char} (h : step? blanks cs = some rest) :
    rest <:+ cs := by
  unfold step? at h
  split at h
  · cases h
  · cases h
    exact (suffix_skip _ _).trans (List.drop_suffix 1 cs)

theorem suffix_hexDigits? {blanks : Bool} {count value n : Nat} {cs rest : List Char}
    (h : hexDigits? blanks count value cs = some (n, rest)) : rest <:+ cs := by
  induction count generalizing value cs with
  | zero =>
    cases h
    exact List.suffix_rfl
  | succ count ih =>
    cases cs with
    | nil => cases h
    | cons c cs =>
      obtain ⟨d, _, h⟩ := Option.bind_eq_some_iff.1 h
      exact ((ih h).trans (suffix_skip _ _)).trans (List.suffix_cons c cs)

theorem suffix_untilBrace {blanks : Bool} {cs text rest : List Char}
    (h : untilBrace blanks cs = some (text, rest)) : rest <:+ cs := by
  fun_induction untilBrace blanks cs generalizing text with
  | case1 => cases h
  | case2 cs rest' hskip =>
    cases h
    exact suffix_of_skip_cons hskip
  | case3 cs c rest' hne hskip ih =>
    obtain ⟨⟨text', rest'⟩, hread, heq⟩ := Option.map_eq_some_iff.1 h
    cases heq
    exact (ih hread).trans (suffix_of_skip_cons hskip)

theorem suffix_readHex {blanks : Bool} {count : Nat} {cs rest : List Char} {a : Atom}
    (h : readHex blanks count cs = some (a, rest)) : rest <:+ cs := by
  unfold readHex at h
  split at h
  · next cs' hskip =>
    obtain ⟨⟨text, cs''⟩, htext, h⟩ := Option.bind_eq_some_iff.1 h
    obtain ⟨ds, _, h⟩ := Option.bind_eq_some_iff.1 h
    dsimp only at h
    split at h
    · cases h
    obtain ⟨c, _, h⟩ := Option.bind_eq_some_iff.1 h
    cases h
    exact (suffix_skip _ _).trans ((suffix_untilBrace htext).trans (suffix_of_skip_cons hskip))
  · obtain ⟨⟨n, cs'⟩, hdigits, h⟩ := Option.bind_eq_some_iff.1 h
    obtain ⟨c, _, h⟩ := Option.bind_eq_some_iff.1 h
    cases h
    exact (suffix_hexDigits? hdigits).trans (suffix_skip _ _)

theorem splitAtSign_cons (c d : Char) (cs : List Char) : splitAtSign [c] (d :: cs) =
    if c = d then some ([], cs) else (splitAtSign [c] cs).map fun (a, b) => (d :: a, b) := by
  have hprefix : [c].isPrefixOf? (d :: cs) = if c == d then some cs else none := rfl
  rw [splitAtSign, hprefix]
  by_cases heq : c = d
  · rw [if_pos heq, if_pos (beq_iff_eq.2 heq)]
  · rw [if_neg heq, if_neg (fun h => heq (beq_iff_eq.1 h))]

theorem behind_splitAtSign {c : Char} {cs text rest : List Char}
    (h : splitAtSign [c] cs = some (text, rest)) : Behind rest cs := by
  induction cs generalizing text with
  | nil => cases h
  | cons d cs ih =>
    rw [splitAtSign_cons] at h
    split at h
    · cases h
      exact behind_cons List.suffix_rfl d
    · obtain ⟨⟨text', rest'⟩, hread, heq⟩ := Option.map_eq_some_iff.1 h
      cases heq
      exact behind_cons (ih hread).suffix d

theorem suffix_readNamedClass {blanks negated : Bool} {cs rest : List Char} {a : Atom}
    (h : readNamedClass blanks negated cs = some (a, rest)) : rest <:+ cs := by
  unfold readNamedClass at h
  split at h
  · cases h
  · next hskip =>
    obtain ⟨⟨text, cs'⟩, htext, h⟩ := Option.bind_eq_some_iff.1 h
    cases h
    exact (suffix_untilBrace htext).trans (suffix_of_skip_cons hskip)
  · next hskip =>
    split at h
    · cases h
    · cases h
      exact (suffix_skip _ _).trans (suffix_of_skip_cons hskip)

theorem suffix_markLetters {blanks : Bool} {cs text rest : List Char}
    (h : markLetters blanks cs = (text, rest)) : rest <:+ cs := by
  fun_induction markLetters blanks cs generalizing text with
  | case1 =>
    cases h
    exact List.suffix_rfl
  | case2 c cs hletter text' rest' hread ih =>
    cases h
    exact (ih hread).trans ((suffix_skip _ _).trans (List.suffix_cons c cs))
  | case3 c cs =>
    cases h
    exact List.suffix_rfl

theorem suffix_readBoundary {blanks : Bool} {cs rest : List Char} {m : Mark}
    (h : readBoundary blanks cs = some (m, rest)) : rest <:+ cs := by
  unfold readBoundary at h
  split at h
  · next inner =>
    split at h
    · cases h
    · next c rest' hskip =>
      split at h
      · split at h
        · next text cs' hletters =>
          obtain ⟨kind, _, heq⟩ := Option.map_eq_some_iff.1 h
          cases heq
          have hinner : c :: rest' <:+ inner := hskip ▸ suffix_skip blanks inner
          exact (List.suffix_cons _ _).trans ((suffix_markLetters hletters).trans
            (hinner.trans (List.suffix_cons _ _)))
        · cases h
      · cases h
        exact List.suffix_rfl
  · cases h
    exact List.suffix_rfl

theorem suffix_readEscape {blanks : Bool} {cs rest : List Char} {a : Atom}
    (h : readEscape blanks cs = some (a, rest)) : rest <:+ cs := by
  cases cs with
  | nil => cases h
  | cons c cs =>
    refine List.IsSuffix.trans ?_ (List.suffix_cons c cs)
    rw [readEscape.eq_def] at h
    dsimp only at h
    split at h
    any_goals exact suffix_readHex h
    any_goals exact suffix_readNamedClass h
    any_goals
      cases h
      exact List.suffix_rfl
    · obtain ⟨⟨m, cs'⟩, hread, heq⟩ := Option.map_eq_some_iff.1 h
      cases heq
      exact suffix_readBoundary hread
    · split at h
      · cases h
        exact List.suffix_rfl
      · cases h

def caret : List Char → Bool × List Char
  | '^' :: cs => (true, cs)
  | cs => (false, cs)

theorem suffix_caret (cs : List Char) : (caret cs).2 <:+ cs := by
  unfold caret
  split
  · exact List.suffix_cons _ _
  · exact List.suffix_rfl

theorem readPosix?_colon (cs : List Char) : readPosix? (':' :: cs) =
    match splitAtSign [':'] (caret cs).2 with
    | some (name, ']' :: rest) => (posixClass? name).map fun k => (.posix k (caret cs).1, rest)
    | _ => none := rfl

theorem suffix_readPosix? {cs rest : List Char} {e : ClassExpr}
    (h : readPosix? cs = some (e, rest)) : rest <:+ cs := by
  by_cases hcolon : ∃ cs', cs = ':' :: cs'
  · obtain ⟨cs', rfl⟩ := hcolon
    rw [readPosix?_colon] at h
    split at h
    · next hsign =>
      obtain ⟨kind, _, heq⟩ := Option.map_eq_some_iff.1 h
      cases heq
      have hname := (behind_splitAtSign hsign).suffix.trans (suffix_caret cs')
      exact (List.suffix_cons _ _).trans (hname.trans (List.suffix_cons _ _))
    · cases h
  · unfold readPosix? at h
    split at h
    · exact absurd ⟨_, rfl⟩ hcolon
    · cases h

theorem behind_readElement {blanks : Bool} {cs rest : List Char} {a : Atom}
    (h : readElement blanks cs = some (a, rest)) : Behind rest cs := by
  unfold readElement at h
  split at h
  · cases h
  · exact behind_cons (suffix_readEscape h) _
  · cases h
    exact behind_cons List.suffix_rfl _

def startsRange (blanks : Bool) : List Char → Bool
  | '-' :: after =>
      match behindDash blanks after with
      | ']' :: _ | '-' :: _ => false
      | _ => true
  | _ => false

theorem startsRange_dash (blanks : Bool) (after : List Char) : startsRange blanks ('-' :: after) =
    !(behindDash blanks after).head?.any [']', '-'].contains := by
  rw [startsRange]
  rcases behindDash blanks after with _ | ⟨c, cs⟩
  · rfl
  · by_cases hbracket : c = ']'
    · subst hbracket
      rfl
    by_cases hdash : c = '-'
    · subst hdash
      rfl
    split <;> simp_all

def Atom.single? : Atom → Option ClassExpr
  | .char c _ => some (.range c c)
  | .charClass e => some e
  | .mark _ => none

def Atom.range? : Atom → Atom → Option ClassExpr
  | .char low _, .char high _ => if low ≤ high then some (.range low high) else none
  | _, _ => none

theorem readRange_eq (blanks : Bool) (cs : List Char) : readRange blanks cs =
    (readElement blanks cs).bind fun (first, cs) =>
      let cs := skip blanks cs
      if startsRange blanks cs then
        (step? blanks cs).bind fun cs =>
          (readElement blanks cs).bind fun (last, cs) => (first.range? last).map fun e => (e, cs)
      else if cs = [] then none else first.single?.map fun e => (e, cs) := by
  unfold readRange
  refine congrArg _ (funext fun read => ?_)
  obtain ⟨first, cs⟩ := read
  dsimp only
  cases hstarts : startsRange blanks (skip blanks cs) with
  | true =>
    refine (if_pos hstarts).trans (Eq.trans ?_ (if_pos rfl).symm)
    refine congrArg _ (funext fun cs => congrArg _ (funext fun read => ?_))
    obtain ⟨last, cs⟩ := read
    cases first <;> cases last <;> try rfl
    dsimp only [Atom.range?]
    split <;> rfl
  | false =>
    refine (if_neg (ne_true_of_eq_false hstarts)).trans (Eq.trans ?_ (if_neg Bool.false_ne_true).symm)
    cases first <;> rfl

theorem behind_readRange {blanks : Bool} {cs rest : List Char} {e : ClassExpr}
    (h : readRange blanks cs = some (e, rest)) : Behind rest cs := by
  rw [readRange_eq] at h
  obtain ⟨⟨first, cs₁⟩, hfirst, h⟩ := Option.bind_eq_some_iff.1 h
  have hcs := Behind.end_of (suffix_skip blanks cs₁) (behind_readElement hfirst)
  dsimp only at h
  generalize skip blanks cs₁ = cs₂ at h hcs
  split at h
  · obtain ⟨cs₃, hstep, h⟩ := Option.bind_eq_some_iff.1 h
    obtain ⟨⟨last, cs₄⟩, hlast, h⟩ := Option.bind_eq_some_iff.1 h
    obtain ⟨_, _, heq⟩ := Option.map_eq_some_iff.1 h
    cases heq
    exact hcs.end_of ((behind_readElement hlast).suffix.trans (suffix_step? hstep))
  · split at h
    · cases h
    · obtain ⟨_, _, heq⟩ := Option.map_eq_some_iff.1 h
      cases heq
      exact hcs

theorem suffix_leadingDashes {blanks : Bool} {items items' : List ClassExpr} {cs rest : List Char}
    (h : leadingDashes blanks items cs = some (items', rest)) : rest <:+ cs := by
  fun_induction leadingDashes blanks items cs with
  | case1 => cases h
  | case2 items cs c after hskip ih =>
    have hafter : c :: after <:+ cs := hskip ▸ suffix_skip blanks cs
    exact (ih h).trans (hafter.trans (List.suffix_cons _ _))
  | case3 =>
    cases h
    exact List.suffix_rfl

def readNegation (blanks : Bool) : List Char → Option (Bool × List Char)
  | '^' :: cs => (step? blanks ('^' :: cs)).map fun cs => (true, cs)
  | cs => some (false, cs)

/-- A closing bracket at the start of a class stands for itself. -/
def readFirstBracket (blanks : Bool) :
    List ClassExpr → List Char → Option (List ClassExpr × List Char)
  | [], ']' :: cs => (step? blanks (']' :: cs)).map fun cs => ([.range ']' ']'], cs)
  | items, cs => some (items, cs)

theorem readClass_succ (steps : Nat) (blanks : Bool) (cs : List Char) :
    readClass (steps + 1) blanks cs =
      if skip blanks cs = [] then none
      else
        (readNegation blanks (skip blanks cs)).bind fun (negated, cs) =>
          (leadingDashes blanks [] cs).bind fun (items, cs) =>
            (readFirstBracket blanks items cs).bind fun (items, cs) =>
              (readItems steps blanks none items cs).bind fun (e, cs) =>
                some (.bracketed negated e, cs) := by
  rw [readClass]
  dsimp only
  split
  · rfl
  · have hbracket (negated : Bool) (items : List ClassExpr) (cs : List Char) :
        (match items, cs with
        | [], ']' :: _ => do
            let (items, cs) ← (step? blanks cs).map fun cs => ([ClassExpr.range ']' ']'], cs)
            let (e, cs) ← readItems steps blanks none items cs
            some (ClassExpr.bracketed negated e, cs)
        | items, cs => do
            let (items, cs) ← some (items, cs)
            let (e, cs) ← readItems steps blanks none items cs
            some (ClassExpr.bracketed negated e, cs)) =
          (readFirstBracket blanks items cs).bind fun (items, cs) =>
            (readItems steps blanks none items cs).bind fun (e, cs) =>
              some (.bracketed negated e, cs) := by
      unfold readFirstBracket
      split <;> rfl
    have hrest : (fun x : Bool × List Char => _) = _ :=
      funext fun x => congrArg (Option.bind (leadingDashes blanks [] x.2))
        (funext fun y => hbracket x.1 y.1 y.2)
    generalize skip blanks cs = text
    split
    · exact congrArg (Option.bind _) hrest
    · next hne =>
      have hnegation : readNegation blanks text = some (false, text) := by
        unfold readNegation
        split
        · exact absurd rfl (hne _)
        · rfl
      rw [hnegation]
      exact congrArg (Option.bind _) hrest

theorem suffix_readNegation {blanks negated : Bool} {cs rest : List Char}
    (h : readNegation blanks cs = some (negated, rest)) : rest <:+ cs := by
  unfold readNegation at h
  split at h
  · obtain ⟨_, hstep, heq⟩ := Option.map_eq_some_iff.1 h
    cases heq
    exact suffix_step? hstep
  · cases h
    exact List.suffix_rfl

theorem suffix_readFirstBracket {blanks : Bool} {items items' : List ClassExpr}
    {cs rest : List Char} (h : readFirstBracket blanks items cs = some (items', rest)) :
    rest <:+ cs := by
  unfold readFirstBracket at h
  split at h
  · obtain ⟨_, hstep, heq⟩ := Option.map_eq_some_iff.1 h
    cases heq
    exact suffix_step? hstep
  · cases h
    exact List.suffix_rfl

inductive ClassPart where
  | close
  | item (e : ClassExpr)
  | op (kind : ClassOp)

def readClassPart? (inner : List Char → Option (ClassExpr × List Char)) (blanks : Bool) :
    List Char → Option (ClassPart × List Char)
  | [] => none
  | '[' :: cs => ((readPosix? cs).or (inner cs)).map fun (e, cs) => (.item e, cs)
  | ']' :: cs => some (.close, cs)
  | '&' :: '&' :: cs => some (.op .inter, cs)
  | '-' :: '-' :: cs => some (.op .diff, cs)
  | '~' :: '~' :: cs => some (.op .symmDiff, cs)
  | cs => (readRange blanks cs).map fun (e, cs) => (.item e, cs)

theorem readItems_succ (steps : Nat) (blanks : Bool) (pending : Pending) (items : List ClassExpr)
    (cs : List Char) : readItems (steps + 1) blanks pending items cs =
      (readClassPart? (readClass steps blanks) blanks (skip blanks cs)).bind fun (part, cs) =>
        match part with
        | .close => some (pending.close items, cs)
        | .item e => readItems steps blanks pending (e :: items) cs
        | .op kind => readItems steps blanks (some (kind, pending.close items)) [] cs := by
  rw [readItems]
  generalize skip blanks cs = text
  split
  · rfl
  · next cs' =>
    rw [readClassPart?]
    cases readPosix? cs' with
    | some found => rfl
    | none =>
      dsimp only [Option.or_none, Option.none_or]
      cases readClass steps blanks cs' <;> rfl
  · rfl
  · rfl
  · rfl
  · rfl
  · rw [readClassPart?.eq_7]
    · cases readRange blanks text <;> rfl
    all_goals assumption

inductive Part where
  | close
  | branch
  | item (e : Expr)
  | opening (o : Opening)
  | again (bounds : Nat × Option Nat) (greedy : Bool)

def again (bounds : Nat × Option Nat) (cs : List Char) : Part × List Char :=
  (.again bounds (readLazy cs).1, (readLazy cs).2)

def readPart? (steps : Nat) (blanks first : Bool) : List Char → Option (Part × List Char)
  | [] => some (.close, [])
  | ')' :: cs => some (.close, ')' :: cs)
  | '|' :: cs => some (.branch, cs)
  | '(' :: cs => (readOpening (skip blanks cs)).map fun (o, cs) => (.opening o, cs)
  | '[' :: cs => (readClass (2 * steps + 2) blanks cs).map fun (e, cs) => (.item (.charClass e), cs)
  | '?' :: cs => some (again (0, some 1) cs)
  | '*' :: cs => some (again (0, none) cs)
  | '+' :: cs => some (again (1, none) cs)
  | '\x7b' :: cs =>
      if first then none
      else (readBounds blanks cs).map fun (bounds, cs) => again bounds (skip blanks cs)
  | '\\' :: cs => (readEscape blanks cs).map fun (a, cs) => (.item a.toExpr, cs)
  | '.' :: cs => some (.item .dot, cs)
  | '^' :: cs => some (.item (.mark .lineStart), cs)
  | '$' :: cs => some (.item (.mark .lineEnd), cs)
  | c :: cs => some (.item (.char c false), cs)

def readBehind (steps : Nat) (blanks : Bool) (items branches : List Expr) :
    Part → List Char → Option (Expr × List Char)
  | .close, cs => some (Expr.ofParts items branches, cs)
  | .branch, cs => readBody steps blanks [] (Expr.ofItems items.reverse :: branches) cs
  | .item e, cs => readBody steps blanks (e :: items) branches cs
  | .opening (.flags changes), cs =>
      readBody steps ((changes.state? .ignoreBlanks).getD blanks) (.flags changes :: items)
        branches cs
  | .opening (.group kind), cs =>
      (readBody steps (kind.ignoresBlanks blanks) [] [] cs).bind fun (body, cs) =>
        match cs with
        | ')' :: cs => readBody steps blanks (.group kind body :: items) branches cs
        | _ => none
  | .again bounds greedy, cs =>
      (repeatLast bounds greedy items).bind fun items => readBody steps blanks items branches cs

theorem readBody_succ (steps : Nat) (blanks : Bool) (items branches : List Expr) (cs : List Char) :
    readBody (steps + 1) blanks items branches cs =
      (readPart? steps blanks items.isEmpty (skip blanks cs)).bind fun (part, cs) =>
        readBehind steps blanks items branches part cs := by
  rw [readBody.eq_def]
  dsimp only
  generalize skip blanks cs = text
  split
  · rfl
  · rfl
  · rfl
  · next cs' =>
    rw [readPart?]
    rcases readOpening (skip blanks cs') with _ | ⟨_ | _, _⟩ <;> rfl
  · next cs' =>
    rw [readPart?]
    cases readClass (2 * steps + 2) blanks cs' <;> rfl
  · rfl
  · rfl
  · rfl
  · next cs' =>
    rw [readPart?]
    cases items.isEmpty with
    | true => rfl
    | false => cases readBounds blanks cs' <;> rfl
  · next cs' =>
    rw [readPart?]
    cases readEscape blanks cs' <;> rfl
  · rfl
  · rfl
  · rfl
  · rw [readPart?.eq_14]
    · rfl
    all_goals assumption

theorem behind_readClassPart? {inner : List Char → Option (ClassExpr × List Char)} {blanks : Bool}
    {cs rest : List Char} {part : ClassPart}
    (hinner : ∀ {cs rest e}, inner cs = some (e, rest) → rest <:+ cs)
    (h : readClassPart? inner blanks cs = some (part, rest)) : Behind rest cs := by
  unfold readClassPart? at h
  split at h
  · cases h
  · next cs' =>
    obtain ⟨⟨e, rest'⟩, hread, heq⟩ := Option.map_eq_some_iff.1 h
    cases heq
    rcases Option.or_eq_some_iff.1 hread with hread | ⟨_, hread⟩
    · exact behind_cons (suffix_readPosix? hread) _
    · exact behind_cons (hinner hread) _
  · cases h
    exact behind_cons List.suffix_rfl _
  · cases h
    exact behind_cons (List.suffix_cons _ _) _
  · cases h
    exact behind_cons (List.suffix_cons _ _) _
  · cases h
    exact behind_cons (List.suffix_cons _ _) _
  · obtain ⟨⟨e, rest'⟩, hread, heq⟩ := Option.map_eq_some_iff.1 h
    cases heq
    exact behind_readRange hread

theorem behind_readClass_readItems (steps : Nat) :
    (∀ {blanks : Bool} {cs rest : List Char} {e : ClassExpr},
      readClass steps blanks cs = some (e, rest) → Behind rest cs) ∧
    ∀ {blanks : Bool} {pending : Pending} {items : List ClassExpr} {cs rest : List Char}
      {e : ClassExpr},
      readItems steps blanks pending items cs = some (e, rest) → Behind rest cs := by
  induction steps with
  | zero =>
    refine ⟨fun h => ?_, fun h => ?_⟩
    · cases h
    · cases h
  | succ steps ih =>
    obtain ⟨hclass, hitems⟩ := ih
    refine ⟨fun {blanks cs rest e} h => ?_, fun {blanks pending items cs rest e} h => ?_⟩
    · rw [readClass_succ] at h
      split at h
      · cases h
      obtain ⟨⟨negated, cs₁⟩, hnegation, h⟩ := Option.bind_eq_some_iff.1 h
      obtain ⟨⟨items₂, cs₂⟩, hdashes, h⟩ := Option.bind_eq_some_iff.1 h
      obtain ⟨⟨items₃, cs₃⟩, hbracket, h⟩ := Option.bind_eq_some_iff.1 h
      obtain ⟨⟨inner, cs₄⟩, hread, heq⟩ := Option.bind_eq_some_iff.1 h
      cases heq
      have hdashes : cs₃ <:+ cs₁ :=
        (suffix_readFirstBracket hbracket).trans (suffix_leadingDashes hdashes)
      exact (hitems hread).of_suffix
        (hdashes.trans ((suffix_readNegation hnegation).trans (suffix_skip _ _)))
    · rw [readItems_succ] at h
      obtain ⟨⟨part, cs'⟩, hpart, h⟩ := Option.bind_eq_some_iff.1 h
      have hcs : Behind cs' cs :=
        (behind_readClassPart? (fun hread => (hclass hread).suffix) hpart).of_suffix
          (suffix_skip blanks cs)
      cases part with
      | close =>
        cases h
        exact hcs
      | item e' => exact hcs.end_of (hitems h).suffix
      | op kind => exact hcs.end_of (hitems h).suffix

theorem behind_readItems {steps : Nat} {blanks : Bool} {pending : Pending} {items : List ClassExpr}
    {cs rest : List Char} {e : ClassExpr}
    (h : readItems steps blanks pending items cs = some (e, rest)) : Behind rest cs :=
  (behind_readClass_readItems steps).2 h

theorem suffix_readClass {steps : Nat} {blanks : Bool} {cs rest : List Char} {e : ClassExpr}
    (h : readClass steps blanks cs = some (e, rest)) : rest <:+ cs :=
  ((behind_readClass_readItems steps).1 h).suffix

theorem suffix_readFlags {negated : Bool} {seen changes : FlagChanges} {cs rest : List Char}
    (h : readFlags negated seen cs = some (changes, rest)) : rest <:+ cs := by
  fun_induction readFlags negated seen cs with
  | case1 | case2 | case3 | case4 | case5 | case8 | case10 => cases h
  | case6 seen cs _ _ _ ih => exact (ih h).trans (List.suffix_cons '-' cs)
  | case7 =>
    cases h
    exact List.suffix_rfl
  | case9 negated seen c cs _ _ _ _ _ ih => exact (ih h).trans (List.suffix_cons c cs)

theorem suffix_readGroupName {cs rest : List Char} {o : Opening}
    (h : readGroupName cs = some (o, rest)) : rest <:+ cs := by
  obtain ⟨⟨name, cs'⟩, hsign, h⟩ := Option.bind_eq_some_iff.1 h
  obtain ⟨_, heq⟩ := Option.ite_none_right_eq_some.1 h
  cases heq
  exact (behind_splitAtSign hsign).suffix

def FlagChanges.opening? (changes : FlagChanges) (c : Char) : Option Opening :=
  if c = ':' then some (.group (.plain changes))
  else if changes = [] then none
  else some (.flags changes)

theorem FlagChanges.opening?_bind (changes : FlagChanges) (cs : List Char) : (match cs with
    | ':' :: cs => some (.group (.plain changes), cs)
    | _ :: cs => if changes = [] then none else some (.flags changes, cs)
    | [] => none) = cs.head?.bind fun c => (changes.opening? c).map fun o => (o, cs.tail) := by
  cases cs with
  | nil => rfl
  | cons c cs =>
    by_cases hcolon : c = ':'
    · subst hcolon
      rfl
    · rw [List.head?_cons, Option.bind_some, opening?, if_neg hcolon]
      split
      · next heq =>
        cases heq
        exact absurd rfl hcolon
      · next heq =>
        cases heq
        split <;> rfl
      · next heq => cases heq

theorem suffix_readOpening {cs rest : List Char} {o : Opening}
    (h : readOpening cs = some (o, rest)) : rest <:+ cs := by
  unfold readOpening at h
  split at h
  · cases h
  · cases h
  · cases h
  · cases h
  · exact (suffix_readGroupName h).trans ((List.suffix_cons _ _).trans
      ((List.suffix_cons _ _).trans (List.suffix_cons _ _)))
  · exact (suffix_readGroupName h).trans ((List.suffix_cons _ _).trans (List.suffix_cons _ _))
  · obtain ⟨⟨changes, cs'⟩, hflags, h⟩ := Option.bind_eq_some_iff.1 h
    have hcs := (suffix_readFlags hflags).trans (List.suffix_cons '?' _)
    dsimp only at h
    split at h
    · cases h
      exact (List.suffix_cons _ _).trans hcs
    · split at h
      · cases h
      · cases h
        exact (List.suffix_cons _ _).trans hcs
    · cases h
  · cases h
    exact List.suffix_rfl

theorem suffix_digitsOf {blanks : Bool} {cs ds rest : List Char}
    (h : digitsOf blanks cs = (ds, rest)) : rest <:+ cs := by
  fun_induction digitsOf blanks cs generalizing ds with
  | case1 =>
    cases h
    exact List.suffix_rfl
  | case2 c cs hdigit ds' rest' hread ih =>
    cases h
    exact (ih hread).trans ((suffix_skip _ _).trans (List.suffix_cons c cs))
  | case3 c cs =>
    cases h
    exact List.suffix_rfl

theorem suffix_readCount {blanks : Bool} {n : Nat} {cs rest : List Char}
    (h : readCount blanks cs = some (n, rest)) : rest <:+ cs := by
  unfold readCount at h
  dsimp only at h
  split at h
  · cases h
  · cases h
    have hdigits := suffix_digitsOf (rfl : digitsOf blanks (cs.dropWhile isWhiteSpace) = _)
    exact (suffix_skip _ _).trans ((List.dropWhile_suffix _).trans
      (hdigits.trans (List.dropWhile_suffix _)))

def readMost (blanks : Bool) (least : Nat) (cs : List Char) :
    Option ((Nat × Option Nat) × List Char) :=
  match skip blanks cs with
  | '\x7d' :: cs => some ((least, none), cs)
  | cs => (readCount blanks cs).bind fun (most, cs) =>
      match cs with
      | '\x7d' :: cs => if least ≤ most then some ((least, some most), cs) else none
      | _ => none

theorem readBounds_eq (blanks : Bool) (cs : List Char) : readBounds blanks cs =
    (readCount blanks (skip blanks cs)).bind fun (least, cs) =>
      match cs with
      | '\x7d' :: cs => some ((least, some least), cs)
      | ',' :: cs => readMost blanks least cs
      | _ => none := rfl

theorem suffix_readMost {blanks : Bool} {least : Nat} {bounds : Nat × Option Nat}
    {cs rest : List Char} (h : readMost blanks least cs = some (bounds, rest)) : rest <:+ cs := by
  unfold readMost at h
  split at h
  · next hskip =>
    cases h
    exact suffix_of_skip_cons hskip
  · obtain ⟨⟨most, cs'⟩, hmost, h⟩ := Option.bind_eq_some_iff.1 h
    have hcs := (suffix_readCount hmost).trans (suffix_skip _ _)
    dsimp only at h
    split at h
    · obtain ⟨_, heq⟩ := Option.ite_none_right_eq_some.1 h
      cases heq
      exact (List.suffix_cons _ _).trans hcs
    · cases h

theorem suffix_readBounds {blanks : Bool} {bounds : Nat × Option Nat} {cs rest : List Char}
    (h : readBounds blanks cs = some (bounds, rest)) : rest <:+ cs := by
  rw [readBounds_eq] at h
  obtain ⟨⟨least, cs'⟩, hleast, h⟩ := Option.bind_eq_some_iff.1 h
  refine List.IsSuffix.trans ?_ ((suffix_readCount hleast).trans (suffix_skip _ _))
  dsimp only at h
  split at h
  · cases h
    exact List.suffix_cons _ _
  · exact (suffix_readMost h).trans (List.suffix_cons _ _)
  · cases h

theorem suffix_readLazy (cs : List Char) : (readLazy cs).2 <:+ cs := by
  unfold readLazy
  split
  · exact List.suffix_cons _ _
  · exact List.suffix_rfl

theorem behind_readPart? {steps : Nat} {blanks first : Bool} {cs rest : List Char} {part : Part}
    (h : readPart? steps blanks first cs = some (part, rest)) :
    part = .close ∧ rest = cs ∨ Behind rest cs := by
  unfold readPart? at h
  split at h
  · cases h
    exact .inl ⟨rfl, rfl⟩
  · cases h
    exact .inl ⟨rfl, rfl⟩
  all_goals refine .inr (behind_cons ?_ _)
  · cases h
    exact List.suffix_rfl
  · obtain ⟨_, hread, heq⟩ := Option.map_eq_some_iff.1 h
    cases heq
    exact (suffix_readOpening hread).trans (suffix_skip _ _)
  · obtain ⟨_, hread, heq⟩ := Option.map_eq_some_iff.1 h
    cases heq
    exact suffix_readClass hread
  · cases h
    exact suffix_readLazy _
  · cases h
    exact suffix_readLazy _
  · cases h
    exact suffix_readLazy _
  · split at h
    · cases h
    · obtain ⟨_, hread, heq⟩ := Option.map_eq_some_iff.1 h
      cases heq
      exact (suffix_readLazy _).trans ((suffix_skip _ _).trans (suffix_readBounds hread))
  · obtain ⟨_, hread, heq⟩ := Option.map_eq_some_iff.1 h
    cases heq
    exact suffix_readEscape hread
  all_goals
    cases h
    exact List.suffix_rfl

theorem suffix_readBehind {steps : Nat} {blanks : Bool} {items branches : List Expr} {part : Part}
    {cs rest : List Char} {e : Expr}
    (hbody : ∀ {blanks items branches cs rest e},
      readBody steps blanks items branches cs = some (e, rest) → rest <:+ cs)
    (h : readBehind steps blanks items branches part cs = some (e, rest)) : rest <:+ cs := by
  cases part with
  | close =>
    cases h
    exact List.suffix_rfl
  | branch => exact hbody h
  | item _ => exact hbody h
  | again _ _ =>
    obtain ⟨_, _, h⟩ := Option.bind_eq_some_iff.1 h
    exact hbody h
  | opening o =>
    cases o with
    | flags _ => exact hbody h
    | group kind =>
      obtain ⟨⟨body, cs'⟩, hgroup, h⟩ := Option.bind_eq_some_iff.1 h
      dsimp only at h
      split at h
      · exact (hbody h).trans ((List.suffix_cons _ _).trans (hbody hgroup))
      · cases h

theorem suffix_readBody {steps : Nat} {blanks : Bool} {items branches : List Expr}
    {cs rest : List Char} {e : Expr}
    (h : readBody steps blanks items branches cs = some (e, rest)) : rest <:+ cs := by
  induction steps generalizing blanks items branches cs rest e with
  | zero => cases h
  | succ steps ih =>
    rw [readBody_succ] at h
    obtain ⟨⟨part, cs'⟩, hpart, h⟩ := Option.bind_eq_some_iff.1 h
    refine (suffix_readBehind ih h).trans (List.IsSuffix.trans ?_ (suffix_skip blanks cs))
    rcases behind_readPart? hpart with ⟨_, rfl⟩ | hcs
    · exact List.suffix_rfl
    · exact hcs.suffix

end UrlRouter.Regex
