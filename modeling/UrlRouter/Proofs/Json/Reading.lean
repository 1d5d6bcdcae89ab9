import UrlRouter.Proofs.Json.Text

/-!
The text of a value is read back, whatever closes it, as long as its numbers are integers of 64 bits
and its nesting is one that readers accept.
-/

namespace UrlRouter.Json

theorem foldl_integerDigit {ds : List Char} {n : Nat}
    (h : Nat.ofDigitChars 10 ds n < Nat.pow 2 64) :
    ds.foldl Leading.integerDigit ⟨n, 0, false⟩ = ⟨Nat.ofDigitChars 10 ds n, 0, false⟩ := by
  induction ds generalizing n with
  | nil => rfl
  | cons d ds ih =>
    have hnext : 10 * n + digitValue d < Nat.pow 2 64 :=
      Nat.lt_of_le_of_lt (le_ofDigitChars ds _) h
    rw [List.foldl_cons, Leading.integerDigit]
    simp only [Bool.false_eq_true, false_or, if_neg (Nat.not_le.2 hnext)]
    exact ih h

theorem head_natText {n : Nat} (h : 0 < n) : (natText n).head? ≠ some '0' := by
  induction n using Nat.strongRecOn with
  | ind n ih =>
    by_cases hlt : n < 10
    · rw [natText, Nat.toDigits_of_lt_base hlt]
      have hdigit : ∀ k < 10, 0 < k → k.digitChar ≠ '0' := by decide
      simpa using hdigit n hlt h
    · have hinit := ih (n / 10) (by omega) (by omega)
      rw [natText, Nat.toDigits_of_base_le (by decide) (Nat.le_of_not_lt hlt)]
      change (natText (n / 10) ++ [(n % 10).digitChar]).head? ≠ some '0'
      cases hds : natText (n / 10) with
      | nil => exact absurd hds (natText_ne_nil _)
      | cons d ds =>
        rw [hds] at hinit
        exact hinit

theorem length_natText_of_head {n : Nat} (h : (natText n).head? = some '0') :
    (natText n).length = 1 := by
  rcases Nat.eq_zero_or_pos n with rfl | hpos
  · rfl
  · exact absurd h (head_natText hpos)

def Closes (rest : List Char) : Prop := ∀ c ∈ rest.head?, c = ',' ∨ c = ']' ∨ c = '\x7d'

theorem Closes.nil : Closes [] := by simp [Closes]

theorem closes_renderElements (xs : List Json) (u : List Char) :
    Closes (renderElements xs ++ u) := by
  cases xs <;> simp [renderElements, Closes]

theorem closes_renderFields (fs : List (String × Json)) (u : List Char) :
    Closes (renderFields fs ++ u) := by
  rcases fs with _ | ⟨⟨k, x⟩, fs⟩ <;> simp [renderFields, Closes]

theorem digits?_natText (n : Nat) {rest : List Char} (h : Closes rest) :
    digits? (natText n ++ rest) = some (natText n, rest) := by
  have hdigits : ∀ c ∈ natText n, isDigit c = true := fun c hc => isDigit_of_mem_natText hc
  have hrest : rest.takeWhile isDigit = [] ∧ rest.dropWhile isDigit = rest := by
    cases rest with
    | nil => exact ⟨rfl, rfl⟩
    | cons c rest =>
      have hc : isDigit c = false := by
        rcases h c rfl with rfl | rfl | rfl <;> decide
      simp [hc]
  rw [digits?, List.takeWhile_append_of_pos hdigits, List.dropWhile_append_of_pos hdigits, hrest.1,
    hrest.2, List.append_nil]
  cases hn : natText n with
  | nil => exact absurd hn (natText_ne_nil n)
  | cons c cs => rfl

theorem readUnsigned_natText (negative : Bool) (n : Nat) {rest : List Char} (h : Closes rest) :
    readUnsigned negative (natText n ++ rest) =
      some (⟨negative, natText n, [], none⟩, rest) := by
  have hlead : ¬ ((natText n).head? = some '0' ∧ (natText n).length ≠ 1) :=
    fun hbad => hbad.2 (length_natText_of_head hbad.1)
  rw [readUnsigned, digits?_natText n h]
  cases rest with
  | nil => simp [hlead]
  | cons c rest => rcases h c rfl with rfl | rfl | rfl <;> simp [hlead]

def Fits64 (n : Int) : Prop := -(Nat.pow 2 63 : Int) ≤ n ∧ n < Nat.pow 2 64

theorem readNumber_intText (n : Int) {rest : List Char} (h : Closes rest) :
    readNumber (intText n ++ rest) = some (⟨decide (n < 0), natText n.natAbs, [], none⟩, rest) := by
  by_cases hn : n < 0
  · rw [intText, if_pos hn, List.cons_append, readNumber, readUnsigned_natText true _ h,
      decide_eq_true hn]
  · rw [intText, if_neg hn, decide_eq_false hn, ← readUnsigned_natText false _ h]
    cases hds : natText n.natAbs with
    | nil => exact absurd hds (natText_ne_nil _)
    | cons d ds =>
      have hd : d ≠ '-' := by
        rintro rfl
        have hdigit := isDigit_of_mem_natText (n := n.natAbs) (by rw [hds]; exact .head _)
        revert hdigit
        decide
      rw [List.cons_append, readNumber]
      simpa using hd

theorem value_natText {n : Int} (h : Fits64 n) :
    Numeral.value ⟨decide (n < 0), natText n.natAbs, [], none⟩ = .int n := by
  obtain ⟨hlow, hhigh⟩ := h
  have hlt : n.natAbs < Nat.pow 2 64 := by
    simp only [Nat.pow_eq] at hlow hhigh ⊢
    omega
  have hdigits : Nat.ofDigitChars 10 (natText n.natAbs) 0 = n.natAbs :=
    Nat.ofDigitChars_ten_toDigits
  have hleading := @foldl_integerDigit (natText n.natAbs) 0 (by rwa [hdigits])
  rw [hdigits] at hleading
  simp only [Numeral.value, hleading, Numeral.isInteger, List.isEmpty_nil, Option.isNone_none,
    Bool.and_self, Bool.false_eq_true, not_false_eq_true, and_self, if_true, decide_eq_true_eq]
  by_cases hn : n < 0
  · have hbound : 0 < n.natAbs ∧ n.natAbs ≤ Nat.pow 2 63 := by
      simp only [Nat.pow_eq] at hlow ⊢
      omega
    rw [if_neg (by simpa using hn), if_pos hbound]
    congr 1
    omega
  · rw [if_pos hn]
    congr 1
    omega

mutual

def document : Json → Document
  | .null => .null
  | .bool b => .bool b
  | .int n => .int n
  | .float x => .float x
  | .str s => .str s
  | .arr xs => .arr (documents xs)
  | .obj fs => .obj (documentFields fs)

def documents : List Json → List Document
  | [] => []
  | x :: xs => x.document :: documents xs

def documentFields : List (String × Json) → List (String × Document)
  | [] => []
  | (k, x) :: fs => (k, x.document) :: documentFields fs

end

mutual

def Readable (depth : Nat) : Json → Prop
  | .null | .bool _ | .str _ => True
  | .int n => Fits64 n
  | .float _ => False
  | .arr xs => depth < 127 ∧ ReadableElements (depth + 1) xs
  | .obj fs => depth < 127 ∧ ReadableFields (depth + 1) fs

def ReadableElements (depth : Nat) : List Json → Prop
  | [] => True
  | x :: xs => x.Readable depth ∧ ReadableElements depth xs

def ReadableFields (depth : Nat) : List (String × Json) → Prop
  | [] => True
  | (_, x) :: fs => x.Readable depth ∧ ReadableFields depth fs

end

theorem skipBlanks_cons {c : Char} (h : isBlank c = false) (cs : List Char) :
    skipBlanks (c :: cs) = c :: cs := by
  simp [skipBlanks, h]

theorem skipBlanks_render (x : Json) (u : List Char) :
    skipBlanks (x.render ++ u) = x.render ++ u := by
  have hlead := ofLead?_head_append x u
  cases hx : x.render ++ u with
  | nil => rfl
  | cons c cs =>
    rw [hx] at hlead
    refine skipBlanks_cons ?_ cs
    cases hblank : isBlank c with
    | false => rfl
    | true =>
      simp only [isBlank, Bool.or_eq_true, decide_eq_true_eq] at hblank
      rcases hblank with ((rfl | rfl) | rfl) | rfl <;> cases hlead

theorem length_render_pos (x : Json) : 0 < x.render.length := by
  have hlead := ofLead?_head x
  cases hx : x.render with
  | nil =>
    rw [hx] at hlead
    cases hlead
  | cons c cs => simp

theorem intText_append_ne (n : Int) (u v : List Char) {c : Char} (hc : isNumeral c = false) :
    intText n ++ u ≠ c :: v := by
  intro h
  cases hn : intText n with
  | nil => exact intText_ne_nil n hn
  | cons d ds =>
    rw [hn, List.cons_append, List.cons.injEq] at h
    have hd : isNumeral d = true := isNumeral_of_mem_intText (n := n) (by rw [hn]; exact .head _)
    rw [h.1, hc] at hd
    cases hd

theorem readValue_intText {n : Int} (hn : Fits64 n) (steps depth : Nat) {rest : List Char}
    (h : Closes rest) :
    readValue (steps + 1) depth (intText n ++ rest) = some (.int n, rest) := by
  have hskip := skipBlanks_render (.int n) rest
  rw [render] at hskip
  rw [readValue, hskip]
  split
  · next heq => exact absurd heq (intText_append_ne n _ _ (by decide))
  · next heq => exact absurd heq (intText_append_ne n _ _ (by decide))
  · next heq => exact absurd heq (intText_append_ne n _ _ (by decide))
  · next heq => exact absurd heq (intText_append_ne n _ _ (by decide))
  · next heq => exact absurd heq (intText_append_ne n _ _ (by decide))
  · next heq => exact absurd heq (intText_append_ne n _ _ (by decide))
  · rw [readNumber_intText n h]
    change some (Numeral.value _, rest) = _
    rw [value_natText hn]

theorem readValue_stringText (s : String) (steps depth : Nat) (rest : List Char) :
    readValue (steps + 1) depth (stringText s ++ rest) = some (.str s, rest) := by
  have htext : stringText s ++ rest = '"' :: (s.toList.flatMap escape ++ '"' :: rest) := by
    simp [stringText]
  rw [htext, readValue, skipBlanks_cons (by decide)]
  simp only
  rw [readString_stringText]
  rfl

theorem ofFields_some (fs : List (String × Document)) :
    ofFields (fs.map fun f => (some f.1, f.2)) = .obj fs := by
  have hnames : (fs.map fun f => (some f.1, f.2)).mapM
      (fun field => field.1.map fun k => (k, field.2)) = some fs := by
    induction fs with
    | nil => rfl
    | cons f fs ih => simp [List.mapM_cons, ih]
  unfold ofFields
  split
  · next hread => rw [Option.some.inj (hnames.symm.trans hread)]
  · next hread => cases hnames.symm.trans hread

theorem readElements_step {x : Document} {steps depth : Nat} {cs rest : List Char}
    (h : readValue steps depth cs = some (x, rest)) :
    readElements (steps + 1) depth cs =
      match skipBlanks rest with
      | ',' :: cs => (readElements steps depth cs).map fun (xs, cs) => (x :: xs, cs)
      | ']' :: cs => some ([x], cs)
      | _ => none := by
  rw [readElements, h]
  rfl

theorem readFields_step {k : String} {x : Document} {steps depth : Nat} {cs rest : List Char}
    (h : readValue steps depth cs = some (x, rest)) :
    readFields (steps + 1) depth (stringText k ++ ':' :: cs) =
      match skipBlanks rest with
      | ',' :: cs => (readFields steps depth cs).map fun (fs, cs) => ((some k, x) :: fs, cs)
      | '\x7d' :: cs => some ([(some k, x)], cs)
      | _ => none := by
  have htext : stringText k ++ ':' :: cs = '"' :: (k.toList.flatMap escape ++ '"' :: ':' :: cs) := by
    simp [stringText]
  rw [htext, readFields, skipBlanks_cons (by decide)]
  simp only
  rw [readString_stringText]
  simp only [Option.bind_eq_bind, Option.bind_some]
  rw [skipBlanks_cons (by decide)]
  change (readValue steps depth cs).bind _ = _
  rw [h]
  rfl

mutual

theorem readValue_render : ∀ (x : Json) (steps : Nat) {depth : Nat} {rest : List Char},
    x.Readable depth → x.render.length ≤ steps → Closes rest →
      readValue steps depth (x.render ++ rest) = some (x.document, rest)
  | x, 0, depth, rest, _, hsteps, _ => by
    have hpos := length_render_pos x
    omega
  | .null, steps + 1, depth, rest, _, _, _ => rfl
  | .bool true, steps + 1, depth, rest, _, _, _ => rfl
  | .bool false, steps + 1, depth, rest, _, _, _ => rfl
  | .int n, steps + 1, depth, rest, hx, _, hrest => readValue_intText hx steps depth hrest
  | .float _, steps + 1, depth, rest, hx, _, _ => hx.elim
  | .str s, steps + 1, depth, rest, _, _, _ => readValue_stringText s steps depth rest
  | .arr [], steps + 1, depth, rest, hx, _, _ => by
    change some (nested depth (.arr []), rest) = _
    rw [nested, if_pos hx.1]
    rfl
  | .arr (x :: xs), steps + 1, depth, rest, hx, hsteps, _ => by
    obtain ⟨hdepth, hxs⟩ := hx
    -- Each level gives one step of its own to those inside, which are bounded by their lengths.
    have htext : (Json.arr (x :: xs)).render ++ rest =
        '[' :: (x.render ++ (renderElements xs ++ rest)) := by
      simp [render]
    have hlength : x.render.length + (renderElements xs).length ≤ steps := by
      simp only [render, List.length_cons, List.length_append] at hsteps
      omega
    rw [htext, readValue, skipBlanks_cons (by decide)]
    simp only [skipBlanks_render]
    split
    · next heq => exact absurd heq (render_append_ne x _ _)
    · rw [readElements_render x xs steps hxs hlength]
      simp [nested, hdepth, document]
  | .obj [], steps + 1, depth, rest, hx, _, _ => by
    change some (nested depth (.obj []), rest) = _
    rw [nested, if_pos hx.1]
    rfl
  | .obj ((k, x) :: fs), steps + 1, depth, rest, hx, hsteps, _ => by
    obtain ⟨hdepth, hfs⟩ := hx
    have htext : (Json.obj ((k, x) :: fs)).render ++ rest =
        '\x7b' :: (stringText k ++ ':' :: (x.render ++ (renderFields fs ++ rest))) := by
      simp [render]
    have hlength : x.render.length + (renderFields fs).length ≤ steps := by
      simp only [render, List.length_cons, List.length_append] at hsteps
      omega
    rw [htext, readValue, skipBlanks_cons (by decide)]
    simp only
    have hkey : skipBlanks (stringText k ++ ':' :: (x.render ++ (renderFields fs ++ rest))) =
        stringText k ++ ':' :: (x.render ++ (renderFields fs ++ rest)) :=
      skipBlanks_render (.str k) _
    rw [hkey]
    split
    · next heq => simp [stringText] at heq
    · rw [readFields_render k x fs steps hfs hlength]
      simp [nested, hdepth, document, ofFields_some]

theorem readElements_render : ∀ (x : Json) (xs : List Json) (steps : Nat) {depth : Nat}
    {rest : List Char}, ReadableElements depth (x :: xs) →
      x.render.length + (renderElements xs).length ≤ steps →
        readElements steps depth (x.render ++ (renderElements xs ++ rest)) =
          some (documents (x :: xs), rest)
  | x, xs, 0, depth, rest, _, hsteps => by
    have hpos := length_render_pos x
    omega
  | x, [], steps + 1, depth, rest, hx, hsteps => by
    simp only [renderElements, List.length_cons] at hsteps
    have hfirst := readValue_render x steps hx.1 (by omega)
      (closes_renderElements [] rest)
    rw [readElements_step hfirst]
    rfl
  | x, y :: ys, steps + 1, depth, rest, hx, hsteps => by
    simp only [renderElements, List.length_cons, List.length_append] at hsteps
    have hfirst := readValue_render x steps hx.1 (by omega)
      (closes_renderElements (y :: ys) rest)
    have hlength : y.render.length + (renderElements ys).length ≤ steps := by
      have hpos := length_render_pos x
      omega
    have htext : renderElements (y :: ys) ++ rest =
        ',' :: (y.render ++ (renderElements ys ++ rest)) := by
      simp [renderElements]
    rw [readElements_step hfirst, htext, skipBlanks_cons (by decide)]
    simp only [readElements_render y ys steps hx.2 hlength]
    rfl

theorem readFields_render : ∀ (k : String) (x : Json) (fs : List (String × Json)) (steps : Nat)
    {depth : Nat} {rest : List Char}, ReadableFields depth ((k, x) :: fs) →
      x.render.length + (renderFields fs).length ≤ steps →
        readFields steps depth (stringText k ++ ':' :: (x.render ++ (renderFields fs ++ rest))) =
          some ((documentFields ((k, x) :: fs)).map fun f => (some f.1, f.2), rest)
  | k, x, fs, 0, depth, rest, _, hsteps => by
    have hpos := length_render_pos x
    omega
  | k, x, [], steps + 1, depth, rest, hx, hsteps => by
    simp only [renderFields, List.length_cons] at hsteps
    have hfirst := readValue_render x steps hx.1 (by omega) (closes_renderFields [] rest)
    rw [readFields_step hfirst]
    rfl
  | k, x, (l, y) :: fs, steps + 1, depth, rest, hx, hsteps => by
    simp only [renderFields, List.length_cons, List.length_append] at hsteps
    have hfirst := readValue_render x steps hx.1 (by omega)
      (closes_renderFields ((l, y) :: fs) rest)
    have hlength : y.render.length + (renderFields fs).length ≤ steps := by
      have hpos := length_render_pos x
      omega
    have htext : renderFields ((l, y) :: fs) ++ rest =
        ',' :: (stringText l ++ ':' :: (y.render ++ (renderFields fs ++ rest))) := by
      simp [renderFields]
    rw [readFields_step hfirst, htext, skipBlanks_cons (by decide)]
    simp only [readFields_render l y fs steps hx.2 hlength]
    rfl

end

theorem readDocument_text {x : Json} (h : x.Readable 0) :
    readDocument x.text = some x.document := by
  have hvalue := readValue_render x (2 * x.render.length + 2) h (by omega) .nil
  rw [List.append_nil] at hvalue
  rw [readDocument, text, String.toList_ofList]
  simp only [hvalue]
  rfl

end UrlRouter.Json
