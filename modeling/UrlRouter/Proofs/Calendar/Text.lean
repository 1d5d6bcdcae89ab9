import UrlRouter.Calendar.Reader
import UrlRouter.Proofs.Decimal.Notation
import UrlRouter.Proofs.Text.Trim

/-!
Dates are read back from their text. Each number has as many digits as its reader takes at most, or
a sign that lets it take them all.
-/

namespace UrlRouter

open Text Unicode

theorem isDigit_of_mem_padded {width n : Nat} {c : Char} (h : c ∈ padded width n) :
    c.isDigit = true := by
  rw [padded, List.mem_append] at h
  rcases h with h | h
  · rw [List.eq_of_mem_replicate h]
    decide
  · exact isDigit_of_mem_natText h

theorem mem_yearText {year : Int} {c : Char} (h : c ∈ yearText year) :
    c.isDigit = true ∨ c = '-' ∨ c = '+' := by
  rw [yearText] at h
  split at h
  · exact .inl (isDigit_of_mem_padded h)
  · rcases List.mem_cons.1 h with hsign | h
    · split at hsign
      · exact .inr (.inl hsign)
      · exact .inr (.inr hsign)
    · exact .inl (isDigit_of_mem_padded h)

theorem Date.mem_text {d : Date} {c : Char} (h : c ∈ d.text) :
    c.isDigit = true ∨ c = '-' ∨ c = '+' := by
  simp only [text, List.mem_append, List.mem_cons] at h
  rcases h with (h | rfl | h) | rfl | h
  · exact mem_yearText h
  · exact .inr (.inl rfl)
  · exact .inl (isDigit_of_mem_padded h)
  · exact .inr (.inl rfl)
  · exact .inl (isDigit_of_mem_padded h)

theorem ofDigitChars_padded (width n : Nat) : Nat.ofDigitChars 10 (padded width n) 0 = n := by
  rw [padded, Nat.ofDigitChars_append, Nat.ofDigitChars_replicate_zero, Nat.mul_zero,
    ofDigitChars_natText]

theorem le_length_padded (width n : Nat) : width ≤ (padded width n).length := by
  rw [padded, List.length_append, List.length_replicate]
  omega

theorem length_padded {width n : Nat} (hwidth : 0 < width) (h : n < Nat.pow 10 width) :
    (padded width n).length = width := by
  have hle : (natText n).length ≤ width := (Nat.length_toDigits_le_iff (by decide) hwidth).2 h
  rw [padded, List.length_append, List.length_replicate]
  omega

def EndsNumber (cs : List Char) : Prop := ∀ c ∈ cs.head?, c.isDigit = false

theorem readNumber?_append {least : Nat} {most : Option Nat} {ds rest : List Char}
    (hds : ∀ c ∈ ds, c.isDigit = true) (hleast : least ≤ ds.length)
    (hmost : ∀ n ∈ most, ds.length ≤ n) (hrest : EndsNumber rest) :
    readNumber? least most (ds ++ rest) = some (Nat.ofDigitChars 10 ds 0, rest) := by
  have hstop (cs : List Char) (hcs : EndsNumber cs) : (ds ++ cs).takeWhile Char.isDigit = ds := by
    rw [List.takeWhile_append_of_pos hds]
    cases cs with
    | nil => simp
    | cons c cs => simp [hcs c rfl]
  have hread : (if ds.length < least then none else
      some (ds.foldl (fun n c => 10 * n + (c.toNat - '0'.toNat)) 0, (ds ++ rest).drop ds.length)) =
        some (Nat.ofDigitChars 10 ds 0, rest) := by
    rw [if_neg (Nat.not_lt.2 hleast), List.drop_left, Nat.ofDigitChars_eq_foldl]
  unfold readNumber?
  cases most with
  | none =>
    dsimp only
    rw [hstop rest hrest]
    exact hread
  | some n =>
    have hends : EndsNumber (rest.take (n - ds.length)) := by
      intro c hc
      cases rest with
      | nil => simp at hc
      | cons r rest =>
        cases hn : n - ds.length with
        | zero => simp [hn] at hc
        | succ k =>
          rw [hn] at hc
          exact hrest c hc
    dsimp only
    rw [List.take_append, List.take_of_length_le (hmost n rfl), hstop _ hends]
    exact hread

theorem readNumber?_padded {least width n : Nat} {most : Option Nat} {rest : List Char}
    (hleast : least ≤ width) (hmost : ∀ k ∈ most, (padded width n).length ≤ k)
    (hrest : EndsNumber rest) :
    readNumber? least most (padded width n ++ rest) = some (n, rest) := by
  rw [readNumber?_append (fun _ hc => isDigit_of_mem_padded hc)
    (Nat.le_trans hleast (le_length_padded width n)) hmost hrest, ofDigitChars_padded]

theorem Date.isWhiteSpace_of_mem_text {d : Date} {c : Char} (h : c ∈ d.text) :
    isWhiteSpace c = false := by
  rcases mem_text h with h | rfl | rfl
  · exact isWhiteSpace_of_isDigit h
  · decide
  · decide

theorem padded_eq_cons (width n : Nat) :
    ∃ d ds, padded width n = d :: ds ∧ d.isDigit = true := by
  have hne : padded width n ≠ [] := by simp [padded, natText_ne_nil]
  obtain ⟨d, ds, hds⟩ := List.exists_cons_of_ne_nil hne
  exact ⟨d, ds, hds, isDigit_of_mem_padded (hds ▸ List.mem_cons_self)⟩

theorem trimStart_of_isDigit {d : Char} {cs : List Char} (h : d.isDigit = true) :
    trimStart (d :: cs) = d :: cs := by
  rw [trimStart, List.dropWhile_cons_of_neg (by simp [isWhiteSpace_of_isDigit h])]

theorem readPair?_padded {n : Nat} {rest : List Char} (hn : n < 100) (hrest : EndsNumber rest) :
    readPair? (padded 2 n ++ rest) = some (n, rest) := by
  obtain ⟨d, ds, hds, hd⟩ := padded_eq_cons 2 n
  have htrim : trimStart (padded 2 n ++ rest) = padded 2 n ++ rest := by
    rw [hds, List.cons_append, trimStart_of_isDigit hd]
  rw [readPair?, htrim]
  refine readNumber?_padded (by decide) ?_ hrest
  rintro _ ⟨⟩
  exact Nat.le_of_eq (length_padded (by decide) hn)

theorem readYear?_of_isDigit {d : Char} {cs : List Char} (h : d.isDigit = true) :
    readYear? (d :: cs) =
      (readNumber? 1 (some 4) (d :: cs)).map fun (n, cs) => ((n : Int), cs) := by
  obtain ⟨hminus, hplus⟩ := not_sign_of_isDigit h
  rw [readYear?, trimStart_of_isDigit h]
  split <;> simp_all

theorem readYear?_yearText {year : Int} {rest : List Char} (hrest : EndsNumber rest) :
    readYear? (yearText year ++ rest) = some (year, rest) := by
  rw [yearText]
  split
  · next hyear =>
    obtain ⟨d, ds, hds, hd⟩ := padded_eq_cons 4 year.natAbs
    have hread : readNumber? 1 (some 4) (padded 4 year.natAbs ++ rest) =
        some (year.natAbs, rest) := by
      have hfour : year.natAbs < 10000 := by omega
      refine readNumber?_padded (by decide) ?_ hrest
      rintro _ ⟨⟩
      exact Nat.le_of_eq (length_padded (by decide) hfour)
    rw [hds, List.cons_append] at hread ⊢
    rw [readYear?_of_isDigit hd, hread]
    change some ((year.natAbs : Int), rest) = some (year, rest)
    rw [Int.natAbs_of_nonneg hyear.1]
  · have hread : readNumber? 1 none (padded 4 year.natAbs ++ rest) = some (year.natAbs, rest) :=
      readNumber?_padded (by decide) nofun hrest
    by_cases hneg : year < 0
    · have hsigned : readYear? ('-' :: (padded 4 year.natAbs ++ rest)) =
          (readNumber? 1 none (padded 4 year.natAbs ++ rest)).map
            fun (n, cs) => (-(n : Int), cs) := rfl
      rw [if_pos hneg, List.cons_append, hsigned, hread]
      change some (-(year.natAbs : Int), rest) = some (year, rest)
      exact congrArg (fun y => some (y, rest)) (by omega)
    · have hsigned : readYear? ('+' :: (padded 4 year.natAbs ++ rest)) =
          (readNumber? 1 none (padded 4 year.natAbs ++ rest)).map
            fun (n, cs) => ((n : Int), cs) := rfl
      rw [if_neg hneg, List.cons_append, hsigned, hread]
      change some ((year.natAbs : Int), rest) = some (year, rest)
      exact congrArg (fun y => some (y, rest)) (by omega)

theorem daysInMonth_le (year : Int) (month : Nat) : daysInMonth year month ≤ 31 := by
  unfold daysInMonth
  split
  · split <;> decide
  all_goals decide

theorem Date.of?_self (d : Date) : Date.of? d.year d.month d.day = some d :=
  Date.of?_eq_some_iff.2 ⟨rfl, rfl, rfl⟩

theorem date?_text (d : Date) : date? d.text = some d := by
  have hmonth : d.month < 100 := Nat.lt_of_le_of_lt d.month_mem.2 (by decide)
  have hday : d.day < 100 :=
    Nat.lt_of_le_of_lt (Nat.le_trans d.day_mem.2 (daysInMonth_le _ _)) (by decide)
  have hdash (cs : List Char) : EndsNumber ('-' :: cs) := by
    rintro _ ⟨⟩
    decide
  have hread : readDate? d.text = some (d, []) := by
    have hlast : readPair? (padded 2 d.day ++ []) = some (d.day, []) :=
      readPair?_padded hday nofun
    rw [List.append_nil] at hlast
    rw [readDate?, Date.text, List.append_assoc, List.cons_append, readYear?_yearText (hdash _)]
    simp only [Option.bind_eq_bind, Option.bind_some, readChar?, if_true,
      readPair?_padded hmonth (hdash _), hlast, d.of?_self]
  rw [date?, hread]
  rfl

end UrlRouter
