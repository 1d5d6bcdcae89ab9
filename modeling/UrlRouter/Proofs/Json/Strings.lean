import UrlRouter.Json.Printer
import UrlRouter.Json.Reader

namespace UrlRouter.Json

theorem hexValue?_hexDigit : ∀ n < 16, hexValue? (hexDigit n) = some n := by
  decide

theorem fourHex?_hexDigit {m n : Nat} (hm : m < 16) (hn : n < 16) :
    fourHex? '0' '0' (hexDigit m) (hexDigit n) = some (16 * m + n) := by
  have hzero : hexValue? '0' = some 0 := by decide
  simp only [fourHex?, hzero, hexValue?_hexDigit m hm, hexValue?_hexDigit n hn, bind, Option.bind,
    Option.some.injEq]
  omega

theorem joinParts_unit {n : Nat} (hn : n < 0xD800) (ps : List StringPart) :
    joinParts (.unit n :: ps) = (joinParts ps).map (Char.ofNat n :: ·) := by
  have hlow : ¬ (0xDC00 ≤ n ∧ n < 0xE000) := by omega
  have hhigh : ¬ (0xD800 ≤ n ∧ n < 0xDC00) := by omega
  have hhalf : ¬ (0xD800 ≤ n ∧ n < 0xE000) := by omega
  rcases ps with _ | ⟨_ | m, ps⟩
  · exact if_neg hhalf
  · exact if_neg hhalf
  · rw [joinParts, if_neg hhigh, if_neg hlow]

theorem escape_cases (c : Char) :
    (∃ letter, letter ≠ 'u' ∧ simpleEscape? letter = some c ∧ escape c = ['\\', letter]) ∨
      (c.toNat < 0x20 ∧
        escape c = ['\\', 'u', '0', '0', hexDigit (c.toNat / 16), hexDigit (c.toNat % 16)]) ∨
      (c ≠ '"' ∧ c ≠ '\\' ∧ ¬ c.toNat < 0x20 ∧ escape c = [c]) := by
  unfold escape
  split
  · next h => exact .inl ⟨'"', by decide, by rw [h]; rfl, rfl⟩
  split
  · next h => exact .inl ⟨'\\', by decide, by rw [h]; rfl, rfl⟩
  split
  · next h => exact .inl ⟨'b', by decide, by rw [h]; rfl, rfl⟩
  split
  · next h => exact .inl ⟨'t', by decide, by rw [h]; rfl, rfl⟩
  split
  · next h => exact .inl ⟨'n', by decide, by rw [h]; rfl, rfl⟩
  split
  · next h => exact .inl ⟨'f', by decide, by rw [h]; rfl, rfl⟩
  split
  · next h => exact .inl ⟨'r', by decide, by rw [h]; rfl, rfl⟩
  split
  · next h => exact .inr (.inl ⟨h, rfl⟩)
  · next hquote hslash _ _ _ _ _ h => exact .inr (.inr ⟨hquote, hslash, h, rfl⟩)

theorem readParts_letter {letter c : Char} (hu : letter ≠ 'u')
    (h : simpleEscape? letter = some c) (cs : List Char) :
    readParts ('\\' :: letter :: cs) =
      (readParts cs).map fun (ps, rest) => (.char c :: ps, rest) := by
  rw [readParts, h]
  · cases readParts cs <;> rfl
  · intro a b d e rest hletter
    exact absurd hletter hu

theorem readParts_code {a b c d : Char} {n : Nat} (h : fourHex? a b c d = some n)
    (cs : List Char) :
    readParts ('\\' :: 'u' :: a :: b :: c :: d :: cs) =
      (readParts cs).map fun (ps, rest) => (.unit n :: ps, rest) := by
  rw [readParts, h]
  cases readParts cs <;> rfl

theorem readParts_plain {c : Char} (hquote : c ≠ '"') (hslash : c ≠ '\\')
    (hcontrol : ¬ c.toNat < 0x20) (cs : List Char) :
    readParts (c :: cs) = (readParts cs).map fun (ps, rest) => (.char c :: ps, rest) := by
  rw [readParts, if_neg (by simp [hcontrol, hslash])]
  · cases readParts cs <;> rfl
  all_goals simp_all

theorem readParts_escape (c : Char) (cs : List Char) :
    ∃ part, readParts (escape c ++ cs) = (readParts cs).map (fun (ps, rest) => (part :: ps, rest)) ∧
      ∀ ps, joinParts (part :: ps) = (joinParts ps).map (c :: ·) := by
  rcases escape_cases c with ⟨letter, hu, hletter, h⟩ | ⟨hcontrol, h⟩ | ⟨hquote, hslash, hlow, h⟩
  · rw [h]
    exact ⟨.char c, readParts_letter hu hletter cs, fun _ => rfl⟩
  · have hcode : 16 * (c.toNat / 16) + c.toNat % 16 = c.toNat := by omega
    have hread := fourHex?_hexDigit (m := c.toNat / 16) (n := c.toNat % 16) (by omega) (by omega)
    rw [hcode] at hread
    rw [h]
    refine ⟨.unit c.toNat, readParts_code hread cs, fun ps => ?_⟩
    rw [joinParts_unit (by omega), Char.ofNat_toNat]
  · rw [h]
    exact ⟨.char c, readParts_plain hquote hslash hlow cs, fun _ => rfl⟩

theorem readParts_flatMap_escape (cs rest : List Char) :
    ∃ ps, readParts (cs.flatMap escape ++ '"' :: rest) = some (ps, rest) ∧
      joinParts ps = some cs := by
  induction cs with
  | nil => exact ⟨[], by simp [readParts], rfl⟩
  | cons c cs ih =>
    obtain ⟨ps, hread, hjoin⟩ := ih
    obtain ⟨part, hpart, hfirst⟩ := readParts_escape c (cs.flatMap escape ++ '"' :: rest)
    refine ⟨part :: ps, ?_, ?_⟩
    · rw [List.flatMap_cons, List.append_assoc, hpart, hread]
      rfl
    · rw [hfirst, hjoin]
      rfl

theorem readString_stringText (s : String) (rest : List Char) :
    readString (s.toList.flatMap escape ++ '"' :: rest) = some (some s, rest) := by
  obtain ⟨ps, hread, hjoin⟩ := readParts_flatMap_escape s.toList rest
  rw [readString, hread]
  simp [hjoin]

theorem stringText_append_injective {s t : String} {u v : List Char}
    (h : stringText s ++ u = stringText t ++ v) : s = t ∧ u = v := by
  have hbody : s.toList.flatMap escape ++ '"' :: u = t.toList.flatMap escape ++ '"' :: v := by
    simpa [stringText] using h
  have hs := readString_stringText s u
  rw [hbody, readString_stringText t v] at hs
  cases hs
  exact ⟨rfl, rfl⟩

end UrlRouter.Json
