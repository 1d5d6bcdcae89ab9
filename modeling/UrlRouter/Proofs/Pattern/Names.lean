import UrlRouter.Pattern.Token
import UrlRouter.Regex.Parser

namespace UrlRouter

open Regex Unicode

theorem isAlphabetic_of_isAlpha {c : Char} (h : c.isAlpha = true) : isAlphabetic c = true := by
  have hrange : 0x41 ≤ c.toNat ∧ c.toNat ≤ 0x5A ∨ 0x61 ≤ c.toNat ∧ c.toNat ≤ 0x7A := by
    change (decide ('A'.val ≤ c.val ∧ c.val ≤ 'Z'.val) ||
      (decide ('a'.val ≤ c.val) && decide (c.val ≤ 'z'.val))) = true at h
    simpa [UInt32.le_iff_toNat_le] using h
  have hmem : alphabetic.contains c.toNat = true := by
    rw [Ranges.contains_iff]
    rcases hrange with hrange | hrange
    · exact ⟨(0x41, 0x5A), List.mem_cons_self, hrange⟩
    · exact ⟨(0x61, 0x7A), List.mem_cons_of_mem _ List.mem_cons_self, hrange⟩
  rw [isAlphabetic, hmem, Bool.true_or]

theorem isAlphanumeric_of_isAlphanum {c : Char} (h : c.isAlphanum = true) :
    isAlphanumeric c = true := by
  rw [Char.isAlphanum, Bool.or_eq_true] at h
  rw [isAlphanumeric, Bool.or_eq_true]
  refine h.imp isAlphabetic_of_isAlpha fun hdigit => ?_
  have hrange : 0x30 ≤ c.toNat ∧ c.toNat ≤ 0x39 := by
    simpa [Char.isDigit, UInt32.le_iff_toNat_le] using hdigit
  have hmem : decimalNumber.contains c.toNat = true :=
    Ranges.contains_iff.2 ⟨(0x30, 0x39), List.mem_cons_self, hrange⟩
  rw [isNumeric, hmem, Bool.true_or, Bool.true_or, Bool.true_or]

theorem isGroupName_of_isIdentifier {name : List Char} (h : isIdentifier name = true) :
    isGroupName name = true := by
  cases name with
  | nil => cases h
  | cons c cs =>
    rw [isIdentifier, Bool.and_eq_true, List.all_eq_true] at h
    rw [isGroupName, Bool.and_eq_true, List.all_eq_true]
    refine ⟨?_, fun d hd => ?_⟩
    · have hstart := h.1
      rw [isNameStart, Bool.or_eq_true] at hstart
      rw [Bool.or_eq_true]
      exact hstart.symm.imp_right isAlphabetic_of_isAlpha
    · have hchar := h.2 d hd
      rw [isNameChar, Bool.or_eq_true] at hchar
      rcases hchar with hchar | hchar
      · simp [isAlphanumeric_of_isAlphanum hchar]
      · simp [hchar]

theorem not_mem_of_isIdentifier {name : List Char} (h : isIdentifier name = true) : '>' ∉ name := by
  cases name with
  | nil => simp
  | cons c cs =>
    rw [isIdentifier, Bool.and_eq_true, List.all_eq_true] at h
    intro hmem
    rcases List.mem_cons.1 hmem with rfl | hmem
    · exact absurd h.1 (by decide)
    · exact absurd (h.2 _ hmem) (by decide)

structure Token.Named (t : Token) : Prop where
  identifier : ∀ n ∈ t.name, isIdentifier n = true
  needed : t.kind.needsName = true → t.name.isSome = true

theorem Token.Named.exists_name {t : Token} (h : t.Named) (hkind : t.kind.needsName = true) :
    ∃ name, t.name = some name :=
  Option.isSome_iff_exists.1 (h.needed hkind)

theorem Token.Named.exists_nameString {t : Token} (h : t.Named) (hkind : t.kind.needsName = true) :
    ∃ name, t.nameString = some name := by
  obtain ⟨name, hname⟩ := h.exists_name hkind
  exact ⟨String.ofList name, by rw [nameString, hname, Option.map_some]⟩

theorem identifier_of_readNamed {value lead body : List Char} {name : Option (List Char)}
    (h : readNamed value = .ok (lead, name, body)) : ∀ n ∈ name, isIdentifier n = true := by
  unfold readNamed at h
  split at h
  · cases h
    simp
  · split at h
    · cases h
    · split at h
      · next hid =>
        cases h
        simpa using hid
      · cases h

theorem Token.named_of_read {raw : List Char} {t : Token} (h : Token.read raw = .ok t) :
    t.Named := by
  unfold Token.read at h
  split at h
  · cases h
  · split at h
    · cases h
    · split at h
      · cases h
      · next hnamed =>
        split at h
        · cases h
        · next hneeds =>
          cases h
          refine ⟨identifier_of_readNamed hnamed, fun hneeded => ?_⟩
          simpa [hneeded, Option.isSome_iff_ne_none] using hneeds

theorem named_of_split {cs : List Char} {ps : List Piece} (h : split cs = .ok ps) :
    ∀ t, .token t ∈ ps → t.Named := by
  have hliteral (text : List Char) (t : Token) : .token t ∉ literalPieces text := by
    unfold literalPieces
    split <;> simp
  fun_induction split cs generalizing ps with
  | case1 cs hcut =>
    cases h
    exact fun t ht => absurd ht (hliteral cs t)
  | case2 | case3 | case4 => cases h
  | case5 cs before inner hcut raw rest hclose t hread ps' hrest ih =>
    cases h
    intro t' ht'
    rcases List.mem_append.1 ht' with ht' | ht'
    · exact absurd ht' (hliteral before t')
    · rcases List.mem_cons.1 ht' with ht' | ht'
      · cases ht'
        exact Token.named_of_read hread
      · exact ih hrest t' ht'

end UrlRouter
