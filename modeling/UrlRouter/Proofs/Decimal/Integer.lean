import UrlRouter.Decimal.Integer
import UrlRouter.Proofs.Decimal.Notation
import UrlRouter.Proofs.Except
import UrlRouter.Proofs.Text.Trim

namespace UrlRouter

theorem readDigits_eq_ok {limit value : Nat} {beyond : IntegerError} {ds : List Char}
    (hds : ∀ c ∈ ds, c.isDigit = true) (h : Nat.ofDigitChars 10 ds value ≤ limit) :
    readDigits limit beyond value ds = .ok (Nat.ofDigitChars 10 ds value) := by
  induction ds generalizing value with
  | nil => rfl
  | cons d ds ih =>
    obtain ⟨hd, hds⟩ := List.forall_mem_cons.1 hds
    rw [Nat.ofDigitChars_cons] at h ⊢
    have hfits := Nat.le_trans (le_ofDigitChars ds _) h
    rw [readDigits, digit?, if_pos hd]
    dsimp only
    rw [if_pos hfits, ih hds h]

theorem readDigits_natText {limit n : Nat} {beyond : IntegerError} (h : n ≤ limit) :
    readDigits limit beyond 0 (natText n) = .ok n := by
  rw [readDigits_eq_ok (fun c hc => isDigit_of_mem_natText hc)
    (by rwa [ofDigitChars_natText]), ofDigitChars_natText]

theorem natText_eq_cons (n : Nat) : ∃ d ds, natText n = d :: ds ∧ d.isDigit = true := by
  obtain ⟨d, ds, hds⟩ := List.exists_cons_of_ne_nil (natText_ne_nil n)
  exact ⟨d, ds, hds, isDigit_of_mem_natText (hds ▸ List.mem_cons_self)⟩

theorem trim_intText (n : Int) : Text.trim (intText n) = intText n := by
  refine Text.trim_eq_self fun c hc => ?_
  rcases mem_intText hc with rfl | hc
  · decide
  · exact isWhiteSpace_of_isDigit hc

theorem readInt64_of_isDigit {d : Char} {ds : List Char} (hd : d.isDigit = true) :
    readInt64 (d :: ds) =
      (readDigits (Nat.pow 2 63 - 1) .tooLarge 0 (d :: ds)).map Int.ofNat := by
  obtain ⟨hminus, hplus⟩ := not_sign_of_isDigit hd
  unfold readInt64
  split <;> simp_all

theorem int64?_intText {n : Int} (hlow : -(Nat.pow 2 63 : Int) ≤ n) (hhigh : n < Nat.pow 2 63) :
    int64? (intText n) = some n := by
  obtain ⟨d, ds, hds, hd⟩ := natText_eq_cons n.natAbs
  rw [int64?, intText]
  split
  · have hread : readInt64 ('-' :: natText n.natAbs) =
        (readDigits (Nat.pow 2 63) .tooSmall 0 (natText n.natAbs)).map fun n => -(n : Int) := by
      rw [hds]
      rfl
    rw [hread, readDigits_natText (by omega)]
    change some (-(n.natAbs : Int)) = some n
    exact congrArg some (by omega)
  · rw [hds, readInt64_of_isDigit hd, ← hds, readDigits_natText (by omega)]
    change some (n.natAbs : Int) = some n
    exact congrArg some (by omega)

theorem bounds_of_int64? {cs : List Char} {n : Int} (h : int64? cs = some n) :
    -(Nat.pow 2 63 : Int) ≤ n ∧ n < Nat.pow 2 63 := by
  have hpos : 0 < Nat.pow 2 63 := by decide
  have hread : readInt64 cs = .ok n := Except.eq_ok_of_toOption h
  unfold readInt64 at hread
  split at hread
  case h_1 | h_2 | h_3 => cases hread
  case h_4 =>
    obtain ⟨_, hm, rfl⟩ := Except.map_eq_ok_iff.1 hread
    obtain ⟨m, hm, heq⟩ := Except.bind_eq_ok_iff.1 hm
    have hle := readDigits_le (Nat.zero_le _) hm
    rw [Except.pure_eq_ok_iff] at heq
    omega
  case h_5 | h_6 =>
    obtain ⟨m, hm, rfl⟩ := Except.map_eq_ok_iff.1 hread
    have hle := readDigits_le (Nat.zero_le _) hm
    rw [Int.ofNat_eq_natCast]
    omega

end UrlRouter
