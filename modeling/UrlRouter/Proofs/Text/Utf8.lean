import UrlRouter.Text.Utf8

/-!
UTF-8 loses nothing: the characters of the bytes of a text are the text. The bytes of a character
are read back for each number of bytes on its own.
-/

namespace UrlRouter.Text

section

variable {a b c d : UInt8}

theorem isContinuation_iff : isContinuation b = true ↔ 0x80 ≤ b.toNat ∧ b.toNat < 0xC0 := by
  simp [isContinuation, UInt8.le_iff_toNat_le, UInt8.lt_iff_toNat_lt]

theorem isSecond_iff :
    isSecond a b = true ↔ (0x80 ≤ b.toNat ∧ b.toNat < 0xC0) ∧
      (a.toNat = 0xE0 → 0xA0 ≤ b.toNat) ∧ (a.toNat = 0xED → b.toNat < 0xA0) ∧
      (a.toNat = 0xF0 → 0x90 ≤ b.toNat) ∧ (a.toNat = 0xF4 → b.toNat < 0x90) := by
  simp only [isSecond, isContinuation, ← UInt8.toNat_inj, UInt8.le_iff_toNat_le,
    UInt8.lt_iff_toNat_lt, UInt8.reduceToNat]
  repeat' split
  all_goals
    simp only [Bool.and_eq_true, decide_eq_true_eq]
    omega

theorem following?_eq (a : UInt8) :
    following? a =
      if a.toNat < 0x80 then some 0
      else if 0xC2 ≤ a.toNat ∧ a.toNat < 0xE0 then some 1
      else if 0xE0 ≤ a.toNat ∧ a.toNat < 0xF0 then some 2
      else if 0xF0 ≤ a.toNat ∧ a.toNat < 0xF5 then some 3
      else none := by
  simp only [following?, UInt8.lt_iff_toNat_lt, UInt8.le_iff_toNat_le, UInt8.reduceToNat]

theorem ofUtf8_one {v : Nat} (ha : a.toNat = v) (h : v < 0x80) (bs : List UInt8) :
    ofUtf8 (a :: bs) = Char.ofNat v :: ofUtf8 bs := by
  have hfollowing : following? a = some 0 := by rw [following?_eq, if_pos (by omega)]
  simp [ofUtf8, hfollowing, ha]

theorem ofUtf8_two {v : Nat} (ha : a.toNat = v / 64 % 32 + 0xC0) (hb : b.toNat = v % 64 + 0x80)
    (h : 0x80 ≤ v ∧ v < 0x800) (bs : List UInt8) :
    ofUtf8 (a :: b :: bs) = Char.ofNat v :: ofUtf8 bs := by
  have hfollowing : following? a = some 1 := by
    rw [following?_eq, if_neg (by omega), if_pos (by omega)]
  have hsecond : isSecond a b = true := isSecond_iff.2 (by omega)
  have hvalue : a.toNat % 32 * 64 + low6 b = v := by
    rw [low6]
    omega
  rw [← hvalue]
  simp [ofUtf8, hfollowing, hsecond]

theorem ofUtf8_three {v : Nat} (ha : a.toNat = v / 4096 % 16 + 0xE0)
    (hb : b.toNat = v / 64 % 64 + 0x80) (hc : c.toNat = v % 64 + 0x80)
    (h : 0x800 ≤ v ∧ v < 0x10000) (hpairs : v < 0xD800 ∨ 0xDFFF < v) (bs : List UInt8) :
    ofUtf8 (a :: b :: c :: bs) = Char.ofNat v :: ofUtf8 bs := by
  have hfollowing : following? a = some 2 := by
    rw [following?_eq, if_neg (by omega), if_neg (by omega), if_pos (by omega)]
  have hsecond : isSecond a b = true := isSecond_iff.2 (by omega)
  have hthird : isContinuation c = true := isContinuation_iff.2 (by omega)
  have hvalue : (a.toNat % 16 * 64 + low6 b) * 64 + low6 c = v := by
    rw [low6, low6]
    omega
  rw [← hvalue]
  simp [ofUtf8, hfollowing, hsecond, hthird]

theorem ofUtf8_four {v : Nat} (ha : a.toNat = v / 262144 % 8 + 0xF0)
    (hb : b.toNat = v / 4096 % 64 + 0x80) (hc : c.toNat = v / 64 % 64 + 0x80)
    (hd : d.toNat = v % 64 + 0x80) (h : 0x10000 ≤ v ∧ v < 0x110000) (bs : List UInt8) :
    ofUtf8 (a :: b :: c :: d :: bs) = Char.ofNat v :: ofUtf8 bs := by
  have hfollowing : following? a = some 3 := by
    rw [following?_eq, if_neg (by omega), if_neg (by omega), if_neg (by omega), if_pos (by omega)]
  have hsecond : isSecond a b = true := isSecond_iff.2 (by omega)
  have hthird : isContinuation c = true := isContinuation_iff.2 (by omega)
  have hfourth : isContinuation d = true := isContinuation_iff.2 (by omega)
  have hvalue : ((a.toNat % 8 * 64 + low6 b) * 64 + low6 c) * 64 + low6 d = v := by
    rw [low6, low6, low6]
    omega
  rw [← hvalue]
  simp [ofUtf8, hfollowing, hsecond, hthird, hfourth]

end

theorem ofUtf8_utf8EncodeChar_append (c : Char) (bs : List UInt8) :
    ofUtf8 (String.utf8EncodeChar c ++ bs) = c :: ofUtf8 bs := by
  have hvalid : c.val.toNat < 0xD800 ∨ 0xDFFF < c.val.toNat ∧ c.val.toNat < 0x110000 := c.valid
  have hchar : Char.ofNat c.val.toNat :: ofUtf8 bs = c :: ofUtf8 bs :=
    congrArg (· :: ofUtf8 bs) (Char.ofNat_toNat c)
  have hbyte {n : Nat} (h : n < 256) : (UInt8.ofNat n).toNat = n := by
    rw [UInt8.toNat_ofNat', Nat.mod_eq_of_lt h]
  rw [← hchar]
  unfold String.utf8EncodeChar
  dsimp only
  split
  · exact ofUtf8_one (hbyte (by omega)) (by omega) bs
  split
  · exact ofUtf8_two (hbyte (by omega)) (hbyte (by omega)) (by omega) bs
  split
  · exact ofUtf8_three (hbyte (by omega)) (hbyte (by omega)) (hbyte (by omega)) (by omega)
      (by omega) bs
  · exact ofUtf8_four (hbyte (by omega)) (hbyte (by omega)) (hbyte (by omega))
      (hbyte (by omega)) (by omega) bs

theorem ofUtf8_utf8 (cs : List Char) : ofUtf8 (utf8 cs) = cs := by
  induction cs with
  | nil => rw [utf8, List.flatMap_nil, ofUtf8]
  | cons c cs ih =>
    rw [utf8, List.flatMap_cons]
    exact (ofUtf8_utf8EncodeChar_append c (utf8 cs)).trans (congrArg (c :: ·) ih)

end UrlRouter.Text
