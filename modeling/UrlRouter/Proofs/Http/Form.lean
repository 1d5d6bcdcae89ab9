import UrlRouter.Http.Request
import UrlRouter.Proofs.Text.Cut
import UrlRouter.Proofs.Text.Utf8

/-!
Form encoding loses nothing. Every byte is read back from what is written for it, and what is
written for a name or a value holds none of the characters that separate them. A name has one value
in a text, whether its pairs are decoded before the look-up or during it. The text starts behind the
first question mark of a target.
-/

namespace UrlRouter.Text

theorem pieces_eq_splitOn (sep : Char) (cs : List Char) : pieces sep cs = cs.splitOn sep := by
  induction cs with
  | nil => rfl
  | cons c cs ih =>
    obtain ⟨p, ps, hps⟩ := List.exists_cons_of_ne_nil (List.splitOn_ne_nil sep cs)
    rw [pieces, ih, List.splitOn_cons_eq_if_modifyHead, hps]
    by_cases hc : c = sep <;> simp [hc]

end UrlRouter.Text

namespace UrlRouter.Form

open Text

def isEncoded (c : Char) : Bool :=
  c.isAlphanum || c == '*' || c == '-' || c == '.' || c == '_' || c == '+' || c == '%'

theorem hex?_upperHex {n : Nat} (h : n < 16) :
    hex? (upperHex n) = some n ∧ isEncoded (upperHex n) = true := by
  revert n
  decide

theorem isEncoded_of_mem_encodeByte {b : UInt8} {c : Char} (h : c ∈ encodeByte b) :
    isEncoded c = true := by
  have hdigits (n : Nat) (hn : n < 256) :
      isEncoded (upperHex (n / 16)) = true ∧ isEncoded (upperHex (n % 16)) = true :=
    ⟨(hex?_upperHex (by omega)).2, (hex?_upperHex (by omega)).2⟩
  unfold encodeByte at h
  split at h
  · obtain rfl := List.mem_singleton.1 h
    decide
  split at h
  · next hplain =>
    obtain rfl := List.mem_singleton.1 h
    have hchar := (Bool.and_eq_true_iff.1 hplain).2
    unfold isEncoded
    simp only [hchar, Bool.true_or]
  · obtain ⟨hhigh, hlow⟩ := hdigits b.toNat b.toNat_lt
    simp only [List.mem_cons, List.not_mem_nil, or_false] at h
    rcases h with rfl | rfl | rfl
    · decide
    · exact hhigh
    · exact hlow

theorem utf8EncodeChar_of_isPlain {b : UInt8} (h : isPlain b = true) :
    String.utf8EncodeChar (Char.ofNat b.toNat) = [b] := by
  have hlt : b.toNat < 0x80 := by
    have hascii := (Bool.and_eq_true_iff.1 h).1
    simpa [UInt8.lt_iff_toNat_lt] using hascii
  have hval : (Char.ofNat b.toNat).val.toNat = b.toNat := by
    have hvalid : b.toNat.isValidChar := .inl (by omega)
    rw [Char.ofNat, dif_pos hvalid]
    rfl
  unfold String.utf8EncodeChar
  rw [hval, if_pos (by omega), UInt8.ofNat_toNat]

theorem decodeBytes_encodeByte_append (b : UInt8) (cs : List Char) :
    decodeBytes (encodeByte b ++ cs) = b :: decodeBytes cs := by
  unfold encodeByte
  split
  · next h =>
    rw [h, List.singleton_append, decodeBytes]
  split
  · next hplain =>
    have hbytes := utf8EncodeChar_of_isPlain hplain
    have hchar := (Bool.and_eq_true_iff.1 hplain).2
    rw [List.singleton_append, decodeBytes, hbytes]
    · rfl
    · intro _ _ _ hpercent
      rw [hpercent] at hchar
      exact absurd hchar (by decide)
    · intro hplus
      rw [hplus] at hchar
      exact absurd hchar (by decide)
  · have hlt := b.toNat_lt
    obtain ⟨hhigh, _⟩ := hex?_upperHex (n := b.toNat / 16) (by omega)
    obtain ⟨hlow, _⟩ := hex?_upperHex (n := b.toNat % 16) (by omega)
    have hbyte : UInt8.ofNat (16 * (b.toNat / 16) + b.toNat % 16) = b := by
      rw [Nat.div_add_mod, UInt8.ofNat_toNat]
    simp only [List.cons_append, List.nil_append, decodeBytes, hhigh, hlow, hbyte]

theorem decodeBytes_flatMap_encodeByte (bs : List UInt8) :
    decodeBytes (bs.flatMap encodeByte) = bs := by
  induction bs with
  | nil => rfl
  | cons b bs ih => rw [List.flatMap_cons, decodeBytes_encodeByte_append, ih]

theorem decode_encode (cs : List Char) : decode (encode cs) = cs := by
  rw [decode, encode, decodeBytes_flatMap_encodeByte, ofUtf8_utf8]

theorem not_mem_encode {c : Char} (hc : isEncoded c = false) (cs : List Char) : c ∉ encode cs := by
  intro hmem
  obtain ⟨b, _, hb⟩ := List.mem_flatMap.1 hmem
  rw [isEncoded_of_mem_encodeByte hb] at hc
  cases hc

theorem decodePair_encodePair (name value : List Char) :
    decodePair (encodePair name value) = (String.ofList name, String.ofList value) := by
  have hcut : cut ['='] (encodePair name value) = some (encode name, encode value) :=
    cut_singleton_eq_some_iff.2 ⟨rfl, not_mem_encode (by decide) name⟩
  rw [decodePair, hcut]
  dsimp only
  rw [decode_encode, decode_encode]

theorem decodePairs_encodePairs (pairs : List (String × String)) :
    decodePairs (encodePairs pairs) = pairs := by
  have hencoded (pair : String × String) : '&' ∉ encodePair pair.1.toList pair.2.toList ∧
      encodePair pair.1.toList pair.2.toList ≠ [] := by
    have hname := not_mem_encode (c := '&') (by decide) pair.1.toList
    have hvalue := not_mem_encode (c := '&') (by decide) pair.2.toList
    exact ⟨by simp [encodePair, hname, hvalue], by simp [encodePair]⟩
  have hdecoded (pair : String × String) :
      decodePair (encodePair pair.1.toList pair.2.toList) = pair := by
    rw [decodePair_encodePair, String.ofList_toList, String.ofList_toList]
  rw [decodePairs, encodePairs, String.toList_ofList, pieces_eq_splitOn]
  by_cases hpairs : pairs = []
  · subst hpairs
    rfl
  · rw [List.splitOn_intercalate '&' ?_ (by simpa using hpairs), List.filter_eq_self.2 ?_,
      List.map_map]
    rotate_left
    · rw [List.forall_mem_map]
      exact fun pair _ => by simpa using (hencoded pair).2
    · rw [List.forall_mem_map]
      exact fun pair _ => (hencoded pair).1
    exact (List.map_congr_left fun pair _ => hdecoded pair).trans (List.map_id pairs)

theorem find?_cons (pair : String × String) (pairs : List (String × String)) (name : String) :
    find? (pair :: pairs) name = if pair.1 = name then some pair.2 else find? pairs name := by
  by_cases hname : pair.1 = name <;> simp [find?, hname]

theorem seek?_eq_find? (name s : String) : seek? name s = find? (decodePairs s) name := by
  rw [seek?, decodePairs]
  induction pieces '&' s.toList with
  | nil => rfl
  | cons piece rest ih =>
    by_cases hempty : piece = []
    · have hskipped : valueOf? name piece = none := if_pos hempty
      rw [List.findSome?_cons_of_isNone (by rw [hskipped]; rfl), ih,
        List.filter_cons_of_neg (by simpa using hempty)]
    · rw [List.filter_cons_of_pos (by simpa using hempty), List.map_cons, find?_cons,
        List.findSome?_cons, valueOf?, if_neg hempty, ih]
      by_cases hname : (decodePair piece).1 = name <;> simp [hname]

end UrlRouter.Form

namespace UrlRouter.SimpleRequest

theorem new_of_not_mem {target : String} (h : '?' ∉ target.toList) (m : Method) :
    new m target = ⟨m, target, [], [], false⟩ := by
  have hcut : Text.cutString "?" target = none := by
    rw [Text.cutString, Option.map_eq_none_iff]
    exact Text.cut_singleton_eq_none_iff.2 h
  rw [new, hcut]

theorem new_of_append {target : String} {path query : List Char}
    (htext : target.toList = path ++ '?' :: query) (hpath : '?' ∉ path) (m : Method) :
    new m target =
      ⟨m, String.ofList path, Form.decodePairs (String.ofList query), [], false⟩ := by
  have hcut : Text.cut "?".toList target.toList = some (path, query) :=
    Text.cut_singleton_eq_some_iff.2 ⟨htext, hpath⟩
  rw [new, Text.cutString, hcut]
  rfl

end UrlRouter.SimpleRequest
