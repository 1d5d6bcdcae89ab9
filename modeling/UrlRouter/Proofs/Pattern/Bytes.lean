import UrlRouter.Proofs.Pattern.Scanning

/-!
Reading a pattern from its bytes is reading its characters. All slices that are taken of the bytes
begin and end at borders of characters, so reading never breaks off, and its pieces and its errors
are those of the text.
-/

namespace UrlRouter

open Text Relation

theorem textOf_utf8 (cs : List Char) : textOf (utf8 cs) = String.ofList cs := by
  rw [textOf, ofUtf8_utf8]

theorem readNamedBytes_utf8 (value : List Char) :
    readNamedBytes (utf8 value) = some (readNamed value) := by
  rw [readNamedBytes, position?_utf8 (List.cons_ne_nil _ _), readNamed]
  cases hopen : cut ['<'] value with
  | none => simp [ofUtf8_utf8]
  | some parts =>
    obtain ⟨lead, rest⟩ := parts
    obtain ⟨rfl, hlead⟩ := cut_singleton_eq_some_iff.1 hopen
    dsimp only [Option.map_some]
    rw [slice?_utf8_right rfl rfl]
    dsimp only [Option.bind_eq_bind, Option.bind_some]
    rw [position?_utf8 (List.cons_ne_nil _ _), cut_cons (by simp)]
    cases hclose : cut ['>'] rest with
    | none => simp [textOf_utf8]
    | some parts =>
      obtain ⟨name, body⟩ := parts
      obtain ⟨rfl, _⟩ := cut_singleton_eq_some_iff.1 hclose
      have hthrough : (utf8 (lead ++ '<' :: name)).length =
          (utf8 lead).length + (utf8 ('<' :: name)).length := length_utf8_append lead ('<' :: name)
      have hname : slice? (utf8 (lead ++ '<' :: (name ++ '>' :: body))) ((utf8 lead).length + 1)
          ((utf8 lead).length + (utf8 ('<' :: name)).length) = some (utf8 name) :=
        slice?_utf8 (u := lead ++ ['<']) (w := '>' :: body) (by simp)
          (length_utf8_append lead ['<']) (by simpa using hthrough)
      have hbody : slice? (utf8 (lead ++ '<' :: (name ++ '>' :: body)))
          ((utf8 lead).length + (utf8 ('<' :: name)).length + 1)
          (utf8 (lead ++ '<' :: (name ++ '>' :: body))).length = some (utf8 body) :=
        slice?_utf8_right (u := lead ++ '<' :: name ++ ['>']) (by simp)
          ((length_utf8_append _ ['>']).trans (congrArg (· + 1) hthrough))
      dsimp only [Option.map_some]
      rw [hname, slice?_utf8_left, hbody]
      dsimp only [Option.bind_some]
      rw [ofUtf8_utf8, ofUtf8_utf8, ofUtf8_utf8, textOf_utf8]
      split <;> rfl

theorem Token.readBytes_utf8 (raw : List Char) :
    Token.readBytes (utf8 raw) = some (Token.read raw) := by
  rw [readBytes, position?_utf8 (List.cons_ne_nil _ _), read]
  cases hcut : cut [':'] raw with
  | none =>
    rw [textOf_utf8]
    rfl
  | some parts =>
    obtain ⟨letter, value⟩ := parts
    obtain ⟨rfl, _⟩ := cut_singleton_eq_some_iff.1 hcut
    have hvalue : slice? (utf8 (letter ++ ':' :: value)) ((utf8 letter).length + 1)
        (utf8 (letter ++ ':' :: value)).length = some (utf8 value) :=
      slice?_utf8_right (u := letter ++ [':']) (by simp) (length_utf8_append letter [':'])
    dsimp only [Option.map_some]
    rw [slice?_utf8_left, hvalue]
    dsimp only [Option.bind_eq_bind, Option.bind_some]
    rw [ofUtf8_utf8, readNamedBytes_utf8, textOf_utf8, textOf_utf8]
    cases Kind.read? letter with
    | none => rfl
    | some kind =>
      dsimp only [Option.bind_some]
      cases readNamed value with
      | error e => rfl
      | ok parts =>
        dsimp only
        split <;> rfl

theorem nextToken_utf8 {cs before inner : List Char}
    (h : cut ['\x7b', '\x7b'] cs = some (before, inner)) :
    nextToken (utf8 cs) (utf8 before).length =
      some (match closeToken 0 inner with
        | none => .error (.unterminated (String.ofList ('\x7b' :: '\x7b' :: inner)))
        | some (raw, rest) => (Token.read raw).map fun t => (before, t, utf8 rest)) := by
  obtain rfl := eq_append_of_cut h
  have hbefore : slice? (utf8 (before ++ ['\x7b', '\x7b'] ++ inner)) 0 (utf8 before).length =
      some (utf8 before) := by
    rw [List.append_assoc]
    exact slice?_utf8_left before _
  have hinner : slice? (utf8 (before ++ ['\x7b', '\x7b'] ++ inner)) ((utf8 before).length + 2)
      (utf8 (before ++ ['\x7b', '\x7b'] ++ inner)).length = some (utf8 inner) :=
    slice?_utf8_right rfl (length_utf8_append before ['\x7b', '\x7b'])
  rw [nextToken, hbefore, hinner]
  dsimp only [Option.bind_eq_bind, Option.bind_some]
  rw [closePosition_utf8]
  cases hclose : closeToken 0 inner with
  | none =>
    dsimp only [Option.map_none]
    rw [slice?_utf8_right (List.append_assoc before _ inner).symm rfl, Option.bind_some,
      textOf_utf8]
    rfl
  | some parts =>
    obtain ⟨raw, rest⟩ := parts
    obtain rfl := eq_append_of_closeToken hclose
    have hrest : slice? (utf8 (raw ++ '\x7d' :: '\x7d' :: rest)) ((utf8 raw).length + 2)
        (utf8 (raw ++ '\x7d' :: '\x7d' :: rest)).length = some (utf8 rest) :=
      slice?_utf8_right (u := raw ++ ['\x7d', '\x7d']) (by simp)
        (length_utf8_append raw ['\x7d', '\x7d'])
    dsimp only [Option.map_some]
    rw [slice?_utf8_left, Option.bind_some, Token.readBytes_utf8, hrest, Option.bind_some,
      ofUtf8_utf8]
    cases Token.read raw <;> rfl

theorem splitBytes_of_position? {bs : List UInt8} {opening : Nat}
    (h : position? (utf8 ['\x7b', '\x7b']) bs = some opening) :
    splitBytes bs =
      match nextToken bs opening with
      | none => none
      | some (.error e) => some (.error e)
      | some (.ok (before, t, rest)) =>
          (splitBytes rest).map fun ps => ps.map (literalPieces before ++ .token t :: ·) := by
  rw [splitBytes, h]
  dsimp only
  split <;> simp_all

theorem splitBytes_of_cut {cs before inner : List Char}
    (h : cut ['\x7b', '\x7b'] cs = some (before, inner)) :
    splitBytes (utf8 cs) =
      match closeToken 0 inner with
      | none => some (.error (.unterminated (String.ofList ('\x7b' :: '\x7b' :: inner))))
      | some (raw, rest) =>
          match Token.read raw with
          | .error e => some (.error e)
          | .ok t => (splitBytes (utf8 rest)).map fun ps =>
              ps.map (literalPieces before ++ .token t :: ·) := by
  have hposition : position? (utf8 ['\x7b', '\x7b']) (utf8 cs) = some (utf8 before).length := by
    rw [position?_utf8 (List.cons_ne_nil _ _), h]
    rfl
  rw [splitBytes_of_position? hposition, nextToken_utf8 h]
  cases closeToken 0 inner with
  | none => rfl
  | some parts =>
    dsimp only
    cases Token.read parts.1 <;> rfl

theorem splitBytes_utf8 (cs : List Char) : splitBytes (utf8 cs) = some (split cs) := by
  fun_induction split cs with
  | case1 cs hcut =>
    rw [splitBytes, position?_utf8 (List.cons_ne_nil _ _), hcut]
    dsimp only [Option.map_none]
    rw [ofUtf8_utf8]
  | case2 cs before inner hcut hclose => rw [splitBytes_of_cut hcut, hclose]
  | case3 cs before inner hcut raw rest hclose e hread =>
    rw [splitBytes_of_cut hcut, hclose]
    dsimp only
    rw [hread]
  | case4 cs before inner hcut raw rest hclose t hread e hrest ih
  | case5 cs before inner hcut raw rest hclose t hread ps hrest ih =>
    rw [splitBytes_of_cut hcut, hclose]
    dsimp only
    rw [hread]
    dsimp only
    rw [ih, hrest]
    rfl

theorem bytes_tokenized_as_characters (cs : List Char) :
    (∀ i, closePosition .bytes (utf8 cs) = some i ↔
      ∃ before after, cs = before ++ '\x7d' :: after ∧
        closePosition .characters cs = some before.length ∧ i = (utf8 before).length) ∧
    (∀ s, ReflTransGen (TokenScan.Next .bytes (utf8 cs)) .start s → s.Bounded (utf8 cs)) ∧
    (∀ i, isBoundary (utf8 cs) i = true ↔ ∃ u v, cs = u ++ v ∧ i = (utf8 u).length) ∧
    splitBytes (utf8 cs) = some (split cs) := by
  refine ⟨fun i => ?_, fun s => TokenScan.bounded_of_reaches, fun i => isBoundary_utf8_iff,
    splitBytes_utf8 cs⟩
  rw [closePosition_utf8, closePosition_characters]
  constructor
  · intro h
    obtain ⟨⟨raw, rest⟩, hclose, rfl⟩ := Option.map_eq_some_iff.1 h
    refine ⟨raw, '\x7d' :: rest, eq_append_of_closeToken hclose, ?_, rfl⟩
    rw [hclose, Option.map_some]
  · rintro ⟨before, after, hcs, h, rfl⟩
    obtain ⟨⟨raw, rest⟩, hclose, hlength⟩ := Option.map_eq_some_iff.1 h
    have htext := eq_append_of_closeToken hclose
    rw [hcs] at htext
    obtain ⟨rfl, _⟩ := List.append_inj htext hlength.symm
    rw [hclose, Option.map_some]

-- a byte that continues a character is no place to cut at
example : splitBytes [0x7B, 0x7B, 0xA9, 0x3A, 0x7D, 0x7D] = none := by cbv

end UrlRouter
