namespace UrlRouter.Text

def utf8 (cs : List Char) : List UInt8 := cs.flatMap String.utf8EncodeChar

def replacement : Char := '\ufffd'

def isContinuation (b : UInt8) : Bool := decide (0x80 ≤ b) && decide (b < 0xC0)

/-- Whether `b` can follow the first byte `a`: no long forms, no halves of pairs and nothing
beyond the last code point. -/
def isSecond (a b : UInt8) : Bool :=
  if a = 0xE0 then decide (0xA0 ≤ b) && decide (b < 0xC0)
  else if a = 0xED then decide (0x80 ≤ b) && decide (b < 0xA0)
  else if a = 0xF0 then decide (0x90 ≤ b) && decide (b < 0xC0)
  else if a = 0xF4 then decide (0x80 ≤ b) && decide (b < 0x90)
  else isContinuation b

def following? (a : UInt8) : Option Nat :=
  if a < 0x80 then some 0
  else if 0xC2 ≤ a ∧ a < 0xE0 then some 1
  else if 0xE0 ≤ a ∧ a < 0xF0 then some 2
  else if 0xF0 ≤ a ∧ a < 0xF5 then some 3
  else none

def low6 (b : UInt8) : Nat := b.toNat % 64

/-- The characters of the bytes. The longest start of a character that breaks off is replaced as
one. -/
def ofUtf8 : List UInt8 → List Char
  | [] => []
  | a :: bs =>
      match following? a with
      | none => replacement :: ofUtf8 bs
      | some 0 => Char.ofNat a.toNat :: ofUtf8 bs
      | some n =>
          match bs with
          | [] => [replacement]
          | b :: cs =>
              if ¬ isSecond a b then replacement :: ofUtf8 (b :: cs)
              else if n = 1 then Char.ofNat (a.toNat % 32 * 64 + low6 b) :: ofUtf8 cs
              else
                match cs with
                | [] => [replacement]
                | c :: ds =>
                    if ¬ isContinuation c then replacement :: ofUtf8 (c :: ds)
                    else if n = 2 then
                      Char.ofNat ((a.toNat % 16 * 64 + low6 b) * 64 + low6 c) :: ofUtf8 ds
                    else
                      match ds with
                      | [] => [replacement]
                      | d :: es =>
                          if ¬ isContinuation d then replacement :: ofUtf8 (d :: es)
                          else
                            Char.ofNat (((a.toNat % 8 * 64 + low6 b) * 64 + low6 c) * 64 + low6 d) ::
                              ofUtf8 es

end UrlRouter.Text
