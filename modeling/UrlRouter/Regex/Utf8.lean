import UrlRouter.Regex.CharClass

/-!
Ranges of characters as sequences of byte ranges: a range falls into pieces whose encodings are all
the combinations of bytes from one range for each position.
-/

namespace UrlRouter.Regex

open Unicode

abbrev ByteRange := Nat × Nat

def encodedBytes (n : Nat) : List Nat :=
  if n < 0x80 then [n]
  else if n < 0x800 then [0xC0 + n / 64, 0x80 + n % 64]
  else if n < 0x10000 then [0xE0 + n / 4096, 0x80 + n / 64 % 64, 0x80 + n % 64]
  else [0xF0 + n / 262144, 0x80 + n / 4096 % 64, 0x80 + n / 64 % 64, 0x80 + n % 64]

def encodingLengths : Ranges :=
  [(0, 0x7F), (0x80, 0x7FF), (0x800, 0xFFFF), (0x10000, 0x10FFFF)]

/-- Cuts a range at multiples of each block size in turn, so that every piece either lies in one
block or consists of whole blocks. -/
def blockPieces : List Nat → Nat → Nat → Ranges
  | [], low, high => [(low, high)]
  | block :: blocks, low, high =>
      let first := (low + block - 1) / block * block
      let past := (high + 1) / block * block
      if low / block = high / block then [(low, high)]
      else if past ≤ first then
        (if low < first then [(low, first - 1)] else []) ++
          (if first ≤ high then [(first, high)] else [])
      else
        (if low < first then [(low, first - 1)] else []) ++ blockPieces blocks first (past - 1) ++
          (if past ≤ high then [(past, high)] else [])

def byteSequences (range : Nat × Nat) : List (List ByteRange) :=
  encodingLengths.flatMap fun length =>
    let low := max range.1 length.1
    let high := min range.2 length.2
    if high < low then []
    else if high < 0x80 then [[(low, high)]]
    else
      (blockPieces [64, 4096, 262144] low high).map fun (low, high) =>
        (encodedBytes low).zip (encodedBytes high)

def CharClass.byteSequences (s : CharClass) : List (List ByteRange) :=
  s.ranges.flatMap Regex.byteSequences

end UrlRouter.Regex
