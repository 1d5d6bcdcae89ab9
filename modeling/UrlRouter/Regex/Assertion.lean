import UrlRouter.Regex.Segmentation

namespace UrlRouter.Regex

open Unicode

def wordClass : CharClass :=
  .ofTables
    [alphabetic, nonspacingMark, spacingMark, enclosingMark, decimalNumber, connectorPunctuation,
      joinControl]

def asciiWordClass : CharClass :=
  .ofSorted [(0x30, 0x39), (0x41, 0x5A), (0x5F, 0x5F), (0x61, 0x7A)]

inductive Side where
  | start
  | stop
  deriving DecidableEq, Repr

inductive Assertion where
  | textStart
  | textEnd
  | lineStart
  | lineEnd
  /-- lines also end in a carriage return, and the pair with a line feed is one end -/
  | anyLineStart
  | anyLineEnd
  | boundary (ascii : Bool)
  | noBoundary (ascii : Bool)
  | wordEdge (side : Side) (ascii : Bool)
  /-- no word character stands on the outer side -/
  | halfEdge (side : Side) (ascii : Bool)
  deriving DecidableEq, Repr

def isWord (ascii : Bool) (c : Option Char) : Bool :=
  match c with
  | some c => (if ascii then asciiWordClass else wordClass).contains c.toNat
  | none => false

def Assertion.holds (before after : Option Char) : Assertion → Bool
  | .textStart => before == none
  | .textEnd => after == none
  | .lineStart => before == none || before == some '\n'
  | .lineEnd => after == none || after == some '\n'
  | .anyLineStart =>
      before == none || before == some '\n' || (before == some '\r' && after != some '\n')
  | .anyLineEnd =>
      after == none || after == some '\r' || (after == some '\n' && before != some '\r')
  | .boundary ascii => isWord ascii before != isWord ascii after
  | .noBoundary ascii => isWord ascii before == isWord ascii after
  | .wordEdge .start ascii => !isWord ascii before && isWord ascii after
  | .wordEdge .stop ascii => isWord ascii before && !isWord ascii after
  | .halfEdge .start ascii => !isWord ascii before
  | .halfEdge .stop ascii => !isWord ascii after

end UrlRouter.Regex
