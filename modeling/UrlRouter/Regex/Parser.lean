import UrlRouter.Regex.Escape
import UrlRouter.Regex.Expr
import UrlRouter.Unicode.Alphanumeric
import UrlRouter.Unicode.WhiteSpace

/-!
Reading of regular expressions. Where blanks are ignored, white space and comments up to the end
of their line are skipped between the parts of the text.
-/

namespace UrlRouter.Regex

open Unicode

/-- Drops white space and comments; the flag tells whether the text starts inside a comment. -/
def dropIgnored : Bool → List Char → List Char
  | _, [] => []
  | true, c :: cs => dropIgnored (c != '\n') cs
  | false, c :: cs =>
      if isWhiteSpace c then dropIgnored false cs
      else if c = '#' then dropIgnored true cs
      else c :: cs

def skip (blanks : Bool) (cs : List Char) : List Char := if blanks then dropIgnored false cs else cs

def step? (blanks : Bool) (cs : List Char) : Option (List Char) :=
  match skip blanks (cs.drop 1) with
  | [] => none
  | cs => some cs

theorem length_dropIgnored_le (comment : Bool) (cs : List Char) :
    (dropIgnored comment cs).length ≤ cs.length := by
  induction cs generalizing comment with
  | nil => simp [dropIgnored]
  | cons c cs ih =>
      cases comment with
      | true => exact Nat.le_succ_of_le (ih _)
      | false =>
          simp only [dropIgnored]
          split
          · exact Nat.le_succ_of_le (ih _)
          · split
            · exact Nat.le_succ_of_le (ih _)
            · exact Nat.le_refl _

theorem length_skip_le (blanks : Bool) (cs : List Char) : (skip blanks cs).length ≤ cs.length := by
  unfold skip
  split
  · exact length_dropIgnored_le _ _
  · exact Nat.le_refl _

theorem length_lt_of_skip {blanks : Bool} {c : Char} {cs rest : List Char}
    (h : skip blanks cs = c :: rest) : rest.length < cs.length := by
  have hle := length_skip_le blanks cs
  rwa [h] at hle

inductive Atom where
  | char (c : Char) (raw : Bool)
  | charClass (e : ClassExpr)
  | mark (m : Mark)

def hexDigit? (c : Char) : Option Nat :=
  if '0' ≤ c ∧ c ≤ '9' then some (c.toNat - '0'.toNat)
  else if 'a' ≤ c ∧ c ≤ 'f' then some (c.toNat - 'a'.toNat + 10)
  else if 'A' ≤ c ∧ c ≤ 'F' then some (c.toNat - 'A'.toNat + 10)
  else none

def charOf? (n : Nat) : Option Char :=
  if h : n.isValidChar then some (Char.ofNatAux n h) else none

def hexDigits? (blanks : Bool) : Nat → Nat → List Char → Option (Nat × List Char)
  | 0, value, cs => some (value, cs)
  | count + 1, value, cs =>
      match cs with
      | [] => none
      | c :: cs => do
          let d ← hexDigit? c
          hexDigits? blanks count (16 * value + d) (skip blanks cs)

def untilBrace (blanks : Bool) (cs : List Char) : Option (List Char × List Char) :=
  match _ : skip blanks cs with
  | [] => none
  | '\x7d' :: rest => some ([], rest)
  | c :: rest => (untilBrace blanks rest).map fun (text, rest) => (c :: text, rest)
  termination_by cs.length
  decreasing_by exact length_lt_of_skip (by assumption)

/-- A character by its code point, from behind the letter; `count` digits without braces. -/
def readHex (blanks : Bool) (count : Nat) (cs : List Char) : Option (Atom × List Char) :=
  match skip blanks cs with
  | '\x7b' :: cs => do
      let (text, cs) ← untilBrace blanks cs
      let ds ← text.mapM hexDigit?
      if ds = [] then none
      let c ← charOf? (ds.foldl (16 * · + ·) 0)
      some (.char c false, skip blanks cs)
  | cs => do
      let (n, cs) ← hexDigits? blanks count 0 cs
      let c ← charOf? n
      some (.char c (count == 2), cs)

def splitAtSign (sign : List Char) : List Char → Option (List Char × List Char)
  | [] => none
  | c :: cs =>
      match sign.isPrefixOf? (c :: cs) with
      | some rest => some ([], rest)
      | none => (splitAtSign sign cs).map fun (a, b) => (c :: a, b)

def readNamedClass (blanks negated : Bool) (cs : List Char) : Option (Atom × List Char) :=
  match skip blanks cs with
  | [] => none
  | '\x7b' :: cs => do
      let (text, cs) ← untilBrace blanks cs
      let e : ClassExpr :=
        match splitAtSign ['!', '='] text with
        | some (property, value) => .valued property value (!negated)
        | none =>
            match splitAtSign [':'] text with
            | some (property, value) => .valued property value negated
            | none =>
                match splitAtSign ['='] text with
                | some (property, value) => .valued property value negated
                | none => .named text negated
      some (.charClass e, cs)
  | c :: cs => if c = '\\' then none else some (.charClass (.named [c] negated), skip blanks cs)

def isMarkLetter (c : Char) : Bool := c.isAlpha || c == '-'

def markLetters (blanks : Bool) : List Char → List Char × List Char
  | [] => ([], [])
  | c :: rest =>
      if isMarkLetter c then
        let (text, rest) := markLetters blanks (skip blanks rest)
        (c :: text, rest)
      else ([], c :: rest)
  termination_by cs => cs.length
  decreasing_by exact Nat.lt_succ_of_le (length_skip_le blanks rest)

/-- A word boundary from behind its letter. Braces with letters tell which boundary; other braces
belong to a repetition. -/
def readBoundary (blanks : Bool) (cs : List Char) : Option (Mark × List Char) :=
  match cs with
  | '\x7b' :: inner =>
      match skip blanks inner with
      | [] => none
      | c :: rest =>
          if isMarkLetter c then
            match markLetters blanks (c :: rest) with
            | (text, '\x7d' :: cs) =>
                let kind : Option Mark :=
                  match String.ofList text with
                  | "start" => some .wordStart
                  | "end" => some .wordEnd
                  | "start-half" => some .halfStart
                  | "end-half" => some .halfEnd
                  | _ => none
                kind.map fun m => (m, cs)
            | _ => none
          else some (.boundary, cs)
  | cs => some (.boundary, cs)

def isPlainEscape (c : Char) : Bool :=
  isMeta c || (c.toNat < 0x80 && !c.isAlphanum && c != '<' && c != '>')

def readEscape (blanks : Bool) : List Char → Option (Atom × List Char)
  | [] => none
  | c :: cs =>
      match c with
      | 'x' => readHex blanks 2 cs
      | 'u' => readHex blanks 4 cs
      | 'U' => readHex blanks 8 cs
      | 'p' => readNamedClass blanks false cs
      | 'P' => readNamedClass blanks true cs
      | 'd' => some (.charClass (.letter .digit false), cs)
      | 's' => some (.charClass (.letter .space false), cs)
      | 'w' => some (.charClass (.letter .word false), cs)
      | 'D' => some (.charClass (.letter .digit true), cs)
      | 'S' => some (.charClass (.letter .space true), cs)
      | 'W' => some (.charClass (.letter .word true), cs)
      | 'a' => some (.char '\x07' false, cs)
      | 'f' => some (.char '\x0c' false, cs)
      | 't' => some (.char '\t' false, cs)
      | 'n' => some (.char '\n' false, cs)
      | 'r' => some (.char '\r' false, cs)
      | 'v' => some (.char '\x0b' false, cs)
      | 'A' => some (.mark .textStart, cs)
      | 'z' => some (.mark .textEnd, cs)
      | 'b' => (readBoundary blanks cs).map fun (m, cs) => (.mark m, cs)
      | 'B' => some (.mark .noBoundary, cs)
      | '<' => some (.mark .wordStart, cs)
      | '>' => some (.mark .wordEnd, cs)
      | c => if isPlainEscape c then some (.char c false, cs) else none

def posixClass? (name : List Char) : Option PosixClass :=
  match String.ofList name with
  | "alnum" => some .alnum
  | "alpha" => some .alpha
  | "ascii" => some .ascii
  | "blank" => some .blank
  | "cntrl" => some .cntrl
  | "digit" => some .digit
  | "graph" => some .graph
  | "lower" => some .lower
  | "print" => some .print
  | "punct" => some .punct
  | "space" => some .space
  | "upper" => some .upper
  | "word" => some .word
  | "xdigit" => some .xdigit
  | _ => none

def readPosix? (cs : List Char) : Option (ClassExpr × List Char) :=
  match cs with
  | ':' :: cs =>
      let (negated, cs) :=
        match cs with
        | '^' :: cs => (true, cs)
        | cs => (false, cs)
      match splitAtSign [':'] cs with
      | some (name, ']' :: cs) => (posixClass? name).map fun k => (.posix k negated, cs)
      | _ => none
  | _ => none

def readElement (blanks : Bool) : List Char → Option (Atom × List Char)
  | [] => none
  | '\\' :: cs => readEscape blanks cs
  | c :: cs => some (.char c false, cs)

/-- What follows a dash: no white space, and where blanks are ignored no white space behind the sign
of a comment either. The comment itself is not ignored. -/
def behindDash (blanks : Bool) (cs : List Char) : List Char :=
  if blanks then
    match cs.dropWhile isWhiteSpace with
    | '#' :: cs => cs.dropWhile isWhiteSpace
    | cs => cs
  else cs

/-- A range of characters, or one element. A dash before the end of the class or before another
dash makes no range. -/
def readRange (blanks : Bool) (cs : List Char) : Option (ClassExpr × List Char) := do
  let (first, cs) ← readElement blanks cs
  let cs := skip blanks cs
  let isRange :=
    match cs with
    | '-' :: after =>
        match behindDash blanks after with
        | ']' :: _ | '-' :: _ => false
        | _ => true
    | _ => false
  if isRange then
    let cs ← step? blanks cs
    let (last, cs) ← readElement blanks cs
    match first, last with
    | .char low _, .char high _ => if low ≤ high then some (.range low high, cs) else none
    | _, _ => none
  else
    if cs = [] then none
    match first with
    | .char c _ => some (.range c c, cs)
    | .charClass e => some (e, cs)
    | .mark _ => none

def leadingDashes (blanks : Bool) (items : List ClassExpr) :
    List Char → Option (List ClassExpr × List Char)
  | '-' :: rest =>
      match _ : skip blanks rest with
      | [] => none
      | c :: after => leadingDashes blanks (.range '-' '-' :: items) (c :: after)
  | cs => some (items, cs)
  termination_by cs => cs.length
  decreasing_by exact Nat.succ_lt_succ (length_lt_of_skip (by assumption))

abbrev Pending := Option (ClassOp × ClassExpr)

def Pending.close (p : Pending) (items : List ClassExpr) : ClassExpr :=
  let right := ClassExpr.ofItems items.reverse
  match p with
  | some (kind, left) => .op kind left right
  | none => right

mutual

def readClass : Nat → Bool → List Char → Option (ClassExpr × List Char)
  | 0, _, _ => none
  | steps + 1, blanks, cs => do
      let cs := skip blanks cs
      if cs = [] then none
      let (negated, cs) ←
        match cs with
        | '^' :: _ => (step? blanks cs).map fun cs => (true, cs)
        | cs => some (false, cs)
      let (items, cs) ← leadingDashes blanks [] cs
      let (items, cs) ←
        match items, cs with
        | [], ']' :: _ => (step? blanks cs).map fun cs => ([ClassExpr.range ']' ']'], cs)
        | items, cs => some (items, cs)
      let (e, cs) ← readItems steps blanks none items cs
      some (.bracketed negated e, cs)

def readItems :
    Nat → Bool → Pending → List ClassExpr → List Char → Option (ClassExpr × List Char)
  | 0, _, _, _, _ => none
  | steps + 1, blanks, pending, items, cs =>
      match skip blanks cs with
      | [] => none
      | '[' :: cs =>
          match readPosix? cs with
          | some (item, cs) => readItems steps blanks pending (item :: items) cs
          | none => do
              let (item, cs) ← readClass steps blanks cs
              readItems steps blanks pending (item :: items) cs
      | ']' :: cs => some (pending.close items, cs)
      | '&' :: '&' :: cs => readItems steps blanks (some (.inter, pending.close items)) [] cs
      | '-' :: '-' :: cs => readItems steps blanks (some (.diff, pending.close items)) [] cs
      | '~' :: '~' :: cs => readItems steps blanks (some (.symmDiff, pending.close items)) [] cs
      | cs => do
          let (item, cs) ← readRange blanks cs
          readItems steps blanks pending (item :: items) cs

end

def flag? : Char → Option Flag
  | 'i' => some .ignoreCase
  | 'm' => some .multiLine
  | 's' => some .dotAll
  | 'U' => some .swapGreed
  | 'u' => some .unicode
  | 'R' => some .anyLineEnd
  | 'x' => some .ignoreBlanks
  | _ => none

/-- Flags up to a colon or a closing parenthesis, which stays. Each flag and the minus sign may
stand once, and a flag has to follow the sign. -/
def readFlags (negated : Bool) (seen : FlagChanges) :
    List Char → Option (FlagChanges × List Char)
  | [] => none
  | '-' :: cs =>
      match negated, cs with
      | true, _ => none
      | false, [] => none
      | false, ':' :: _ | false, ')' :: _ => none
      | false, cs => readFlags true seen cs
  | c :: cs =>
      if c = ':' ∨ c = ')' then some (seen, c :: cs)
      else
        match flag? c with
        | some f =>
            if (seen.state? f).isSome then none
            else readFlags negated (seen ++ [(f, !negated)]) cs
        | none => none

def isGroupName : List Char → Bool
  | [] => false
  | c :: cs =>
      (c == '_' || isAlphabetic c) &&
        cs.all fun c => c == '_' || c == '.' || c == '[' || c == ']' || isAlphanumeric c

inductive Opening where
  | flags (changes : FlagChanges)
  | group (kind : Grouping)

def Grouping.ignoresBlanks (blanks : Bool) : Grouping → Bool
  | .plain changes => (changes.state? .ignoreBlanks).getD blanks
  | _ => blanks

def readGroupName (cs : List Char) : Option (Opening × List Char) := do
  let (name, cs) ← splitAtSign ['>'] cs
  if isGroupName name then some (.group (.named name), cs) else none

def readOpening (cs : List Char) : Option (Opening × List Char) :=
  match cs with
  | '?' :: '=' :: _ | '?' :: '!' :: _ => none
  | '?' :: '<' :: '=' :: _ | '?' :: '<' :: '!' :: _ => none
  | '?' :: 'P' :: '<' :: cs => readGroupName cs
  | '?' :: '<' :: cs => readGroupName cs
  | '?' :: cs => do
      let (changes, cs) ← readFlags false [] cs
      match cs with
      | ':' :: cs => some (.group (.plain changes), cs)
      | _ :: cs => if changes = [] then none else some (.flags changes, cs)
      | [] => none
  | cs => some (.group .numbered, cs)

def digitsOf (blanks : Bool) : List Char → List Char × List Char
  | [] => ([], [])
  | c :: rest =>
      if c.isDigit then
        let (ds, rest) := digitsOf blanks (skip blanks rest)
        (c :: ds, rest)
      else ([], c :: rest)
  termination_by cs => cs.length
  decreasing_by exact Nat.lt_succ_of_le (length_skip_le blanks rest)

def readCount (blanks : Bool) (cs : List Char) : Option (Nat × List Char) := do
  let (ds, cs) := digitsOf blanks (cs.dropWhile isWhiteSpace)
  let n := ds.foldl (fun n c => 10 * n + (c.toNat - '0'.toNat)) 0
  if ds = [] ∨ Nat.pow 2 32 ≤ n then none
  some (n, skip blanks (cs.dropWhile isWhiteSpace))

def readBounds (blanks : Bool) (cs : List Char) : Option ((Nat × Option Nat) × List Char) := do
  let (least, cs) ← readCount blanks (skip blanks cs)
  match cs with
  | '\x7d' :: cs => some ((least, some least), cs)
  | ',' :: cs =>
      match skip blanks cs with
      | '\x7d' :: cs => some ((least, none), cs)
      | cs => do
          let (most, cs) ← readCount blanks cs
          match cs with
          | '\x7d' :: cs => if least ≤ most then some ((least, some most), cs) else none
          | _ => none
  | _ => none

def readLazy : List Char → Bool × List Char
  | '?' :: cs => (false, cs)
  | cs => (true, cs)

def Atom.toExpr : Atom → Expr
  | .char c raw => .char c raw
  | .charClass e => .charClass e
  | .mark m => .mark m

def repeatLast (bounds : Nat × Option Nat) (greedy : Bool) : List Expr → Option (List Expr)
  | [] => none
  | .empty :: _ | .flags _ :: _ => none
  | e :: items => some (.loop bounds.1 bounds.2 greedy e :: items)

def Expr.ofParts (items branches : List Expr) : Expr :=
  .ofBranches (Expr.ofItems items.reverse :: branches).reverse

/-- An expression up to a closing parenthesis, which stays, or to the end of the text. Items and
branches are collected with the last one first. -/
def readBody : Nat → Bool → List Expr → List Expr → List Char → Option (Expr × List Char)
  | 0, _, _, _, _ => none
  | steps + 1, blanks, items, branches, cs =>
      let repeated (bounds : Nat × Option Nat) (greedy : Bool) (cs : List Char) := do
        readBody steps blanks (← repeatLast bounds greedy items) branches cs
      match skip blanks cs with
      | [] => some (Expr.ofParts items branches, [])
      | ')' :: cs => some (Expr.ofParts items branches, ')' :: cs)
      | '|' :: cs => readBody steps blanks [] (Expr.ofItems items.reverse :: branches) cs
      | '(' :: cs => do
          let (opening, cs) ← readOpening (skip blanks cs)
          match opening with
          | .flags changes =>
              readBody steps ((changes.state? .ignoreBlanks).getD blanks) (.flags changes :: items)
                branches cs
          | .group kind =>
              let (body, cs) ← readBody steps (kind.ignoresBlanks blanks) [] [] cs
              match cs with
              | ')' :: cs => readBody steps blanks (.group kind body :: items) branches cs
              | _ => none
      | '[' :: cs => do
          let (e, cs) ← readClass (2 * steps + 2) blanks cs
          readBody steps blanks (.charClass e :: items) branches cs
      | '?' :: cs => let (greedy, cs) := readLazy cs; repeated (0, some 1) greedy cs
      | '*' :: cs => let (greedy, cs) := readLazy cs; repeated (0, none) greedy cs
      | '+' :: cs => let (greedy, cs) := readLazy cs; repeated (1, none) greedy cs
      | '\x7b' :: cs =>
          if items.isEmpty then none
          else do
            let (bounds, cs) ← readBounds blanks cs
            let (greedy, cs) := readLazy (skip blanks cs)
            repeated bounds greedy cs
      | '\\' :: cs => do
          let (atom, cs) ← readEscape blanks cs
          readBody steps blanks (atom.toExpr :: items) branches cs
      | '.' :: cs => readBody steps blanks (.dot :: items) branches cs
      | '^' :: cs => readBody steps blanks (.mark .lineStart :: items) branches cs
      | '$' :: cs => readBody steps blanks (.mark .lineEnd :: items) branches cs
      | c :: cs => readBody steps blanks (.char c false :: items) branches cs

def Expr.read? (text : List Char) : Option Expr :=
  match readBody (text.length + 1) false [] [] text with
  | some (e, []) => if e.groupNames.Nodup ∧ e.depth ≤ 250 then some e else none
  | _ => none

end UrlRouter.Regex
