import UrlRouter.Text.Split

namespace UrlRouter

open Text

structure Uri where
  scheme : Option String
  authority : String
  /-- as written, possibly empty -/
  rawPath : String
  query : Option String
  deriving DecidableEq, Repr

namespace Uri

def path (u : Uri) : String :=
  if u.rawPath ≠ "" then u.rawPath
  else if u.scheme.isSome ∨ u.query.isSome then "/"
  else ""

def text (u : Uri) : String :=
  (match u.scheme with | some s => s ++ "://" | none => "") ++ u.authority ++ u.path ++
    (match u.query with | some q => "?" ++ q | none => "")

def isSchemeChar (c : Char) : Bool := c.isAlphanum || "+-.~".toList.contains c

def schemeLimit : Nat := 64

def scheme? (cs : List Char) : Option (List Char) :=
  if cs.length ≤ schemeLimit ∧ cs.all isSchemeChar then some cs else none

def isAuthorityChar (c : Char) : Bool := c.isAlphanum || "!$&'()*+,-.:;=@[]_~".toList.contains c

structure Scan where
  colons : Nat
  opened : Bool
  closed : Bool
  percent : Bool
  endsInAt : Bool

def colonLimit : Nat := 8

def Scan.step (s : Scan) (c : Char) : Option Scan :=
  if c = ':' then
    if s.colons < colonLimit then some { s with colons := s.colons + 1, endsInAt := false } else none
  else if c = '[' then
    if s.percent || s.opened then none else some { s with opened := true, endsInAt := false }
  else if c = ']' then
    if !s.opened || s.closed then none
    else some { s with closed := true, colons := 0, percent := false, endsInAt := false }
  else if c = '@' then some { s with colons := 0, percent := false, endsInAt := true }
  else if c = '%' then some { s with percent := true, endsInAt := false }
  else if isAuthorityChar c then some { s with endsInAt := false }
  else none

/-- User information, host and port: brackets in pairs, one colon at most outside of them and of
the user information, a host behind it, and no percent sign in the host. -/
def isAuthority (cs : List Char) : Bool :=
  match cs.foldlM Scan.step ⟨0, false, false, false, false⟩ with
  | some s => s.opened == s.closed && decide (s.colons ≤ 1) && !s.endsInAt && !s.percent
  | none => false

def isPathChar (c : Char) : Bool :=
  let n := c.toNat
  n == 0x21 || n == 0x22 || (0x24 ≤ n && n ≤ 0x3B) || n == 0x3D || (0x40 ≤ n && n ≤ 0x5F) ||
    (0x61 ≤ n && n ≤ 0x7E)

def isQueryChar (c : Char) : Bool :=
  let n := c.toNat
  n == 0x21 || (0x24 ≤ n && n ≤ 0x3B) || n == 0x3D || (0x3F ≤ n && n ≤ 0x7E)

def pathAndQuery? (cs : List Char) : Option (String × Option String) :=
  let kept := cs.takeWhile (· ≠ '#')
  match cut ['?'] kept with
  | some (p, q) =>
      if p.all isPathChar && q.all isQueryChar then some (String.ofList p, some (String.ofList q))
      else none
  | none => if kept.all isPathChar then some (String.ofList kept, none) else none

def build? (server : Option (String × String)) (target : String) : Option Uri := do
  let (path, query) ← pathAndQuery? target.toList
  match server with
  | none => some ⟨none, "", path, query⟩
  | some (scheme, authority) =>
      let _ ← scheme? scheme.toList
      if authority ≠ "" ∧ isAuthority authority.toList then
        some ⟨some scheme, authority, path, query⟩
      else none

def equalsIgnoringCase (a b : List Char) : Bool := a.map Char.toLower == b.map Char.toLower

def splitScheme (cs : List Char) : Option (Option String × List Char) :=
  if equalsIgnoringCase (cs.take 7) "http://".toList then some (some "http", cs.drop 7)
  else if equalsIgnoringCase (cs.take 8) "https://".toList then some (some "https", cs.drop 8)
  else
    match cut "://".toList cs with
    | some (scheme, rest) =>
        if ¬ scheme.all isSchemeChar ∨ cs.length ≤ 3 then some (none, cs)
        else if schemeLimit < scheme.length then none
        else some (some (String.ofList scheme), rest)
    | none => some (none, cs)

def lengthLimit : Nat := 65534

def isAuthorityEnd (c : Char) : Bool := c == '/' || c == '?' || c == '#'

/-- An identifier as it stands in a request: a path with or without a query, a star, an authority,
or all parts. -/
def read? (s : String) : Option Uri :=
  if lengthLimit < s.utf8ByteSize then none
  else
    match s.toList with
    | [] => none
    | ['*'] => some ⟨none, "", "*", none⟩
    | '/' :: cs => (pathAndQuery? ('/' :: cs)).map fun (p, q) => ⟨none, "", p, q⟩
    | [c] => if isAuthority [c] then some ⟨none, s, "", none⟩ else none
    | cs =>
        match splitScheme cs with
        | none => none
        | some (scheme, rest) =>
            let authority := rest.takeWhile (!isAuthorityEnd ·)
            let behind := rest.dropWhile (!isAuthorityEnd ·)
            if ¬ isAuthority authority then none
            else
              match scheme with
              | none => if behind = [] then some ⟨none, String.ofList authority, "", none⟩ else none
              | some scheme =>
                  if authority = [] then none
                  else (pathAndQuery? behind).map fun (p, q) =>
                    ⟨some scheme, String.ofList authority, p, q⟩

end Uri

end UrlRouter
