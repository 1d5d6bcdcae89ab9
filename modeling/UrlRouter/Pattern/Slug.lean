import UrlRouter.Unicode.Alphanumeric
import UrlRouter.Unicode.Lowercase

/-!
Slugs: the kept characters of a text in lowercase, with one dash for each gap between them.
-/

namespace UrlRouter

open Unicode

def isSlugChar (c : Char) : Bool := isAlphanumeric c || c == '_' || c == '.' || c == '~'

/-- The slug of the rest of a text: whether something has been kept before, and whether something
has been left out since. -/
def slugFrom (kept gap : Bool) : List Char → List Char
  | [] => []
  | c :: cs =>
      if isSlugChar c then
        (if gap && kept then ['-'] else []) ++ lowercase c ++ slugFrom true false cs
      else slugFrom kept true cs

def slug (cs : List Char) : List Char := slugFrom false false cs

theorem slugFrom_eq_nil_iff {kept gap : Bool} {cs : List Char} :
    slugFrom kept gap cs = [] ↔ ∀ c ∈ cs, isSlugChar c = false := by
  induction cs generalizing kept gap with
  | nil => simp [slugFrom]
  | cons c cs ih =>
      simp only [slugFrom]
      split
      · next h => simp [lowercase_ne_nil, h]
      · next h => simp [ih, h]

def urlize (s : String) : String := String.ofList (slug s.toList)

end UrlRouter
