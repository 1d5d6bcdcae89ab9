import UrlRouter.Regex.Footprint
import UrlRouter.Regex.Meaning
import UrlRouter.Regex.Parser
import UrlRouter.Regex.Search

/-!
Regular expressions: leftmost matches, and among those at one place the one that the order of
alternatives and the greed of repetitions prefer.
-/

namespace UrlRouter

structure Regex where
  source : String
  program : Regex.Program
  deriving Inhabited

namespace Regex

def compile? (source : String) : Option Regex := do
  let e ← Expr.read? source.toList
  let (node, _) ← e.node? .initial 0
  if node.fits then some ⟨source, .ofNode node⟩ else none

def captures? (r : Regex) (text : String) : Option Captures := r.program.captures? text.toList

def isMatch (r : Regex) (text : String) : Bool := (r.captures? text).isSome

def wrapped (source : String) : String := "^(?:" ++ source ++ ")$"

end Regex

end UrlRouter
