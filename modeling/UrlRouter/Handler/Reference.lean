import UrlRouter.Json.Printer
import UrlRouter.Text.Quoted
import UrlRouter.Text.Split

namespace UrlRouter

open Text

inductive HandlerRef (φ : Type) where
  | func (f : φ)
  | target (controller : String) (action : Option String)
  deriving DecidableEq, Inhabited

namespace HandlerRef

variable {φ : Type}

def read (s : String) : HandlerRef φ :=
  match cutString "::" s with
  | none => .target (trimmed s) none
  | some (controller, action) =>
      .target (trimmed controller) (if action = "" then none else some (trimmed action))

def text : HandlerRef φ → String
  | .func _ => "<fn>"
  | .target controller (some action) => controller ++ "::" ++ action
  | .target controller none => controller

def debugText (h : HandlerRef φ) : String := "HandlerRef(" ++ h.text ++ ")"

end HandlerRef

structure TokenError where
  name : String
  template : String
  deriving DecidableEq, Repr

def TokenError.message (e : TokenError) : String :=
  "no argument " ++ quoted e.name ++ " for handler token " ++ quoted e.template

/-- Replaces each name in angle brackets by the text of its argument, which is not looked at again.
An opening bracket that is never closed stands for itself. -/
def fillBrackets (args : Args) (template : List Char) : Except String (List Char) :=
  match _hlt : cut ['<'] template with
  | none => .ok template
  | some (before, rest) =>
      match _hgt : cut ['>'] rest with
      | none => .ok template
      | some (name, rest) =>
          match (args.get? (String.ofList name)).bind Json.valueText? with
          | none => .error (String.ofList name)
          | some value => (fillBrackets args rest).map fun text => before ++ value.toList ++ text
termination_by template.length
decreasing_by
  have h1 := congrArg List.length (eq_append_of_cut _hlt)
  have h2 := congrArg List.length (eq_append_of_cut _hgt)
  simp at h1 h2
  omega

def renderToken (args : Args) (template : String) : Except TokenError String :=
  match fillBrackets args template.toList with
  | .ok cs => .ok (String.ofList cs)
  | .error name => .error ⟨name, template⟩

end UrlRouter
