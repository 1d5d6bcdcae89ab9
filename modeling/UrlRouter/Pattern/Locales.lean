import UrlRouter.Dict

namespace UrlRouter

structure Translations where
  keys : Dict (Dict String)
  deriving DecidableEq

namespace Translations

def empty : Translations := ⟨.empty⟩

def insert (t : Translations) (key locale word : String) : Translations :=
  ⟨t.keys.insert key (((t.keys.get? key).getD .empty).insert locale word)⟩

def translate? (t : Translations) (key locale : String) : Option String :=
  (t.keys.get? key).bind (·.get? locale)

def words (t : Translations) (key : String) : List String :=
  match t.keys.get? key with
  | some ws => if ws.isEmpty then [key] else ws.values
  | none => [key]

def isEmpty (t : Translations) : Bool := t.keys.isEmpty

theorem words_ne_nil (t : Translations) (key : String) : t.words key ≠ [] := by
  unfold words
  split
  · next ws _ =>
      obtain ⟨es, _⟩ := ws
      cases es <;> simp [Dict.isEmpty, Dict.values]
  · simp

end Translations

structure Locales where
  available : List String
  translations : Translations
  deriving DecidableEq

namespace Locales

def empty : Locales := ⟨[], .empty⟩

def default (l : Locales) : String := l.available.head?.getD ""

end Locales

inductive LocaleSource where
  /-- the first of the available codes -/
  | available (codes : List String)
  | fixed (current : String) (codes : List String)
  deriving DecidableEq, Repr

namespace LocaleSource

def pinned (current : String) : LocaleSource := .fixed current [current]

def current : LocaleSource → String
  | .available codes => codes.head?.getD ""
  | .fixed current _ => current

def codes : LocaleSource → List String
  | .available codes => codes
  | .fixed _ codes => codes

end LocaleSource

end UrlRouter
