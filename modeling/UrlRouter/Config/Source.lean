import UrlRouter.Config.Error
import UrlRouter.Config.Spec
import UrlRouter.Json.Reader
import UrlRouter.Router.Registration
import UrlRouter.Toml.Reader

namespace UrlRouter

structure RouteSource where
  locales : List String
  translations : Translations
  routes : List RouteSpec

namespace RouteSource

/-- Entries are read as a whole, so no part of them may be unusable. -/
def entry? (d : Document) : Option RouteSpec :=
  if d.usable then RouteSpec.ofDocument? d else none

def ofDocument? (d : Document) : Option RouteSource := do
  let fields ← d.record? ["locales", "translations", "routes"]
  let get (name : String) := Document.field? name fields
  let locales ← Document.orDefault? [] (Document.elements? Document.string?) (get "locales")
  let words ← Document.orDefault? .empty (Document.dict? (Document.dict? Document.string?))
    (get "translations")
  let routes ← Document.orDefault? [] (Document.elements? entry?) (get "routes")
  some ⟨locales, ⟨words⟩, routes⟩

def ofJson (text : String) : Except ConfigError RouteSource :=
  match (Json.readDocument text).bind ofDocument? with
  | some source => .ok source
  | none => .error .json

def ofToml (text : String) : Except ConfigError RouteSource :=
  match (Toml.readDocument text).bind ofDocument? with
  | some source => .ok source
  | none => .error .toml

/-- The part of a file's name behind its last dot, unless the name starts with that dot. -/
def extension? (fileName : String) : Option String :=
  match Text.cut ['.'] fileName.toList.reverse with
  | some (reversed, _ :: _) => some (String.ofList reversed.reverse)
  | _ => none

/-- Reads a file by its name and its content, which is absent when the file cannot be read. -/
def ofFile (fileName : String) (content : Option String) : Except ConfigError RouteSource :=
  match content with
  | none => .error .io
  | some text => if extension? fileName = some "toml" then ofToml text else ofJson text

def knownLocales (s : RouteSource) : Locales := ⟨s.locales, s.translations⟩

end RouteSource

def statusOf (code : Nat) : Except ConfigError Status :=
  match Status.of? code with
  | some s => .ok s
  | none => .error (.invalid (.status code))

def methodOf (text : String) : Except ConfigError Method :=
  match Method.of? (String.ofList (text.toList.map Char.toUpper)) with
  | some m => .ok m
  | none => .error (.invalid (.method text))

def InputSpec.toInput (i : InputSpec) : Except ConfigError Input :=
  match InputType.read i.type with
  | .ok type => .ok ⟨i.name, type, i.mandatory⟩
  | .error cause => .error (.invalid (.input i.name cause))

def HandlerSpec.toRef {φ : Type} : HandlerSpec → HandlerRef φ
  | .text s => .read s
  | .pair controller method => .target controller (some method)

namespace TableSpec

variable {φ : Type}

def settings (t : TableSpec) : Except ConfigError (RouteSettings φ) := do
  let method ← t.method.mapM methodOf
  let inputs ← t.inputs.mapM InputSpec.toInput
  let responseCode ← t.responseCode.mapM statusOf
  match RouteOptions.ofMap t.options with
  | .error cause => throw (.router (.invalidOption cause))
  | .ok options =>
      return {
        method, inputs, responseCode, options
        handler := t.handler.map HandlerSpec.toRef
        args := t.args
        conditions := [] }

def definition (t : TableSpec) : Except ConfigError (RouteDefinition φ) :=
  match t.name, t.pattern with
  | some (.status code), _ => (statusOf code).map .error
  | some (.text name), pattern =>
      .ok { RouteDefinition.new (pattern.getD "") with name := some (.ofString name) }
  | none, some pattern => .ok (.new pattern)
  | none, none => .error (.invalid .nameAndMatchMissing)

def groupName (t : TableSpec) : Except ConfigError (Option String) :=
  match t.name with
  | none => .ok none
  | some (.text name) => .ok (some name)
  | some (.status code) => .error (.invalid (.groupNamedAfterStatus code))

end TableSpec

mutual

def RouteSpec.toEntry {φ : Type} : RouteSpec → Except ConfigError (RouteEntry φ)
  | .line text => .ok (.line text)
  | .leaf t => do
      let settings ← t.settings
      let route : RouteDefinition φ ← t.definition
      return .route { route with settings }
  | .group t specs => do
      let settings ← t.settings
      let name ← t.groupName
      return .group name t.pattern settings (← toEntries specs)

def toEntries {φ : Type} : List RouteSpec → Except ConfigError (List (RouteEntry φ))
  | [] => .ok []
  | spec :: specs => do
      let e ← spec.toEntry
      let es ← toEntries specs
      return e :: es

end

namespace RouteSource

variable {φ : Type}

def entries (s : RouteSource) : Except ConfigError (List (RouteEntry φ)) := toEntries s.routes

def toRouter (s : RouteSource) : Except ConfigError (Router φ) := do
  let es ← s.entries
  match (Router.withLocales s.knownLocales).insertAll es with
  | (r, .ok ()) => return r
  | (_, .error cause) => throw (.router cause)

end RouteSource

end UrlRouter
