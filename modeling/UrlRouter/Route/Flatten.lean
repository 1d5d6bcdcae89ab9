import UrlRouter.Pattern.Compile
import UrlRouter.Route.Line

/-!
Trees of routes as a list. Each leaf takes over the settings of the groups around it, and its name
and pattern are joined from theirs.
-/

namespace UrlRouter

structure FlatRoute (φ : Type) where
  name : RouteName
  pattern : String
  handler : HandlerRef φ
  settings : RouteSettings φ

structure Scope where
  names : List String
  fragments : List String

def Scope.empty : Scope := ⟨[], []⟩

def trimSlashes (cs : List Char) : List Char :=
  Text.dropEndWhile (· = '/') (cs.dropWhile (· = '/'))

def joinNames (names : List String) : String :=
  String.ofList (['/'].intercalate
    ((names.map fun n => trimSlashes n.toList).filter (· ≠ [])))

def joinFragment (path : List Char) (fragment : String) : List Char :=
  match fragment.toList.dropWhile (· = '/') with
  | [] => path
  | part => if path.getLast? = some '/' then path ++ part else path ++ '/' :: part

def joinFragments (fragments : List String) : String :=
  String.ofList (fragments.foldl joinFragment ['/'])

def checkFragment (fragment : String) : Except RouterError Unit :=
  if isAnchored fragment.toList then .error (.pattern fragment .anchored) else .ok ()

def derivedName (scope : Scope) (pattern : String) (method : Option Method) : String :=
  let joined := joinNames (scope.names ++ [pattern])
  (if joined = "" then "/" else joined) ++ match method with
    | some m => "@" ++ m.name
    | none => ""

namespace RouteDefinition

variable {φ : Type}

def fullName (scope : Scope) (d : RouteDefinition φ) : RouteName :=
  match d.name with
  | some (.error status) => .error status
  | some (.named n) => .named (joinNames (scope.names ++ [n]))
  | none => .named (derivedName scope d.pattern d.settings.method)

def flatten (scope : Scope) (inherited : RouteSettings φ) (d : RouteDefinition φ) :
    Except RouterError (FlatRoute φ) := do
  checkFragment d.pattern
  let name := d.fullName scope
  let settings := d.settings.inherit inherited
  match settings.options.validate with
  | .error e => throw (.invalidOption e)
  | .ok () =>
      match settings.handler with
      | none => throw (.missingHandler name.text)
      | some handler =>
          return ⟨name, joinFragments (scope.fragments ++ [d.pattern]), handler, settings⟩

end RouteDefinition

def Scope.enter (scope : Scope) (name fragment : Option String) : Scope :=
  ⟨scope.names ++ name.toList, scope.fragments ++ (fragment.or name).toList⟩

mutual

def RouteEntry.flatten {φ : Type} (scope : Scope) (inherited : RouteSettings φ) :
    RouteEntry φ → Except RouterError (List (FlatRoute φ))
  | .route d => (d.flatten scope inherited).map fun r => [r]
  | .line text =>
      match RouteDefinition.ofLine text with
      | .error e => .error e
      | .ok d => (d.flatten scope inherited).map fun r => [r]
  | .group name fragment settings children =>
      match (fragment.or name).toList.forM checkFragment with
      | .error e => .error e
      | .ok () => flattenAll (scope.enter name fragment) (settings.inherit inherited) children

def flattenAll {φ : Type} (scope : Scope) (inherited : RouteSettings φ) :
    List (RouteEntry φ) → Except RouterError (List (FlatRoute φ))
  | [] => .ok []
  | e :: es =>
      match e.flatten scope inherited with
      | .error error => .error error
      | .ok rs => (flattenAll scope inherited es).map fun more => rs ++ more

end

def RouteEntry.leaves {φ : Type} (e : RouteEntry φ) : Except RouterError (List (FlatRoute φ)) :=
  e.flatten .empty .empty

end UrlRouter
