import UrlRouter.Json.Printer

namespace UrlRouter

structure Duration where
  nanos : Nat
  deriving DecidableEq, Repr

namespace Duration

def ofSeconds (s : Nat) : Duration := ⟨s * 1000000000⟩

def seconds (d : Duration) : Nat := d.nanos / 1000000000

def subsecond (d : Duration) : Nat := d.nanos % 1000000000

end Duration

inductive OptionFault where
  | notBool (value : Json)
  | notSeconds (value : Json)
  | secondsTooLong (value : Json)
  | durationTooLong (duration : Duration)
  deriving Inhabited

def OptionFault.message : OptionFault → String
  | .notBool value => "expected a bool, got " ++ value.text
  | .notSeconds value => "expected whole seconds, got " ++ value.text
  | .secondsTooLong value => "ttl longer than one year, got " ++ value.text
  | .durationTooLong d => "ttl of " ++ toString d.seconds ++ "s is longer than one year"

structure InvalidOption where
  key : String
  fault : OptionFault
  deriving Inhabited

structure RouteOptions where
  urlize : Option Bool
  cache : Option Duration
  extra : Dict Json

namespace RouteOptions

def empty : RouteOptions := ⟨none, none, .empty⟩

instance : Inhabited RouteOptions := ⟨empty⟩

def urlizeKey : String := "URLIZE"

def cacheKey : String := "CACHE"

def maxCache : Duration := .ofSeconds (365 * 24 * 60 * 60)

def set (o : RouteOptions) (key : String) (value : Json) : Except InvalidOption RouteOptions :=
  if key = urlizeKey then
    match value.asBool? with
    | some b => .ok { o with urlize := some b }
    | none => .error ⟨key, .notBool value⟩
  else if key = cacheKey then
    match value.asNat? with
    | some s =>
        if s ≤ maxCache.seconds then .ok { o with cache := some (.ofSeconds s) }
        else .error ⟨key, .secondsTooLong value⟩
    | none => .error ⟨key, .notSeconds value⟩
  else .ok { o with extra := o.extra.insert key value }

def ofMap (map : Dict Json) : Except InvalidOption RouteOptions :=
  map.entries.foldlM (fun o e => o.set e.1 e.2) empty

/-- Reads one option, or keeps it among the others when it is invalid, for `validate` to find. -/
def withOption (o : RouteOptions) (key : String) (value : Json) : RouteOptions :=
  match o.set key value with
  | .ok o => o
  | .error _ => { o with extra := o.extra.insert key value }

/-- Refuses what `ofMap` would have refused, and times that are too long. -/
def validate (o : RouteOptions) : Except InvalidOption Unit := do
  for key in [urlizeKey, cacheKey] do
    match o.extra.get? key with
    | some value => let _ ← empty.set key value
    | none => pure ()
  match o.cache with
  | some d => if maxCache.nanos < d.nanos then throw ⟨cacheKey, .durationTooLong d⟩
  | none => pure ()

def inherit (own parent : RouteOptions) : RouteOptions :=
  { urlize := own.urlize.or parent.urlize
    cache := own.cache.or parent.cache
    extra := parent.extra.overlay own.extra }

end RouteOptions

end UrlRouter
