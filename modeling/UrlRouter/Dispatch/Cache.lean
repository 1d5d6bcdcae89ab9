import UrlRouter.Dict
import UrlRouter.Route.Options

/-!
Caches: texts by keys with a time to live. A cache in memory keeps an expired entry until it is
asked for its key or purged.
-/

namespace UrlRouter

/-- A moment in nanoseconds since the start of 1970. -/
structure Instant where
  nanos : Nat
  deriving DecidableEq, Repr

namespace Instant

def after? (t : Instant) (d : Duration) : Option Instant :=
  let later : Instant := ⟨t.nanos + d.nanos⟩
  if later.nanos / 1000000000 < Nat.pow 2 63 then some later else none

end Instant

/-- How a cache is read and written. Reading may drop what has expired. -/
structure CacheStore (κ : Type) where
  get : Instant → String → κ → Option String × κ
  set : Instant → String → String → Duration → κ → κ

structure MemoryCache.Entry where
  value : String
  /-- absent beyond the last moment -/
  deadline : Option Instant
  deriving DecidableEq, Repr

structure MemoryCache where
  entries : Dict MemoryCache.Entry
  deriving DecidableEq

namespace MemoryCache

def Entry.alive (e : Entry) (now : Instant) : Bool :=
  e.deadline.all fun d => decide (now.nanos < d.nanos)

def empty : MemoryCache := ⟨.empty⟩

def get (now : Instant) (key : String) (c : MemoryCache) : Option String × MemoryCache :=
  match c.entries.get? key with
  | none => (none, c)
  | some e => if e.alive now then (some e.value, c) else (none, ⟨c.entries.erase key⟩)

def set (now : Instant) (key value : String) (ttl : Duration) (c : MemoryCache) : MemoryCache :=
  ⟨c.entries.insert key ⟨value, now.after? ttl⟩⟩

def purge (now : Instant) (c : MemoryCache) : MemoryCache :=
  ⟨c.entries.filter fun _ e => e.alive now⟩

def size (c : MemoryCache) : Nat := c.entries.size

def isEmpty (c : MemoryCache) : Bool := c.entries.isEmpty

def store : CacheStore MemoryCache := ⟨get, set⟩

theorem get_fst (now : Instant) (key : String) (c : MemoryCache) :
    (c.get now key).1 = ((c.entries.get? key).filter (·.alive now)).map (·.value) := by
  unfold get
  cases c.entries.get? key with
  | none => rfl
  | some e => by_cases h : e.alive now <;> simp [Option.filter, h]

theorem entries_get (now : Instant) (key other : String) (c : MemoryCache) :
    (c.get now key).2.entries.get? other =
      if key = other then (c.entries.get? other).filter (·.alive now)
      else c.entries.get? other := by
  unfold get
  cases hk : c.entries.get? key with
  | none =>
      by_cases h : key = other
      · subst h; simp [hk]
      · simp [h]
  | some e =>
      by_cases h : key = other
      · subst h
        by_cases ha : e.alive now <;> simp [Option.filter, ha, hk, Dict.get?_erase]
      · by_cases ha : e.alive now <;> simp [ha, h, Dict.get?_erase]

theorem entries_set (now : Instant) (key other value : String) (ttl : Duration)
    (c : MemoryCache) :
    (c.set now key value ttl).entries.get? other =
      if key = other then some ⟨value, now.after? ttl⟩ else c.entries.get? other :=
  c.entries.get?_insert key other _

theorem entries_purge (now : Instant) (key : String) (c : MemoryCache) :
    (c.purge now).entries.get? key = (c.entries.get? key).filter (·.alive now) :=
  c.entries.get?_filter _ key

end MemoryCache

end UrlRouter
