import UrlRouter.Proofs.Dispatch.Runs

/-!
When the cache is touched. A cache that notes how it is used behaves as the one it is made from, so
what a dispatch asks for and keeps can be told from the notes.
-/

namespace UrlRouter

variable {φ σ κ : Type}

inductive CacheAccess where
  | read (key : String)
  | write (key text : String) (ttl : Duration)
  deriving DecidableEq

def Memory.noting (m : Memory κ σ) (notes : List CacheAccess) :
    Memory (κ × List CacheAccess) σ :=
  ⟨(m.cache, notes), m.code⟩

def Served.noting (s : Served κ σ) (notes : List CacheAccess) :
    Served (κ × List CacheAccess) σ :=
  ⟨s.visit, s.result, s.response, s.matched, s.memory.noting notes⟩

namespace Dispatcher

structure MayCache (d : Dispatcher φ σ κ) (v : Visit) (p : Plan φ σ) : Prop where
  planned : d.Plans v.request p
  caches : p.route.cacheTtl.isSome
  configured : d.cache.isSome
  idle : v.sessionActive = false

inductive Asks (d : Dispatcher φ σ κ) (m : Memory κ σ) (v : Visit) : List CacheAccess → Prop
  | nothing : (∀ p, ¬ d.MayCache v p) → Asks d m v []
  | lookup {p : Plan φ σ} : d.MayCache v p → (∀ ttl body, ¬ d.Stores m v p ttl body) →
      Asks d m v [.read p.key]
  | keep {p : Plan φ σ} {ttl : Duration} {body : String} : d.MayCache v p →
      d.Stores m v p ttl body →
      Asks d m v [.read p.key,
        .write p.key (CachedResponse.capture (p.respond v.now v.response) body).text ttl]

def reads (d : Dispatcher φ σ κ) (p : Plan φ σ) : List CacheAccess :=
  match p.route.cacheTtl, d.cache with
  | some _, some _ => [.read p.key]
  | _, _ => []

section Planned

variable {d : Dispatcher φ σ κ} {m : Memory κ σ} {v : Visit} {p : Plan φ σ}
variable (hp : d.Plans v.request p) (hsession : p.route.cacheTtl.isSome → v.sessionActive = false)

include hp

include hsession

end Planned

theorem Stores.unique {d : Dispatcher φ σ κ} {m : Memory κ σ} {v : Visit} {p q : Plan φ σ}
    {ttl ttl' : Duration} {body body' : String} (h : d.Stores m v p ttl body)
    (h' : d.Stores m v q ttl' body') : p = q ∧ ttl = ttl' ∧ body = body' := by
  obtain rfl := h.planned.unique h'.planned
  cases h.caches.symm.trans h'.caches
  cases h.answered.symm.trans h'.answered
  exact ⟨rfl, rfl, rfl⟩

section Asks

variable {d : Dispatcher φ σ κ} {m : Memory κ σ} {v : Visit} {asked : List CacheAccess}

theorem Asks.shape (h : d.Asks m v asked) :
    asked = [] ∨ ∃ key,
      asked = [.read key] ∨ ∃ text ttl, asked = [.read key, .write key text ttl] := by
  cases h with
  | nothing => exact .inl rfl
  | lookup => exact .inr ⟨_, .inl rfl⟩
  | keep => exact .inr ⟨_, .inr ⟨_, _, rfl⟩⟩

end Asks

end Dispatcher

end UrlRouter
