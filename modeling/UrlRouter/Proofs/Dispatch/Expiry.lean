import UrlRouter.Dispatch.Cache
import UrlRouter.Proofs.Entries

/-!
The cache in memory over time. An entry stays from the call that sets it until its key is set again
or a call finds it expired, so while time does not run backwards the cache answers as if each entry
were gone at its deadline.
-/

namespace UrlRouter.MemoryCache

inductive Operation where
  | set (now : Instant) (key value : String) (ttl : Duration)
  | get (now : Instant) (key : String)
  | purge (now : Instant)
  deriving DecidableEq

namespace Operation

def now : Operation → Instant
  | set now _ _ _ | get now _ | purge now => now

def run (c : MemoryCache) : Operation → MemoryCache
  | set now key value ttl => c.set now key value ttl
  | get now key => (c.get now key).2
  | purge now => c.purge now

def Sets (key : String) : Operation → Prop
  | set _ k _ _ => k = key
  | get .. | purge .. => False

def Drops (key : String) (e : Entry) : Operation → Prop
  | set .. => False
  | get now k => k = key ∧ e.alive now = false
  | purge now => e.alive now = false

end Operation

def after (ops : List Operation) : MemoryCache := ops.foldl Operation.run .empty

theorem after_concat (ops : List Operation) (op : Operation) :
    after (ops ++ [op]) = op.run (after ops) := by
  simp [after]

structure LastSet (ops : List Operation) (key value : String) (now : Instant) (ttl : Duration)
    (later : List Operation) : Prop where
  made : ∃ before, ops = before ++ .set now key value ttl :: later
  unset : ∀ op ∈ later, ¬ op.Sets key

def Kept (ops : List Operation) (key : String) (e : Entry) : Prop :=
  ∃ now ttl later, LastSet ops key e.value now ttl later ∧ e.deadline = now.after? ttl ∧
    ∀ op ∈ later, ¬ op.Drops key e

variable {ops : List Operation} {op : Operation} {c : MemoryCache} {key value : String} {e : Entry}
variable {now t : Instant} {ttl : Duration}

theorem not_kept_nil : ¬ Kept [] key e := by
  rintro ⟨now, ttl, later, ⟨⟨before, hops⟩, _⟩, _⟩
  simp at hops

theorem Kept.set (ops : List Operation) (now : Instant) (key value : String) (ttl : Duration) :
    Kept (ops ++ [.set now key value ttl]) key ⟨value, now.after? ttl⟩ :=
  ⟨now, ttl, [], ⟨⟨ops, rfl⟩, nofun⟩, rfl, nofun⟩

theorem Kept.concat (h : Kept ops key e) (hsets : ¬ op.Sets key) (hdrops : ¬ op.Drops key e) :
    Kept (ops ++ [op]) key e := by
  obtain ⟨now, ttl, later, ⟨⟨before, rfl⟩, hunset⟩, hdeadline, hkept⟩ := h
  refine ⟨now, ttl, later ++ [op], ⟨⟨before, by simp⟩, ?_⟩, hdeadline, ?_⟩
  · exact List.forall_mem_append.2 ⟨hunset, List.forall_mem_singleton.2 hsets⟩
  · exact List.forall_mem_append.2 ⟨hkept, List.forall_mem_singleton.2 hdrops⟩

theorem Kept.of_concat (h : Kept (ops ++ [op]) key e) :
    (∃ now ttl, op = .set now key e.value ttl ∧ e.deadline = now.after? ttl) ∨
      Kept ops key e ∧ ¬ op.Sets key ∧ ¬ op.Drops key e := by
  obtain ⟨now, ttl, later, ⟨⟨before, hops⟩, hunset⟩, hdeadline, hkept⟩ := h
  -- The last operation has set the key itself, or it is the last of those that came later.
  cases later using List.reverseRecOn with
  | nil =>
    obtain ⟨rfl, hop⟩ := List.append_inj' hops rfl
    exact .inl ⟨now, ttl, List.singleton_inj.1 hop, hdeadline⟩
  | append_singleton later last =>
    rw [← List.cons_append, ← List.append_assoc] at hops
    obtain ⟨rfl, hop⟩ := List.append_inj' hops rfl
    obtain rfl := List.singleton_inj.1 hop
    obtain ⟨hunset, hsets⟩ := List.forall_mem_append.1 hunset
    obtain ⟨hkept, hdrops⟩ := List.forall_mem_append.1 hkept
    exact .inr ⟨⟨now, ttl, later, ⟨⟨before, rfl⟩, hunset⟩, hdeadline, hkept⟩,
      hsets op (by simp), hdrops op (by simp)⟩

theorem entries_get_eq_some_iff {other : String} : (c.get t key).2.entries.get? other = some e ↔
    c.entries.get? other = some e ∧ (key = other → e.alive t = true) := by
  rw [entries_get]
  by_cases hkey : key = other
  · simp [hkey, Option.filter_eq_some_iff]
  · simp [hkey]

theorem entries_purge_eq_some_iff : (c.purge t).entries.get? key = some e ↔
    c.entries.get? key = some e ∧ e.alive t = true := by
  rw [entries_purge, Option.filter_eq_some_iff]

theorem entries_run_eq_some_iff : (op.run c).entries.get? key = some e ↔
    (∃ now ttl, op = .set now key e.value ttl ∧ e.deadline = now.after? ttl) ∨
      c.entries.get? key = some e ∧ ¬ op.Sets key ∧ ¬ op.Drops key e := by
  cases op with
  | set now k value ttl =>
    rw [Operation.run, entries_set]
    by_cases hkey : k = key
    · subst hkey
      rw [if_pos rfl]
      constructor
      · rintro ⟨⟩
        exact .inl ⟨now, ttl, rfl, rfl⟩
      · rintro (⟨_, _, hop, hdeadline⟩ | ⟨_, hsets, _⟩)
        · cases hop
          rw [← hdeadline]
        · exact absurd rfl hsets
    · simp [hkey, Operation.Sets, Operation.Drops]
  | get now k =>
    rw [Operation.run, entries_get_eq_some_iff]
    simp [Operation.Sets, Operation.Drops]
  | purge now =>
    rw [Operation.run, entries_purge_eq_some_iff]
    simp [Operation.Sets, Operation.Drops]

theorem entries_after_eq_some_iff : (after ops).entries.get? key = some e ↔ Kept ops key e := by
  induction ops using List.reverseRecOn generalizing e with
  | nil => exact ⟨nofun, fun h => absurd h not_kept_nil⟩
  | append_singleton ops op ih =>
    rw [after_concat, entries_run_eq_some_iff, ih]
    constructor
    · rintro (⟨now, ttl, rfl, hdeadline⟩ | ⟨hkept, hsets, hdrops⟩)
      · have hset := Kept.set ops now key e.value ttl
        rwa [← hdeadline] at hset
      · exact hkept.concat hsets hdrops
    · exact Kept.of_concat

theorem Entry.alive_of_le {u : Instant} (h : e.alive t = true) (hle : u.nanos ≤ t.nanos) :
    e.alive u = true := by
  simp only [alive, Option.all_eq_true, decide_eq_true_eq] at h ⊢
  exact fun d hd => Nat.lt_of_le_of_lt hle (h d hd)

theorem Entry.alive_iff : (Entry.mk value (now.after? ttl)).alive t = true ↔
    now.after? ttl = none ∨ t.nanos < now.nanos + ttl.nanos := by
  rw [alive, Instant.after?]
  dsimp only
  split <;> simp

theorem Operation.Drops.expired (h : op.Drops key e) : e.alive op.now = false := by
  cases op with
  | set => cases h
  | get => exact h.2
  | purge => exact h

def InOrder (ops : List Operation) : Prop := ops.Pairwise fun a b => a.now.nanos ≤ b.now.nanos

instance (ops : List Operation) : Decidable (InOrder ops) :=
  inferInstanceAs (Decidable (ops.Pairwise fun a b => a.now.nanos ≤ b.now.nanos))

theorem LastSet.kept {later : List Operation} (h : LastSet ops key value now ttl later)
    (halive : (Entry.mk value (now.after? ttl)).alive t = true)
    (hpast : ∀ op ∈ ops, op.now.nanos ≤ t.nanos) : Kept ops key ⟨value, now.after? ttl⟩ := by
  refine ⟨now, ttl, later, h, rfl, fun op hop hdrops => ?_⟩
  obtain ⟨before, rfl⟩ := h.made
  have hmem : op ∈ before ++ .set now key value ttl :: later := by simp [hop]
  have halive := Entry.alive_of_le halive (hpast op hmem)
  rw [hdrops.expired] at halive
  cases halive

theorem get_after_eq_some_iff (h : InOrder (ops ++ [.get t key])) :
    ((after ops).get t key).1 = some value ↔ ∃ now ttl later,
      LastSet ops key value now ttl later ∧
        (now.after? ttl = none ∨ t.nanos < now.nanos + ttl.nanos) := by
  have hpast : ∀ op ∈ ops, op.now.nanos ≤ t.nanos := by
    intro op hop
    exact (List.pairwise_append.1 h).2.2 op hop _ (List.mem_singleton_self _)
  simp only [get_fst, Option.map_eq_some_iff, Option.filter_eq_some_iff, entries_after_eq_some_iff]
  constructor
  · rintro ⟨⟨_, _⟩, ⟨⟨now, ttl, later, hset, rfl, _⟩, halive⟩, rfl⟩
    exact ⟨now, ttl, later, hset, Entry.alive_iff.1 halive⟩
  · rintro ⟨now, ttl, later, hset, hdeadline⟩
    have halive : (Entry.mk value (now.after? ttl)).alive t = true := Entry.alive_iff.2 hdeadline
    exact ⟨_, ⟨hset.kept halive hpast, halive⟩, rfl⟩

theorem mem_keys_after_iff : key ∈ (after ops).entries.keys ↔ ∃ e, Kept ops key e := by
  simp only [Dict.mem_keys_iff, entries_after_eq_some_iff]

theorem acts_as_timed_map :
    (∀ ops t key value, InOrder (ops ++ [.get t key]) →
      (((after ops).get t key).1 = some value ↔ ∃ now ttl later,
        LastSet ops key value now ttl later ∧
          (now.after? ttl = none ∨ t.nanos < now.nanos + ttl.nanos))) ∧
      (∀ (c : MemoryCache) t key other e, (c.get t key).2.entries.get? other = some e ↔
        c.entries.get? other = some e ∧ (key = other → e.alive t = true)) ∧
      (∀ (c : MemoryCache) t key e, (c.purge t).entries.get? key = some e ↔
        c.entries.get? key = some e ∧ e.alive t = true) ∧
      ∀ ops, ∃ keys : List String, keys.Nodup ∧ (after ops).size = keys.length ∧
        ∀ key, key ∈ keys ↔ ∃ e, Kept ops key e := by
  refine ⟨fun _ _ _ _ => get_after_eq_some_iff, fun _ _ _ _ _ => entries_get_eq_some_iff,
    fun _ _ _ _ => entries_purge_eq_some_iff, fun ops => ?_⟩
  exact ⟨_, (after ops).entries.nodup_keys, List.length_map _ |>.symm, fun _ => mem_keys_after_iff⟩

theorem acts_as_timed_map_deadlines :
    let second (n : Nat) : Instant := ⟨n * 1000000000⟩
    let forever : Duration := .ofSeconds 18446744073709551615
    let ops : List Operation := [.set (second 0) "a" "1" (.ofSeconds 60),
      .set (second 1) "b" "2" (.ofSeconds 0), .set (second 1) "k" "v" forever,
      .get (second 1) "b", .set (second 2) "a" "3" (.ofSeconds 1), .purge (second 2)]
    InOrder (ops ++ [.get (second 3) "k"]) ∧ ((after ops).get (second 3) "k").1 = some "v" ∧
      ¬ (∃ now ttl later, LastSet ops "a" "3" now ttl later ∧
        (now.after? ttl = none ∨ (second 3).nanos < now.nanos + ttl.nanos)) ∧
      (after ops).size = 2 := by
  intro second forever ops
  obtain ⟨hget, _⟩ := acts_as_timed_map
  have horder : InOrder (ops ++ [.get (second 3) "k"]) := by decide
  refine ⟨horder, (hget _ _ _ _ horder).2 ?_, fun hlast => ?_, by decide⟩
  · refine ⟨second 1, forever, ops.drop 3, ⟨⟨ops.take 2, rfl⟩, ?_⟩, .inl (by decide)⟩
    simp [ops, Operation.Sets]
  · have hfound := (hget _ (second 3) _ _ (by decide)).2 hlast
    revert hfound
    decide

end UrlRouter.MemoryCache
