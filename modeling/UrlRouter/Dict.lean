/-!
Maps from strings to values. The entries are kept in strictly ascending key order, so a map is
determined by what it holds: `Dict.ext_get?`.
-/

namespace UrlRouter

def Ascending {α : Type} (es : List (String × α)) : Prop :=
  es.Pairwise fun a b => a.1 < b.1

def findEntry {α : Type} (key : String) : List (String × α) → Option α
  | [] => none
  | (k, v) :: es => if k = key then some v else findEntry key es

def insertEntry {α : Type} (key : String) (value : α) :
    List (String × α) → List (String × α)
  | [] => [(key, value)]
  | (k, v) :: es =>
      if key < k then (key, value) :: (k, v) :: es
      else if k = key then (key, value) :: es
      else (k, v) :: insertEntry key value es

theorem mem_insertEntry {α : Type} {key : String} {value : α} {e : String × α} :
    ∀ {es : List (String × α)}, e ∈ insertEntry key value es → e = (key, value) ∨ e ∈ es := by
  intro es
  induction es with
  | nil => intro h; simpa [insertEntry] using h
  | cons x es ih =>
      obtain ⟨k, v⟩ := x
      intro h
      simp only [insertEntry] at h
      split at h
      · simpa using h
      · split at h
        · rcases List.mem_cons.1 h with h | h
          · exact .inl h
          · exact .inr (List.mem_cons_of_mem _ h)
        · rcases List.mem_cons.1 h with h | h
          · exact .inr (by simp [h])
          · exact (ih h).imp id (List.mem_cons_of_mem _)

theorem Ascending.insertEntry {α : Type} {key : String} {value : α} :
    ∀ {es : List (String × α)}, Ascending es → Ascending (insertEntry key value es) := by
  intro es
  induction es with
  | nil => intro _; simp [UrlRouter.insertEntry, Ascending]
  | cons x es ih =>
      obtain ⟨k, v⟩ := x
      intro h
      obtain ⟨hk, hes⟩ := List.pairwise_cons.1 h
      simp only [UrlRouter.insertEntry]
      split
      · next hlt =>
          refine List.pairwise_cons.2 ⟨?_, h⟩
          intro e he
          rcases List.mem_cons.1 he with rfl | he
          · exact hlt
          · exact String.lt_trans hlt (hk e he)
      · next hlt =>
          split
          · next heq =>
              subst heq
              exact List.pairwise_cons.2 ⟨hk, hes⟩
          · next hne =>
              refine List.pairwise_cons.2 ⟨?_, ih hes⟩
              intro e he
              rcases mem_insertEntry he with rfl | he
              · rcases Std.lt_trichotomy key k with h' | h' | h'
                · exact absurd h' hlt
                · exact absurd h'.symm hne
                · exact h'
              · exact hk e he

structure Dict (α : Type) where
  entries : List (String × α)
  ascending : Ascending entries

namespace Dict

variable {α : Type}

def empty : Dict α := ⟨[], .nil⟩

instance : Inhabited (Dict α) := ⟨empty⟩

instance [DecidableEq α] : DecidableEq (Dict α) := fun a b =>
  decidable_of_iff (a.entries = b.entries) (by cases a; cases b; simp)

def get? (d : Dict α) (key : String) : Option α := findEntry key d.entries

def contains (d : Dict α) (key : String) : Bool := (d.get? key).isSome

def insert (d : Dict α) (key : String) (value : α) : Dict α :=
  ⟨insertEntry key value d.entries, d.ascending.insertEntry⟩

def erase (d : Dict α) (key : String) : Dict α :=
  ⟨d.entries.filter (·.1 ≠ key), d.ascending.filter _⟩

def filter (p : String → α → Bool) (d : Dict α) : Dict α :=
  ⟨d.entries.filter fun e => p e.1 e.2, d.ascending.filter _⟩

def size (d : Dict α) : Nat := d.entries.length

def isEmpty (d : Dict α) : Bool := d.entries.isEmpty

def keys (d : Dict α) : List String := d.entries.map (·.1)

def values (d : Dict α) : List α := d.entries.map (·.2)

/-- Inserts the entries from left to right, so that the last one of a key wins. -/
def insertMany (d : Dict α) (es : List (String × α)) : Dict α :=
  es.foldl (fun d e => d.insert e.1 e.2) d

def ofList (es : List (String × α)) : Dict α := empty.insertMany es

def overlay (base top : Dict α) : Dict α := base.insertMany top.entries

end Dict

theorem findEntry_insertEntry {α : Type} {key key' : String} {value : α} :
    ∀ {es : List (String × α)}, Ascending es →
      findEntry key' (insertEntry key value es) =
        if key = key' then some value else findEntry key' es := by
  intro es
  induction es with
  | nil => intro _; simp [insertEntry, findEntry]
  | cons x es ih =>
      obtain ⟨k, v⟩ := x
      intro h
      obtain ⟨_, hes⟩ := List.pairwise_cons.1 h
      simp only [insertEntry]
      split
      · simp [findEntry]
      · split
        · next heq => subst heq; by_cases hk : k = key' <;> simp [findEntry, hk]
        · next hne =>
            by_cases hk : k = key'
            · subst hk
              simp [findEntry, Ne.symm hne]
            · simp [findEntry, hk, ih hes]

theorem findEntry_eq_none_of_lt {α : Type} {key : String} {es : List (String × α)}
    (h : ∀ e ∈ es, key < e.1) : findEntry key es = none := by
  induction es with
  | nil => rfl
  | cons x es ih =>
      obtain ⟨k, v⟩ := x
      have hk : k ≠ key := fun heq => String.lt_irrefl key (by simpa [heq] using h (k, v))
      simp [findEntry, hk, ih fun e he => h e (List.mem_cons_of_mem _ he)]

theorem findEntry_eq_some_iff {α : Type} {key : String} {value : α} :
    ∀ {es : List (String × α)}, Ascending es →
      (findEntry key es = some value ↔ (key, value) ∈ es) := by
  intro es
  induction es with
  | nil => intro _; simp [findEntry]
  | cons x es ih =>
      obtain ⟨k, v⟩ := x
      intro h
      obtain ⟨hk, hes⟩ := List.pairwise_cons.1 h
      simp only [findEntry]
      split
      · next heq =>
          subst heq
          constructor
          · intro hv; cases hv; simp
          · intro hm
            rcases List.mem_cons.1 hm with hm | hm
            · cases hm; rfl
            · exact absurd (hk _ hm) (String.lt_irrefl _)
      · next hne =>
          rw [ih hes, List.mem_cons]
          constructor
          · exact .inr
          · rintro (hm | hm)
            · cases hm; exact absurd rfl hne
            · exact hm

namespace Dict

variable {α : Type}

@[simp] theorem get?_empty (key : String) : (empty : Dict α).get? key = none := rfl

theorem get?_insert (d : Dict α) (key key' : String) (value : α) :
    (d.insert key value).get? key' = if key = key' then some value else d.get? key' :=
  findEntry_insertEntry d.ascending

theorem get?_eq_some_iff {d : Dict α} {key : String} {value : α} :
    d.get? key = some value ↔ (key, value) ∈ d.entries :=
  findEntry_eq_some_iff d.ascending

theorem get?_filter (d : Dict α) (p : String → α → Bool) (key : String) :
    (d.filter p).get? key = (d.get? key).filter (p key) := by
  refine Option.ext fun v => ?_
  rw [get?_eq_some_iff, Option.filter_eq_some_iff, get?_eq_some_iff]
  exact List.mem_filter

theorem get?_erase (d : Dict α) (key key' : String) :
    (d.erase key).get? key' = if key = key' then none else d.get? key' := by
  refine Option.ext fun v => ?_
  rw [get?_eq_some_iff]
  by_cases h : key = key'
  · simp [erase, h]
  · simp [erase, h, Ne.symm h, get?_eq_some_iff]

theorem get?_insertMany {d : Dict α} {es : List (String × α)} (hes : Ascending es) (key : String) :
    (d.insertMany es).get? key = (findEntry key es).or (d.get? key) := by
  induction es generalizing d with
  | nil => simp [insertMany, findEntry]
  | cons e es ih =>
      obtain ⟨k, v⟩ := e
      obtain ⟨habove, hes⟩ := List.pairwise_cons.1 hes
      change ((d.insert k v).insertMany es).get? key = _
      rw [ih hes, get?_insert]
      by_cases hk : k = key
      · subst hk
        simp [findEntry, findEntry_eq_none_of_lt habove]
      · simp [findEntry, hk]

theorem get?_overlay (base top : Dict α) (key : String) :
    (base.overlay top).get? key = (top.get? key).or (base.get? key) :=
  get?_insertMany top.ascending key

theorem ext_entries {a b : Dict α} (h : a.entries = b.entries) : a = b := by
  cases a; cases b; simp_all

end Dict

theorem Ascending.findEntry_of_lt_head {α : Type} {key : String} {a : String × α}
    {as : List (String × α)} (h : Ascending (a :: as)) (hlt : key < a.1) :
    findEntry key (a :: as) = none := by
  refine findEntry_eq_none_of_lt fun e he => ?_
  rcases List.mem_cons.1 he with rfl | he
  · exact hlt
  · exact String.lt_trans hlt ((List.pairwise_cons.1 h).1 e he)

theorem Ascending.head_eq_of_findEntry {α : Type} {a b : String × α} {as bs : List (String × α)}
    (ha : Ascending (a :: as)) (hb : Ascending (b :: bs))
    (h : ∀ k, findEntry k (a :: as) = findEntry k (b :: bs)) : a.1 = b.1 := by
  -- The lesser key of two would be found on its own side only.
  rcases Std.lt_trichotomy a.1 b.1 with hlt | heq | hlt
  · have hfound := h a.1
    rw [hb.findEntry_of_lt_head hlt] at hfound
    simp [findEntry] at hfound
  · exact heq
  · have hfound := h b.1
    rw [ha.findEntry_of_lt_head hlt] at hfound
    simp [findEntry] at hfound

theorem Ascending.eq_of_findEntry {α : Type} :
    ∀ {as bs : List (String × α)}, Ascending as → Ascending bs →
      (∀ k, findEntry k as = findEntry k bs) → as = bs := by
  intro as
  induction as with
  | nil =>
      intro bs _ _ h
      cases bs with
      | nil => rfl
      | cons b bs =>
          have hfound := h b.1
          simp [findEntry] at hfound
  | cons a as ih =>
      intro bs ha hb h
      cases bs with
      | nil =>
          have hfound := h a.1
          simp [findEntry] at hfound
      | cons b bs =>
          obtain ⟨haabove, has⟩ := List.pairwise_cons.1 ha
          obtain ⟨hbabove, hbs⟩ := List.pairwise_cons.1 hb
          have hkey : a.1 = b.1 := ha.head_eq_of_findEntry hb h
          have hvalue : a.2 = b.2 := by
            have hfound := h a.1
            simpa [findEntry, hkey] using hfound
          have htail : as = bs := by
            refine ih has hbs fun k => ?_
            by_cases hk : a.1 = k
            · subst hk
              rw [findEntry_eq_none_of_lt haabove, hkey, findEntry_eq_none_of_lt hbabove]
            · have hfound := h k
              have hk' : b.1 ≠ k := hkey ▸ hk
              simpa [findEntry, hk, hk'] using hfound
          rw [htail, Prod.ext hkey hvalue]

namespace Dict

variable {α : Type}

theorem ext_get? {a b : Dict α} (h : ∀ key, a.get? key = b.get? key) : a = b :=
  ext_entries (a.ascending.eq_of_findEntry b.ascending h)

end Dict

end UrlRouter
