import Mathlib.Data.List.Forall2

namespace Except

variable {ε α β : Type}

theorem pure_eq_ok_iff {a b : α} : (pure a : Except ε α) = .ok b ↔ b = a := by
  constructor
  · intro h
    cases h
    rfl
  · rintro rfl
    rfl

theorem bind_eq_ok_iff {x : Except ε α} {f : α → Except ε β} {b : β} :
    x >>= f = .ok b ↔ ∃ a, x = .ok a ∧ f a = .ok b := by
  constructor
  · intro h
    cases x with
    | error e => cases h
    | ok a => exact ⟨a, rfl, h⟩
  · rintro ⟨a, rfl, h⟩
    exact h

theorem bind_unit_eq_ok_iff {x : Except ε Unit} {f : Unit → Except ε β} {b : β} :
    x >>= f = .ok b ↔ x = .ok ⟨⟩ ∧ f ⟨⟩ = .ok b := by
  cases x with
  | error e => exact ⟨nofun, nofun⟩
  | ok a => exact ⟨fun h => ⟨rfl, h⟩, And.right⟩

theorem map_eq_ok_iff {x : Except ε α} {f : α → β} {b : β} :
    x.map f = .ok b ↔ ∃ a, x = .ok a ∧ f a = b := by
  constructor
  · intro h
    cases x with
    | error e => cases h
    | ok a =>
      cases h
      exact ⟨a, rfl, rfl⟩
  · rintro ⟨a, rfl, rfl⟩
    rfl

theorem map_eq_error_iff {x : Except ε α} {f : α → β} {e : ε} :
    x.map f = .error e ↔ x = .error e := by
  cases x <;> simp [Except.map]

theorem mapError_ok (f : ε → β) (a : α) : (Except.ok a : Except ε α).mapError f = .ok a := rfl

theorem mapError_error (f : ε → β) (e : ε) :
    (Except.error e : Except ε α).mapError f = .error (f e) := rfl

theorem eq_ok_of_toOption {x : Except ε α} {a : α} (h : x.toOption = some a) : x = .ok a := by
  cases x with
  | error e => cases h
  | ok b =>
    cases h
    rfl

theorem mapM_cons_eq_ok_iff {f : α → Except ε β} {a : α} {as : List α} {bs : List β} :
    (a :: as).mapM f = .ok bs ↔ ∃ b cs, f a = .ok b ∧ as.mapM f = .ok cs ∧ bs = b :: cs := by
  rw [List.mapM_cons, bind_eq_ok_iff]
  constructor
  · rintro ⟨b, hb, h⟩
    obtain ⟨cs, hcs, h⟩ := bind_eq_ok_iff.1 h
    cases h
    exact ⟨b, cs, hb, hcs, rfl⟩
  · rintro ⟨b, cs, hb, hcs, rfl⟩
    exact ⟨b, hb, bind_eq_ok_iff.2 ⟨cs, hcs, rfl⟩⟩

theorem mapM_append_eq_ok_iff {f : α → Except ε β} {as bs : List α} {cs : List β} :
    (as ++ bs).mapM f = .ok cs ↔
      ∃ first rest, as.mapM f = .ok first ∧ bs.mapM f = .ok rest ∧ cs = first ++ rest := by
  rw [List.mapM_append, bind_eq_ok_iff]
  constructor
  · rintro ⟨first, hfirst, h⟩
    obtain ⟨rest, hrest, h⟩ := bind_eq_ok_iff.1 h
    cases h
    exact ⟨first, rest, hfirst, hrest, rfl⟩
  · rintro ⟨first, rest, hfirst, hrest, rfl⟩
    exact ⟨first, hfirst, bind_eq_ok_iff.2 ⟨rest, hrest, rfl⟩⟩

theorem forall₂_of_mapM {f : α → Except ε β} {as : List α} {bs : List β}
    (h : as.mapM f = .ok bs) : List.Forall₂ (fun a b => f a = .ok b) as bs := by
  induction as generalizing bs with
  | nil =>
    cases h
    exact .nil
  | cons a as ih =>
    obtain ⟨first, rest, hfirst, hrest, rfl⟩ := mapM_cons_eq_ok_iff.1 h
    exact .cons hfirst (ih hrest)

theorem mapM_eq_ok_iff {f : α → Except ε β} {as : List α} {bs : List β} :
    as.mapM f = .ok bs ↔ List.Forall₂ (fun a b => f a = .ok b) as bs := by
  refine ⟨forall₂_of_mapM, fun h => ?_⟩
  induction h with
  | nil => rfl
  | cons hfirst _ ih => exact mapM_cons_eq_ok_iff.2 ⟨_, _, hfirst, ih, rfl⟩

theorem exists_of_mem_mapM {f : α → Except ε β} {as : List α} {bs : List β}
    (h : as.mapM f = .ok bs) {b : β} (hb : b ∈ bs) : ∃ a ∈ as, f a = .ok b := by
  induction as generalizing bs with
  | nil =>
    cases h
    cases hb
  | cons a as ih =>
    obtain ⟨first, rest, hfirst, hrest, rfl⟩ := mapM_cons_eq_ok_iff.1 h
    rcases List.mem_cons.1 hb with rfl | hb
    · exact ⟨a, by simp, hfirst⟩
    · obtain ⟨a', ha', hfa'⟩ := ih hrest hb
      exact ⟨a', by simp [ha'], hfa'⟩

theorem exists_mem_of_mapM {f : α → Except ε β} {as : List α} {bs : List β}
    (h : as.mapM f = .ok bs) {a : α} (ha : a ∈ as) : ∃ b ∈ bs, f a = .ok b := by
  induction as generalizing bs with
  | nil => cases ha
  | cons a' as ih =>
    obtain ⟨first, rest, hfirst, hrest, rfl⟩ := mapM_cons_eq_ok_iff.1 h
    rcases List.mem_cons.1 ha with rfl | ha
    · exact ⟨first, by simp, hfirst⟩
    · obtain ⟨b, hb, hfa⟩ := ih hrest ha
      exact ⟨b, by simp [hb], hfa⟩

theorem mapM_cons_eq_error_iff {f : α → Except ε β} {a : α} {as : List α} {e : ε} :
    (a :: as).mapM f = .error e ↔
      f a = .error e ∨ (∃ b, f a = .ok b) ∧ as.mapM f = .error e := by
  rw [List.mapM_cons]
  cases f a with
  | error e' => simp [bind, Except.bind]
  | ok b => cases as.mapM f <;> simp [bind, Except.bind, pure, Except.pure]

theorem mapM_eq_error_iff {f : α → Except ε β} {as : List α} {e : ε} :
    as.mapM f = .error e ↔ ∃ before a after, as = before ++ a :: after ∧
      (∀ b ∈ before, ∃ c, f b = .ok c) ∧ f a = .error e := by
  induction as with
  | nil => exact ⟨nofun, fun ⟨before, _, _, h, _⟩ => by simp at h⟩
  | cons a as ih =>
    rw [mapM_cons_eq_error_iff, ih]
    constructor
    · rintro (ha | ⟨ha, before, x, after, rfl, hbefore, hx⟩)
      · exact ⟨[], a, as, rfl, nofun, ha⟩
      · exact ⟨a :: before, x, after, rfl, List.forall_mem_cons.2 ⟨ha, hbefore⟩, hx⟩
    · rintro ⟨before, x, after, heq, hbefore, hx⟩
      cases before with
      | nil =>
        cases heq
        exact .inl hx
      | cons b before =>
        cases heq
        obtain ⟨ha, hbefore⟩ := List.forall_mem_cons.1 hbefore
        exact .inr ⟨ha, before, x, after, rfl, hbefore, hx⟩

theorem exists_error_of_mapM {f : α → Except ε β} {as : List α} {e : ε}
    (h : as.mapM f = .error e) : ∃ a ∈ as, f a = .error e := by
  obtain ⟨before, a, after, rfl, _, ha⟩ := mapM_eq_error_iff.1 h
  exact ⟨a, by simp, ha⟩

theorem exists_mapM_iff {f : α → Except ε β} {as : List α} :
    (∃ bs, as.mapM f = .ok bs) ↔ ∀ a ∈ as, ∃ b, f a = .ok b := by
  constructor
  · rintro ⟨bs, h⟩ a ha
    obtain ⟨b, _, hb⟩ := exists_mem_of_mapM h ha
    exact ⟨b, hb⟩
  · intro h
    cases has : as.mapM f with
    | ok bs => exact ⟨bs, rfl⟩
    | error e =>
      obtain ⟨a, ha, herror⟩ := exists_error_of_mapM has
      obtain ⟨b, hb⟩ := h a ha
      cases herror.symm.trans hb

theorem exists_option_mapM_iff {f : α → Except ε β} {o : Option α} :
    (∃ b, o.mapM f = .ok b) ↔ ∀ a ∈ o, ∃ b, f a = .ok b := by
  cases o with
  | none => exact ⟨fun _ _ h => (Option.not_mem_none _ h).elim, fun _ => ⟨none, rfl⟩⟩
  | some a =>
    simp only [Option.mem_some_iff, forall_eq']
    constructor
    · rintro ⟨_, h⟩
      obtain ⟨b, hb, _⟩ := map_eq_ok_iff.1 h
      exact ⟨b, hb⟩
    · rintro ⟨b, hb⟩
      exact ⟨some b, map_eq_ok_iff.2 ⟨b, hb, rfl⟩⟩

theorem flatten_mapM_cons {f : α → Except ε (List β)} (a : α) (as : List α) :
    ((a :: as).mapM f).map List.flatten =
      f a >>= fun u => ((as.mapM f).map List.flatten).map (u ++ ·) := by
  rw [List.mapM_cons]
  cases f a with
  | error e => rfl
  | ok u => cases as.mapM f <;> rfl

theorem flatten_mapM_cons_eq_ok_iff {f : α → Except ε (List β)} {a : α} {as : List α}
    {text : List β} :
    ((a :: as).mapM f).map List.flatten = .ok text ↔
      ∃ u v, f a = .ok u ∧ (as.mapM f).map List.flatten = .ok v ∧ text = u ++ v := by
  rw [flatten_mapM_cons, bind_eq_ok_iff]
  constructor
  · rintro ⟨u, hu, h⟩
    obtain ⟨v, hv, rfl⟩ := map_eq_ok_iff.1 h
    exact ⟨u, v, hu, hv, rfl⟩
  · rintro ⟨u, v, hu, hv, rfl⟩
    exact ⟨u, hu, map_eq_ok_iff.2 ⟨v, hv, rfl⟩⟩

theorem flatten_mapM_append_eq_ok_iff {f : α → Except ε (List β)} {as bs : List α}
    {text : List β} :
    ((as ++ bs).mapM f).map List.flatten = .ok text ↔
      ∃ u v, (as.mapM f).map List.flatten = .ok u ∧ (bs.mapM f).map List.flatten = .ok v ∧
        text = u ++ v := by
  simp only [map_eq_ok_iff, mapM_append_eq_ok_iff]
  constructor
  · rintro ⟨_, ⟨first, rest, hfirst, hrest, rfl⟩, rfl⟩
    exact ⟨_, _, ⟨first, hfirst, rfl⟩, ⟨rest, hrest, rfl⟩, List.flatten_append⟩
  · rintro ⟨_, _, ⟨first, hfirst, rfl⟩, ⟨rest, hrest, rfl⟩, rfl⟩
    exact ⟨_, ⟨first, rest, hfirst, hrest, rfl⟩, List.flatten_append⟩

end Except
