import UrlRouter.Proofs.Registration.Reachable
import UrlRouter.Proofs.Route.Nesting

namespace UrlRouter

variable {φ : Type}

namespace RouteEntry

def together (es : List (RouteEntry φ)) : RouteEntry φ := .group none none .empty es

theorem leaves_together (es : List (RouteEntry φ)) :
    (together es).leaves = flattenAll .empty .empty es := by
  have hsettings : (RouteSettings.empty : RouteSettings φ).inherit .empty = .empty :=
    RouteSettings.empty_inherit .empty
  have hfits : (none.or none : Option String).toList.forM checkFragment = .ok ⟨⟩ := rfl
  rw [leaves, together, flatten, hfits]
  dsimp only
  rw [hsettings]
  rfl

theorem leaves_together_nil : (together ([] : List (RouteEntry φ))).leaves = .ok [] := by
  rw [leaves_together, flattenAll]

theorem leaves_together_cons_eq_ok_iff {e : RouteEntry φ} {es : List (RouteEntry φ)}
    {flats : List (FlatRoute φ)} :
    (together (e :: es)).leaves = .ok flats ↔
      ∃ first rest, e.leaves = .ok first ∧ (together es).leaves = .ok rest ∧
        flats = first ++ rest := by
  rw [leaves_together, leaves_together, flattenAll, leaves]
  constructor
  · intro h
    split at h
    · cases h
    · next first hfirst =>
      obtain ⟨rest, hrest, rfl⟩ := Except.map_eq_ok_iff.1 h
      exact ⟨first, rest, hfirst, hrest, rfl⟩
  · rintro ⟨first, rest, hfirst, hrest, rfl⟩
    rw [hfirst]
    exact Except.map_eq_ok_iff.2 ⟨rest, hrest, rfl⟩

end RouteEntry

namespace Router

open RouteEntry

theorem fresh_add_iff {r : Router φ} {route : Route φ} {name : RouteName} :
    (r.add route).Fresh name ↔ r.Fresh name ∧ route.name ≠ name := by
  constructor
  · intro h
    cases name with
    | named n =>
      rw [Fresh, names_add] at h
      split at h
      · cases h
      · next hne => exact ⟨h, hne⟩
    | error s =>
      rw [Fresh, errorRoute?_add, Option.or_eq_none_iff] at h
      obtain ⟨hfree, hnone⟩ := h
      exact ⟨hfree, fun heq => by simp [heq] at hnone⟩
  · rintro ⟨h, hne⟩
    exact h.add hne

theorem fresh_foldl_add_iff {batch : List (Route φ)} {r : Router φ} {name : RouteName} :
    (batch.foldl add r).Fresh name ↔ r.Fresh name ∧ ∀ route ∈ batch, route.name ≠ name := by
  induction batch generalizing r with
  | nil => simp
  | cons route batch ih =>
    rw [List.foldl_cons, ih, fresh_add_iff, List.forall_mem_cons, and_assoc]

theorem locales_foldl_add (batch : List (Route φ)) (r : Router φ) :
    (batch.foldl add r).locales = r.locales := by
  induction batch generalizing r with
  | nil => rfl
  | cons route batch ih => rw [List.foldl_cons, ih, locales_add]

theorem exists_batch_of_insertAll {r r' : Router φ} {es : List (RouteEntry φ)}
    (h : r.insertAll es = (r', .ok ⟨⟩)) :
    ∃ flats batch, flattenAll .empty .empty es = .ok flats ∧
      flats.mapM (FlatRoute.compile r.locales) = .ok batch ∧ r' = batch.foldl add r := by
  simp only [← leaves_together]
  induction es generalizing r with
  | nil =>
    cases h
    exact ⟨[], [], leaves_together_nil, rfl, rfl⟩
  | cons e es ih =>
    obtain ⟨next, hinsert, hrest⟩ := insertAll_cons_eq_ok_iff.1 h
    obtain ⟨first, ⟨⟨flats, hflats, hfirst⟩, _, _⟩, rfl⟩ := insert_eq_ok_iff.1 hinsert
    obtain ⟨more, batch, hmore, hbatch, rfl⟩ := ih hrest
    rw [locales_foldl_add] at hbatch
    exact ⟨flats ++ more, first ++ batch,
      leaves_together_cons_eq_ok_iff.2 ⟨flats, more, hflats, hmore, rfl⟩,
      Except.mapM_append_eq_ok_iff.2 ⟨first, batch, hfirst, hbatch, rfl⟩, List.foldl_append.symm⟩

theorem accepts_together_nil_iff {r : Router φ} {batch : List (Route φ)} :
    r.Accepts (together []) batch ↔ batch = [] := by
  constructor
  · rintro ⟨⟨leaves, hleaves, hbatch⟩, _, _⟩
    rw [leaves_together_nil] at hleaves
    cases hleaves
    cases hbatch
    rfl
  · rintro rfl
    exact ⟨⟨[], leaves_together_nil, rfl⟩, by simp, .nil⟩

/-- The check of all names at once is that of the first entry, and that of the others behind it. -/
theorem accepts_together_cons_iff {r : Router φ} {e : RouteEntry φ} {es : List (RouteEntry φ)}
    {batch : List (Route φ)} :
    r.Accepts (together (e :: es)) batch ↔
      ∃ first rest, r.Accepts e first ∧ (first.foldl add r).Accepts (together es) rest ∧
        batch = first ++ rest := by
  constructor
  · rintro ⟨⟨leaves, hleaves, hbatch⟩, hfresh, hdistinct⟩
    obtain ⟨leaves₁, leaves₂, hleaves₁, hleaves₂, rfl⟩ := leaves_together_cons_eq_ok_iff.1 hleaves
    obtain ⟨first, rest, hfirst, hrest, rfl⟩ := Except.mapM_append_eq_ok_iff.1 hbatch
    obtain ⟨hdistinct₁, hdistinct₂, hacross⟩ := List.pairwise_append.1 hdistinct
    refine ⟨first, rest, ⟨⟨leaves₁, hleaves₁, hfirst⟩, ?_, hdistinct₁⟩,
      ⟨⟨leaves₂, hleaves₂, ?_⟩, ?_, hdistinct₂⟩, rfl⟩
    · intro route hroute
      exact hfresh route (List.mem_append_left _ hroute)
    · rw [locales_foldl_add]
      exact hrest
    · intro route hroute
      rw [fresh_foldl_add_iff]
      exact ⟨hfresh route (List.mem_append_right _ hroute), fun a ha => hacross a ha route hroute⟩
  · rintro ⟨first, rest, ⟨⟨leaves₁, hleaves₁, hfirst⟩, hfresh₁, hdistinct₁⟩,
      ⟨⟨leaves₂, hleaves₂, hrest⟩, hfresh₂, hdistinct₂⟩, rfl⟩
    rw [locales_foldl_add] at hrest
    simp only [fresh_foldl_add_iff] at hfresh₂
    refine ⟨⟨leaves₁ ++ leaves₂, leaves_together_cons_eq_ok_iff.2 ⟨_, _, hleaves₁, hleaves₂, rfl⟩,
      Except.mapM_append_eq_ok_iff.2 ⟨_, _, hfirst, hrest, rfl⟩⟩, ?_, ?_⟩
    · intro route hroute
      rcases List.mem_append.1 hroute with hroute | hroute
      · exact hfresh₁ route hroute
      · exact (hfresh₂ route hroute).1
    · refine List.pairwise_append.2 ⟨hdistinct₁, hdistinct₂, ?_⟩
      intro a ha route hroute
      exact (hfresh₂ route hroute).2 a ha

theorem insert_together_eq_ok_iff (r r' : Router φ) (es : List (RouteEntry φ)) :
    r.insert (.group none none .empty es) = (r', .ok ⟨⟩) ↔ r.insertAll es = (r', .ok ⟨⟩) := by
  change r.insert (together es) = _ ↔ _
  rw [insert_eq_ok_iff]
  induction es generalizing r with
  | nil =>
    simp only [accepts_together_nil_iff, insertAll_nil, Prod.mk.injEq, and_true]
    constructor
    · rintro ⟨_, rfl, rfl⟩
      rfl
    · rintro rfl
      exact ⟨[], rfl, rfl⟩
  | cons e es ih =>
    simp only [accepts_together_cons_iff, insertAll_cons_eq_ok_iff, insert_eq_ok_iff, ← ih]
    constructor
    · rintro ⟨_, ⟨first, rest, hfirst, hrest, rfl⟩, rfl⟩
      exact ⟨_, ⟨first, hfirst, rfl⟩, rest, hrest, by rw [List.foldl_append]⟩
    · rintro ⟨_, ⟨first, hfirst, rfl⟩, rest, hrest, rfl⟩
      exact ⟨first ++ rest, ⟨first, rest, hfirst, hrest, rfl⟩, by rw [List.foldl_append]⟩

end Router

end UrlRouter
