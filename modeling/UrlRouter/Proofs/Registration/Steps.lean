import UrlRouter.Proofs.Stateful
import UrlRouter.Router.Registration

/-!
What each step of a registration does to the router. Compiling and checking leave it alone, and
adding routes cannot fail.
-/

namespace UrlRouter

variable {φ α β : Type}

namespace RegistrationM

@[simp] theorem runOn_throw (e : RouterError) (r : Router φ) :
    (throw e : RegistrationM φ α).runOn r = (r, .error e) := rfl

@[simp] theorem runOn_get (r : Router φ) :
    (get : RegistrationM φ (Router φ)).runOn r = (r, .ok r) := rfl

@[simp] theorem runOn_modify (f : Router φ → Router φ) (r : Router φ) :
    (modify f : RegistrationM φ PUnit).runOn r = (f r, .ok ⟨⟩) := rfl

theorem runOn_bind (m : RegistrationM φ α) (k : α → RegistrationM φ β) (r : Router φ) :
    (m >>= k).runOn r =
      match m.runOn r with
      | (r', .ok a) => (k a).runOn r'
      | (r', .error e) => (r', .error e) := by
  rw [runOn, run_bind, runOn]
  rcases m.run.run r with ⟨a | a, r'⟩ <;> rfl

theorem runOn_bind_ok {m : RegistrationM φ α} {r r' : Router φ} {a : α}
    (h : m.runOn r = (r', .ok a)) (k : α → RegistrationM φ β) :
    (m >>= k).runOn r = (k a).runOn r' := by
  rw [runOn_bind, h]

theorem runOn_bind_error {m : RegistrationM φ α} {r r' : Router φ} {e : RouterError}
    (h : m.runOn r = (r', .error e)) (k : α → RegistrationM φ β) :
    (m >>= k).runOn r = (r', .error e) := by
  rw [runOn_bind, h]

@[simp] theorem runOn_ofExcept (x : Except RouterError α) (r : Router φ) :
    (ofExcept x).runOn r = (r, x) := by
  cases x <;> rfl

@[simp] theorem runOn_compileLeaf (f : FlatRoute φ) (r : Router φ) :
    (compileLeaf f).runOn r = (r, f.compile r.locales) := by
  rw [compileLeaf, runOn_bind_ok (runOn_get r), runOn_ofExcept]

theorem runOn_mapM_compileLeaf (fs : List (FlatRoute φ)) (r : Router φ) :
    (fs.mapM compileLeaf).runOn r = (r, fs.mapM (FlatRoute.compile r.locales)) := by
  induction fs with
  | nil => rfl
  | cons f fs ih =>
    rw [List.mapM_cons, List.mapM_cons]
    cases hf : f.compile r.locales with
    | error e =>
      rw [runOn_bind_error (by rw [runOn_compileLeaf, hf])]
      rfl
    | ok route =>
      rw [runOn_bind_ok (by rw [runOn_compileLeaf, hf])]
      cases hfs : fs.mapM (FlatRoute.compile r.locales) with
      | error e =>
        rw [runOn_bind_error (by rw [ih, hfs])]
        rfl
      | ok routes =>
        rw [runOn_bind_ok (by rw [ih, hfs])]
        rfl

theorem runOn_forM_add (batch : List (Route φ)) (r : Router φ) :
    RegistrationM.runOn (batch.forM add) r = (batch.foldl Router.add r, .ok ⟨⟩) := by
  induction batch generalizing r with
  | nil => rfl
  | cons route batch ih =>
    change (add route >>= fun _ => batch.forM add).runOn r = _
    rw [add, runOn_bind_ok (runOn_modify _ r)]
    exact ih (r.add route)

end RegistrationM

def Router.Fresh (r : Router φ) : RouteName → Prop
  | .named n => r.names.get? n = none
  | .error s => r.errorRoute? s = none

structure Router.Accepts (r : Router φ) (e : RouteEntry φ) (batch : List (Route φ)) : Prop where
  compiled : ∃ leaves, e.leaves = .ok leaves ∧
    leaves.mapM (FlatRoute.compile r.locales) = .ok batch
  fresh : ∀ route ∈ batch, r.Fresh route.name
  distinct : batch.Pairwise fun a b => a.name ≠ b.name

namespace RegistrationM

theorem runOn_refuseIf {α : Type} {taken free : Prop} [Decidable taken] (htaken : taken ↔ ¬ free)
    (error : RouterError) (next : PUnit → RegistrationM φ α) (r : Router φ) :
    let work : RegistrationM φ α := if taken then throw error >>= next else next ⟨⟩
    (∃ e, work.runOn r = (r, .error e)) ∧ ¬ free ∨ free ∧ work.runOn r = (next ⟨⟩).runOn r := by
  intro work
  by_cases h : taken
  · left
    refine ⟨⟨error, ?_⟩, htaken.1 h⟩
    simp only [work, if_pos h]
    exact runOn_bind_error (runOn_throw _ r) _
  · right
    refine ⟨Classical.not_not.1 fun hn => h (htaken.2 hn), ?_⟩
    simp only [work, if_neg h]

theorem runOn_checkNames_cons (seen : List RouteName) (route : Route φ) (rest : List (Route φ))
    (r : Router φ) :
    (∃ e, (checkNames seen (route :: rest)).runOn r = (r, .error e)) ∧
        ¬ (r.Fresh route.name ∧ route.name ∉ seen) ∨
      (r.Fresh route.name ∧ route.name ∉ seen) ∧
        (checkNames seen (route :: rest)).runOn r =
          (checkNames (route.name :: seen) rest).runOn r := by
  rw [checkNames, runOn_bind_ok (runOn_get r)]
  cases hname : route.name with
  | named n =>
    have htaken : r.names.contains n ∨ RouteName.named n ∈ seen ↔
        ¬ (r.Fresh (.named n) ∧ RouteName.named n ∉ seen) := by
      rw [Dict.contains, Router.Fresh, ← Option.isNone_iff_eq_none]
      cases r.names.get? n <;> simp
    exact runOn_refuseIf htaken (.duplicateName n) _ r
  | error s =>
    have htaken : (r.errorRoute? s).isSome = true ∨ RouteName.error s ∈ seen ↔
        ¬ (r.Fresh (.error s) ∧ RouteName.error s ∉ seen) := by
      rw [Router.Fresh, ← Option.isNone_iff_eq_none]
      cases r.errorRoute? s <;> simp
    exact runOn_refuseIf htaken (.duplicateStatus s.code) _ r

theorem runOn_checkNames (seen : List RouteName) (batch : List (Route φ)) (r : Router φ) :
    let passes := (∀ route ∈ batch, r.Fresh route.name ∧ route.name ∉ seen) ∧
      batch.Pairwise fun a b => a.name ≠ b.name
    (∃ e, (checkNames seen batch).runOn r = (r, .error e)) ∧ ¬ passes ∨
      (checkNames seen batch).runOn r = (r, .ok ⟨⟩) ∧ passes := by
  intro passes
  induction batch generalizing seen with
  | nil => exact .inr ⟨rfl, by simp [passes]⟩
  | cons route rest ih =>
    rcases runOn_checkNames_cons seen route rest r with ⟨herr, hname⟩ | ⟨hname, hnext⟩
    · exact .inl ⟨herr, fun h => hname (h.1 route (by simp))⟩
    rw [hnext]
    rcases ih (route.name :: seen) with ⟨herr, hrest⟩ | ⟨hok, hrest, hpair⟩
    · left
      refine ⟨herr, fun ⟨h, hp⟩ => hrest ⟨?_, hp.of_cons⟩⟩
      intro a ha
      have hne : a.name ≠ route.name := ((List.pairwise_cons.1 hp).1 a ha).symm
      exact ⟨(h a (by simp [ha])).1, by simp [hne, (h a (by simp [ha])).2]⟩
    · right
      refine ⟨hok, ?_, .cons ?_ hpair⟩
      · intro a ha
        rcases List.mem_cons.1 ha with rfl | ha
        · exact hname
        · have h := hrest a ha
          exact ⟨h.1, fun hs => h.2 (List.mem_cons_of_mem _ hs)⟩
      · intro a ha heq
        exact (hrest a ha).2 (by simp [heq])

theorem runOn_entry (e : RouteEntry φ) (r : Router φ) :
    (∃ error, (entry e).runOn r = (r, .error error)) ∧ (∀ batch, ¬ r.Accepts e batch) ∨
      ∃ batch, r.Accepts e batch ∧ (entry e).runOn r = (batch.foldl Router.add r, .ok ⟨⟩) := by
  rw [entry]
  cases hleaves : e.leaves with
  | error error =>
    left
    refine ⟨⟨error, runOn_bind_error (by simp) _⟩, ?_⟩
    rintro batch ⟨⟨leaves, h, _⟩, _, _⟩
    simp [hleaves] at h
  | ok leaves =>
    have hread : (ofExcept (.ok leaves)).runOn r = (r, .ok leaves) := runOn_ofExcept _ r
    rw [runOn_bind_ok hread]
    cases hbatch : leaves.mapM (FlatRoute.compile r.locales) with
    | error error =>
      left
      refine ⟨⟨error, runOn_bind_error (by rw [runOn_mapM_compileLeaf, hbatch]) _⟩, ?_⟩
      rintro batch ⟨⟨leaves', h, hb⟩, _, _⟩
      cases hleaves.symm.trans h
      simp [hbatch] at hb
    | ok batch =>
      rw [runOn_bind_ok (by rw [runOn_mapM_compileLeaf, hbatch])]
      rcases runOn_checkNames [] batch r with ⟨⟨error, herr⟩, hnot⟩ | ⟨hok, hfresh, hpair⟩
      · left
        refine ⟨⟨error, runOn_bind_error herr _⟩, ?_⟩
        rintro batch' ⟨⟨leaves', h, hb⟩, hf, hd⟩
        cases hleaves.symm.trans h
        cases hbatch.symm.trans hb
        exact hnot ⟨fun a ha => ⟨hf a ha, by simp⟩, hd⟩
      · right
        refine ⟨batch, ⟨⟨leaves, hleaves, hbatch⟩, fun a ha => (hfresh a ha).1, hpair⟩, ?_⟩
        rw [runOn_bind_ok hok]
        exact runOn_forM_add batch r

end RegistrationM

namespace Router

theorem insert_cases (r : Router φ) (e : RouteEntry φ) :
    (∃ error, r.insert e = (r, .error error)) ∧ (∀ batch, ¬ r.Accepts e batch) ∨
      ∃ batch, r.Accepts e batch ∧ r.insert e = (batch.foldl add r, .ok ⟨⟩) :=
  RegistrationM.runOn_entry e r

theorem Accepts.unique {r : Router φ} {e : RouteEntry φ} {batch batch' : List (Route φ)}
    (h : r.Accepts e batch) (h' : r.Accepts e batch') : batch = batch' := by
  obtain ⟨⟨leaves, hleaves, hbatch⟩, _, _⟩ := h
  obtain ⟨⟨leaves', hleaves', hbatch'⟩, _, _⟩ := h'
  cases hleaves.symm.trans hleaves'
  cases hbatch.symm.trans hbatch'
  rfl

theorem insert_eq_ok_iff {r r' : Router φ} {e : RouteEntry φ} :
    r.insert e = (r', .ok ⟨⟩) ↔ ∃ batch, r.Accepts e batch ∧ r' = batch.foldl add r := by
  rcases r.insert_cases e with ⟨⟨error, herr⟩, hnone⟩ | ⟨batch, hbatch, hok⟩
  · rw [herr]
    constructor
    · intro h
      cases h
    · rintro ⟨batch, hbatch, _⟩
      exact absurd hbatch (hnone batch)
  · rw [hok]
    constructor
    · intro h
      cases h
      exact ⟨batch, hbatch, rfl⟩
    · rintro ⟨batch', hbatch', rfl⟩
      rw [hbatch.unique hbatch']

@[simp] theorem insertAll_nil (r : Router φ) : r.insertAll [] = (r, .ok ⟨⟩) := rfl

theorem insertAll_cons_ok {r r' : Router φ} {e : RouteEntry φ} (h : r.insert e = (r', .ok ⟨⟩))
    (es : List (RouteEntry φ)) : r.insertAll (e :: es) = r'.insertAll es :=
  RegistrationM.runOn_bind_ok h _

theorem insertAll_cons_error {r r' : Router φ} {e : RouteEntry φ} {error : RouterError}
    (h : r.insert e = (r', .error error)) (es : List (RouteEntry φ)) :
    r.insertAll (e :: es) = (r', .error error) :=
  RegistrationM.runOn_bind_error h _

theorem insertAll_cons_eq_ok_iff {r r' : Router φ} {e : RouteEntry φ} {es : List (RouteEntry φ)} :
    r.insertAll (e :: es) = (r', .ok ⟨⟩) ↔
      ∃ next, r.insert e = (next, .ok ⟨⟩) ∧ next.insertAll es = (r', .ok ⟨⟩) := by
  rcases hinsert : r.insert e with ⟨next, error | ⟨⟩⟩
  · rw [insertAll_cons_error hinsert]
    simp
  · rw [insertAll_cons_ok hinsert]
    simp

end Router

end UrlRouter
