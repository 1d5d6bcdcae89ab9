import UrlRouter.Proofs.Registration.Steps

namespace UrlRouter

variable {φ : Type}

namespace Router

theorem fst_insert_of_error {r : Router φ} {e : RouteEntry φ} {error : RouterError}
    (h : (r.insert e).2 = .error error) : (r.insert e).1 = r := by
  rcases r.insert_cases e with ⟨⟨error', herr⟩, _⟩ | ⟨batch, _, hok⟩
  · rw [herr]
  · rw [hok] at h
    cases h

theorem exists_first_refused {r : Router φ} {es : List (RouteEntry φ)} {error : RouterError}
    (h : (r.insertAll es).2 = .error error) :
    ∃ before refused after, es = before ++ refused :: after ∧
      (r.insertAll before).2 = .ok ⟨⟩ ∧
      ((r.insertAll before).1.insert refused).2 = .error error ∧
      (r.insertAll es).1 = (r.insertAll before).1 := by
  induction es generalizing r with
  | nil => cases h
  | cons e es ih =>
    rcases r.insert_cases e with ⟨⟨error', herr⟩, _⟩ | ⟨batch, _, hok⟩
    · rw [insertAll_cons_error herr] at h ⊢
      cases h
      exact ⟨[], e, es, rfl, rfl, by simp [herr], rfl⟩
    · rw [insertAll_cons_ok hok] at h ⊢
      obtain ⟨before, refused, after, rfl, hbefore, hrefused, heq⟩ := ih h
      refine ⟨e :: before, refused, after, rfl, ?_⟩
      rw [insertAll_cons_ok hok]
      exact ⟨hbefore, hrefused, heq⟩

theorem registration_atomic (r : Router φ) :
    (∀ e error, (r.insert e).2 = .error error → (r.insert e).1 = r) ∧
    (∀ e, (r.insert e).2 = .ok ⟨⟩ ↔
      ∃ batch, r.Accepts e batch ∧ (r.insert e).1 = batch.foldl add r) ∧
    (∀ name es error, (r.nest name es).2 = .error error → (r.nest name es).1 = r) ∧
    ∀ es error, (r.insertAll es).2 = .error error →
      ∃ before refused after, es = before ++ refused :: after ∧
        (r.insertAll before).2 = .ok ⟨⟩ ∧
        ((r.insertAll before).1.insert refused).2 = .error error ∧
        (r.insertAll es).1 = (r.insertAll before).1 := by
  refine ⟨fun e error h => fst_insert_of_error h, fun e => ?_,
    fun name es error h => fst_insert_of_error h, fun es error h => exists_first_refused h⟩
  rcases r.insert_cases e with ⟨⟨error, herr⟩, hnot⟩ | ⟨batch, hbatch, hok⟩
  · rw [herr]
    constructor
    · intro h
      cases h
    · rintro ⟨batch, hbatch, _⟩
      exact absurd hbatch (hnot batch)
  · rw [hok]
    exact ⟨fun _ => ⟨batch, hbatch, rfl⟩, fun _ => rfl⟩

theorem registration_atomic_twice_named :
    let r := ((empty : Router Unit).insert (.line "/a >>> A")).1
    let group : RouteEntry Unit :=
      .group (some "g") none .empty [.line "/c >>> C", .line "c >>> D"]
    ∃ error, (r.insert group).2 = .error error ∧ (r.insert group).1 = r ∧ r.size = 1 := by
  intro r group
  have hfails : (r.insert group).2.toBool = false := by decide +kernel
  cases herr : (r.insert group).2 with
  | ok _ => simp [herr, Except.toBool] at hfails
  | error error =>
    exact ⟨error, rfl, (registration_atomic r).1 group error herr, by decide +kernel⟩

end Router

end UrlRouter
