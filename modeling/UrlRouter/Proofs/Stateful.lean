namespace UrlRouter

variable {ε σ α β : Type}

theorem run_bind (m : ExceptT ε (StateM σ) α) (k : α → ExceptT ε (StateM σ) β) (s : σ) :
    (m >>= k).run.run s =
      match m.run.run s with
      | (.ok a, s') => (k a).run.run s'
      | (.error e, s') => (.error e, s') := by
  change (StateT.bind m (ExceptT.bindCont k) s : Except ε β × σ) = _
  simp only [StateT.bind, bind, ExceptT.run, StateT.run]
  rcases m s with ⟨a | a, s'⟩ <;> rfl

theorem run_bind_ok {m : ExceptT ε (StateM σ) α} {s s' : σ} {a : α}
    (h : m.run.run s = (.ok a, s')) (k : α → ExceptT ε (StateM σ) β) :
    (m >>= k).run.run s = (k a).run.run s' := by
  rw [run_bind, h]

theorem run_bind_error {m : ExceptT ε (StateM σ) α} {s s' : σ} {e : ε}
    (h : m.run.run s = (.error e, s')) (k : α → ExceptT ε (StateM σ) β) :
    (m >>= k).run.run s = (.error e, s') := by
  rw [run_bind, h]

end UrlRouter
