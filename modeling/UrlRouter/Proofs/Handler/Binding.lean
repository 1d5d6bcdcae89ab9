import Mathlib.Data.List.Forall2
import UrlRouter.Handler.Params
import UrlRouter.Proofs.Except

namespace UrlRouter

theorem Json.isNull_iff {v : Json} : v.isNull = true ↔ v = .null := by
  cases v <;> simp [isNull]

namespace Param

def given? (p : Param) (args : Args) : Option Json := (args.get? p.name).filter (!·.isNull)

def value (p : Param) (args : Args) : Json := (p.given? args).getD (p.default.getD .null)

structure Fits (p : Param) (args : Args) : Prop where
  present : p.required = true → ∃ v, args.get? p.name = some v ∧ v ≠ .null
  readable : p.kind = .dateTime → p.value args ≠ .null →
    ∃ t, UrlRouter.dateTime? (p.value args) = some t

inductive Binds (p : Param) (args : Args) : BoundArg → Prop
  | value (h : p.kind = .value ∨ p.value args = .null) : Binds p args (.value (p.value args))
  | dateTime {t : DateTime} (hkind : p.kind = .dateTime) (hnull : p.value args ≠ .null)
      (h : UrlRouter.dateTime? (p.value args) = some t) : Binds p args (.dateTime t)

inductive Fails (p : Param) (args : Args) : BindError → Prop
  | missing (hrequired : p.required = true)
      (h : args.get? p.name = none ∨ args.get? p.name = some .null) : Fails p args (.missing p.name)
  | notDateTime (hpresent : p.required = true → ∃ v, args.get? p.name = some v ∧ v ≠ .null)
      (hkind : p.kind = .dateTime) (hnull : p.value args ≠ .null)
      (h : UrlRouter.dateTime? (p.value args) = none) :
      Fails p args (.notDateTime p.name (p.value args))

variable {p : Param} {args : Args} {e : BindError} {b : BoundArg}

theorem given?_eq_some_iff {v : Json} :
    p.given? args = some v ↔ args.get? p.name = some v ∧ v ≠ .null := by
  rw [given?, Option.filter_eq_some_iff, Bool.not_eq_true', ← Bool.not_eq_true, Json.isNull_iff]

theorem given?_eq_none_iff :
    p.given? args = none ↔ args.get? p.name = none ∨ args.get? p.name = some .null := by
  rw [given?, Option.filter_eq_none_iff]
  cases args.get? p.name <;> simp [Json.isNull_iff]

theorem present_iff :
    (∃ v, args.get? p.name = some v ∧ v ≠ .null) ↔ ∃ v, p.given? args = some v := by
  simp only [given?_eq_some_iff]

theorem resolve?_of_missing (hrequired : p.required = true)
    (h : args.get? p.name = none ∨ args.get? p.name = some .null) : p.resolve? args = none := by
  rw [resolve?, ← given?, given?_eq_none_iff.2 h]
  exact if_pos hrequired

theorem resolve?_of_present (h : p.required = true → ∃ v, args.get? p.name = some v ∧ v ≠ .null) :
    p.resolve? args = some (p.value args) := by
  rw [present_iff] at h
  rw [resolve?, ← given?, value]
  cases hgiven : p.given? args with
  | some v => rfl
  | none => simpa [hgiven] using h

theorem interpret_value {v : Json} (h : p.kind = .value ∨ v = .null) :
    p.interpret v = .ok (.value v) := by
  unfold interpret
  rcases h with h | rfl
  · rw [h]
  · cases p.kind <;> rfl

theorem interpret_dateTime {v : Json} (hkind : p.kind = .dateTime) (hnull : v ≠ .null) :
    p.interpret v = match UrlRouter.dateTime? v with
      | some t => .ok (.dateTime t)
      | none => .error (.notDateTime p.name v) := by
  unfold interpret
  rw [hkind]
  cases v with
  | null => exact absurd rfl hnull
  | bool | int | float | str | arr | obj => rfl

theorem Binds.bind_eq (h : p.Binds args b)
    (hpresent : p.required = true → ∃ v, args.get? p.name = some v ∧ v ≠ .null) :
    p.bind args = .ok b := by
  rw [bind, resolve?_of_present hpresent]
  cases h with
  | value h => exact interpret_value h
  | dateTime hkind hnull h =>
    dsimp only
    rw [interpret_dateTime hkind hnull, h]

theorem Fails.bind_eq (h : p.Fails args e) : p.bind args = .error e := by
  rw [bind]
  cases h with
  | missing hrequired h => rw [resolve?_of_missing hrequired h]
  | notDateTime hpresent hkind hnull h =>
    rw [resolve?_of_present hpresent]
    dsimp only
    rw [interpret_dateTime hkind hnull, h]

theorem Fits.exists_binds (h : p.Fits args) : ∃ b, p.Binds args b := by
  by_cases hvalue : p.kind = .value ∨ p.value args = .null
  · exact ⟨_, .value hvalue⟩
  · have hkind : p.kind = .dateTime := by
      cases hkind : p.kind with
      | value => exact absurd (.inl hkind) hvalue
      | dateTime => rfl
    have hnull : p.value args ≠ .null := fun heq => hvalue (.inr heq)
    obtain ⟨t, ht⟩ := h.readable hkind hnull
    exact ⟨_, .dateTime hkind hnull ht⟩

theorem exists_fails_of_not_fits (h : ¬ p.Fits args) : ∃ e, p.Fails args e := by
  by_cases hpresent : p.required = true → ∃ v, args.get? p.name = some v ∧ v ≠ .null
  · have hreadable : ¬ (p.kind = .dateTime → p.value args ≠ .null →
        ∃ t, UrlRouter.dateTime? (p.value args) = some t) := fun hreadable =>
      h ⟨hpresent, hreadable⟩
    simp only [Classical.not_imp, ← Option.isSome_iff_exists, Option.not_isSome_iff_eq_none]
      at hreadable
    obtain ⟨hkind, hnull, hnone⟩ := hreadable
    exact ⟨_, .notDateTime hpresent hkind hnull hnone⟩
  · rw [Classical.not_imp, present_iff, ← Option.isSome_iff_exists, Option.not_isSome_iff_eq_none,
      given?_eq_none_iff] at hpresent
    exact ⟨_, .missing hpresent.1 hpresent.2⟩

theorem exists_bind_iff : (∃ b, p.bind args = .ok b) ↔ p.Fits args := by
  constructor
  · rintro ⟨b, hb⟩
    by_contra hfits
    obtain ⟨e, he⟩ := exists_fails_of_not_fits hfits
    cases hb.symm.trans he.bind_eq
  · intro h
    obtain ⟨b, hb⟩ := h.exists_binds
    exact ⟨b, hb.bind_eq h.present⟩

theorem bind_eq_ok_iff : p.bind args = .ok b ↔ p.Fits args ∧ p.Binds args b := by
  constructor
  · intro h
    have hfits := exists_bind_iff.1 ⟨b, h⟩
    obtain ⟨b', hb⟩ := hfits.exists_binds
    cases h.symm.trans (hb.bind_eq hfits.present)
    exact ⟨hfits, hb⟩
  · exact fun h => h.2.bind_eq h.1.present

theorem bind_eq_error_iff : p.bind args = .error e ↔ p.Fails args e := by
  constructor
  · intro h
    have hfits : ¬ p.Fits args := by
      rw [← exists_bind_iff]
      rintro ⟨b, hb⟩
      cases h.symm.trans hb
    obtain ⟨e', he⟩ := exists_fails_of_not_fits hfits
    cases h.symm.trans he.bind_eq
    exact he
  · exact fun h => h.bind_eq

end Param

section

variable {args : Args} {params : List Param}

theorem bindValues_eq_mapM (args : Args) (params : List Param) :
    bindValues args params = params.mapM fun p => (p.bind args).map fun b => (p.name, b) := by
  induction params with
  | nil => rfl
  | cons p params ih =>
    rw [bindValues, ih, List.mapM_cons]
    cases p.bind args with
    | error e => rfl
    | ok b => cases params.mapM fun p => (p.bind args).map fun b => (p.name, b) <;> rfl

theorem bindValues_eq_ok_iff {values : List (String × BoundArg)} :
    bindValues args params = .ok values ↔
      List.Forall₂ (fun p v => v.1 = p.name ∧ p.bind args = .ok v.2) params values := by
  have hentry : (fun (p : Param) v => ((p.bind args).map fun b => (p.name, b)) = .ok v) =
      fun p v => v.1 = p.name ∧ p.bind args = .ok v.2 := by
    funext p v
    rw [Except.map_eq_ok_iff, eq_iff_iff]
    constructor
    · rintro ⟨b, hb, rfl⟩
      exact ⟨rfl, hb⟩
    · rintro ⟨hname, hb⟩
      exact ⟨v.2, hb, Prod.ext hname.symm rfl⟩
  rw [bindValues_eq_mapM, Except.mapM_eq_ok_iff, hentry]

theorem exists_bindValues_iff :
    (∃ values, bindValues args params = .ok values) ↔ ∀ p ∈ params, p.Fits args := by
  simp only [bindValues_eq_mapM, Except.exists_mapM_iff, ← Param.exists_bind_iff,
    Except.map_eq_ok_iff]
  simp

theorem bindValues_eq_error_iff {e : BindError} :
    bindValues args params = .error e ↔ ∃ before p after, params = before ++ p :: after ∧
      (∀ q ∈ before, q.Fits args) ∧ p.Fails args e := by
  simp only [bindValues_eq_mapM, Except.mapM_eq_error_iff, Except.map_eq_error_iff,
    ← Param.exists_bind_iff, ← Param.bind_eq_error_iff, Except.map_eq_ok_iff]
  simp

end

theorem bindParams_iff (params : List Param) (args : Args) :
    ((∃ b, bindParams params args = .ok b) ↔ ∀ p ∈ params, p.Fits args) ∧
    (∀ b, bindParams params args = .ok b ↔ b.all = args ∧
      List.Forall₂ (fun p e => p.Fits args ∧ e.1 = p.name ∧ p.Binds args e.2) params b.values) ∧
    ∀ e, bindParams params args = .error e ↔ ∃ before p after, params = before ++ p :: after ∧
      (∀ q ∈ before, q.Fits args) ∧ p.Fails args e := by
  have hentry (p : Param) (e : String × BoundArg) : (e.1 = p.name ∧ p.bind args = .ok e.2) ↔
      p.Fits args ∧ e.1 = p.name ∧ p.Binds args e.2 := by
    rw [Param.bind_eq_ok_iff]
    exact and_left_comm
  simp only [bindParams, Except.map_eq_ok_iff, Except.map_eq_error_iff]
  refine ⟨?_, fun b => ?_, fun e => bindValues_eq_error_iff⟩
  · rw [← exists_bindValues_iff]
    constructor
    · rintro ⟨_, values, hvalues, _⟩
      exact ⟨values, hvalues⟩
    · rintro ⟨values, hvalues⟩
      exact ⟨_, values, hvalues, rfl⟩
  · simp only [bindValues_eq_ok_iff, hentry]
    constructor
    · rintro ⟨values, hvalues, rfl⟩
      exact ⟨rfl, hvalues⟩
    · rintro ⟨rfl, hvalues⟩
      exact ⟨b.values, hvalues, rfl⟩

end UrlRouter
