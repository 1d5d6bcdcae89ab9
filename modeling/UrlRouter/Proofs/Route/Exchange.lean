import UrlRouter.Proofs.Route.Generated

/-!
Paths of a pattern from other data. The text of a token goes by its own value, so paths are the same
where the values are, and what each text has less of the path has less of.
-/

namespace UrlRouter

variable {d e : PathData} {ps : List Piece} {out out' : List Char}

namespace Token

variable {t : Token} {name s : String}

theorem text_congr (htranslations : d.translations = e.translations) (hlocale : d.locale = e.locale)
    (hsegment : t.kind.needsName = true →
      d.segment? (t.nameString.getD "") = e.segment? (t.nameString.getD ""))
    (hword : t.kind = .translated → t.nameString.bind d.text? = t.nameString.bind e.text?) :
    t.text d = t.text e := by
  unfold text
  cases hkind : t.kind with
  | capture | silent | optional =>
    have hvalue := hsegment (by rw [hkind]; rfl)
    dsimp only
    rw [hvalue]
  | translated => rw [hword hkind, htranslations, hlocale]
  | locale => rw [hlocale]

theorem text_of_segment? (hneeds : t.kind.needsName = true) (hname : t.nameString = some name)
    (h : d.segment? name = some s) : t.text d = .ok (t.lead ++ s.toList) := by
  unfold text
  cases hkind : t.kind with
  | capture | silent | optional => simp [hname, h]
  | translated | locale =>
    rw [hkind] at hneeds
    cases hneeds

theorem text_of_segment?_eq_none (hneeds : t.kind.needsName = true)
    (hname : t.nameString = some name) (h : d.segment? name = none) :
    t.text d = if t.kind = .optional then .ok [] else .error (.missingValue name) := by
  unfold text
  cases hkind : t.kind with
  | capture | silent | optional => simp [hname, h]
  | translated | locale =>
    rw [hkind] at hneeds
    cases hneeds

end Token

theorem texts_congr (h : ∀ t, .token t ∈ ps → t.text d = t.text e) : texts d ps = texts e ps := by
  induction ps with
  | nil => rfl
  | cons p ps ih =>
    have hp : p.text d = p.text e := by
      cases p with
      | literal text => rfl
      | token t => exact h t List.mem_cons_self
    have hrest := ih fun t ht => h t (List.mem_cons_of_mem p ht)
    rw [texts, texts] at hrest
    rw [texts, texts, Except.flatten_mapM_cons, Except.flatten_mapM_cons, hp, hrest]

section

variable {μ : List Char → Nat}

theorem measure_text_le {p : Piece} {u v : List Char}
    (hle : ∀ t, p = .token t → ∀ u v, t.text d = .ok u → t.text e = .ok v → μ v ≤ μ u)
    (hu : p.text d = .ok u) (hv : p.text e = .ok v) : μ v ≤ μ u := by
  cases p with
  | literal text =>
    cases hu
    cases hv
    exact Nat.le_refl _
  | token t => exact hle t rfl u v hu hv

variable (hμ : ∀ u v, μ (u ++ v) = μ u + μ v)
include hμ

theorem measure_texts_le
    (hle : ∀ t, .token t ∈ ps → ∀ u v, t.text d = .ok u → t.text e = .ok v → μ v ≤ μ u)
    (h : texts d ps = .ok out) (h' : texts e ps = .ok out') : μ out' ≤ μ out := by
  induction ps generalizing out out' with
  | nil =>
    cases h
    cases h'
    exact Nat.le_refl _
  | cons p ps ih =>
    obtain ⟨u, v, hu, hv, rfl⟩ := Except.flatten_mapM_cons_eq_ok_iff.1 h
    obtain ⟨u', v', hu', hv', rfl⟩ := Except.flatten_mapM_cons_eq_ok_iff.1 h'
    have hp : μ u' ≤ μ u := measure_text_le (fun t ht => hle t (ht ▸ List.mem_cons_self)) hu hu'
    rw [hμ, hμ]
    exact Nat.add_le_add hp (ih (fun t ht => hle t (List.mem_cons_of_mem p ht)) hv hv')

theorem measure_texts_lt
    (hle : ∀ t, .token t ∈ ps → ∀ u v, t.text d = .ok u → t.text e = .ok v → μ v ≤ μ u)
    {t : Token} (ht : .token t ∈ ps)
    (hlt : ∀ u v, t.text d = .ok u → t.text e = .ok v → μ v < μ u)
    (h : texts d ps = .ok out) (h' : texts e ps = .ok out') : μ out' < μ out := by
  induction ps generalizing out out' with
  | nil => cases ht
  | cons p ps ih =>
    obtain ⟨u, v, hu, hv, rfl⟩ := Except.flatten_mapM_cons_eq_ok_iff.1 h
    obtain ⟨u', v', hu', hv', rfl⟩ := Except.flatten_mapM_cons_eq_ok_iff.1 h'
    have hrest := fun t ht => hle t (List.mem_cons_of_mem p ht)
    rw [hμ, hμ]
    rcases List.mem_cons.1 ht with rfl | ht
    · exact Nat.add_lt_add_of_lt_of_le (hlt u u' hu hu') (measure_texts_le hμ hrest hv hv')
    · have hp : μ u' ≤ μ u := measure_text_le (fun t ht => hle t (ht ▸ List.mem_cons_self)) hu hu'
      exact Nat.add_lt_add_of_le_of_lt hp (ih hrest ht hv hv')

end

end UrlRouter
