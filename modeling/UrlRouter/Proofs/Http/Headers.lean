import UrlRouter.Http.Date
import UrlRouter.Http.Headers
import UrlRouter.Proofs.Calendar.Text

namespace UrlRouter

namespace Headers

theorem filter_flatMap_fields {name : String} {es : List (String × List String)}
    (h : Ascending es) :
    ((es.flatMap fun (n, vs) => vs.map fun v => (n, v)).filter (·.1 = name)).map (·.2) =
      (findEntry name es).getD [] := by
  induction es with
  | nil => rfl
  | cons e es ih =>
    obtain ⟨k, vs⟩ := e
    obtain ⟨habove, hes⟩ := List.pairwise_cons.1 h
    rw [List.flatMap_cons, List.filter_append, List.map_append, ih hes, findEntry]
    by_cases hk : k = name
    · subst hk
      have hall : (vs.map fun v => (k, v)).filter (·.1 = k) = vs.map fun v => (k, v) :=
        List.filter_eq_self.2 (by simp)
      have hnone : findEntry k es = none := findEntry_eq_none_of_lt habove
      rw [hall, hnone, if_pos rfl, List.map_map]
      simp [Function.comp_def]
    · have hnone : (vs.map fun v => (k, v)).filter (·.1 = name) = [] :=
        List.filter_eq_nil_iff.2 (by simpa using fun _ _ => hk)
      rw [hnone, if_neg hk]
      rfl

theorem filter_entries (h : Headers) (name : String) :
    (h.entries.filter (·.1 = name)).map (·.2) = h.values name :=
  filter_flatMap_fields h.byName.ascending

theorem mem_entries_iff {h : Headers} {name value : String} :
    (name, value) ∈ h.entries ↔ value ∈ h.values name := by
  simp [← filter_entries]

theorem values_removeAll (fields : List (String × String)) (h : Headers) (name : String) :
    (fields.foldl (fun h f => h.remove f.1) h).values name =
      if name ∈ fields.map (·.1) then [] else h.values name := by
  induction fields generalizing h with
  | nil => rfl
  | cons f fields ih =>
    rw [List.foldl_cons, ih, values_remove]
    have hcons : name ∈ (f :: fields).map (·.1) ↔ f.1 = name ∨ name ∈ fields.map (·.1) := by
      rw [List.map_cons, List.mem_cons, eq_comm]
    simp only [hcons]
    by_cases hf : f.1 = name <;> by_cases hfields : name ∈ fields.map (·.1) <;> simp [hf, hfields]

theorem values_insertAll_of_not_mem {fields : List (String × String)} {name : String}
    (hname : name ∉ fields.map (·.1)) (h : Headers) :
    (fields.foldl (fun h f => h.insert f.1 f.2) h).values name = h.values name := by
  induction fields generalizing h with
  | nil => rfl
  | cons f fields ih =>
    rw [List.map_cons, List.mem_cons, not_or] at hname
    rw [List.foldl_cons, ih hname.2, values_insert, if_neg (Ne.symm hname.1)]

theorem values_appendAll (fields : List (String × String)) (h : Headers) (name : String) :
    (fields.foldl (fun h f => h.append f.1 f.2) h).values name =
      h.values name ++ (fields.filter (·.1 = name)).map (·.2) := by
  induction fields generalizing h with
  | nil => simp
  | cons f fields ih =>
    rw [List.foldl_cons, ih, values_append]
    by_cases hf : f.1 = name
    · subst hf
      simp
    · simp [hf]

def Textual (h : Headers) : Prop :=
  ∀ name, ∀ value ∈ h.values name, name? name = some name ∧ isText value = true

theorem Textual.empty : empty.Textual := by
  intro name value hvalue
  cases hvalue

theorem Textual.insert {h : Headers} {name value : String} (hh : h.Textual)
    (hname : name? name = some name) (hvalue : isText value = true) :
    (h.insert name value).Textual := by
  intro other v hv
  rw [values_insert] at hv
  split at hv
  · next heq =>
    subst heq
    rw [List.mem_singleton.1 hv]
    exact ⟨hname, hvalue⟩
  · exact hh other v hv

theorem Textual.insertAll {fields : List (String × String)} {h : Headers} (hh : h.Textual)
    (hfields : ∀ f ∈ fields, name? f.1 = some f.1 ∧ isText f.2 = true) :
    (fields.foldl (fun h f => h.insert f.1 f.2) h).Textual := by
  induction fields generalizing h with
  | nil => exact hh
  | cons f fields ih =>
    obtain ⟨hname, hvalue⟩ := hfields f (by simp)
    exact ih (hh.insert hname hvalue) fun g hg => hfields g (by simp [hg])

theorem Textual.of_mem_entries {h : Headers} (hh : h.Textual) {f : String × String}
    (hf : f ∈ h.entries) : name? f.1 = some f.1 ∧ isText f.2 = true :=
  hh f.1 f.2 (mem_entries_iff.1 hf)

theorem isValue_of_isText {s : String} (h : isText s = true) : isValue s = true := by
  rw [isValue, List.all_eq_true]
  intro c hc
  have hboth := List.all_eq_true.1 h c hc
  simp only [Bool.and_eq_true] at hboth
  exact hboth.1

theorem isText_append (s t : String) : isText (s ++ t) = (isText s && isText t) := by
  simp only [isText, String.toList_append, List.all_append]

theorem isText_ofList {cs : List Char} (h : ∀ c ∈ cs, c.isDigit = true ∨ c = '-' ∨ c = '+') :
    isText (String.ofList cs) = true := by
  rw [isText, String.toList_ofList, List.all_eq_true]
  intro c hc
  rcases h c hc with hdigit | rfl | rfl
  · have hrange : 48 ≤ c.toNat ∧ c.toNat ≤ 57 := Char.isDigit_iff_toNat.1 hdigit
    simp only [isValueChar, Bool.and_eq_true, Bool.or_eq_true, decide_eq_true_eq, bne_iff_ne]
    omega
  · decide
  · decide

theorem isText_padded (width n : Nat) : isText (String.ofList (padded width n)) = true :=
  isText_ofList fun _ hc => .inl (isDigit_of_mem_padded hc)

theorem isText_yearText (year : Int) : isText (String.ofList (yearText year)) = true :=
  isText_ofList fun _ hc => mem_yearText hc

theorem isText_httpText (t : DateTime) : isText t.httpText = true := by
  have hweekday : ∀ n, isText (weekdayName n) = true := by
    intro n
    unfold weekdayName
    split <;> decide
  have hmonth : ∀ n, isText (monthName n) = true := by
    intro n
    unfold monthName
    split <;> decide
  have hmarks : isText ", " = true ∧ isText " " = true ∧ isText ":" = true ∧
      isText " GMT" = true := by decide
  simp only [DateTime.httpText, isText_append, hweekday, hmonth, isText_padded, isText_yearText,
    hmarks, Bool.and_self]

end Headers

end UrlRouter
