import UrlRouter.Proofs.Text.Slashes
import UrlRouter.Route.Flatten

namespace UrlRouter

open Text

variable {cs u v w : List Char}

theorem intercalate_append {sep : List Char} {us vs : List (List Char)} (hus : us ≠ [])
    (hvs : vs ≠ []) :
    sep.intercalate (us ++ vs) = sep.intercalate us ++ (sep ++ sep.intercalate vs) := by
  induction us with
  | nil => exact absurd rfl hus
  | cons u us ih =>
    rw [List.cons_append, List.intercalate_cons_of_ne_nil (by simp [hvs])]
    cases us with
    | nil => simp
    | cons u' us =>
      rw [ih (List.cons_ne_nil u' us), List.intercalate_cons_of_ne_nil (List.cons_ne_nil u' us)]
      simp

theorem intercalate_intercalate {sep : List Char} {vs : List (List Char)} (hvs : vs ≠ [])
    (us ws : List (List Char)) :
    sep.intercalate (us ++ sep.intercalate vs :: ws) = sep.intercalate (us ++ (vs ++ ws)) := by
  have hinner : sep.intercalate (sep.intercalate vs :: ws) = sep.intercalate (vs ++ ws) := by
    cases ws with
    | nil => simp
    | cons w ws =>
      rw [List.intercalate_cons_cons, intercalate_append hvs (List.cons_ne_nil w ws)]
      simp
  by_cases hus : us = []
  · simpa [hus] using hinner
  · rw [intercalate_append hus (List.cons_ne_nil _ ws), hinner,
      intercalate_append hus (by simp [hvs])]

def nameParts (names : List String) : List (List Char) :=
  (names.map fun n => trimSlashes n.toList).filter (· ≠ [])

theorem nameParts_append (names more : List String) :
    nameParts (names ++ more) = nameParts names ++ nameParts more := by
  simp [nameParts]

structure Trimmed (cs : List Char) : Prop where
  head : cs.head? ≠ some '/'
  last : cs.getLast? ≠ some '/'

theorem trimSlashes_eq (cs : List Char) :
    trimSlashes cs = (leadingTrimmed (leadingTrimmed cs).reverse).reverse := rfl

theorem trimmed_trimSlashes (cs : List Char) : Trimmed (trimSlashes cs) := by
  refine ⟨fun hhead => head?_leadingTrimmed cs ?_, ?_⟩
  · obtain ⟨rest, hrest⟩ : trimSlashes cs <+: leadingTrimmed cs := List.rdropWhile_prefix _ _
    simp [← hrest, List.head?_append, hhead]
  · rw [trimSlashes_eq, List.getLast?_reverse]
    exact head?_leadingTrimmed _

theorem Trimmed.trimSlashes_append (hw : Trimmed w) (hu : ∀ c ∈ u, c = '/')
    (hv : ∀ c ∈ v, c = '/') : trimSlashes (u ++ w ++ v) = w := by
  have hvrev : leadingTrimmed v.reverse = [] :=
    leadingTrimmed_of_slashes fun c hc => hv c (List.mem_reverse.1 hc)
  have hlast : w.reverse.head? ≠ some '/' := by
    rw [List.head?_reverse]
    exact hw.last
  have hlead : leadingTrimmed w = w := leadingTrimmed_of_head? hw.head
  rw [trimSlashes_eq, List.append_assoc, leadingTrimmed_append_of_eq_nil
    (leadingTrimmed_of_slashes hu)]
  by_cases hnil : w = []
  · rw [hnil, List.nil_append, leadingTrimmed_of_slashes hv]
    rfl
  · rw [leadingTrimmed_append_of_ne_nil (by rw [hlead]; exact hnil), hlead, List.reverse_append,
      leadingTrimmed_append_of_eq_nil hvrev, leadingTrimmed_of_head? hlast, List.reverse_reverse]

theorem Trimmed.trimSlashes_eq_self {cs : List Char} (h : Trimmed cs) : trimSlashes cs = cs := by
  have htrim := h.trimSlashes_append (u := []) (v := []) (by simp) (by simp)
  rwa [List.nil_append, List.append_nil] at htrim

theorem exists_leadingTrimmed_eq (cs : List Char) :
    ∃ v, leadingTrimmed cs = trimSlashes cs ++ v ∧ ∀ c ∈ v, c = '/' := by
  refine ⟨((leadingTrimmed cs).reverse.takeWhile (· = '/')).reverse, ?_, ?_⟩
  · rw [trimSlashes_eq, ← List.reverse_append, takeWhile_append_leadingTrimmed,
      List.reverse_reverse]
  · intro c hc
    exact eq_of_mem_takeWhile_slash (List.mem_reverse.1 hc)

theorem leadingTrimmed_eq_nil_iff : leadingTrimmed cs = [] ↔ trimSlashes cs = [] := by
  obtain ⟨v, hcs, hv⟩ := exists_leadingTrimmed_eq cs
  constructor
  · intro h
    rw [h] at hcs
    exact (List.append_eq_nil_iff.1 hcs.symm).1
  · intro h
    rw [h, List.nil_append] at hcs
    rw [← leadingTrimmed_leadingTrimmed, hcs]
    exact leadingTrimmed_of_slashes hv

theorem trimSlashes_append_slashes (hv : ∀ c ∈ v, c = '/') :
    trimSlashes (cs ++ v) = trimSlashes cs := by
  obtain ⟨behind, hcs, hbehind⟩ := exists_leadingTrimmed_eq cs
  have hbefore : ∀ c ∈ cs.takeWhile (· = '/'), c = '/' := fun _ => eq_of_mem_takeWhile_slash
  have htext : cs ++ v = cs.takeWhile (· = '/') ++ trimSlashes cs ++ (behind ++ v) := by
    rw [List.append_assoc, ← List.append_assoc (trimSlashes cs), ← hcs, ← List.append_assoc,
      takeWhile_append_leadingTrimmed]
  rw [htext]
  refine (trimmed_trimSlashes cs).trimSlashes_append hbefore fun c hc => ?_
  exact (List.mem_append.1 hc).elim (hbehind c) (hv c)

theorem trimmed_intercalate {parts : List (List Char)} (hparts : parts ≠ [])
    (h : ∀ p ∈ parts, p ≠ [] ∧ Trimmed p) :
    ['/'].intercalate parts ≠ [] ∧ Trimmed (['/'].intercalate parts) := by
  induction parts with
  | nil => exact absurd rfl hparts
  | cons p parts ih =>
    obtain ⟨⟨hne, hp⟩, hrest⟩ := List.forall_mem_cons.1 h
    cases parts with
    | nil =>
      rw [List.intercalate_singleton]
      exact ⟨hne, hp⟩
    | cons q parts =>
      obtain ⟨hne', hq⟩ := ih (List.cons_ne_nil q parts) hrest
      rw [List.intercalate_cons_cons]
      refine ⟨by simp [hne], ?_, ?_⟩
      · rw [List.append_assoc, List.head?_append_of_ne_nil _ hne]
        exact hp.head
      · rw [List.getLast?_append_of_ne_nil _ hne']
        exact hq.last

theorem nameParts_of_trimmed {cs : List Char} (h : Trimmed cs) (hne : cs ≠ []) :
    nameParts [String.ofList cs] = [cs] := by
  simp [nameParts, h.trimSlashes_eq_self, hne]

theorem trimmed_of_mem_nameParts {names : List String} {p : List Char}
    (h : p ∈ nameParts names) : p ≠ [] ∧ Trimmed p := by
  obtain ⟨hp, hne⟩ := List.mem_filter.1 h
  obtain ⟨name, _, rfl⟩ := List.mem_map.1 hp
  exact ⟨by simpa using hne, trimmed_trimSlashes _⟩

theorem toList_joinNames (names : List String) :
    (joinNames names).toList = ['/'].intercalate (nameParts names) :=
  String.toList_ofList

theorem trimmed_joinNames (names : List String) : Trimmed (joinNames names).toList := by
  rw [toList_joinNames]
  by_cases hnames : nameParts names = []
  · rw [hnames]
    exact ⟨by simp, by simp⟩
  · exact (trimmed_intercalate hnames fun _ => trimmed_of_mem_nameParts).2

theorem joinNames_concat_of_trimmed_eq_nil {name : String} (h : trimSlashes name.toList = [])
    (names : List String) : joinNames (names ++ [name]) = joinNames names := by
  have hnone : nameParts [name] = [] := by simp [nameParts, h]
  rw [← String.toList_inj, toList_joinNames, toList_joinNames, nameParts_append, hnone,
    List.append_nil]

theorem joinNames_joinNames (outer inner more : List String) :
    joinNames (outer ++ joinNames inner :: more) = joinNames (outer ++ inner ++ more) := by
  have hparts : ∀ p ∈ nameParts inner, p ≠ [] ∧ Trimmed p := fun _ => trimmed_of_mem_nameParts
  have hcons (name : String) :
      nameParts (name :: more) = nameParts [name] ++ nameParts more :=
    nameParts_append [name] more
  rw [← String.toList_inj, toList_joinNames, toList_joinNames, nameParts_append, nameParts_append,
    nameParts_append, hcons]
  by_cases hinner : nameParts inner = []
  · have hempty : joinNames inner = "" := by
      rw [← String.toList_inj, toList_joinNames, hinner]
      rfl
    have hnone : nameParts [""] = [] := rfl
    rw [hempty, hnone, hinner, List.append_nil, List.nil_append]
  · obtain ⟨hne, htrimmed⟩ := trimmed_intercalate hinner hparts
    have hjoined : joinNames inner = String.ofList (['/'].intercalate (nameParts inner)) := rfl
    rw [hjoined, nameParts_of_trimmed htrimmed hne, List.singleton_append,
      intercalate_intercalate hinner, List.append_assoc]

end UrlRouter
