import Mathlib.Data.List.Induction
import UrlRouter.Json.Printer

/-!
Look-ups in lists of entries. Several entries may have one name: a search finds the first of them,
and a map into which all are inserted keeps the last. A value that is null stands for none.
-/

namespace UrlRouter

variable {α ι : Type}

theorem Dict.get?_insertMany_eq (d : Dict α) (es : List (String × α)) (key : String) :
    (d.insertMany es).get? key = (findEntry key es.reverse).or (d.get? key) := by
  induction es using List.reverseRecOn with
  | nil => rfl
  | append_singleton es e ih =>
    have hinsert : d.insertMany (es ++ [e]) = (d.insertMany es).insert e.1 e.2 := by
      simp [insertMany]
    rw [hinsert, get?_insert, ih, List.reverse_concat, findEntry]
    by_cases hkey : e.1 = key <;> simp [hkey]

theorem Dict.insert_comm {key key' : String} (hne : key ≠ key') (d : Dict α) (a b : α) :
    (d.insert key a).insert key' b = (d.insert key' b).insert key a := by
  refine ext_get? fun k => ?_
  simp only [get?_insert]
  by_cases hkey : key = k
  · simp [hkey, Ne.symm (hkey ▸ hne)]
  · simp [hkey]

theorem Dict.insertMany_entries (d : Dict α) : empty.insertMany d.entries = d := by
  refine ext_get? fun key => ?_
  rw [get?_insertMany d.ascending, get?_empty, Option.or_none]
  rfl

theorem Dict.mem_keys_iff {d : Dict α} {key : String} :
    key ∈ d.keys ↔ ∃ a, d.get? key = some a := by
  simp [keys, get?_eq_some_iff]

theorem Dict.nodup_keys (d : Dict α) : d.keys.Nodup := by
  refine List.pairwise_map.2 (d.ascending.imp ?_)
  intro a b hlt heq
  rw [heq] at hlt
  exact String.lt_irrefl b.1 hlt

theorem find?_eq_findEntry (es : List (String × α)) (key : String) :
    (es.find? (·.1 == key)).map (·.2) = findEntry key es := by
  induction es with
  | nil => rfl
  | cons e es ih =>
    rw [List.find?_cons, findEntry, ← ih]
    cases hkey : e.1 == key with
    | true => simp [beq_iff_eq.1 hkey]
    | false => simp [beq_eq_false_iff_ne.1 hkey]

theorem findEntry_filterMap (name : ι → String) (f : ι → Option α) (is : List ι) (key : String) :
    findEntry key (is.filterMap fun i => (f i).map fun a => (name i, a)) =
      is.findSome? fun i => if name i = key then f i else none := by
  induction is with
  | nil => rfl
  | cons i is ih =>
    rw [List.filterMap_cons, List.findSome?_cons, ← ih]
    cases f i with
    | none => simp
    | some a => by_cases hkey : name i = key <;> simp [findEntry, hkey]

theorem findEntry_map {β : Type} (f : String → α → β) (es : List (String × α)) (key : String) :
    findEntry key (es.map fun (k, a) => (k, f k a)) = (findEntry key es).map (f key) := by
  induction es with
  | nil => rfl
  | cons e es ih =>
    rw [List.map_cons, findEntry, findEntry, ih]
    by_cases hkey : e.1 = key
    · simp [hkey]
    · simp [hkey]

def Dict.mapValues {β : Type} (f : String → α → β) (d : Dict α) : Dict β where
  entries := d.entries.map fun (k, a) => (k, f k a)
  ascending := by
    rw [Ascending, List.pairwise_map]
    exact d.ascending

theorem Dict.get?_mapValues {β : Type} (f : String → α → β) (d : Dict α) (key : String) :
    (d.mapValues f).get? key = (d.get? key).map (f key) :=
  findEntry_map f d.entries key

theorem findSome?_name (f : String → Option α) (names : List String) (key : String) :
    (names.findSome? fun name => if name = key then f name else none) =
      if key ∈ names then f key else none := by
  induction names with
  | nil => rfl
  | cons name names ih =>
    rw [List.findSome?_cons, ih]
    by_cases hkey : name = key
    · subst hkey
      cases f name <;> simp
    · simp [hkey, Ne.symm hkey]

theorem findEntry_reverse (f : String → Option α) (names : List String) (key : String) :
    findEntry key (names.filterMap fun name => (f name).map fun a => (name, a)).reverse =
      findEntry key (names.filterMap fun name => (f name).map fun a => (name, a)) := by
  rw [← List.filterMap_reverse, findEntry_filterMap, findEntry_filterMap, findSome?_name,
    findSome?_name]
  simp only [List.mem_reverse]

def Absent (data : Args) (name : String) : Prop :=
  data.get? name = none ∨ data.get? name = some .null

theorem absent_iff {data : Args} {name : String} :
    Absent data name ↔ (data.get? name).bind Json.valueText? = none := by
  rw [Absent]
  cases data.get? name with
  | none => simp
  | some v => simp [Json.valueText?_eq_none_iff]

end UrlRouter
