import UrlRouter.Proofs.Entries
import UrlRouter.Proofs.Router.RoundTrip

/-!
The resolution of requests. A request goes to the first route that takes it, and what a route takes
is said once, without the order in which it is checked.
-/

namespace UrlRouter

def Input.value? (i : Input) (req : Request) : Option Json :=
  (req.field? i.name).bind i.type.parse?

def lastValue? (req : Request) (inputs : List Input) (key : String) : Option Json :=
  inputs.reverse.findSome? fun i => if i.name = key then i.value? req else none

theorem collectInputs_eq_some_iff {req : Request} {inputs : List Input}
    {values : List (String × Json)} :
    collectInputs req inputs = some values ↔
      (∀ i ∈ inputs, i.mandatory = true → (i.value? req).isSome = true) ∧
        inputs.filterMap (fun i => (i.value? req).map fun v => (i.name, v)) = values := by
  induction inputs generalizing values with
  | nil => simp [collectInputs]
  | cons i inputs ih =>
    rw [collectInputs, List.forall_mem_cons, List.filterMap_cons, ← Input.value?]
    cases i.value? req with
    | some v => simp [ih, and_assoc]
    | none => cases i.mandatory <;> simp [ih]

theorem findEntry_inputs (req : Request) (inputs : List Input) (key : String) :
    findEntry key (inputs.filterMap fun i => (i.value? req).map fun v => (i.name, v)).reverse =
      lastValue? req inputs key := by
  rw [← List.filterMap_reverse, findEntry_filterMap]
  rfl

/-- A name has one capture, so the last one of a name is the first. -/
theorem Route.findEntry_captures {φ : Type} {route : Route φ} {path : String}
    {captures : List (String × String)} (h : route.captures? path = some captures)
    (key : String) :
    findEntry key (captures.map fun (k, v) => (k, Json.str v)).reverse =
      (capture? captures key).map .str := by
  obtain ⟨caps, _, rfl⟩ := Option.map_eq_some_iff.1 h
  have hnamed : (route.compiled.captureNames.filterMap fun name =>
      (caps.get? name).map fun text => (name, String.ofList text)) =
      route.compiled.captureNames.filterMap fun name =>
        ((caps.get? name).map String.ofList).map fun text => (name, text) := by
    simp only [Option.map_map]
    rfl
  rw [hnamed, ← List.map_reverse, findEntry_map (fun _ => Json.str), findEntry_reverse, capture?,
    find?_eq_findEntry]

variable {φ : Type}

structure Route.Takes (route : Route φ) (req : Request) (args : Args) : Prop where
  method : ∀ m ∈ route.settings.method, m = req.method
  captures : ∃ captures, route.captures? (stripQuery req.path) = some captures ∧
    ∀ key, args.get? key = ((capture? captures key).map .str).or
      ((lastValue? req route.settings.inputs key).or (route.settings.args.get? key))
  mandatory : ∀ i ∈ route.settings.inputs, i.mandatory = true → (i.value? req).isSome = true
  conditions : ∀ c ∈ route.settings.conditions, c args = true

theorem get?_mergeArgs {route : Route φ} {req : Request} {captures : List (String × String)}
    (h : route.captures? (stripQuery req.path) = some captures) (key : String) :
    (mergeArgs route.settings.args
      (route.settings.inputs.filterMap fun i => (i.value? req).map fun v => (i.name, v))
        captures).get? key = ((capture? captures key).map .str).or
      ((lastValue? req route.settings.inputs key).or (route.settings.args.get? key)) := by
  rw [mergeArgs, Dict.get?_insertMany_eq, Dict.get?_insertMany_eq, findEntry_inputs,
    route.findEntry_captures h]

theorem Route.accepts_iff {route : Route φ} {m : Method} :
    route.accepts m = true ↔ ∀ m' ∈ route.settings.method, m' = m := by
  rw [accepts, Option.all_eq_true]
  simp

theorem Route.accept?_eq_some_iff {route : Route φ} {req : Request} {args : Args} :
    route.accept? req = some args ↔ route.Takes req args := by
  constructor
  · intro h
    unfold accept? at h
    split at h
    · cases h
    next hmethod =>
    split at h
    · cases h
    next captures hcaptures =>
    split at h
    · cases h
    next values hvalues =>
    obtain ⟨hmandatory, rfl⟩ := collectInputs_eq_some_iff.1 hvalues
    dsimp only at h
    split at h
    · next hconditions =>
      cases h
      refine ⟨accepts_iff.1 (by simpa using hmethod), ⟨captures, hcaptures, ?_⟩, hmandatory,
        by simpa using hconditions⟩
      exact get?_mergeArgs hcaptures
    · cases h
  · rintro ⟨hmethod, ⟨captures, hcaptures, hargs⟩, hmandatory, hconditions⟩
    have hvalues := collectInputs_eq_some_iff.2 ⟨hmandatory, rfl⟩
    have hmerged : mergeArgs route.settings.args
        (route.settings.inputs.filterMap fun i => (i.value? req).map fun v => (i.name, v))
          captures = args :=
      Dict.ext_get? fun key => (get?_mergeArgs hcaptures key).trans (hargs key).symm
    unfold accept?
    rw [if_neg (by simpa using accepts_iff.2 hmethod), hcaptures]
    dsimp only
    rw [hvalues]
    dsimp only
    rw [hmerged, if_pos (by simpa using hconditions)]

namespace Router

variable {r : Router φ} {req : Request} {i j : Nat} {route other : Route φ} {args args' : Args}

structure TakenAt (r : Router φ) (req : Request) (i : Nat) (route : Route φ) (args : Args) :
    Prop where
  registered : r.routes[i]? = some route
  takes : route.Takes req args
  first : ∀ j < i, ∀ earlier, r.routes[j]? = some earlier → ∀ args, ¬ earlier.Takes req args

theorem TakenAt.unique (h : r.TakenAt req i route args) (h' : r.TakenAt req j other args') :
    (route, args) = (other, args') := by
  have hij : i = j := by
    rcases Nat.lt_trichotomy i j with hlt | heq | hlt
    · exact absurd h.takes (h'.first i hlt route h.registered args)
    · exact heq
    · exact absurd h'.takes (h.first j hlt other h'.registered args')
  subst hij
  cases h.registered.symm.trans h'.registered
  have haccept := Route.accept?_eq_some_iff.2 h.takes
  cases haccept.symm.trans (Route.accept?_eq_some_iff.2 h'.takes)
  rfl

end Router

end UrlRouter
