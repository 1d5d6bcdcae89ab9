import Mathlib.Data.List.Induction
import UrlRouter.Proofs.Route.Leaves

/-!
Settings of flattened leaves in closed form. Of what has one value the deepest level that sets it
counts; conditions stand together from the outermost level to the leaf, and so do inputs, of which
those are left out that a deeper level declares again.
-/

namespace UrlRouter

variable {φ α : Type}

def deepest (f : RouteSettings φ → Option α) (levels : List (RouteSettings φ)) : Option α :=
  levels.reverse.findSome? f

theorem deepest_concat (f : RouteSettings φ → Option α) (levels : List (RouteSettings φ))
    (own : RouteSettings φ) : deepest f (levels ++ [own]) = (f own).or (deepest f levels) := by
  rw [deepest, List.reverse_concat, List.findSome?_cons]
  cases f own <;> rfl

def declares (levels : List (RouteSettings φ)) (name : String) : Bool :=
  levels.any fun s => s.inputs.any fun i => i.name == name

def inputsOf : List (RouteSettings φ) → List Input
  | [] => []
  | own :: deeper => own.inputs.filter (fun i => !declares deeper i.name) ++ inputsOf deeper

theorem inputsOf_concat (levels : List (RouteSettings φ)) (own : RouteSettings φ) :
    inputsOf (levels ++ [own]) = RouteSettings.inheritInputs own.inputs (inputsOf levels) := by
  induction levels with
  | nil => simp [inputsOf, declares, RouteSettings.inheritInputs]
  | cons outer levels ih =>
    have hdeclares (name : String) : declares (levels ++ [own]) name =
        (declares levels name || own.inputs.any fun i => i.name == name) := by
      simp [declares]
    rw [List.cons_append, inputsOf, ih, inputsOf]
    simp only [RouteSettings.inheritInputs, List.filter_append, List.filter_filter,
      List.append_assoc, hdeclares, Bool.not_or, Bool.and_comm]

namespace RouteSettings

theorem merged_eq_deepest {f : RouteSettings φ → Option α} (hempty : f .empty = none)
    (hinherit : ∀ own outer, f (own.inherit outer) = (f own).or (f outer))
    (levels : List (RouteSettings φ)) : f (merged levels) = deepest f levels := by
  -- The walk merges each level into what is above it, so the last level is taken off first.
  induction levels using List.reverseRecOn with
  | nil => exact hempty
  | append_singleton levels own ih => rw [merged_concat, hinherit, ih, deepest_concat]

theorem conditions_merged (levels : List (RouteSettings φ)) :
    (merged levels).conditions = levels.flatMap (·.conditions) := by
  induction levels using List.reverseRecOn with
  | nil => rfl
  | append_singleton levels own ih =>
    rw [merged_concat, List.flatMap_append, List.flatMap_singleton, ← ih]
    rfl

theorem inputs_merged (levels : List (RouteSettings φ)) :
    (merged levels).inputs = inputsOf levels := by
  induction levels using List.reverseRecOn with
  | nil => rfl
  | append_singleton levels own ih =>
    rw [merged_concat, inputsOf_concat, ← ih]
    rfl

structure Gathers (s : RouteSettings φ) (levels : List (RouteSettings φ)) : Prop where
  method : s.method = deepest (·.method) levels
  handler : s.handler = deepest (·.handler) levels
  responseCode : s.responseCode = deepest (·.responseCode) levels
  urlize : s.options.urlize = deepest (·.options.urlize) levels
  cache : s.options.cache = deepest (·.options.cache) levels
  args : ∀ key, s.args.get? key = deepest (·.args.get? key) levels
  extra : ∀ key, s.options.extra.get? key = deepest (·.options.extra.get? key) levels
  conditions : s.conditions = levels.flatMap (·.conditions)
  inputs : s.inputs = inputsOf levels

theorem gathers_merged (levels : List (RouteSettings φ)) : (merged levels).Gathers levels where
  method := merged_eq_deepest (f := (·.method)) rfl (fun _ _ => rfl) levels
  handler := merged_eq_deepest (f := (·.handler)) rfl (fun _ _ => rfl) levels
  responseCode := merged_eq_deepest (f := (·.responseCode)) rfl (fun _ _ => rfl) levels
  urlize := merged_eq_deepest (f := (·.options.urlize)) rfl (fun _ _ => rfl) levels
  cache := merged_eq_deepest (f := (·.options.cache)) rfl (fun _ _ => rfl) levels
  args key := merged_eq_deepest (f := (·.args.get? key)) rfl
    (fun own outer => Dict.get?_overlay outer.args own.args key) levels
  extra key := merged_eq_deepest (f := (·.options.extra.get? key)) rfl
    (fun own outer => Dict.get?_overlay outer.options.extra own.options.extra key) levels
  conditions := conditions_merged levels
  inputs := inputs_merged levels

end RouteSettings

structure Leaf.Yields (leaf : Leaf φ) (flat : FlatRoute φ) : Prop where
  name : flat.name = leaf.definition.fullName leaf.scope
  pattern : flat.pattern = joinFragments (leaf.scope.fragments ++ [leaf.definition.pattern])
  settings : flat.settings.Gathers leaf.levels
  handler : flat.settings.handler = some flat.handler
  alone : leaf.alone.leaves = .ok [flat]

theorem Leaf.yields_of_flatten {leaf : Leaf φ} {flat : FlatRoute φ} (h : leaf.flatten = .ok flat)
    (hfits : ∀ g ∈ leaf.groups, g.Fits) : leaf.Yields flat := by
  obtain ⟨hname, hpattern, hsettings, hhandler⟩ := RouteDefinition.flatten_eq_ok h
  refine ⟨hname, hpattern, ?_, hhandler, leaf.leaves_alone h hfits⟩
  rw [hsettings, settingsOf, ← RouteSettings.merged_concat]
  exact RouteSettings.gathers_merged leaf.levels

theorem flatten_yields {e : RouteEntry φ} {flats : List (FlatRoute φ)} (h : e.leaves = .ok flats) :
    List.Forall₂ Leaf.Yields e.declared flats :=
  (RouteEntry.forall₂_of_leaves h).imp fun leaf _ h => leaf.yields_of_flatten h.1 h.2

theorem flatten_yields_redeclared :
    let page (mandatory : Bool) : Input := ⟨"page", .int, mandatory⟩
    let sort (mandatory : Bool) : Input := ⟨"sort", .string, mandatory⟩
    let users : RouteDefinition Unit :=
      ⟨none, "users", .withInput (.withArg .empty "layout" (.str "narrow")) (page true)⟩
    let inner : RouteEntry Unit :=
      .group none none (.withInput (.withMethod .empty .get) (sort true))
        [.route users, .line "POST save >>> Admin::save"]
    let shared : RouteSettings Unit :=
      { method := none
        handler := some (.func ())
        inputs := [page false, sort false, page false]
        args := .ofList [("area", .str "admin"), ("layout", .str "wide")]
        conditions := []
        options := .empty
        responseCode := none }
    let tree : RouteEntry Unit := .group (some "admin") none shared [inner]
    ∃ flats, tree.leaves = .ok flats ∧
      (flats.map fun f => (f.name, f.settings.method, f.settings.inputs.map fun i =>
        (i.name, i.mandatory))) =
        [(.named "admin/users", some .get, [("sort", true), ("page", true)]),
          (.named "admin/save@POST", some .post,
            [("page", false), ("page", false), ("sort", true)])] ∧
      List.Forall₂ Leaf.Yields tree.declared flats := by
  intro page sort users inner shared tree
  have hcomputed : tree.leaves.toOption.map (fun flats => flats.map fun f =>
      (f.name, f.settings.method, f.settings.inputs.map fun i => (i.name, i.mandatory))) =
        some [(.named "admin/users", some .get, [("sort", true), ("page", true)]),
          (.named "admin/save@POST", some .post,
            [("page", false), ("page", false), ("sort", true)])] := by
    decide +kernel
  obtain ⟨flats, hflats, hinputs⟩ := Option.map_eq_some_iff.1 hcomputed
  have hok := Except.eq_ok_of_toOption hflats
  exact ⟨flats, hok, hinputs, flatten_yields hok⟩

end UrlRouter
