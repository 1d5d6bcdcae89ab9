import UrlRouter.Proofs.Route.Inheritance
import UrlRouter.Proofs.Route.Options

/-!
Settings of routes and groups as they are built, call by call. A value that its option refuses stays
in the settings through all later calls and through all levels below, so no leaf is flattened that
has one on any of its levels.
-/

namespace UrlRouter

variable {φ : Type}

inductive SettingsCall (φ : Type) where
  | method (m : Method)
  | handler (h : HandlerRef φ)
  | input (i : Input)
  | arg (name : String) (value : Json)
  | condition (c : Condition)
  | option (key : String) (value : Json)
  | cache (ttl : Duration)
  | urlize (on : Bool)
  | responseCode (c : Status)

namespace RouteSettings

def call (s : RouteSettings φ) : SettingsCall φ → RouteSettings φ
  | .method m => s.withMethod m
  | .handler h => s.withHandler h
  | .input i => s.withInput i
  | .arg name value => s.withArg name value
  | .condition c => s.withCondition c
  | .option key value => s.withOption key value
  | .cache ttl => s.withCache ttl
  | .urlize on => s.withUrlize on
  | .responseCode c => s.withResponseCode c

def callAll (s : RouteSettings φ) (calls : List (SettingsCall φ)) : RouteSettings φ :=
  calls.foldl call s

def built (calls : List (SettingsCall φ)) : RouteSettings φ := callAll .empty calls

variable {s : RouteSettings φ}

theorem callAll_append (s : RouteSettings φ) (calls more : List (SettingsCall φ)) :
    s.callAll (calls ++ more) = (s.callAll calls).callAll more :=
  List.foldl_append

theorem callAll_inputs (s : RouteSettings φ) (is : List Input) :
    s.callAll (is.map .input) = { s with inputs := s.inputs ++ is } := by
  induction is generalizing s with
  | nil => simp [callAll]
  | cons i is ih =>
    rw [List.map_cons, callAll, List.foldl_cons, ← callAll, ih]
    simp [call, withInput]

theorem callAll_args (s : RouteSettings φ) (es : List (String × Json)) :
    s.callAll (es.map fun e => .arg e.1 e.2) = { s with args := s.args.insertMany es } := by
  induction es generalizing s with
  | nil => rfl
  | cons e es ih => exact ih (s.withArg e.1 e.2)

theorem callAll_options (s : RouteSettings φ) (es : List (String × Json)) :
    s.callAll (es.map fun e => .option e.1 e.2) =
      { s with options := s.options.withOptions es } := by
  induction es generalizing s with
  | nil => rfl
  | cons e es ih => exact ih (s.withOption e.1 e.2)

theorem keepsRefused_call (h : s.options.KeepsRefused) (c : SettingsCall φ) :
    (s.call c).options.KeepsRefused := by
  cases c with
  | option key value => exact h.withOption key value
  | _ => exact h

theorem keepsRefused_callAll (h : s.options.KeepsRefused) (calls : List (SettingsCall φ)) :
    (s.callAll calls).options.KeepsRefused := by
  induction calls generalizing s with
  | nil => exact h
  | cons c calls ih => exact ih (keepsRefused_call h c)

theorem keepsRefused_built (calls : List (SettingsCall φ)) :
    (built calls).options.KeepsRefused :=
  keepsRefused_callAll .empty calls

theorem isSome_extra_call {key : String} (h : (s.options.extra.get? key).isSome = true)
    (c : SettingsCall φ) : ((s.call c).options.extra.get? key).isSome = true := by
  cases c with
  | option k value => exact RouteOptions.isSome_extra_withOption k value h
  | _ => exact h

theorem isSome_extra_callAll {key : String} (h : (s.options.extra.get? key).isSome = true)
    (calls : List (SettingsCall φ)) :
    ((s.callAll calls).options.extra.get? key).isSome = true := by
  induction calls generalizing s with
  | nil => exact h
  | cons c calls ih => exact ih (isSome_extra_call h c)

theorem isSome_extra_built {calls : List (SettingsCall φ)} {key : String} {value : Json}
    (h : .option key value ∈ calls) (hvalue : RouteOptions.Refuses key value) :
    ((built calls).options.extra.get? key).isSome = true := by
  obtain ⟨before, after, rfl⟩ := List.append_of_mem h
  rw [built, callAll_append]
  refine isSome_extra_callAll ?_ after
  change ((RouteOptions.withOption _ key value).extra.get? key).isSome = true
  rw [RouteOptions.extra_withOption_of_refuses hvalue]
  rfl

theorem keepsRefused_merged {levels : List (RouteSettings φ)}
    (h : ∀ s ∈ levels, s.options.KeepsRefused) : (merged levels).options.KeepsRefused := by
  intro key value hkey hvalue
  rw [(gathers_merged levels).extra, deepest] at hvalue
  obtain ⟨s, hs, hfound⟩ := List.exists_of_findSome?_eq_some hvalue
  exact h s (List.mem_reverse.1 hs) key value hkey hfound

theorem isSome_extra_merged {levels : List (RouteSettings φ)} {key : String} (hs : s ∈ levels)
    (h : (s.options.extra.get? key).isSome = true) :
    ((merged levels).options.extra.get? key).isSome = true := by
  rw [(gathers_merged levels).extra, deepest, List.findSome?_isSome_iff]
  exact ⟨s, List.mem_reverse.2 hs, h⟩

end RouteSettings

namespace Leaf

variable {leaf : Leaf φ} {flat : FlatRoute φ}

theorem settings_of_flatten (h : leaf.flatten = .ok flat) :
    flat.settings = .merged leaf.levels ∧ flat.settings.options.Valid := by
  obtain ⟨_, _, hsettings, _⟩ := RouteDefinition.flatten_eq_ok h
  refine ⟨?_, RouteOptions.validate_eq_ok_iff.1 (RouteDefinition.validate_of_flatten h)⟩
  rw [hsettings, settingsOf, ← RouteSettings.merged_concat]
  rfl

def BuiltBy (leaf : Leaf φ) (levels : List (List (SettingsCall φ))) : Prop :=
  leaf.levels = levels.map .built

theorem BuiltBy.keepsRefused {levels : List (List (SettingsCall φ))} (h : leaf.BuiltBy levels) :
    (RouteSettings.merged leaf.levels).options.KeepsRefused := by
  rw [h]
  refine RouteSettings.keepsRefused_merged fun s hs => ?_
  obtain ⟨calls, _, rfl⟩ := List.mem_map.1 hs
  exact RouteSettings.keepsRefused_built calls

def Misset (leaf : Leaf φ) (levels : List (List (SettingsCall φ))) : Prop :=
  (∃ calls ∈ levels, ∃ key value, .option key value ∈ calls ∧ RouteOptions.Refuses key value) ∨
    ∃ ttl, deepest (·.options.cache) leaf.levels = some ttl ∧
      RouteOptions.maxCache.nanos < ttl.nanos

theorem BuiltBy.flatten_ne_ok {levels : List (List (SettingsCall φ))} (h : leaf.BuiltBy levels)
    (hbad : leaf.Misset levels) : leaf.flatten ≠ .ok flat := by
  intro hflat
  obtain ⟨hsettings, hvalid⟩ := settings_of_flatten hflat
  rw [hsettings] at hvalid
  rcases hbad with ⟨calls, hcalls, key, value, hcall, hrefused⟩ | ⟨ttl, httl, hlong⟩
  · have hlevel : RouteSettings.built calls ∈ leaf.levels := by
      rw [h]
      exact List.mem_map_of_mem hcalls
    have hsome := RouteSettings.isSome_extra_merged hlevel
      (RouteSettings.isSome_extra_built hcall hrefused)
    obtain ⟨kept, hkept⟩ := Option.isSome_iff_exists.1 hsome
    refine hvalid.extra key kept hkept (h.keepsRefused key kept ?_ hkept)
    exact hrefused.imp And.left And.left
  · rw [← (RouteSettings.gathers_merged leaf.levels).cache] at httl
    exact Nat.not_le.2 hlong (hvalid.cache ttl httl)

end Leaf

inductive RouteEntry.Built : RouteEntry φ → Prop
  | route (name : Option RouteName) (pattern : String) (calls : List (SettingsCall φ)) :
      RouteEntry.Built (.route ⟨name, pattern, .built calls⟩)
  | line (text : String) : RouteEntry.Built (.line text)
  | group (name fragment : Option String) (calls : List (SettingsCall φ))
      {children : List (RouteEntry φ)} : (∀ e ∈ children, e.Built) →
      RouteEntry.Built (.group name fragment (.built calls) children)

theorem RouteDefinition.exists_built_of_ofLine {text : String} {d : RouteDefinition φ}
    (h : ofLine text = .ok d) : ∃ calls, d.settings = .built calls := by
  obtain ⟨_, _, method, handler, hsettings⟩ := ofLine_eq_ok h
  rw [hsettings]
  cases method with
  | none => exact ⟨[.handler handler], rfl⟩
  | some m => exact ⟨[.method m, .handler handler], rfl⟩

theorem mem_leavesBelowOfAll {groups : List (Enclosure φ)} {es : List (RouteEntry φ)}
    {leaf : Leaf φ} :
    leaf ∈ leavesBelowOfAll groups es ↔ ∃ e ∈ es, leaf ∈ e.leavesBelow groups := by
  induction es with
  | nil => simp [leavesBelowOfAll]
  | cons e es ih => simp [leavesBelowOfAll, ih]

theorem Leaf.exists_builtBy {groups : List (Enclosure φ)} {d : RouteDefinition φ}
    (hgroups : ∀ g ∈ groups, ∃ calls, g.settings = .built calls)
    (hd : ∃ calls, d.settings = .built calls) : ∃ levels, Leaf.BuiltBy ⟨groups, d⟩ levels := by
  obtain ⟨own, hown⟩ := hd
  choose! callsOf hcallsOf using hgroups
  refine ⟨groups.map callsOf ++ [own], ?_⟩
  rw [BuiltBy, levels, List.map_append, List.map_map, List.map_singleton, hown]
  rw [List.map_congr_left hcallsOf]
  rfl

theorem RouteEntry.Built.exists_builtBy {e : RouteEntry φ} (h : e.Built)
    {groups : List (Enclosure φ)} (hgroups : ∀ g ∈ groups, ∃ calls, g.settings = .built calls)
    {leaf : Leaf φ} (hleaf : leaf ∈ e.leavesBelow groups) : ∃ levels, leaf.BuiltBy levels := by
  induction h generalizing groups with
  | route name pattern calls =>
    rw [leavesBelow, List.mem_singleton] at hleaf
    rw [hleaf]
    exact Leaf.exists_builtBy hgroups ⟨calls, rfl⟩
  | line text =>
    rw [leavesBelow] at hleaf
    cases hd : RouteDefinition.ofLine (φ := φ) text with
    | error error => simp [hd] at hleaf
    | ok d =>
      rw [hd, List.mem_singleton] at hleaf
      rw [hleaf]
      exact Leaf.exists_builtBy hgroups (RouteDefinition.exists_built_of_ofLine hd)
  | group name fragment calls _ ih =>
    rw [leavesBelow, mem_leavesBelowOfAll] at hleaf
    obtain ⟨e, he, hleaf⟩ := hleaf
    refine ih e he ?_ hleaf
    rw [List.forall_mem_append, List.forall_mem_singleton]
    exact ⟨hgroups, calls, rfl⟩

end UrlRouter
