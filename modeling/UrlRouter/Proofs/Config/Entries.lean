import UrlRouter.Config.Source
import UrlRouter.Proofs.Except
import UrlRouter.Proofs.Route.Building

/-!
Entries of sources. They can be made exactly if nothing is wrong with any of the tables, however
deep it lies, and their settings are as a builder would have made them.
-/

namespace UrlRouter

variable {φ : Type}

namespace TableSpec

inductive Unreadable (t : TableSpec) : Prop
  | method {text : String} : t.method = some text →
      Method.of? (String.ofList (text.toList.map Char.toUpper)) = none → t.Unreadable
  | input {i : InputSpec} {cause : InputTypeError} : i ∈ t.inputs →
      InputType.read i.type = .error cause → t.Unreadable
  | option {key : String} {value : Json} : t.options.get? key = some value →
      RouteOptions.Refuses key value → t.Unreadable
  | responseCode {code : Nat} : t.responseCode = some code → ¬ (100 ≤ code ∧ code < 1000) →
      t.Unreadable

variable {t : TableSpec}

theorem settings_eq_ok_iff {s : RouteSettings φ} :
    t.settings = .ok s ↔ ∃ method inputs responseCode options,
      t.method.mapM methodOf = .ok method ∧ t.inputs.mapM InputSpec.toInput = .ok inputs ∧
      t.responseCode.mapM statusOf = .ok responseCode ∧
      RouteOptions.ofMap t.options = .ok options ∧
      s = ⟨method, t.handler.map HandlerSpec.toRef, inputs, t.args, [], options, responseCode⟩ := by
  simp only [settings, Except.bind_eq_ok_iff]
  constructor
  · rintro ⟨method, hmethod, inputs, hinputs, responseCode, hcode, h⟩
    split at h
    · cases h
    · next options hoptions =>
      cases h
      exact ⟨method, inputs, responseCode, options, hmethod, hinputs, hcode, hoptions, rfl⟩
  · rintro ⟨method, inputs, responseCode, options, hmethod, hinputs, hcode, hoptions, rfl⟩
    refine ⟨method, hmethod, inputs, hinputs, responseCode, hcode, ?_⟩
    rw [hoptions]
    rfl

theorem exists_methodOf_iff {text : String} :
    (∃ m, methodOf text = .ok m) ↔
      Method.of? (String.ofList (text.toList.map Char.toUpper)) ≠ none := by
  unfold methodOf
  cases Method.of? _ <;> simp

theorem exists_statusOf_iff {code : Nat} :
    (∃ s, statusOf code = .ok s) ↔ 100 ≤ code ∧ code < 1000 := by
  unfold statusOf Status.of?
  by_cases h : 100 ≤ code ∧ code < 1000 <;> simp [h]

theorem exists_toInput_iff {i : InputSpec} :
    (∃ input, i.toInput = .ok input) ↔ ∀ cause, InputType.read i.type ≠ .error cause := by
  unfold InputSpec.toInput
  cases InputType.read i.type <;> simp

theorem exists_ofMap_iff {map : Dict Json} :
    (∃ options, RouteOptions.ofMap map = .ok options) ↔
      ∀ key value, map.get? key = some value → ¬ RouteOptions.Refuses key value := by
  simp only [RouteOptions.ofMap, RouteOptions.foldlM_set_eq_ok_iff, exists_and_left, exists_eq',
    and_true, Prod.forall, Dict.get?_eq_some_iff]

theorem exists_settings_iff : (∃ s : RouteSettings φ, t.settings = .ok s) ↔ ¬ t.Unreadable := by
  have hparts : (∃ s : RouteSettings φ, t.settings = .ok s) ↔
      (∃ method, t.method.mapM methodOf = .ok method) ∧
        (∃ inputs, t.inputs.mapM InputSpec.toInput = .ok inputs) ∧
        (∃ responseCode, t.responseCode.mapM statusOf = .ok responseCode) ∧
        ∃ options, RouteOptions.ofMap t.options = .ok options := by
    constructor
    · rintro ⟨s, h⟩
      obtain ⟨method, inputs, responseCode, options, hmethod, hinputs, hcode, hoptions, _⟩ :=
        settings_eq_ok_iff.1 h
      exact ⟨⟨_, hmethod⟩, ⟨_, hinputs⟩, ⟨_, hcode⟩, ⟨_, hoptions⟩⟩
    · rintro ⟨⟨method, hmethod⟩, ⟨inputs, hinputs⟩, ⟨responseCode, hcode⟩, options, hoptions⟩
      exact ⟨_, settings_eq_ok_iff.2
        ⟨method, inputs, responseCode, options, hmethod, hinputs, hcode, hoptions, rfl⟩⟩
  rw [hparts, Except.exists_option_mapM_iff, Except.exists_mapM_iff,
    Except.exists_option_mapM_iff, exists_ofMap_iff]
  simp only [exists_methodOf_iff, exists_toInput_iff, exists_statusOf_iff]
  constructor
  · rintro ⟨hmethod, hinputs, hcode, hoptions⟩ hbad
    cases hbad with
    | method htext hnone => exact hmethod _ htext hnone
    | input hi hcause => exact hinputs _ hi _ hcause
    | option hvalue hrefused => exact hoptions _ _ hvalue hrefused
    | responseCode hsome hrange => exact hrange (hcode _ hsome)
  · intro h
    exact ⟨fun text htext hnone => h (.method htext hnone),
      fun i hi cause hcause => h (.input hi hcause),
      fun code hcode => Classical.not_not.1 fun hrange => h (.responseCode hcode hrange),
      fun key value hvalue hrefused => h (.option hvalue hrefused)⟩

theorem exists_built_of_settings {s : RouteSettings φ} (h : t.settings = .ok s) :
    ∃ calls, s = .built calls := by
  obtain ⟨method, inputs, responseCode, options, _, _, _, hoptions, rfl⟩ := settings_eq_ok_iff.1 h
  have hmethod (s : RouteSettings φ) :
      s.callAll (method.toList.map .method) = { s with method := method.or s.method } := by
    cases method <;> rfl
  have hhandler (s : RouteSettings φ) (handler : Option (HandlerRef φ)) :
      s.callAll (handler.toList.map .handler) = { s with handler := handler.or s.handler } := by
    cases handler <;> rfl
  have hcode (s : RouteSettings φ) : s.callAll (responseCode.toList.map .responseCode) =
      { s with responseCode := responseCode.or s.responseCode } := by
    cases responseCode <;> rfl
  refine ⟨method.toList.map .method ++ (t.handler.map HandlerSpec.toRef).toList.map .handler ++
    inputs.map .input ++ t.args.entries.map (fun e => .arg e.1 e.2) ++
    t.options.entries.map (fun e => .option e.1 e.2) ++
    responseCode.toList.map .responseCode, ?_⟩
  simp only [RouteSettings.built, RouteSettings.callAll_append, RouteSettings.callAll_inputs,
    RouteSettings.callAll_args, RouteSettings.callAll_options, hmethod, hhandler, hcode]
  obtain ⟨_, rfl⟩ := (RouteOptions.ofMap_eq_ok_iff (.refl _)).1 hoptions
  simp [RouteSettings.empty, Dict.insertMany_entries]

theorem exists_definition_iff : (∃ d : RouteDefinition φ, t.definition = .ok d) ↔
    (∀ code, t.name = some (.status code) → 100 ≤ code ∧ code < 1000) ∧
      (t.name = none → t.pattern ≠ none) := by
  unfold definition
  cases t.name with
  | none => cases t.pattern <;> simp
  | some name =>
    cases name with
    | text name => simp
    | status code =>
      simp only [Except.map_eq_ok_iff, Option.some.injEq, NameSpec.status.injEq, forall_eq',
        reduceCtorEq, false_imp_iff, and_true]
      rw [← exists_statusOf_iff]
      exact ⟨fun ⟨_, s, hs, _⟩ => ⟨s, hs⟩, fun ⟨s, hs⟩ => ⟨_, s, hs, rfl⟩⟩

theorem exists_groupName_iff :
    (∃ name, t.groupName = .ok name) ↔ ∀ code, t.name ≠ some (.status code) := by
  unfold groupName
  cases t.name with
  | none => simp
  | some name => cases name <;> simp

end TableSpec

namespace RouteSpec

inductive Within (spec : RouteSpec) : List RouteSpec → Prop
  | listed {specs : List RouteSpec} : spec ∈ specs → spec.Within specs
  | nested {t : TableSpec} {children specs : List RouteSpec} : .group t children ∈ specs →
      spec.Within children → spec.Within specs

inductive Faulty : RouteSpec → Prop
  | leaf {t : TableSpec} : t.Unreadable → Faulty (.leaf t)
  | group {t : TableSpec} {children : List RouteSpec} : t.Unreadable → Faulty (.group t children)
  | status {t : TableSpec} {code : Nat} : t.name = some (.status code) →
      ¬ (100 ≤ code ∧ code < 1000) → Faulty (.leaf t)
  | nameless {t : TableSpec} : t.name = none → t.pattern = none → Faulty (.leaf t)
  | groupOfStatus {t : TableSpec} {children : List RouteSpec} {code : Nat} :
      t.name = some (.status code) → Faulty (.group t children)

variable {inner spec : RouteSpec} {specs : List RouteSpec} {t : TableSpec}

theorem not_within_nil : ¬ inner.Within [] := by
  rintro (hmem | ⟨hgroup, _⟩)
  · cases hmem
  · cases hgroup

theorem within_cons_iff :
    inner.Within (spec :: specs) ↔ inner.Within [spec] ∨ inner.Within specs := by
  constructor
  · rintro (hmem | ⟨hgroup, hinner⟩)
    · rcases List.mem_cons.1 hmem with rfl | hmem
      · exact .inl (.listed (List.mem_singleton.2 rfl))
      · exact .inr (.listed hmem)
    · rcases List.mem_cons.1 hgroup with rfl | hgroup
      · exact .inl (.nested (List.mem_singleton.2 rfl) hinner)
      · exact .inr (.nested hgroup hinner)
  · rintro ((hmem | ⟨hgroup, hinner⟩) | (hmem | ⟨hgroup, hinner⟩))
    · exact .listed (List.mem_cons.2 (.inl (List.mem_singleton.1 hmem)))
    · exact .nested (List.mem_cons.2 (.inl (List.mem_singleton.1 hgroup))) hinner
    · exact .listed (List.mem_cons_of_mem _ hmem)
    · exact .nested (List.mem_cons_of_mem _ hgroup) hinner

theorem within_line_iff {text : String} : inner.Within [.line text] ↔ inner = .line text := by
  constructor
  · rintro (hmem | ⟨hgroup, _⟩)
    · exact List.mem_singleton.1 hmem
    · cases List.mem_singleton.1 hgroup
  · rintro rfl
    exact .listed (List.mem_singleton.2 rfl)

theorem within_leaf_iff : inner.Within [.leaf t] ↔ inner = .leaf t := by
  constructor
  · rintro (hmem | ⟨hgroup, _⟩)
    · exact List.mem_singleton.1 hmem
    · cases List.mem_singleton.1 hgroup
  · rintro rfl
    exact .listed (List.mem_singleton.2 rfl)

theorem within_group_iff :
    inner.Within [.group t specs] ↔ inner = .group t specs ∨ inner.Within specs := by
  constructor
  · rintro (hmem | ⟨hgroup, hinner⟩)
    · exact .inl (List.mem_singleton.1 hmem)
    · cases List.mem_singleton.1 hgroup
      exact .inr hinner
  · rintro (rfl | hinner)
    · exact .listed (List.mem_singleton.2 rfl)
    · exact .nested (List.mem_singleton.2 rfl) hinner

theorem not_faulty_leaf_iff : ¬ (leaf t).Faulty ↔
    (∃ s : RouteSettings φ, t.settings = .ok s) ∧
      ∃ d : RouteDefinition φ, t.definition = .ok d := by
  rw [TableSpec.exists_settings_iff, TableSpec.exists_definition_iff]
  constructor
  · intro h
    exact ⟨fun hbad => h (.leaf hbad),
      fun code hcode => Classical.not_not.1 fun hrange => h (.status hcode hrange),
      fun hname hpattern => h (.nameless hname hpattern)⟩
  · rintro ⟨hsettings, hstatus, hnamed⟩ (hbad | _ | ⟨hcode, hrange⟩ | ⟨hname, hpattern⟩)
    · exact hsettings hbad
    · exact hrange (hstatus _ hcode)
    · exact hnamed hname hpattern

theorem not_faulty_group_iff : ¬ (group t specs).Faulty ↔
    (∃ s : RouteSettings φ, t.settings = .ok s) ∧ ∃ name, t.groupName = .ok name := by
  rw [TableSpec.exists_settings_iff, TableSpec.exists_groupName_iff]
  constructor
  · intro h
    exact ⟨fun hbad => h (.group hbad), fun code hcode => h (.groupOfStatus hcode)⟩
  · rintro ⟨hsettings, hname⟩ (_ | hbad | _ | _ | hcode)
    · exact hsettings hbad
    · exact hname _ hcode

theorem toEntry_leaf_eq_ok_iff {e : RouteEntry φ} : (leaf t).toEntry = .ok e ↔
    ∃ settings, t.settings = .ok settings ∧ ∃ d : RouteDefinition φ, t.definition = .ok d ∧
      e = .route { d with settings := settings } := by
  simp only [toEntry, Except.bind_eq_ok_iff, Except.pure_eq_ok_iff]

theorem toEntry_group_eq_ok_iff {e : RouteEntry φ} : (group t specs).toEntry = .ok e ↔
    ∃ settings, t.settings = .ok settings ∧ ∃ name, t.groupName = .ok name ∧
      ∃ children, toEntries specs = .ok children ∧
        e = .group name t.pattern settings children := by
  simp only [toEntry, Except.bind_eq_ok_iff, Except.pure_eq_ok_iff]

theorem toEntries_cons_eq_ok_iff {es : List (RouteEntry φ)} :
    toEntries (spec :: specs) = .ok es ↔ ∃ e, spec.toEntry = .ok e ∧
      ∃ rest, toEntries specs = .ok rest ∧ es = e :: rest := by
  simp only [toEntries, Except.bind_eq_ok_iff, Except.pure_eq_ok_iff]

variable (φ)

mutual

theorem exists_toEntry_iff : ∀ spec : RouteSpec,
    (∃ e : RouteEntry φ, spec.toEntry = .ok e) ↔
      ∀ inner : RouteSpec, inner.Within [spec] → ¬ inner.Faulty
  | .line text => by
    have hline : ¬ (line text).Faulty := by rintro ⟨⟩
    simp [toEntry, within_line_iff, hline]
  | .leaf t => by
    simp only [toEntry_leaf_eq_ok_iff, within_leaf_iff, forall_eq, not_faulty_leaf_iff (φ := φ)]
    constructor
    · rintro ⟨_, settings, hsettings, d, hd, _⟩
      exact ⟨⟨settings, hsettings⟩, d, hd⟩
    · rintro ⟨⟨settings, hsettings⟩, d, hd⟩
      exact ⟨_, settings, hsettings, d, hd, rfl⟩
  | .group t children => by
    simp only [toEntry_group_eq_ok_iff, within_group_iff, or_imp, forall_and, forall_eq,
      not_faulty_group_iff (φ := φ), ← exists_toEntries_iff children]
    constructor
    · rintro ⟨_, settings, hsettings, name, hname, es, hes, _⟩
      exact ⟨⟨⟨settings, hsettings⟩, name, hname⟩, es, hes⟩
    · rintro ⟨⟨⟨settings, hsettings⟩, name, hname⟩, es, hes⟩
      exact ⟨_, settings, hsettings, name, hname, es, hes, rfl⟩

theorem exists_toEntries_iff : ∀ specs : List RouteSpec,
    (∃ es : List (RouteEntry φ), toEntries specs = .ok es) ↔
      ∀ inner : RouteSpec, inner.Within specs → ¬ inner.Faulty
  | [] => by simp [toEntries, not_within_nil]
  | spec :: specs => by
    have hsplit : (∀ inner : RouteSpec, inner.Within (spec :: specs) → ¬ inner.Faulty) ↔
        (∀ inner : RouteSpec, inner.Within [spec] → ¬ inner.Faulty) ∧
          ∀ inner : RouteSpec, inner.Within specs → ¬ inner.Faulty := by
      rw [← forall_and]
      exact forall_congr' fun inner => by rw [within_cons_iff, or_imp]
    rw [hsplit, ← exists_toEntry_iff spec, ← exists_toEntries_iff specs]
    simp only [toEntries_cons_eq_ok_iff]
    constructor
    · rintro ⟨_, e, he, rest, hrest, _⟩
      exact ⟨⟨e, he⟩, rest, hrest⟩
    · rintro ⟨⟨e, he⟩, rest, hrest⟩
      exact ⟨_, e, he, rest, hrest, rfl⟩

end

theorem exists_error_toEntries_iff {specs : List RouteSpec} :
    (∃ error, (toEntries specs : Except ConfigError (List (RouteEntry φ))) = .error error) ↔
      ∃ inner : RouteSpec, inner.Within specs ∧ inner.Faulty := by
  have hiff := exists_toEntries_iff φ specs
  cases hes : (toEntries specs : Except ConfigError (List (RouteEntry φ))) with
  | error error => simpa [hes] using hiff
  | ok es => simpa [hes] using hiff

variable {φ}

mutual

theorem built_of_toEntry : ∀ (spec : RouteSpec) {e : RouteEntry φ}, spec.toEntry = .ok e → e.Built
  | .line text, e, h => by
    rw [toEntry] at h
    cases h
    exact .line text
  | .leaf t, e, h => by
    obtain ⟨settings, hsettings, d, _, rfl⟩ := toEntry_leaf_eq_ok_iff.1 h
    obtain ⟨calls, rfl⟩ := TableSpec.exists_built_of_settings hsettings
    exact .route d.name d.pattern calls
  | .group t children, e, h => by
    obtain ⟨settings, hsettings, name, _, es, hes, rfl⟩ := toEntry_group_eq_ok_iff.1 h
    obtain ⟨calls, rfl⟩ := TableSpec.exists_built_of_settings hsettings
    exact .group name t.pattern calls (built_of_toEntries children hes)

theorem built_of_toEntries : ∀ (specs : List RouteSpec) {es : List (RouteEntry φ)},
    toEntries specs = .ok es → ∀ e ∈ es, e.Built
  | [], es, h => by
    rw [toEntries] at h
    cases h
    simp
  | spec :: specs, es, h => by
    obtain ⟨e, he, rest, hrest, rfl⟩ := toEntries_cons_eq_ok_iff.1 h
    rw [List.forall_mem_cons]
    exact ⟨built_of_toEntry spec he, built_of_toEntries specs hrest⟩

end

end RouteSpec

theorem RouteSource.toRouter_eq_ok_iff {s : RouteSource} {r : Router φ} :
    s.toRouter = .ok r ↔ ∃ es, s.entries = .ok es ∧
      (Router.withLocales s.knownLocales).insertAll es = (r, .ok ⟨⟩) := by
  rw [toRouter, Except.bind_eq_ok_iff]
  refine exists_congr fun es => and_congr_right fun _ => ?_
  rcases (Router.withLocales s.knownLocales).insertAll es with ⟨r', error | ⟨⟩⟩
  · exact ⟨nofun, nofun⟩
  · rw [Except.pure_eq_ok_iff, Prod.mk.injEq, eq_comm]
    simp

end UrlRouter
