import UrlRouter.Proofs.Json.Reading
import UrlRouter.Proofs.Pattern.Splitting
import UrlRouter.Proofs.Registration.Table
import UrlRouter.Proofs.Route.Captures
import UrlRouter.Proofs.Router.Query

/-!
What comes out of a request for an address. It is refused for an unknown name or for a value that is
missing, never for the pattern of a registered route; otherwise there is an address.
-/

namespace UrlRouter

theorem Json.valueText?_eq_empty_iff {v : Json} : v.valueText? = some "" ↔ v = .str "" := by
  have hrender : v.text ≠ "" := by
    intro h
    have hlength := length_render_pos v
    rw [← String.toList_ofList (l := v.render), ← text, h] at hlength
    exact absurd hlength (by decide)
  cases v <;> simp [valueText?, hrender]

inductive Unusable (data : Args) (urlize : Bool) (name : String) : Prop where
  | absent (h : Absent data name)
  | empty (h : data.get? name = some (.str ""))
  | slug {v : Json} {text : String} (hurlize : urlize = true) (hv : data.get? name = some v)
      (htext : v.valueText? = some text) (hslug : UrlRouter.urlize text = "")

theorem PathData.segment?_eq_none_iff {d : PathData} {name : String} :
    d.segment? name = none ↔ Unusable d.values d.urlize name := by
  constructor
  · intro h
    cases hv : d.values.get? name with
    | none => exact .absent (.inl hv)
    | some v =>
      cases htext : v.valueText? with
      | none => exact .absent (.inr (by rw [hv, Json.valueText?_eq_none_iff.1 htext]))
      | some text =>
        have hempty : (if d.urlize = true then UrlRouter.urlize text else text) = "" := by
          simpa [segment?, text?, hv, htext] using h
        cases hurlize : d.urlize with
        | true => exact .slug rfl hv htext (by simpa [hurlize] using hempty)
        | false =>
          obtain rfl : text = "" := by simpa [hurlize] using hempty
          exact .empty (by rw [hv, Json.valueText?_eq_empty_iff.1 htext])
  · rintro (h | h | ⟨hurlize, hv, htext, hslug⟩)
    · simp [segment?, text?, absent_iff.1 h]
    · have hslug : UrlRouter.urlize "" = "" := rfl
      simp [segment?, text?, h, Json.valueText?, hslug]
    · simp [segment?, text?, hv, htext, hurlize, hslug]

def Token.Lacks (t : Token) (data : Args) (urlize : Bool) : Prop :=
  match t.kind with
  | .capture | .silent => ∃ name, t.nameString = some name ∧ Unusable data urlize name
  | .translated => 1 < t.keys.length ∧ ∀ name, t.nameString = some name → Absent data name
  | .optional | .locale => False

section

variable {d : PathData} {t : Token} {ps : List Piece} {out : List Char}

theorem Token.exists_text_iff (hnamed : t.Named) :
    (∃ u, t.text d = .ok u) ↔ ¬ t.Lacks d.values d.urlize := by
  have hvalue (hneeds : t.kind.needsName = true) :
      (∃ name, t.nameString = some name ∧ Unusable d.values d.urlize name) ↔
        d.segment? (t.nameString.getD "") = none := by
    obtain ⟨name, hname⟩ := hnamed.exists_nameString hneeds
    simp [hname, PathData.segment?_eq_none_iff]
  have hword : (∀ name, t.nameString = some name → Absent d.values name) ↔
      t.nameString.bind d.text? = none := by
    cases t.nameString with
    | none => simp
    | some name => simp [absent_iff, PathData.text?]
  unfold Lacks text
  cases hkind : t.kind with
  | capture | silent =>
    dsimp only
    rw [hvalue (by rw [hkind]; rfl)]
    cases d.segment? (t.nameString.getD "") <;> simp
  | optional =>
    dsimp only
    cases d.segment? (t.nameString.getD "") <;> simp
  | locale => simp
  | translated =>
    dsimp only
    rw [hword]
    rcases hkeys : t.keys with _ | ⟨key, _ | ⟨next, keys⟩⟩
    · exact absurd hkeys t.keys_ne_nil
    · simp
    · cases t.nameString.bind d.text? <;> simp

theorem Token.error_of_text {e : PatternError} (h : t.text d = .error e) :
    ∃ name, e = .missingValue name := by
  unfold text at h
  cases hkind : t.kind with
  | capture | silent =>
    rw [hkind] at h
    dsimp only at h
    split at h
    · cases h
    · cases h
      exact ⟨_, rfl⟩
  | optional =>
    rw [hkind] at h
    dsimp only at h
    split at h <;> cases h
  | locale =>
    rw [hkind] at h
    cases h
  | translated =>
    rw [hkind] at h
    dsimp only at h
    split at h
    · cases h
    split at h
    · cases h
    · cases h
      exact ⟨_, rfl⟩

theorem error_of_texts {e : PatternError} (h : texts d ps = .error e) :
    ∃ name, e = .missingValue name := by
  obtain ⟨p, _, hp⟩ := Except.exists_error_of_mapM (Except.map_eq_error_iff.1 h)
  cases p with
  | literal text => cases hp
  | token t => exact t.error_of_text hp

theorem exists_texts_iff_not_lacks (hnamed : ∀ t, .token t ∈ ps → t.Named) :
    (∃ out, texts d ps = .ok out) ↔ ∀ t, .token t ∈ ps → ¬ t.Lacks d.values d.urlize := by
  rw [exists_texts_iff]
  constructor
  · intro h t ht
    exact (t.exists_text_iff (hnamed t ht)).1 (h _ ht)
  · intro h p hp
    cases p with
    | literal text => exact ⟨text, rfl⟩
    | token t => exact (t.exists_text_iff (hnamed t hp)).2 (h t hp)

theorem head?_texts {cs : List Char} (hsplit : split cs = .ok ps) (hroot : cs.head? = some '/')
    (h : texts d ps = .ok out) : out.head? = some '/' := by
  rw [← render_of_split hsplit] at hroot
  cases ps with
  | nil => cases hroot
  | cons p ps =>
    obtain ⟨u, v, hu, _, rfl⟩ := Except.flatten_mapM_cons_eq_ok_iff.1 h
    cases p with
    | token t => cases hroot
    | literal text =>
      obtain ⟨⟨hne, _⟩, _⟩ := chained_cons_iff.1 (shaped_of_split hsplit)
      cases hu
      rw [List.flatMap_cons, Piece.render, List.head?_append_of_ne_nil _ hne] at hroot
      rw [List.head?_append_of_ne_nil _ hne]
      exact hroot

end

variable {φ : Type}

namespace Route

variable {route : Route φ} {data : Args}

structure Owes (route : Route φ) (data : Args) (i : Input) : Prop where
  mandatory : i.mandatory = true
  method : ∀ m ∈ route.settings.method, m.submitsBody = false
  unused : i.name ∉ route.compiled.names
  absent : Absent data i.name

def Lacks (route : Route φ) (data : Args) : Prop :=
  (∃ ps t, split route.pattern.toList = .ok ps ∧ .token t ∈ ps ∧ t.Lacks data route.urlize) ∨
    ∃ i ∈ route.settings.inputs, route.Owes data i

theorem needsQuery_iff :
    route.needsQuery = true ↔ ∀ m ∈ route.settings.method, m.submitsBody = false := by
  rw [needsQuery]
  cases route.settings.method <;> simp

theorem exists_queryPairs_iff {inputs : List Input} :
    (∃ pairs, route.queryPairs data inputs = .ok pairs) ↔ ∀ i ∈ inputs, ¬ route.Owes data i := by
  induction inputs with
  | nil => simp [queryPairs]
  | cons i inputs ih =>
    rw [queryPairs, List.forall_mem_cons, ← ih]
    by_cases hused : i.name ∈ route.compiled.names
    · have hnot : ¬ route.Owes data i := fun h => h.unused hused
      simp [hused, hnot]
    rw [if_neg hused]
    cases hvalue : (data.get? i.name).bind Json.valueText? with
    | some text =>
      have hnot : ¬ route.Owes data i := by
        intro h
        rw [absent_iff.1 h.absent] at hvalue
        cases hvalue
      simp [hnot, Except.map_eq_ok_iff]
    | none =>
      have howes : route.Owes data i ↔ (i.mandatory && route.needsQuery) = true := by
        rw [Bool.and_eq_true, needsQuery_iff]
        constructor
        · intro h
          exact ⟨h.mandatory, h.method⟩
        · rintro ⟨hmandatory, hmethod⟩
          exact ⟨hmandatory, hmethod, hused, absent_iff.2 hvalue⟩
      rw [howes]
      by_cases hneeds : (i.mandatory && route.needsQuery) = true
      · simp [hneeds]
      · simp [hneeds]

theorem queryPairs_eq_nil_iff {pairs : List (String × String)}
    (h : route.queryPairs data route.settings.inputs = .ok pairs) :
    pairs = [] ↔ ∀ n v, ¬ route.Queries data n v := by
  rw [route.queryPairs_eq h, List.filterMap_eq_nil_iff]
  constructor
  · rintro hnone n v ⟨⟨i, hi, rfl⟩, hunused, hgiven, hpresent⟩
    have hi := hnone i hi
    rw [Option.map_eq_none_iff, queried?, if_neg hunused, hgiven] at hi
    exact hpresent (Json.valueText?_eq_none_iff.1 hi)
  · intro hnone i hi
    rw [Option.map_eq_none_iff, queried?]
    split
    · rfl
    next hunused =>
    cases hgiven : data.get? i.name with
    | none => rfl
    | some v =>
      by_contra hv
      refine hnone i.name v ⟨⟨i, hi, rfl⟩, hunused, hgiven, ?_⟩
      rintro rfl
      exact hv rfl

end Route

namespace Router

variable {r : Router φ} {name locale : String} {data : Args} {route : Route φ}

theorem exists_urlFor_iff (hroute : r.route? name = some route) :
    (∃ link, r.urlFor name data locale = .ok link) ↔
      (∃ path, generatePath ⟨r.locales.translations, data, locale, route.urlize⟩ route.pattern =
        .ok path) ∧ ∃ pairs, route.queryPairs data route.settings.inputs = .ok pairs := by
  constructor
  · rintro ⟨link, hlink⟩
    obtain ⟨pairs, hpairs, _⟩ := exists_queryPairs_of_urlFor hroute hlink
    exact ⟨⟨_, generatePath_of_urlFor hroute hlink⟩, pairs, hpairs⟩
  · rintro ⟨⟨path, hpath⟩, pairs, hpairs⟩
    rw [urlFor, hroute]
    dsimp only
    rw [hpath, hpairs]
    cases pairs <;> exact ⟨_, rfl⟩

theorem error_of_urlFor (hroute : r.route? name = some route)
    (hcompiled : route.CompiledFor r.locales) {error : RouterError}
    (h : r.urlFor name data locale = .error error) : ∃ n, error = .missingValue name n := by
  obtain ⟨ps, hsplit⟩ := hcompiled.exists_split
  rw [urlFor, hroute] at h
  dsimp only at h
  split at h
  · cases h
    exact ⟨_, rfl⟩
  · next cause hnot hpath =>
    rw [generatePath_eq hsplit, Except.map_eq_error_iff] at hpath
    obtain ⟨n, rfl⟩ := error_of_texts hpath
    exact absurd rfl (hnot n)
  split at h
  · cases h
    exact ⟨_, rfl⟩
  · cases h
  · cases h

theorem exists_urlFor_iff_not_lacks (hroute : r.route? name = some route)
    (hcompiled : route.CompiledFor r.locales) :
    (∃ link, r.urlFor name data locale = .ok link) ↔ ¬ route.Lacks data := by
  obtain ⟨ps, hsplit⟩ := hcompiled.exists_split
  have hpath (d : PathData) : (∃ path, generatePath d route.pattern = .ok path) ↔
      ∃ out, texts d ps = .ok out := by
    simp [generatePath_eq hsplit, Except.map_eq_ok_iff]
  rw [exists_urlFor_iff hroute, hpath, exists_texts_iff_not_lacks (named_of_split hsplit),
    Route.exists_queryPairs_iff, Route.Lacks, not_or]
  simp [hsplit]

theorem exists_missingValue_iff (hroute : r.route? name = some route)
    (hcompiled : route.CompiledFor r.locales) :
    (∃ n, r.urlFor name data locale = .error (.missingValue name n)) ↔ route.Lacks data := by
  have hok : (∃ link, r.urlFor name data locale = .ok link) ↔ ¬ route.Lacks data :=
    exists_urlFor_iff_not_lacks hroute hcompiled
  constructor
  · rintro ⟨n, hn⟩
    by_contra hlacks
    obtain ⟨link, hlink⟩ := hok.2 hlacks
    cases hn.symm.trans hlink
  · intro hlacks
    cases h : r.urlFor name data locale with
    | ok link => exact absurd hlacks (hok.1 ⟨link, h⟩)
    | error error =>
      obtain ⟨n, rfl⟩ := error_of_urlFor hroute hcompiled h
      exact ⟨n, rfl⟩

theorem path_query_of_urlFor (hroute : r.route? name = some route)
    (hcompiled : route.CompiledFor r.locales) (hrooted : Rooted route.pattern) {link : Link}
    (h : r.urlFor name data locale = .ok link) :
    link.path.toList.head? = some '/' ∧
      (link.query = none ↔ ∀ n v, ¬ route.Queries data n v) := by
  obtain ⟨ps, hsplit⟩ := hcompiled.exists_split
  have htexts := (generatePath_eq_ok_iff hsplit).1 (generatePath_of_urlFor hroute h)
  obtain ⟨pairs, hpairs, hlink⟩ := exists_queryPairs_of_urlFor hroute h
  refine ⟨head?_texts hsplit hrooted htexts, ?_⟩
  rw [hlink, ← Route.queryPairs_eq_nil_iff hpairs]
  simp [Link.ofPairs]

theorem urlFor_outcome (hr : r.Reachable) (name : String) (data : Args) (locale : String) :
    (r.urlFor name data locale = .error (.unknownRoute name) ↔
      ∀ route ∈ r.routes, route.name ≠ .named name) ∧
    (∀ route ∈ r.routes, route.name = .named name →
      ((∃ n, r.urlFor name data locale = .error (.missingValue name n)) ↔ route.Lacks data) ∧
      (¬ route.Lacks data → ∃ link, r.urlFor name data locale = .ok link ∧
        link.path.toList.head? = some '/' ∧
        (link.query = none ↔ ∀ n v, ¬ route.Queries data n v))) ∧
    ∀ error, r.urlFor name data locale = .error error →
      error = .unknownRoute name ∨ ∃ n, error = .missingValue name n := by
  have htabled := hr.tabled
  have hcompiled : ∀ route, r.route? name = some route →
      route.CompiledFor r.locales ∧ Rooted route.pattern := by
    intro route hroute
    have hmem := (htabled.route?_eq_some_iff.1 hroute).1
    exact hr.filed.prepared route (by simp [stored, hmem])
  have hnone (h : r.route? name = none) :
      r.urlFor name data locale = .error (.unknownRoute name) := by rw [urlFor, h]
  refine ⟨⟨?_, ?_⟩, ?_, ?_⟩
  · intro h route hmem hname
    have hroute := htabled.route?_eq hmem hname
    obtain ⟨n, hn⟩ := error_of_urlFor hroute (hcompiled route hroute).1 h
    cases hn
  · intro h
    refine hnone (Option.eq_none_iff_forall_ne_some.2 fun route hroute => ?_)
    obtain ⟨hmem, hname⟩ := htabled.route?_eq_some_iff.1 hroute
    exact h route hmem hname
  · intro route hmem hname
    have hroute := htabled.route?_eq hmem hname
    obtain ⟨hfor, hrooted⟩ := hcompiled route hroute
    refine ⟨exists_missingValue_iff hroute hfor, fun hlacks => ?_⟩
    obtain ⟨link, hlink⟩ := (exists_urlFor_iff_not_lacks hroute hfor).2 hlacks
    exact ⟨link, hlink, path_query_of_urlFor hroute hfor hrooted hlink⟩
  · intro error h
    cases hroute : r.route? name with
    | none =>
      cases (hnone hroute).symm.trans h
      exact .inl rfl
    | some route => exact .inr (error_of_urlFor hroute (hcompiled route hroute).1 h)

theorem urlFor_outcome_slugless :
    ∃ (r : Router Unit) (route : Route Unit), r.Reachable ∧ route ∈ r.routes ∧
      route.name = .named "user" ∧ route.pattern = "/user/\x7b\x7bC:<id>\x7d\x7d" ∧
      let data : Args := .ofList [("id", .str "?!")]
      route.Lacks data ∧ (∃ n, r.urlFor "user" data "en" = .error (.missingValue "user" n)) ∧
        r.urlFor "users" data "en" = .error (.unknownRoute "users") := by
  obtain ⟨r, route, hr, _, hroutes, hname, hpattern, hurlize, _, _⟩ :=
    exists_reachable_single .empty "user" "/user/\x7b\x7bC:<id>\x7d\x7d" (by decide +kernel)
  have hmem : route ∈ r.routes := by simp [hroutes]
  refine ⟨r, route, hr, hmem, hname, hpattern, ?_⟩
  intro data
  have hsplit : split route.pattern.toList = .ok [.literal "/user/".toList,
      .token ⟨.capture, [], some ['i', 'd'], []⟩] := by
    rw [hpattern]
    exact Except.eq_ok_of_toOption (by decide +kernel)
  have hslug : Unusable data route.urlize "id" := .slug hurlize rfl rfl (by decide +kernel)
  have hlacks : route.Lacks data :=
    .inl ⟨_, _, hsplit, List.mem_cons_of_mem _ (List.mem_singleton_self _), "id", rfl, hslug⟩
  obtain ⟨_, hregistered, _⟩ := urlFor_outcome hr "user" data "en"
  obtain ⟨hunknown, _⟩ := urlFor_outcome hr "users" data "en"
  refine ⟨hlacks, (hregistered route hmem hname).1.2 hlacks, hunknown.2 ?_⟩
  simp [hroutes, hname]

end Router

end UrlRouter
