import UrlRouter.Proofs.Registration.Reachable
import UrlRouter.Proofs.Route.Fragments
import UrlRouter.Proofs.Route.Names

/-!
Names of leaves that are declared without one. They are joined from the names of groups, and where
these lead to the same path as the fragments do, they follow the pattern of the leaf.
-/

namespace UrlRouter

open Text

variable {cs u v w : List Char}

def closed (path : List Char) : List Char := path ++ separator path

theorem trimSlashes_closed (path : List Char) : trimSlashes (closed path) = trimSlashes path :=
  trimSlashes_append_slashes fun _ => eq_of_mem_separator

theorem joinFragment_eq_closed {fragment : String} (h : trimSlashes fragment.toList ≠ [])
    (path : List Char) :
    joinFragment path fragment = closed path ++ leadingTrimmed fragment.toList := by
  rw [joinFragment_of_trimmed_ne_nil fun hnil => h (leadingTrimmed_eq_nil_iff.1 hnil), closed,
    List.append_assoc]

theorem joinFragment_eq_self {fragment : String} (h : trimSlashes fragment.toList = [])
    (path : List Char) : joinFragment path fragment = path :=
  joinFragment_of_trimmed_eq_nil (leadingTrimmed_eq_nil_iff.2 h) path

def namePath (names : List String) : List Char := '/' :: (joinNames names).toList

theorem trimSlashes_namePath (names : List String) :
    trimSlashes (namePath names) = (joinNames names).toList := by
  have htrim := (trimmed_joinNames names).trimSlashes_append (u := ['/']) (v := []) (by simp)
    (by simp)
  rwa [List.append_nil] at htrim

theorem namePath_concat_of_trimmed_ne_nil {name : String} (h : trimSlashes name.toList ≠ [])
    (names : List String) :
    namePath (names ++ [name]) = closed (namePath names) ++ trimSlashes name.toList := by
  have hpart : nameParts [name] = [trimSlashes name.toList] := by simp [nameParts, h]
  rw [closed, namePath, namePath, toList_joinNames, nameParts_append, hpart]
  by_cases hnames : nameParts names = []
  · have hempty : joinNames names = "" := by
      rw [← String.toList_inj, toList_joinNames, hnames]
      rfl
    rw [hnames, hempty, List.nil_append, List.intercalate_singleton]
    rfl
  · obtain ⟨hne, htrimmed⟩ := trimmed_intercalate hnames fun _ => trimmed_of_mem_nameParts
    rw [← toList_joinNames] at hne htrimmed
    have hseparator : separator ('/' :: (joinNames names).toList) = ['/'] := by
      rw [separator, ← List.singleton_append, List.getLast?_append_of_ne_nil _ hne,
        if_neg htrimmed.last]
    rw [intercalate_append hnames (by simp), ← toList_joinNames, hseparator,
      List.intercalate_singleton]
    simp

def Scope.Aligned (s : Scope) : Prop :=
  closed (joinFragments s.fragments).toList = closed (namePath s.names)

theorem Scope.Aligned.trimSlashes_joinFragments {s : Scope} (h : s.Aligned) (pattern : String) :
    trimSlashes (joinFragments (s.fragments ++ [pattern])).toList =
      (joinNames (s.names ++ [pattern])).toList := by
  rw [toList_joinFragments_concat]
  by_cases hpattern : trimSlashes pattern.toList = []
  · rw [joinFragment_eq_self hpattern, joinNames_concat_of_trimmed_eq_nil hpattern,
      ← trimSlashes_closed, h, trimSlashes_closed, trimSlashes_namePath]
  · obtain ⟨v, hlead, hv⟩ := exists_leadingTrimmed_eq pattern.toList
    rw [joinFragment_eq_closed hpattern, h, hlead, ← List.append_assoc,
      ← namePath_concat_of_trimmed_ne_nil hpattern, trimSlashes_append_slashes hv,
      trimSlashes_namePath]

theorem closed_append (path : List Char) (hne : w ≠ []) (hw : Trimmed w) :
    closed (path ++ w) = path ++ w ++ ['/'] ∧
      closed (path ++ (w ++ ['/'])) = path ++ w ++ ['/'] := by
  constructor
  · rw [closed, separator, List.getLast?_append_of_ne_nil _ hne, if_neg hw.last]
  · rw [closed, separator, ← List.append_assoc, List.getLast?_concat, if_pos rfl, List.append_nil]

theorem Scope.Aligned.concat {s : Scope} (h : s.Aligned) {name : String}
    (hname : ¬ ['/', '/'] <:+ name.toList) :
    (Scope.mk (s.names ++ [name]) (s.fragments ++ [name])).Aligned := by
  rw [Aligned, toList_joinFragments_concat]
  by_cases hnil : trimSlashes name.toList = []
  · rw [joinFragment_eq_self hnil, namePath, joinNames_concat_of_trimmed_eq_nil hnil]
    exact h
  obtain ⟨v, hlead, hv⟩ := exists_leadingTrimmed_eq name.toList
  obtain ⟨hopen, hclosed⟩ := closed_append (closed (namePath s.names)) hnil
    (trimmed_trimSlashes name.toList)
  rw [joinFragment_eq_closed hnil, h, hlead, namePath_concat_of_trimmed_ne_nil hnil, hopen]
  match v, hv with
  | [], _ => rw [List.append_nil, hopen]
  | [c], hv =>
    obtain rfl : c = '/' := hv c (by simp)
    exact hclosed
  | c :: d :: rest, hv =>
    -- Two slashes at the end of what the path is joined with are those of the name.
    have hslashes : c :: d :: rest = List.replicate rest.length '/' ++ ['/', '/'] := by
      rw [List.eq_replicate_of_mem hv]
      exact (List.replicate_append_replicate (m := 2)).symm
    refine absurd ?_ hname
    refine List.IsSuffix.trans ⟨_, hslashes.symm⟩ (List.IsSuffix.trans ⟨_, hlead.symm⟩ ?_)
    exact List.dropWhile_suffix _

variable {φ : Type}

def Enclosure.MatchesName (g : Enclosure φ) : Prop :=
  g.fragment.or g.name = g.name ∧ ∀ name ∈ g.name, ¬ ['/', '/'] <:+ name.toList

theorem aligned_scopeOf {groups : List (Enclosure φ)} (h : ∀ g ∈ groups, g.MatchesName) :
    (scopeOf groups).Aligned := by
  induction groups using List.reverseRecOn with
  | nil =>
    have hroot : closed (joinFragments []).toList = closed (namePath []) := rfl
    exact hroot
  | append_singleton groups g ih =>
    rw [List.forall_mem_append] at h
    obtain ⟨hgroups, hg⟩ := h
    obtain ⟨hfragment, hname⟩ := hg g (by simp)
    rw [scopeOf_concat, Scope.enter, hfragment]
    cases hsome : g.name with
    | none => simpa using ih hgroups
    | some name => exact (ih hgroups).concat (hname name hsome)

def methodSuffix : Option Method → String
  | some m => "@" ++ m.name
  | none => ""

namespace Leaf

variable {leaf : Leaf φ}

def path (leaf : Leaf φ) : String :=
  joinFragments (leaf.scope.fragments ++ [leaf.definition.pattern])

def stripped (leaf : Leaf φ) : List Char := trimSlashes leaf.path.toList

def base (leaf : Leaf φ) : String :=
  if leaf.stripped = [] then "/" else String.ofList leaf.stripped

structure Follows (leaf : Leaf φ) : Prop where
  unnamed : leaf.definition.name = none
  aligned : leaf.scope.Aligned

theorem Follows.fullName_eq (h : leaf.Follows) :
    leaf.definition.fullName leaf.scope =
      .named (leaf.base ++ methodSuffix leaf.definition.settings.method) := by
  have hjoined : joinNames (leaf.scope.names ++ [leaf.definition.pattern]) =
      String.ofList leaf.stripped := by
    rw [← String.toList_inj, ← h.aligned.trimSlashes_joinFragments, String.toList_ofList]
    rfl
  have hempty : String.ofList leaf.stripped = "" ↔ leaf.stripped = [] := by
    rw [← String.toList_inj, String.toList_ofList]
    rfl
  rw [RouteDefinition.fullName, h.unnamed]
  simp only [derivedName, hjoined, hempty]
  rw [base]
  cases leaf.definition.settings.method <;> rfl

theorem base_eq_iff {a b : Leaf φ} : a.base = b.base ↔ a.stripped = b.stripped := by
  have hslash (leaf : Leaf φ) : "/" ≠ String.ofList leaf.stripped := by
    intro h
    have htrimmed : Trimmed leaf.stripped := trimmed_trimSlashes _
    rw [← String.toList_inj, String.toList_ofList, String.toList_ofList] at h
    exact htrimmed.head (by rw [← h]; rfl)
  unfold base
  by_cases ha : a.stripped = []
  · by_cases hb : b.stripped = []
    · simp [ha, hb]
    · simp [ha, hb, hslash b]
  · by_cases hb : b.stripped = []
    · simp [ha, hb, (hslash a).symm]
    · simp [ha, hb, String.ofList_inj]

end Leaf

theorem Method.not_mem_name {m : Method} (h : Method.of? m.name = some m) :
    '@' ∉ m.name.toList := by
  intro hmem
  unfold of? at h
  split at h
  · next hname => exact absurd (List.all_eq_true.1 hname.2 _ hmem) (by decide)
  · cases h

theorem append_at_inj {n : List Char} (hv : '@' ∉ v) (hn : '@' ∉ n)
    (h : u ++ '@' :: v = w ++ '@' :: n) : u = w ∧ v = n := by
  have hcut {x y : List Char} (hy : '@' ∉ y) :
      cut ['@'] (x ++ '@' :: y).reverse = some (y.reverse, x.reverse) := by
    rw [cut_singleton_eq_some_iff]
    exact ⟨by simp, by simpa using hy⟩
  have hboth := (hcut hv).symm.trans ((congrArg (cut ['@'] ·.reverse) h).trans (hcut hn))
  simp only [Option.some.injEq, Prod.mk.injEq, List.reverse_inj] at hboth
  exact ⟨hboth.2, hboth.1⟩

theorem append_methodSuffix_eq_iff {x y : String} {m n : Option Method}
    (hm : ∀ method ∈ m, Method.of? method.name = some method)
    (hn : ∀ method ∈ n, Method.of? method.name = some method) :
    x ++ methodSuffix m = y ++ methodSuffix n ↔ (x = y ∧ m = n) ∨
      (m.isSome = true ∧ n = none ∧ y = x ++ methodSuffix m) ∨
      (m = none ∧ n.isSome = true ∧ x = y ++ methodSuffix n) := by
  cases m with
  | none =>
    cases n with
    | none => simp [methodSuffix]
    | some n => simp [methodSuffix]
  | some m =>
    cases n with
    | none => simp [methodSuffix, eq_comm]
    | some n =>
      have hname : m = n ↔ m.name.toList = n.name.toList := by
        rw [String.toList_inj]
        exact ⟨congrArg Method.name, fun h => by cases m; cases n; cases h; rfl⟩
      have hinj := append_at_inj (u := x.toList) (w := y.toList)
        (Method.not_mem_name (hm m rfl)) (Method.not_mem_name (hn n rfl))
      simp only [methodSuffix, Option.some.injEq, reduceCtorEq, Option.isSome_some, true_and,
        false_and, or_false, hname, ← String.toList_inj, String.toList_append]
      constructor
      · exact hinj
      · rintro ⟨hx, hmn⟩
        rw [hx, hmn]

namespace Router

variable {r : Router φ}

theorem derived_names_follow_fragments (hr : r.Reachable) :
    (∀ e, (r.insert e).2 = .ok ⟨⟩ → ∀ leaf ∈ e.declared, leaf.Follows →
      ∃ flat route name, leaf.flatten = .ok flat ∧ flat.compile r.locales = .ok route ∧
        (r.insert e).1.route? name = some route ∧ route.name = .named name ∧
        route.pattern = leaf.path ∧
        name = leaf.base ++ methodSuffix leaf.definition.settings.method) ∧
    ∀ a b : Leaf φ, a.Follows → b.Follows →
      (∀ leaf ∈ [a, b], ∀ m ∈ leaf.definition.settings.method, Method.of? m.name = some m) →
      (a.definition.fullName a.scope = b.definition.fullName b.scope ↔
        let m := a.definition.settings.method
        let n := b.definition.settings.method
        (a.stripped = b.stripped ∧ m = n) ∨
          (m.isSome = true ∧ n = none ∧ b.base = a.base ++ methodSuffix m) ∨
          (m = none ∧ n.isSome = true ∧ a.base = b.base ++ methodSuffix n)) := by
  constructor
  · intro e he leaf hleaf hfollows
    obtain ⟨flat, route, hflat, hcompile, hroute⟩ :=
      exists_route_of_mem_declared hr he hleaf hfollows.fullName_eq
    obtain ⟨_, hname, hpattern⟩ := FlatRoute.compiled_of_compile hcompile
    obtain ⟨hflatname, hflatpattern, _⟩ := RouteDefinition.flatten_eq_ok hflat
    refine ⟨flat, route, _, hflat, hcompile, hroute, ?_, hpattern.trans hflatpattern, rfl⟩
    rw [hname, hflatname, hfollows.fullName_eq]
  · intro a b ha hb hmethods
    rw [ha.fullName_eq, hb.fullName_eq, RouteName.named.injEq, append_methodSuffix_eq_iff
      (hmethods a (by simp)) (hmethods b (by simp)), Leaf.base_eq_iff]

theorem derived_names_follow_fragments_grouped :
    let settings : RouteSettings Unit := .withHandler .empty (.func ())
    let users : RouteDefinition Unit := ⟨none, "/users//", { settings with method := some .get }⟩
    let home : RouteDefinition Unit := ⟨none, "/", settings⟩
    let admin : Enclosure Unit := ⟨some "/admin/", none, .empty⟩
    let unnamed : Enclosure Unit := ⟨none, none, .empty⟩
    let e := admin.around [.route users, unnamed.around [.route home]]
    let r := (empty.insert e).1
    (∃ route, r.route? "admin/users@GET" = some route ∧ route.pattern = "/admin/users//") ∧
      (∃ route, r.route? "admin" = some route ∧ route.pattern = "/admin/") ∧
      users.fullName (scopeOf [admin]) ≠ home.fullName (scopeOf [admin, unnamed]) := by
  intro settings users home admin unnamed e r
  have he : (empty.insert e).2 = .ok ⟨⟩ := Except.eq_ok_of_toOption (by decide +kernel)
  have hmatches : ∀ g ∈ [admin, unnamed], g.MatchesName := by
    have hadmin : ¬ ['/', '/'] <:+ "/admin/".toList := by decide +kernel
    simpa [Enclosure.MatchesName, admin, unnamed] using hadmin
  have husers : Leaf.Follows ⟨[admin], users⟩ :=
    ⟨rfl, aligned_scopeOf fun g hg => hmatches g (by simp [List.mem_singleton.1 hg])⟩
  have hhome : Leaf.Follows ⟨[admin, unnamed], home⟩ := ⟨rfl, aligned_scopeOf hmatches⟩
  have hdeclared : e.declared = [⟨[admin], users⟩, ⟨[admin, unnamed], home⟩] := rfl
  obtain ⟨hregistered, hcollide⟩ :=
    derived_names_follow_fragments (r := (empty : Router Unit)) (.start .empty)
  obtain ⟨_, route, name, _, _, hroute, _, hpattern, hname⟩ :=
    hregistered e he ⟨[admin], users⟩ (by simp [hdeclared]) husers
  obtain ⟨_, route', name', _, _, hroute', _, hpattern', hname'⟩ :=
    hregistered e he ⟨[admin, unnamed], home⟩ (by simp [hdeclared]) hhome
  have hnames : Leaf.base ⟨[admin], users⟩ ++ methodSuffix users.settings.method =
        "admin/users@GET" ∧
      Leaf.base ⟨[admin, unnamed], home⟩ ++ methodSuffix home.settings.method = "admin" := by
    decide +kernel
  have hpaths : Leaf.path ⟨[admin], users⟩ = "/admin/users//" ∧
      Leaf.path ⟨[admin, unnamed], home⟩ = "/admin/" := by decide +kernel
  have hmethods : ∀ leaf ∈ [(⟨[admin], users⟩ : Leaf Unit), ⟨[admin, unnamed], home⟩],
      ∀ m ∈ leaf.definition.settings.method, Method.of? m.name = some m := by decide +kernel
  refine ⟨⟨route, ?_, hpattern.trans hpaths.1⟩, ⟨route', ?_, hpattern'.trans hpaths.2⟩, ?_⟩
  · rw [← hnames.1, ← hname]
    exact hroute
  · rw [← hnames.2, ← hname']
    exact hroute'
  · intro hsame
    have hcases := (hcollide _ _ husers hhome hmethods).1 hsame
    revert hcases
    decide +kernel

/-- The method is put behind a name as text, so it may end the pattern of another leaf. -/
theorem duplicate_of_distinct_patterns :
    let verb : RouteEntry Unit := .line "GET /a >>> A"
    let plain : RouteEntry Unit := .line "/a@GET >>> B"
    (verb.declared ++ plain.declared).map Leaf.stripped = ["a".toList, "a@GET".toList] ∧
      (empty.insertAll [verb, plain]).2 = .error (.duplicateName "a@GET") := by
  intro verb plain
  refine ⟨by decide +kernel, ?_⟩
  have hduplicate : (match (empty.insertAll [verb, plain]).2 with
      | .error (.duplicateName name) => some name
      | _ => none) = some "a@GET" := by decide +kernel
  split at hduplicate
  · next name herror =>
    cases hduplicate
    exact herror
  · cases hduplicate

/-- A group gives its name to the names of its leaves, and its fragment to their patterns only. -/
theorem name_without_fragment :
    let items : RouteEntry Unit := .group (some "api") (some "v1") .empty [.line "/items >>> A"]
    (empty.insert items).1.routes.map (fun route => (route.name, route.pattern)) =
      [(.named "api/items", "/v1/items")] := by
  intro items
  decide +kernel

end Router

end UrlRouter
