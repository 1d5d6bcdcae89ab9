import Mathlib.Data.List.TakeWhile
import UrlRouter.Proofs.Http.Form
import UrlRouter.Proofs.Router.Undeclared

/-!
One target, two kinds of requests. A simple request takes its target apart itself and keeps the
decoded pairs; a request of a client is made with an identifier that somebody else has read, and
keeps the text of the query. They show the same path and the same first value of every name.
-/

namespace UrlRouter

namespace Uri

structure SplitsAt (u : Uri) (target : String) : Prop where
  queried : ∀ path query, target.toList = path ++ '?' :: query → '?' ∉ path →
    u.path = String.ofList path ∧ u.query = some (String.ofList query)
  plain : '?' ∉ target.toList → u.path = target ∧ u.query = none

/-- The reader splits the targets that are paths with or without a query; it may refuse some. -/
def SplitsTargets (read? : String → Option Uri) : Prop :=
  ∀ target u, target.toList.head? = some '/' → '#' ∉ target.toList → read? target = some u →
    u.SplitsAt target

variable {cs : List Char} {path : String} {query : Option String}

theorem takeWhile_of_not_mem (h : '#' ∉ cs) : cs.takeWhile (· ≠ '#') = cs := by
  rw [List.takeWhile_eq_self_iff]
  exact fun c hc => by simpa using ne_of_mem_of_not_mem hc h

theorem pathAndQuery?_of_not_mem (hhash : '#' ∉ cs) (hquestion : '?' ∉ cs)
    (h : pathAndQuery? cs = some (path, query)) : path = String.ofList cs ∧ query = none := by
  rw [pathAndQuery?, takeWhile_of_not_mem hhash, Text.cut_singleton_eq_none_iff.2 hquestion] at h
  obtain ⟨_, h⟩ := Option.ite_none_right_eq_some.1 h
  cases h
  exact ⟨rfl, rfl⟩

theorem pathAndQuery?_of_append {before after : List Char} (hhash : '#' ∉ before ++ '?' :: after)
    (hquestion : '?' ∉ before) (h : pathAndQuery? (before ++ '?' :: after) = some (path, query)) :
    path = String.ofList before ∧ query = some (String.ofList after) := by
  rw [pathAndQuery?, takeWhile_of_not_mem hhash, Text.cut_singleton_eq_some_iff.2 ⟨rfl, hquestion⟩] at h
  obtain ⟨_, h⟩ := Option.ite_none_right_eq_some.1 h
  cases h
  exact ⟨rfl, rfl⟩

theorem exists_pathAndQuery?_of_read? {target : String} {u : Uri}
    (hslash : target.toList.head? = some '/') (h : read? target = some u) :
    ∃ p q, pathAndQuery? target.toList = some (p, q) ∧ u = ⟨none, "", p, q⟩ := by
  obtain ⟨cs, hcs⟩ := List.head?_eq_some_iff.1 hslash
  rw [read?] at h
  split at h
  · cases h
  rw [hcs] at h ⊢
  obtain ⟨⟨p, q⟩, hparts, rfl⟩ := Option.map_eq_some_iff.1 h
  exact ⟨p, q, hparts, rfl⟩

theorem path_of_rawPath_ne {u : Uri} (h : u.rawPath ≠ "") : u.path = u.rawPath := if_pos h

theorem splitsTargets_read? : SplitsTargets read? := by
  intro target u hslash hhash hread
  obtain ⟨p, q, hparts, rfl⟩ := exists_pathAndQuery?_of_read? hslash hread
  constructor
  · intro path query htext hpath
    rw [htext] at hparts hhash hslash
    obtain ⟨rfl, rfl⟩ := pathAndQuery?_of_append hhash hpath hparts
    have hne : path ≠ [] := by
      rintro rfl
      cases hslash
    exact ⟨path_of_rawPath_ne (by simpa using hne), rfl⟩
  · intro hquestion
    obtain ⟨rfl, rfl⟩ := pathAndQuery?_of_not_mem hhash hquestion hparts
    rw [String.ofList_toList]
    refine ⟨path_of_rawPath_ne ?_, rfl⟩
    rintro rfl
    cases hslash

theorem SplitsAt.exists_new {u : Uri} {target : String} (h : u.SplitsAt target) (m : Method) :
    ∃ pairs, SimpleRequest.new m target = ⟨m, u.path, pairs, [], false⟩ ∧
      ∀ name, Form.find? pairs name = u.query.bind (Form.seek? name) := by
  by_cases hquestion : '?' ∈ target.toList
  · obtain ⟨path, query, htext, hpath⟩ := List.eq_append_cons_of_mem hquestion
    obtain ⟨hupath, huquery⟩ := h.queried path query htext hpath
    rw [SimpleRequest.new_of_append htext hpath, hupath, huquery]
    exact ⟨_, rfl, fun name => (Form.seek?_eq_find? name _).symm⟩
  · obtain ⟨hupath, huquery⟩ := h.plain hquestion
    rw [SimpleRequest.new_of_not_mem hquestion, hupath, huquery]
    exact ⟨[], rfl, fun name => rfl⟩

end Uri

namespace Router

variable {φ : Type}

theorem targets_routed_alike {read? : String → Option Uri} (hread : Uri.SplitsTargets read?)
    {target : String} {u : Uri} (hslash : target.toList.head? = some '/')
    (hhash : '#' ∉ target.toList) (hu : read? target = some u) (m : Method) (headers : Headers) :
    let simple := (SimpleRequest.new m target).toRequest
    let http := HttpRequest.toRequest ⟨m, u, headers⟩
    simple.path = http.path ∧ (∀ name, simple.query? name = http.query? name) ∧
      ∀ r : Router φ, r.resolve simple = r.resolve http := by
  obtain ⟨pairs, hnew, hquery⟩ := (hread target u hslash hhash hu).exists_new m
  rw [hnew]
  intro simple http
  refine ⟨rfl, hquery, fun r => (TreatsAlike.of_agreeOn ?_).resolved⟩
  -- neither request has posted fields: nobody has added any, and a body is not looked into
  exact ⟨rfl, rfl, fun name _ => hquery name, fun _ _ _ => rfl⟩

theorem targets_routed_alike_query :
    let target := "/tags?tag=%zz&&page=1?2&tag=b%20c&all"
    let u : Uri := ⟨none, "", "/tags", some "tag=%zz&&page=1?2&tag=b%20c&all"⟩
    let tags : RouteDefinition Unit := ⟨some (.named "tags"), "/tags",
      { (.withHandler .empty (.func ()) : RouteSettings Unit) with
        inputs := [⟨"tag", .string, true⟩, ⟨"all", .string, true⟩] }⟩
    let r := (Router.empty.insert (.route tags)).1
    let simple := (SimpleRequest.new .get target).toRequest
    let http := HttpRequest.toRequest ⟨.get, u, .empty⟩
    Uri.SplitsTargets Uri.read? ∧ Uri.read? target = some u ∧ simple.path = "/tags" ∧
      ["tag", "page", "all", "b"].map simple.query? = [some "%zz", some "1?2", some "", none] ∧
      ["tag", "page", "all", "b"].map simple.query? = ["tag", "page", "all", "b"].map http.query? ∧
      r.resolve simple = r.resolve http := by
  intro target u tags r simple http
  have hu : Uri.read? target = some u := by decide +kernel
  obtain ⟨hpath, hquery, hresolve⟩ := targets_routed_alike Uri.splitsTargets_read? (by decide)
    (by decide) hu .get .empty
  exact ⟨Uri.splitsTargets_read?, hu, hpath, by decide +kernel,
    List.map_congr_left fun name _ => hquery name, hresolve r⟩

end Router

end UrlRouter
