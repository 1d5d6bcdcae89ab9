import UrlRouter.Proofs.Regex.Whole
import UrlRouter.Proofs.Registration.Table

/-!
Expressions that are given to input types and routes. They are set between the anchors as text, so
what is accepted is what they match as a whole, except for texts that close the group around them.
-/

namespace UrlRouter

open Regex

variable {φ : Type}

theorem InputType.ofRegex_eq_ok {source : String} {t : InputType} (h : ofRegex source = .ok t) :
    ∃ r, compile? (wrapped source) = some r ∧ t = .pattern r := by
  unfold ofRegex at h
  split at h
  · next r hr =>
    cases h
    exact ⟨r, hr, rfl⟩
  · cases h

theorem InputType.isSome_parse?_pattern (r : Regex) (raw : String) :
    ((InputType.pattern r).parse? raw).isSome = r.isMatch raw := by
  change (if r.isMatch raw then some (Json.str raw) else none).isSome = _
  cases r.isMatch raw <;> rfl

namespace Router

theorem sources_match_whole :
    (∀ source t, InputType.ofRegex source = .ok t →
      Anchored source fun raw => (t.parse? raw).isSome) ∧
    ∀ r : Router φ, r.Reachable → ∀ route ∈ r.stored,
      Anchored route.compiled.source route.regex.isMatch := by
  constructor
  · intro source t ht
    obtain ⟨r, hr, rfl⟩ := InputType.ofRegex_eq_ok ht
    simp only [InputType.isSome_parse?_pattern]
    exact anchored_of_compile?_wrapped hr
  · intro r hr route hroute
    obtain ⟨⟨_, hregex⟩, _⟩ := hr.filed.prepared route hroute
    exact anchored_of_compile?_wrapped hregex

def lone (pattern : String) : Router Unit :=
  ((empty : Router Unit).insert
    (.route ⟨some (.named "lone"), pattern, .withHandler .empty (.func ())⟩)).1

theorem reachable_lone (pattern : String) : (lone pattern).Reachable :=
  .insert _ (.start .empty)

theorem exists_mem_lone {pattern source : String}
    (h : (lone pattern).stored.map (·.compiled.source) = [source]) :
    ∃ route ∈ (lone pattern).stored, route.compiled.source = source :=
  List.mem_map.1 (h ▸ List.mem_singleton_self source)

theorem sources_match_whole_balanced :
    (∃ t, InputType.ofRegex "yes|no" = .ok t ∧ Valid "yes|no" ∧
      ∀ raw, (t.parse? raw).isSome = true ↔ MatchesWhole "yes|no" raw) ∧
    ∃ route ∈ (lone "/list|/(?:page|\x7b\x7bC:<n>[0-9]+\x7d\x7d)").stored,
      route.compiled.source = "/list|/(?:page|(?P<n>[0-9]+))" ∧ Valid route.compiled.source ∧
        ∀ path, route.regex.isMatch path = true ↔ MatchesWhole route.compiled.source path := by
  have hboth := sources_match_whole (φ := Unit)
  constructor
  · obtain ⟨r, hr⟩ : ∃ r, compile? (wrapped "yes|no") = some r :=
      Option.isSome_iff_exists.1 (by decide +kernel)
    have ht : InputType.ofRegex "yes|no" = .ok (.pattern r) := by
      rw [InputType.ofRegex, hr]
    obtain ⟨hvalid, haccepts⟩ := hboth.1 _ _ ht
    have hplain : Valid "yes|no" := hvalid.2 (closesGroup_eq_false_of_not_mem (by decide))
    exact ⟨_, ht, hplain, haccepts hplain⟩
  · have hlone : (lone "/list|/(?:page|\x7b\x7bC:<n>[0-9]+\x7d\x7d)").stored.map
        (·.compiled.source) = ["/list|/(?:page|(?P<n>[0-9]+))"] := by
      decide +kernel
    obtain ⟨route, hroute, hsource⟩ := exists_mem_lone hlone
    obtain ⟨hvalid, haccepts⟩ := hboth.2 _ (reachable_lone _) route hroute
    have hclosed : Valid route.compiled.source := by
      refine hvalid.2 ?_
      rw [hsource]
      decide +kernel
    exact ⟨route, hroute, hsource, hclosed, haccepts hclosed⟩

/-- A type and a path whose sources close the group accept more than that, and are no expressions by
themselves. -/
theorem closing_sources_match_parts :
    (∃ t, InputType.ofRegex "a)|(?:b" = .ok t ∧ (t.parse? "ax").isSome = true) ∧
      ¬Valid "a)|(?:b" ∧
    ∃ route ∈ (lone "/a)|(?:b").stored, route.compiled.source = "/a)|(?:b" ∧
      route.regex.isMatch "/ax" = true ∧ ¬Valid route.compiled.source := by
  let n (text : List Char) : Node :=
    .alt [.seq [.assertion .textStart, .literal text], .seq [.literal ['b'], .assertion .textEnd]]
  have hreading (text : List Char) : (n text).reading [] text ['x'] [] := by
    refine .inl ⟨[], text, [], [], rfl, by simp, ⟨rfl, rfl, rfl⟩, ?_⟩
    exact ⟨text, [], [], [], by simp, rfl, ⟨rfl, rfl⟩, rfl, rfl⟩
  refine ⟨?_, by decide +kernel, ?_⟩
  · obtain ⟨r, hr⟩ : ∃ r, compile? (wrapped "a)|(?:b") = some r :=
      Option.isSome_iff_exists.1 (by decide +kernel)
    refine ⟨.pattern r, by rw [InputType.ofRegex, hr], ?_⟩
    rw [InputType.isSome_parse?_pattern]
    exact isMatch_of_reading hr (by decide +kernel) (by decide) (hreading ['a'])
  · have hlone : (lone "/a)|(?:b").stored.map (·.compiled.source) = ["/a)|(?:b"] := by
      decide +kernel
    obtain ⟨route, hroute, hsource⟩ := exists_mem_lone hlone
    obtain ⟨⟨_, hregex⟩, _⟩ := (reachable_lone _).filed.prepared route hroute
    rw [hsource] at hregex
    refine ⟨route, hroute, hsource, ?_, by rw [hsource]; decide +kernel⟩
    exact isMatch_of_reading hregex (by decide +kernel) (by decide) (hreading ['/', 'a'])

end Router

end UrlRouter
