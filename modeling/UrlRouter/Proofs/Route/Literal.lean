import UrlRouter.Dispatch.Invocation
import UrlRouter.Proofs.Handler.Brackets
import UrlRouter.Proofs.Route.Captures
import UrlRouter.Router.Resolve

namespace UrlRouter

open Regex

variable {φ : Type} {locales : Locales} {route : Route φ} {text : List Char}

namespace Route.CompiledFor

theorem captures?_literal (h : route.CompiledFor locales)
    (hsplit : split route.pattern.toList = .ok [.literal text])
    (hbare : ∀ c ∈ text, isBare c = true) (path : String) :
    route.captures? path = if path.toList = text then some [] else none := by
  have hplain : ∀ p ∈ [Piece.literal text], p.Plain := by simpa [Piece.Plain] using hbare
  have hread (caps : Captures) : readingOf locales [.literal text] [] path.toList [] caps ↔
      path.toList = text ∧ caps = [] := by
    rw [readingOf, readingOf, Reading.append_nil]
    rfl
  by_cases htext : path.toList = text
  · have hmatched := h.isSome_captures? hsplit hplain ((hread []).2 ⟨htext, rfl⟩)
    obtain ⟨got, hgot⟩ := Option.isSome_iff_exists.1 hmatched
    obtain ⟨caps, hcaps, rfl⟩ := h.reading_of_captures? hsplit hplain hgot
    rw [hgot, if_pos htext, ((hread caps).1 hcaps).2]
    rfl
  · rw [if_neg htext]
    cases hgot : route.captures? path with
    | none => rfl
    | some got =>
      obtain ⟨caps, hcaps, _⟩ := h.reading_of_captures? hsplit hplain hgot
      exact absurd ((hread caps).1 hcaps).1 htext

end Route.CompiledFor

structure Route.Open (route : Route φ) (locales : Locales) (text : List Char) : Prop where
  compiled : route.CompiledFor locales
  split_eq : split route.pattern.toList = .ok [.literal text]
  bare : ∀ c ∈ text, isBare c = true
  method : route.settings.method = none
  inputs : route.settings.inputs = []
  conditions : route.settings.conditions = []

theorem Route.Open.accept?_eq (h : route.Open locales text) (req : Request) :
    route.accept? req =
      if (stripQuery req.path).toList = text then some route.settings.args else none := by
  have haccepts : route.accepts req.method = true := by rw [accepts, h.method]; rfl
  rw [accept?, if_neg (by simp [haccepts]), h.compiled.captures?_literal h.split_eq h.bare]
  by_cases htext : (stripQuery req.path).toList = text
  · simp only [if_pos htext, h.inputs, h.conditions, collectInputs, List.all_nil, if_true]
    rfl
  · simp only [if_neg htext]

def Route.isOpen (route : Route φ) : Bool :=
  route.settings.args.entries.isEmpty && route.settings.method.isNone &&
    (route.settings.inputs.isEmpty && route.settings.conditions.isEmpty)

theorem Route.Open.of_isOpen (text : List Char) (h : route.CompiledFor locales)
    (hopen : route.isOpen = true)
    (hsplit : (split route.pattern.toList).toOption = some [.literal text])
    (hbare : text.all isBare = true) : route.Open locales text ∧ route.settings.args = .empty := by
  simp only [isOpen, Bool.and_eq_true, List.isEmpty_iff, Option.isNone_iff_eq_none] at hopen
  obtain ⟨⟨hargs, hmethod⟩, hinputs, hconditions⟩ := hopen
  exact ⟨⟨h, Except.eq_ok_of_toOption hsplit, List.all_eq_true.1 hbare, hmethod, hinputs,
    hconditions⟩, Dict.ext_entries hargs⟩

theorem Router.resolve_of_open {r : Router φ} (before : List (Route φ)) {after : List (Route φ)}
    {req : Request} (hroutes : r.routes = before ++ route :: after)
    (hopen : route.Open locales text) (htext : (stripQuery req.path).toList = text)
    (hbefore : ∀ b ∈ before, ∃ other, b.Open locales other ∧ other ≠ text) :
    r.resolve req = some (route, route.settings.args) := by
  have hskip : before.findSome? (fun b => (b.accept? req).map fun args => (b, args)) = none := by
    rw [List.findSome?_eq_none_iff]
    intro b hb
    obtain ⟨other, hother, hne⟩ := hbefore b hb
    rw [hother.accept?_eq, htext, if_neg (Ne.symm hne)]
    rfl
  rw [resolve, hroutes, List.findSome?_append, hskip, Option.none_or, List.findSome?_cons,
    hopen.accept?_eq, if_pos htext]
  rfl

theorem renderToken_of_no_bracket {template : String} (h : '<' ∉ template.toList) (args : Args) :
    renderToken args template = .ok template := by
  rw [renderToken, fillBrackets_of_not_mem h]
  exact congrArg Except.ok String.ofList_toList

theorem HandlerRef.invocation_of_no_brackets {σ : Type} {handlers : HandlerRegistry φ σ}
    {controller : String} {action : Option String} {req : Request} {t : Target φ σ}
    (h : '<' ∉ controller.toList) (haction : ∀ name ∈ action, '<' ∉ name.toList)
    (ht : handlers.target controller action req = .ok t) (args : Args) :
    (HandlerRef.target controller action).invocation handlers req args = .ok (.target t) := by
  have hmethod : action.mapM (renderToken args) = .ok action := by
    cases action with
    | none => rfl
    | some name =>
      rw [Option.mapM_some, renderToken_of_no_bracket (haction name rfl) args]
      rfl
  simp only [invocation, renderToken_of_no_bracket h args, hmethod, ht]

theorem HandlerRef.invocation_of_no_bracket {σ : Type} {handlers : HandlerRegistry φ σ}
    {controller : String} {req : Request} {t : Target φ σ} (h : '<' ∉ controller.toList)
    (ht : handlers.target controller none req = .ok t) (args : Args) :
    (HandlerRef.target controller none).invocation handlers req args = .ok (.target t) :=
  invocation_of_no_brackets h (by simp) ht args

end UrlRouter
