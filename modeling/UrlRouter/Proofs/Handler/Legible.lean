import UrlRouter.Handler.Reference
import UrlRouter.Proofs.Text.Cut
import UrlRouter.Proofs.Text.Trim

/-!
Handlers that are read again from their text. The names of controller and action are trimmed behind
the first separator and in front of it, so what is left of them can be empty, or can end in a colon
that meets the separator of the text.
-/

namespace UrlRouter

open Text

namespace HandlerRef

variable {φ : Type} {s : String} {before after : List Char}

structure Divides (s : String) (before after : List Char) : Prop where
  text : s.toList = before ++ ':' :: ':' :: after
  first : ¬ [':', ':'] <:+: before
  apart : before.getLast? ≠ some ':'

theorem divides_iff : Divides s before after ↔ cut [':', ':'] s.toList = some (before, after) := by
  rw [cut_pair_eq_some_iff]
  exact ⟨fun h => ⟨h.text, h.first, h.apart⟩, fun ⟨htext, hfirst, hapart⟩ => ⟨htext, hfirst, hapart⟩⟩

theorem divides_or (s : String) :
    ¬ [':', ':'] <:+: s.toList ∨ ∃ before after, Divides s before after := by
  cases hcut : cut [':', ':'] s.toList with
  | none => exact .inl ((cut_eq_none_iff (by simp)).1 hcut)
  | some cuts => exact .inr ⟨cuts.1, cuts.2, divides_iff.2 hcut⟩

theorem Divides.unique (h : Divides s before after) {u v : List Char} (h' : Divides s u v) :
    u = before ∧ v = after := by
  cases (divides_iff.1 h).symm.trans (divides_iff.1 h')
  exact ⟨rfl, rfl⟩

theorem read_of_undivided (h : ¬ [':', ':'] <:+: s.toList) :
    (read s : HandlerRef φ) = .target (trimmed s) none := by
  have hcut : cut "::".toList s.toList = none := (cut_eq_none_iff (by decide)).2 h
  rw [read, cutString, hcut]
  rfl

theorem read_of_divides (h : Divides s before after) :
    (read s : HandlerRef φ) = .target (String.ofList (trim before))
      (if after = [] then none else some (String.ofList (trim after))) := by
  have hcut : cut "::".toList s.toList = some (before, after) := divides_iff.1 h
  rw [read, cutString, hcut]
  simp only [Option.map_some, trimmed, String.toList_ofList, String.ofList_eq_empty_iff]

inductive Legible : HandlerRef φ → Prop
  | controller {controller : String} (trim_eq : trim controller.toList = controller.toList)
      (undivided : ¬ [':', ':'] <:+: controller.toList) : Legible (.target controller none)
  | action {controller action : String} (trim_eq : trim controller.toList = controller.toList)
      (undivided : ¬ [':', ':'] <:+: controller.toList)
      (apart : controller.toList.getLast? ≠ some ':')
      (trim_action_eq : trim action.toList = action.toList) (present : action ≠ "") :
      Legible (.target controller (some action))

theorem divides_text {controller action : String}
    (undivided : ¬ [':', ':'] <:+: controller.toList)
    (apart : controller.toList.getLast? ≠ some ':') :
    Divides (text (.target controller (some action) : HandlerRef φ)) controller.toList
      action.toList :=
  ⟨by simp [text], undivided, apart⟩

theorem Legible.read_text {h : HandlerRef φ} (hlegible : h.Legible) : read h.text = h := by
  cases hlegible with
  | controller htrim hundivided =>
    rw [text, read_of_undivided hundivided, trimmed, htrim, String.ofList_toList]
  | action htrim hundivided hapart haction hpresent =>
    rw [read_of_divides (divides_text hundivided hapart), htrim, haction, String.ofList_toList,
      String.ofList_toList, if_neg (by simpa using hpresent)]

theorem legible_of_read_controller {controller : String}
    (hread : (read controller : HandlerRef φ) = .target controller none) :
    Legible (.target controller none : HandlerRef φ) := by
  rcases divides_or controller with hundivided | ⟨before, after, hdivides⟩
  · rw [read_of_undivided hundivided, target.injEq, trimmed, ← String.toList_inj,
      String.toList_ofList] at hread
    exact .controller hread.1 hundivided
  · rw [read_of_divides hdivides, target.injEq, ← String.toList_inj, String.toList_ofList,
      hdivides.text] at hread
    have hlength := (trim_isInfix before).length_le
    rw [hread.1, List.length_append, List.length_cons] at hlength
    omega

theorem legible_of_read_action {controller action : String}
    (hread : read (text (.target controller (some action) : HandlerRef φ)) =
      (.target controller (some action) : HandlerRef φ)) :
    Legible (.target controller (some action) : HandlerRef φ) := by
  have htext : (text (.target controller (some action) : HandlerRef φ)).toList =
      controller.toList ++ [':', ':'] ++ action.toList := by
    simp [text]
  rcases divides_or (text (.target controller (some action) : HandlerRef φ)) with
    hundivided | ⟨before, after, hdivides⟩
  · exact absurd ⟨_, _, htext.symm⟩ hundivided
  · rw [read_of_divides hdivides, target.injEq, ← String.toList_inj, String.toList_ofList] at hread
    obtain ⟨hcontroller, haction⟩ := hread
    -- trimming cannot make the text before the first colons longer, so they are those of the text
    have hprefix : before <+: controller.toList :=
      prefix_of_cut_append (by simp) (htext ▸ divides_iff.1 hdivides)
    obtain rfl : before = controller.toList := by
      refine hprefix.eq_of_length_le ?_
      rw [← hcontroller]
      exact (trim_isInfix before).length_le
    have hafter : after = action.toList := by
      have hboth := hdivides.text.symm.trans htext
      simpa using hboth
    rw [hafter] at haction
    split at haction
    · cases haction
    · next hpresent =>
      rw [Option.some.injEq, ← String.toList_inj, String.toList_ofList] at haction
      exact .action hcontroller hdivides.first hdivides.apart haction (by simpa using hpresent)

theorem read_text_eq_self_iff {h : HandlerRef φ} : read h.text = h ↔ h.Legible := by
  refine ⟨fun hread => ?_, Legible.read_text⟩
  match h with
  | .func f =>
    rw [text, read_of_undivided (by decide)] at hread
    cases hread
  | .target controller none => exact legible_of_read_controller hread
  | .target controller (some action) => exact legible_of_read_action hread

def BlankAction (s : String) : Prop :=
  ∃ before after, Divides s before after ∧ after ≠ [] ∧ Blank after

def ColonEnded (s : String) : Prop :=
  ∃ before gap after, Divides s (before ++ ':' :: gap) after ∧ Blank gap ∧ after ≠ []

theorem not_infix_trim (h : ¬ [':', ':'] <:+: before) : ¬ [':', ':'] <:+: trim before :=
  fun hpair => h (hpair.trans (trim_isInfix before))

theorem legible_trim (h : ¬ [':', ':'] <:+: before) :
    Legible (.target (String.ofList (trim before)) none : HandlerRef φ) := by
  refine .controller ?_ ?_
  · rw [String.toList_ofList, trim_trim]
  · rw [String.toList_ofList]
    exact not_infix_trim h

theorem legible_read_of_divides (h : Divides s before after) (hafter : after ≠ []) :
    (read s : HandlerRef φ).Legible ↔ ¬ Blank after ∧ (trim before).getLast? ≠ some ':' := by
  rw [read_of_divides h, if_neg hafter]
  constructor
  · rintro (_ | ⟨_, _, hapart, _, hpresent⟩)
    rw [String.toList_ofList] at hapart
    rw [ne_eq, String.ofList_eq_empty_iff, trim_eq_nil_iff] at hpresent
    exact ⟨hpresent, hapart⟩
  · rintro ⟨hblank, hapart⟩
    refine .action ?_ ?_ ?_ ?_ ?_
    · rw [String.toList_ofList, trim_trim]
    · rw [String.toList_ofList]
      exact not_infix_trim h.first
    · rwa [String.toList_ofList]
    · rw [String.toList_ofList, trim_trim]
    · rwa [ne_eq, String.ofList_eq_empty_iff, trim_eq_nil_iff]

theorem Divides.blankAction_iff (h : Divides s before after) :
    BlankAction s ↔ after ≠ [] ∧ Blank after := by
  constructor
  · rintro ⟨u, v, hdivides, hv⟩
    obtain ⟨_, rfl⟩ := h.unique hdivides
    exact hv
  · intro hafter
    exact ⟨before, after, h, hafter⟩

theorem Divides.colonEnded_iff (h : Divides s before after) :
    ColonEnded s ↔ after ≠ [] ∧ (trim before).getLast? = some ':' := by
  rw [getLast?_trim_eq_some_iff (by decide)]
  constructor
  · rintro ⟨u, gap, v, hdivides, hgap, hv⟩
    obtain ⟨hbefore, rfl⟩ := h.unique hdivides
    exact ⟨hv, u, gap, hbefore.symm, hgap⟩
  · rintro ⟨hafter, u, gap, rfl, hgap⟩
    exact ⟨u, gap, after, h, hgap, hafter⟩

theorem not_divides (h : ¬ [':', ':'] <:+: s.toList) : ¬ Divides s before after :=
  fun hdivides => h ⟨before, after, by simp [hdivides.text]⟩

theorem legible_read_iff :
    (read s : HandlerRef φ).Legible ↔ ¬ BlankAction s ∧ ¬ ColonEnded s := by
  rcases divides_or s with hundivided | ⟨before, after, h⟩
  · rw [read_of_undivided hundivided]
    exact ⟨fun _ => ⟨fun ⟨_, _, hdivides, _⟩ => not_divides hundivided hdivides,
      fun ⟨_, _, _, hdivides, _⟩ => not_divides hundivided hdivides⟩,
      fun _ => legible_trim hundivided⟩
  · rw [h.blankAction_iff, h.colonEnded_iff]
    by_cases hafter : after = []
    · have hlegible := legible_trim (φ := φ) h.first
      rw [read_of_divides h, if_pos hafter]
      simp [hafter, hlegible]
    · rw [legible_read_of_divides h hafter]
      simp [hafter]

theorem read_text_read_iff (s : String) :
    ((read (read s : HandlerRef φ).text : HandlerRef φ) = read s ↔
        ¬ BlankAction s ∧ ¬ ColonEnded s) ∧
      ∀ controller action, (read s : HandlerRef φ) = .target controller (some action) →
        trimmed action = action ∧ (action = "" ↔ BlankAction s) := by
  refine ⟨read_text_eq_self_iff.trans legible_read_iff, fun controller action hread => ?_⟩
  rcases divides_or s with hundivided | ⟨before, after, h⟩
  · rw [read_of_undivided hundivided] at hread
    cases hread
  · rw [read_of_divides h] at hread
    split at hread
    · cases hread
    · next hafter =>
      cases hread
      rw [h.blankAction_iff, trimmed, String.toList_ofList, trim_trim, String.ofList_eq_empty_iff,
        trim_eq_nil_iff]
      simp [hafter]

theorem read_text_read_iff_spaced :
    let s := "\u2003Admin:Users\t:: list::all "
    (read s : HandlerRef Unit) = .target "Admin:Users" (some "list::all") ∧
      ¬ BlankAction s ∧ ¬ ColonEnded s ∧ trimmed "list::all" = "list::all" := by
  intro s
  have hread : (read s : HandlerRef Unit) = .target "Admin:Users" (some "list::all") := by
    decide +kernel
  have hagain : (read (read s : HandlerRef Unit).text : HandlerRef Unit) = read s := by
    decide +kernel
  obtain ⟨hlegible, hnames⟩ := read_text_read_iff (φ := Unit) s
  obtain ⟨hblank, hcolon⟩ := hlegible.1 hagain
  exact ⟨hread, hblank, hcolon, (hnames _ _ hread).1⟩

/-- An action of white space is read as an empty name, which the text does not hold any more, and a
colon behind the name of the controller goes to the action. -/
theorem read_text_read_ne :
    (read "User:: " : HandlerRef Unit) = .target "User" (some "") ∧
      (read (text (.target "User" (some "") : HandlerRef Unit)) : HandlerRef Unit) =
        .target "User" none ∧
      (read "Admin: ::list" : HandlerRef Unit) = .target "Admin:" (some "list") ∧
      (read (text (.target "Admin:" (some "list") : HandlerRef Unit)) : HandlerRef Unit) =
        .target "Admin" (some ":list") := by
  decide +kernel

end HandlerRef

end UrlRouter
