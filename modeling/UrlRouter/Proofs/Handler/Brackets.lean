import UrlRouter.Handler.Reference
import UrlRouter.Proofs.Entries
import UrlRouter.Proofs.Except
import UrlRouter.Proofs.Text.Cut

/-!
Names in brackets. Every text is a row of slots, each with a name behind some text, and what stands
behind the last of them. The arguments are put in their slots one after the other, and the first
name without an argument is reported.
-/

namespace UrlRouter

open Text

structure Slot where
  before : List Char
  name : List Char
  before_plain : '<' ∉ before
  name_plain : '>' ∉ name

namespace Slot

def text (s : Slot) : List Char := s.before ++ '<' :: s.name ++ ['>']

def argument (s : Slot) : String := String.ofList s.name

def value? (args : Args) (s : Slot) : Option String :=
  (args.get? s.argument).bind Json.valueText?

def fill (args : Args) (s : Slot) : Except String (List Char) :=
  match s.value? args with
  | none => .error s.argument
  | some value => .ok (s.before ++ value.toList)

variable {args : Args} {s : Slot}

theorem fill_eq_ok_iff {text : List Char} :
    s.fill args = .ok text ↔
      ∃ value, s.value? args = some value ∧ text = s.before ++ value.toList := by
  rw [fill]
  cases s.value? args <;> simp [eq_comm]

theorem fill_eq_error_iff {name : String} :
    s.fill args = .error name ↔ Absent args s.argument ∧ name = s.argument := by
  rw [fill, absent_iff, ← value?]
  cases s.value? args <;> simp [eq_comm]

theorem exists_fill_iff : (∃ text, s.fill args = .ok text) ↔ ¬ Absent args s.argument := by
  rw [fill, absent_iff, ← value?]
  cases s.value? args <;> simp

end Slot

structure Template where
  slots : List Slot
  last : List Char
  tail : List Char
  last_plain : '<' ∉ last
  tail_open : tail = [] ∨ tail.head? = some '<' ∧ '>' ∉ tail

namespace Template

def chars (t : Template) : List Char := t.slots.flatMap Slot.text ++ (t.last ++ t.tail)

def text (t : Template) : String := String.ofList t.chars

def filled (t : Template) (values : List String) : String :=
  String.ofList ((List.zipWith (fun s v => s.before ++ v.toList) t.slots values).flatten ++
    (t.last ++ t.tail))

end Template

section

variable {args : Args} {before rest : List Char}

theorem fillBrackets_of_not_mem {cs : List Char} (h : '<' ∉ cs) : fillBrackets args cs = .ok cs := by
  rw [fillBrackets]
  split
  · rfl
  · next hcut =>
    rw [cut_singleton_eq_none_iff.2 h] at hcut
    cases hcut

theorem fillBrackets_of_unclosed (hbefore : '<' ∉ before) (hrest : '>' ∉ rest) :
    fillBrackets args (before ++ '<' :: rest) = .ok (before ++ '<' :: rest) := by
  have hlt : cut ['<'] (before ++ '<' :: rest) = some (before, rest) :=
    cut_singleton_eq_some_iff.2 ⟨rfl, hbefore⟩
  rw [fillBrackets]
  split
  · rfl
  · next hcut =>
    cases hlt.symm.trans hcut
    split
    · rfl
    · next hgt =>
      rw [cut_singleton_eq_none_iff.2 hrest] at hgt
      cases hgt

theorem fillBrackets_slot_append (s : Slot) (rest : List Char) :
    fillBrackets args (s.text ++ rest) =
      s.fill args >>= fun text => (fillBrackets args rest).map (text ++ ·) := by
  have htext : s.text ++ rest = s.before ++ '<' :: (s.name ++ '>' :: rest) := by simp [Slot.text]
  have hlt : cut ['<'] (s.text ++ rest) = some (s.before, s.name ++ '>' :: rest) :=
    cut_singleton_eq_some_iff.2 ⟨htext, s.before_plain⟩
  have hgt : cut ['>'] (s.name ++ '>' :: rest) = some (s.name, rest) :=
    cut_singleton_eq_some_iff.2 ⟨rfl, s.name_plain⟩
  rw [fillBrackets, Slot.fill, Slot.value?, Slot.argument]
  split
  · next hcut => cases hlt.symm.trans hcut
  · next hcut =>
    cases hlt.symm.trans hcut
    split
    · next hcut => cases hgt.symm.trans hcut
    · next hcut =>
      cases hgt.symm.trans hcut
      cases (args.get? (String.ofList s.name)).bind Json.valueText? <;> rfl

theorem fillBrackets_slots_append (slots : List Slot) (rest : List Char) :
    fillBrackets args (slots.flatMap Slot.text ++ rest) =
      slots.mapM (Slot.fill args) >>= fun texts =>
        (fillBrackets args rest).map (texts.flatten ++ ·) := by
  induction slots with
  | nil =>
    rw [List.flatMap_nil, List.nil_append]
    cases fillBrackets args rest <;> rfl
  | cons s slots ih =>
    rw [List.flatMap_cons, List.append_assoc, fillBrackets_slot_append, ih, List.mapM_cons]
    cases s.fill args with
    | error name => rfl
    | ok text =>
      cases slots.mapM (Slot.fill args) with
      | error name => rfl
      | ok texts =>
        cases fillBrackets args rest with
        | error name => rfl
        | ok out => exact congrArg Except.ok (List.append_assoc text texts.flatten out).symm

theorem mapM_fill_eq_ok_iff {slots : List Slot} {texts : List (List Char)} :
    slots.mapM (Slot.fill args) = .ok texts ↔
      ∃ values, List.Forall₂ (fun s v => s.value? args = some v) slots values ∧
        texts = List.zipWith (fun s v => s.before ++ v.toList) slots values := by
  induction slots generalizing texts with
  | nil =>
    constructor
    · rintro ⟨⟩
      exact ⟨[], .nil, rfl⟩
    · rintro ⟨_, ⟨⟩, rfl⟩
      rfl
  | cons s slots ih =>
    simp only [Except.mapM_cons_eq_ok_iff, Slot.fill_eq_ok_iff, ih]
    constructor
    · rintro ⟨_, _, ⟨v, hv, rfl⟩, ⟨values, hvalues, rfl⟩, rfl⟩
      exact ⟨v :: values, .cons hv hvalues, rfl⟩
    · rintro ⟨_, ⟨⟩ | ⟨hv, hvalues⟩, rfl⟩
      exact ⟨_, _, ⟨_, hv, rfl⟩, ⟨_, hvalues, rfl⟩, rfl⟩

end

namespace Template

variable {args : Args} {t : Template}

theorem fillBrackets_chars (args : Args) (t : Template) :
    fillBrackets args t.chars =
      (t.slots.mapM (Slot.fill args)).map (·.flatten ++ (t.last ++ t.tail)) := by
  have hend : fillBrackets args (t.last ++ t.tail) = .ok (t.last ++ t.tail) := by
    rcases t.tail_open with hnil | ⟨hhead, hclosed⟩
    · rw [hnil, List.append_nil]
      exact fillBrackets_of_not_mem t.last_plain
    · obtain ⟨rest, hrest⟩ := List.head?_eq_some_iff.1 hhead
      rw [hrest] at hclosed ⊢
      exact fillBrackets_of_unclosed t.last_plain (List.not_mem_of_not_mem_cons hclosed)
  rw [chars, fillBrackets_slots_append, hend]
  cases t.slots.mapM (Slot.fill args) <;> rfl

theorem renderToken_text (args : Args) (t : Template) :
    renderToken args t.text =
      match t.slots.mapM (Slot.fill args) with
      | .ok texts => .ok (String.ofList (texts.flatten ++ (t.last ++ t.tail)))
      | .error name => .error ⟨name, t.text⟩ := by
  rw [renderToken, text, String.toList_ofList, fillBrackets_chars]
  cases t.slots.mapM (Slot.fill args) <;> rfl

theorem renderToken_text_eq_error_iff {e : TokenError} :
    renderToken args t.text = .error e ↔
      ∃ before s after, t.slots = before ++ s :: after ∧
        (∀ r ∈ before, ¬ Absent args r.argument) ∧ Absent args s.argument ∧
        e = ⟨s.argument, t.text⟩ := by
  have hrendered : renderToken args t.text = .error e ↔
      ∃ name, t.slots.mapM (Slot.fill args) = .error name ∧ e = ⟨name, t.text⟩ := by
    rw [renderToken_text]
    cases t.slots.mapM (Slot.fill args) <;> simp [eq_comm]
  simp only [hrendered, Except.mapM_eq_error_iff, Slot.fill_eq_error_iff, Slot.exists_fill_iff]
  constructor
  · rintro ⟨_, ⟨before, s, after, hslots, hbefore, habsent, rfl⟩, rfl⟩
    exact ⟨before, s, after, hslots, hbefore, habsent, rfl⟩
  · rintro ⟨before, s, after, hslots, hbefore, habsent, rfl⟩
    exact ⟨_, ⟨before, s, after, hslots, hbefore, habsent, rfl⟩, rfl⟩

theorem renderToken_text_eq_ok_iff {out : String} :
    renderToken args t.text = .ok out ↔
      ∃ values, List.Forall₂ (fun s v => s.value? args = some v) t.slots values ∧
        out = t.filled values := by
  have hrendered : renderToken args t.text = .ok out ↔
      ∃ texts, t.slots.mapM (Slot.fill args) = .ok texts ∧
        out = String.ofList (texts.flatten ++ (t.last ++ t.tail)) := by
    rw [renderToken_text]
    cases t.slots.mapM (Slot.fill args) <;> simp [eq_comm]
  simp only [hrendered, mapM_fill_eq_ok_iff]
  constructor
  · rintro ⟨_, ⟨values, hvalues, rfl⟩, rfl⟩
    exact ⟨values, hvalues, rfl⟩
  · rintro ⟨values, hvalues, rfl⟩
    exact ⟨_, ⟨values, hvalues, rfl⟩, rfl⟩

end Template

theorem exists_template_chars (cs : List Char) : ∃ t : Template, t.chars = cs := by
  induction hlength : cs.length using Nat.strong_induction_on generalizing cs with
  | _ n ih =>
    cases hlt : cut ['<'] cs with
    | none =>
      exact ⟨⟨[], cs, [], cut_singleton_eq_none_iff.1 hlt, .inl rfl⟩, List.append_nil cs⟩
    | some cuts =>
      obtain ⟨before, rest⟩ := cuts
      obtain ⟨rfl, hbefore⟩ := cut_singleton_eq_some_iff.1 hlt
      cases hgt : cut ['>'] rest with
      | none =>
        have hrest := cut_singleton_eq_none_iff.1 hgt
        exact ⟨⟨[], before, '<' :: rest, hbefore, .inr ⟨rfl, by simp [hrest]⟩⟩, rfl⟩
      | some cuts =>
        obtain ⟨name, behind⟩ := cuts
        obtain ⟨rfl, hname⟩ := cut_singleton_eq_some_iff.1 hgt
        -- the scan goes on behind the name, so what is left is shorter
        obtain ⟨t, rfl⟩ := ih behind.length (by simp at hlength; omega) behind rfl
        refine ⟨{ t with slots := ⟨before, name, hbefore, hname⟩ :: t.slots }, ?_⟩
        simp [Template.chars, Slot.text]

namespace Template

theorem renderToken_outcome (args : Args) :
    (∀ text : String, ∃ t : Template, t.text = text) ∧
      ∀ t : Template,
        (∀ e, renderToken args t.text = .error e ↔
          ∃ before s after, t.slots = before ++ s :: after ∧
            (∀ r ∈ before, ¬ Absent args r.argument) ∧ Absent args s.argument ∧
            e = ⟨s.argument, t.text⟩) ∧
        ∀ out, renderToken args t.text = .ok out ↔
          ∃ values, List.Forall₂ (fun s v => s.value? args = some v) t.slots values ∧
            out = t.filled values := by
  refine ⟨fun text => ?_, fun t => ⟨fun e => renderToken_text_eq_error_iff,
    fun out => renderToken_text_eq_ok_iff⟩⟩
  obtain ⟨t, ht⟩ := exists_template_chars text.toList
  exact ⟨t, by rw [Template.text, ht, String.ofList_toList]⟩

theorem renderToken_outcome_nested :
    let args : Args := .ofList [("section", .str "<action>"), ("action", .str "list"),
      ("a<b", .int 7), ("none", .null)]
    renderToken args "Admin<section>::<action>-<a<b><" = .ok "Admin<action>::list-7<" ∧
      renderToken args "<action>/<none>/<other>" =
        .error ⟨"none", "<action>/<none>/<other>"⟩ := by
  intro args
  obtain ⟨_, houtcome⟩ := renderToken_outcome args
  constructor
  · let t : Template :=
      { slots := [⟨"Admin".toList, "section".toList, by decide, by decide⟩,
          ⟨"::".toList, "action".toList, by decide, by decide⟩,
          ⟨"-".toList, "a<b".toList, by decide, by decide⟩]
        last := []
        tail := ['<']
        last_plain := by decide
        tail_open := by decide }
    have hvalues : List.Forall₂ (fun s v => s.value? args = some v) t.slots
        ["<action>", "list", "7"] :=
      .cons (by decide +kernel) (.cons (by decide +kernel) (.cons (by decide +kernel) .nil))
    exact ((houtcome t).2 _).2 ⟨_, hvalues, by decide +kernel⟩
  · let t : Template :=
      { slots := [⟨[], "action".toList, by decide, by decide⟩,
          ⟨['/'], "none".toList, by decide, by decide⟩,
          ⟨['/'], "other".toList, by decide, by decide⟩]
        last := []
        tail := []
        last_plain := by decide
        tail_open := by decide }
    refine ((houtcome t).1 _).2 ⟨[_], _, [_], rfl, ?_, .inr rfl, rfl⟩
    rintro r hr
    obtain rfl := List.mem_singleton.1 hr
    rw [absent_iff]
    decide +kernel

end Template

end UrlRouter
