import UrlRouter.Proofs.Decimal.Notation
import UrlRouter.Proofs.Json.Strings

/-!
The text of a value determines it, as far as the texts of its floats do: two values whose texts
are continued to one text by what cannot continue a number are equal.
-/

namespace UrlRouter.Json

mutual

def floats : Json → List Binary64
  | .float x => [x]
  | .arr xs => floatsOfElements xs
  | .obj fs => floatsOfFields fs
  | _ => []

def floatsOfElements : List Json → List Binary64
  | [] => []
  | x :: xs => x.floats ++ floatsOfElements xs

def floatsOfFields : List (String × Json) → List Binary64
  | [] => []
  | (_, x) :: fs => x.floats ++ floatsOfFields fs

end

def TextsTell (xs ys : List Binary64) : Prop :=
  ∀ x ∈ xs, ∀ y ∈ ys, x.text = y.text → x = y

instance (xs ys : List Binary64) : Decidable (TextsTell xs ys) :=
  inferInstanceAs (Decidable (∀ x ∈ xs, ∀ y ∈ ys, x.text = y.text → x = y))

theorem TextsTell.left {xs xs' ys ys' : List Binary64}
    (h : TextsTell (xs ++ xs') (ys ++ ys')) : TextsTell xs ys :=
  fun x hx y hy => h x (List.mem_append_left _ hx) y (List.mem_append_left _ hy)

theorem TextsTell.right {xs xs' ys ys' : List Binary64}
    (h : TextsTell (xs ++ xs') (ys ++ ys')) : TextsTell xs' ys' :=
  fun x hx y hy => h x (List.mem_append_right _ hx) y (List.mem_append_right _ hy)

inductive Kind where
  | null
  | bool
  | number
  | string
  | array
  | object
  deriving DecidableEq

def kind : Json → Kind
  | .null => .null
  | .bool _ => .bool
  | .int _ | .float _ => .number
  | .str _ => .string
  | .arr _ => .array
  | .obj _ => .object

def Kind.ofLead? (c : Char) : Option Kind :=
  if isNumeral c then some .number
  else
    match c with
    | 'n' => some .null
    | 't' | 'f' => some .bool
    | '"' => some .string
    | '[' => some .array
    | '\x7b' => some .object
    | _ => none

theorem ofLead?_head (x : Json) : x.render.head?.bind Kind.ofLead? = some x.kind := by
  have hnumeral (cs : List Char) (hne : cs ≠ []) (h : ∀ c ∈ cs, isNumeral c = true) :
      cs.head?.bind Kind.ofLead? = some .number := by
    cases cs with
    | nil => exact absurd rfl hne
    | cons c cs => exact if_pos (h c List.mem_cons_self)
  cases x with
  | null => rfl
  | bool b => cases b <;> rfl
  | int n => exact hnumeral _ (intText_ne_nil n) fun _ => isNumeral_of_mem_intText
  | float x => exact hnumeral _ x.text_ne_nil fun _ => Binary64.isNumeral_of_mem_text
  | str s => rfl
  | arr xs => cases xs <;> rfl
  | obj fs => rcases fs with _ | ⟨⟨k, x⟩, fs⟩ <;> rfl

theorem ofLead?_head_append (x : Json) (u : List Char) :
    (x.render ++ u).head?.bind Kind.ofLead? = some x.kind := by
  have hlead := ofLead?_head x
  cases hx : x.render with
  | nil =>
    rw [hx] at hlead
    cases hlead
  | cons c cs =>
    rw [hx] at hlead
    exact hlead

theorem kind_eq_of_append {x y : Json} {u v : List Char} (h : x.render ++ u = y.render ++ v) :
    x.kind = y.kind := by
  have hx := ofLead?_head_append x u
  rw [h, ofLead?_head_append y v] at hx
  exact (Option.some.inj hx).symm

theorem render_append_ne (x : Json) (u v : List Char) : x.render ++ u ≠ ']' :: v := by
  intro h
  have hx := ofLead?_head_append x u
  rw [h] at hx
  cases hx

def Ends (u : List Char) : Prop := ∀ c ∈ u.head?, isNumeral c = false

theorem numeral_append_injective {xs ys u v : List Char} (hxs : ∀ c ∈ xs, isNumeral c = true)
    (hys : ∀ c ∈ ys, isNumeral c = true) (hu : Ends u) (hv : Ends v) (h : xs ++ u = ys ++ v) :
    xs = ys ∧ u = v := by
  induction xs generalizing ys with
  | nil =>
    cases ys with
    | nil => exact ⟨rfl, h⟩
    | cons y ys =>
      have hy := hu y (by rw [List.nil_append] at h; simp [h])
      rw [hys y List.mem_cons_self] at hy
      cases hy
  | cons x xs ih =>
    cases ys with
    | nil =>
      have hx := hv x (by rw [List.nil_append] at h; simp [← h])
      rw [hxs x List.mem_cons_self] at hx
      cases hx
    | cons y ys =>
      rw [List.cons_append, List.cons_append, List.cons.injEq] at h
      obtain ⟨rfl, h⟩ := h
      obtain ⟨rfl, hrest⟩ := ih (fun c hc => hxs c (List.mem_cons_of_mem _ hc))
        (fun c hc => hys c (List.mem_cons_of_mem _ hc)) h
      exact ⟨rfl, hrest⟩

theorem ends_renderElements (xs : List Json) (u : List Char) : Ends (renderElements xs ++ u) := by
  cases xs <;> simp [renderElements, Ends] <;> decide

theorem ends_renderFields (fs : List (String × Json)) (u : List Char) :
    Ends (renderFields fs ++ u) := by
  rcases fs with _ | ⟨⟨k, x⟩, fs⟩ <;> simp [renderFields, Ends] <;> decide

theorem number_append_injective {x y : Json} {u v : List Char} (hx : x.kind = .number)
    (hy : y.kind = .number) (hu : Ends u) (hv : Ends v) (htell : TextsTell x.floats y.floats)
    (h : x.render ++ u = y.render ++ v) : x = y ∧ u = v := by
  have hnumeral {z : Json} (hz : z.kind = .number) : ∀ c ∈ z.render, isNumeral c = true := by
    cases z with
    | int n => exact fun _ => isNumeral_of_mem_intText
    | float z => exact fun _ => Binary64.isNumeral_of_mem_text
    | _ => cases hz
  obtain ⟨htext, hrest⟩ := numeral_append_injective (hnumeral hx) (hnumeral hy) hu hv h
  refine ⟨?_, hrest⟩
  cases x with
  | int m =>
    cases y with
    | int n => exact congrArg int (intText_injective htext)
    | float b => exact absurd htext.symm (b.text_ne_intText m)
    | _ => cases hy
  | float a =>
    cases y with
    | int n => exact absurd htext (a.text_ne_intText n)
    | float b => exact congrArg float (htell a List.mem_cons_self b List.mem_cons_self htext)
    | _ => cases hy
  | _ => cases hx

mutual

theorem render_append_injective : ∀ (x y : Json) {u v : List Char}, Ends u → Ends v →
    TextsTell x.floats y.floats → x.render ++ u = y.render ++ v → x = y ∧ u = v
  | x, y, u, v, hu, hv, htell, h => by
    -- The first character tells the kind, so the values are of one kind.
    have hkind := kind_eq_of_append h
    cases x with
    | null =>
      cases y with
      | null => exact ⟨rfl, List.append_cancel_left h⟩
      | _ => cases hkind
    | bool a =>
      cases y with
      | bool b => cases a <;> cases b <;> simp_all [render]
      | _ => cases hkind
    | int n => exact number_append_injective rfl hkind.symm hu hv htell h
    | float a => exact number_append_injective rfl hkind.symm hu hv htell h
    | str s =>
      cases y with
      | str t =>
        obtain ⟨rfl, hrest⟩ := stringText_append_injective h
        exact ⟨rfl, hrest⟩
      | _ => cases hkind
    | arr xs =>
      cases y with
      | arr ys =>
        rcases xs with _ | ⟨x, xs⟩ <;> rcases ys with _ | ⟨y, ys⟩
        · exact ⟨rfl, List.append_cancel_left h⟩
        · simp only [render, List.cons_append, List.append_assoc, List.cons.injEq, true_and] at h
          exact absurd h.symm (render_append_ne y _ _)
        · simp only [render, List.cons_append, List.append_assoc, List.cons.injEq, true_and] at h
          exact absurd h (render_append_ne x _ _)
        · have hrest := renderElements_append_injective (x :: xs) (y :: ys) htell
            (congrArg (fun cs => ',' :: cs.tail) h)
          exact ⟨congrArg arr hrest.1, hrest.2⟩
      | _ => cases hkind
    | obj fs =>
      cases y with
      | obj gs =>
        rcases fs with _ | ⟨⟨k, x⟩, fs⟩ <;> rcases gs with _ | ⟨⟨l, y⟩, gs⟩
        · exact ⟨rfl, List.append_cancel_left h⟩
        · simp [render, stringText] at h
        · simp [render, stringText] at h
        · have hrest := renderFields_append_injective ((k, x) :: fs) ((l, y) :: gs) htell
            (congrArg (fun cs => ',' :: cs.tail) h)
          exact ⟨congrArg obj hrest.1, hrest.2⟩
      | _ => cases hkind

theorem renderElements_append_injective : ∀ (xs ys : List Json) {u v : List Char},
    TextsTell (floatsOfElements xs) (floatsOfElements ys) →
      renderElements xs ++ u = renderElements ys ++ v → xs = ys ∧ u = v
  | [], [], u, v, _, h => ⟨rfl, List.append_cancel_left h⟩
  | [], y :: ys, u, v, _, h => by simp [renderElements] at h
  | x :: xs, [], u, v, _, h => by simp [renderElements] at h
  | x :: xs, y :: ys, u, v, htell, h => by
    simp only [renderElements, List.cons_append, List.append_assoc, List.cons.injEq,
      true_and] at h
    obtain ⟨rfl, hxs⟩ := render_append_injective x y (ends_renderElements xs u)
      (ends_renderElements ys v) htell.left h
    obtain ⟨rfl, hrest⟩ := renderElements_append_injective xs ys htell.right hxs
    exact ⟨rfl, hrest⟩

theorem renderFields_append_injective : ∀ (fs gs : List (String × Json)) {u v : List Char},
    TextsTell (floatsOfFields fs) (floatsOfFields gs) →
      renderFields fs ++ u = renderFields gs ++ v → fs = gs ∧ u = v
  | [], [], u, v, _, h => ⟨rfl, List.append_cancel_left h⟩
  | [], (l, y) :: gs, u, v, _, h => by simp [renderFields] at h
  | (k, x) :: fs, [], u, v, _, h => by simp [renderFields] at h
  | (k, x) :: fs, (l, y) :: gs, u, v, htell, h => by
    simp only [renderFields, List.cons_append, List.append_assoc, List.cons.injEq,
      true_and] at h
    obtain ⟨rfl, hx⟩ := stringText_append_injective h
    rw [List.cons.injEq] at hx
    obtain ⟨rfl, hfs⟩ := render_append_injective x y (ends_renderFields fs u)
      (ends_renderFields gs v) htell.left hx.2
    obtain ⟨rfl, hrest⟩ := renderFields_append_injective fs gs htell.right hfs
    exact ⟨rfl, hrest⟩

end

theorem render_injective {x y : Json} (htell : TextsTell x.floats y.floats)
    (h : x.render = y.render) : x = y := by
  have hends : Ends [] := by simp [Ends]
  exact (render_append_injective x y hends hends htell (by rw [h])).1

end UrlRouter.Json
