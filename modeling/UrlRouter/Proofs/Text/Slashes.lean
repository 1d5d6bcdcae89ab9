import Mathlib.Data.List.DropRight
import Mathlib.Data.List.TakeWhile

namespace UrlRouter.Text

variable {u cs : List Char}

def leadingTrimmed (cs : List Char) : List Char := cs.dropWhile (· = '/')

theorem takeWhile_append_leadingTrimmed (cs : List Char) :
    cs.takeWhile (· = '/') ++ leadingTrimmed cs = cs :=
  List.takeWhile_append_dropWhile

theorem eq_of_mem_takeWhile_slash {c : Char} (h : c ∈ cs.takeWhile (· = '/')) : c = '/' := by
  simpa using List.mem_takeWhile_imp h

theorem leadingTrimmed_of_slashes (hu : ∀ c ∈ u, c = '/') : leadingTrimmed u = [] :=
  List.dropWhile_eq_nil_iff.2 fun c hc => by simpa using hu c hc

theorem leadingTrimmed_append_of_eq_nil (h : leadingTrimmed u = []) (v : List Char) :
    leadingTrimmed (u ++ v) = leadingTrimmed v :=
  List.dropWhile_append_of_pos (List.dropWhile_eq_nil_iff.1 h)

theorem leadingTrimmed_append_of_ne_nil (h : leadingTrimmed u ≠ []) (v : List Char) :
    leadingTrimmed (u ++ v) = leadingTrimmed u ++ v := by
  unfold leadingTrimmed at h ⊢
  rw [List.dropWhile_append, if_neg (by simpa using h)]

theorem leadingTrimmed_leadingTrimmed (cs : List Char) :
    leadingTrimmed (leadingTrimmed cs) = leadingTrimmed cs :=
  List.dropWhile_idempotent _ cs

theorem head?_leadingTrimmed (cs : List Char) : (leadingTrimmed cs).head? ≠ some '/' := by
  intro hhead
  unfold leadingTrimmed at hhead
  simpa [hhead] using List.head?_dropWhile_not (· = '/') cs

theorem leadingTrimmed_of_head? (h : cs.head? ≠ some '/') : leadingTrimmed cs = cs := by
  cases cs with
  | nil => rfl
  | cons c cs => exact List.dropWhile_cons_of_neg (by simpa using h)

end UrlRouter.Text
