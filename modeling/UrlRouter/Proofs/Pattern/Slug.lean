import UrlRouter.Pattern.Slug
import UrlRouter.Proofs.Unicode.Lowercase

/-!
The characters of slugs. Lowercase forms of other characters lie above the punctuation of ASCII, so
a slug has no punctuation but what it keeps and its dashes.
-/

namespace UrlRouter

open Unicode

theorem mem_slugFrom {d : Char} {kept gap : Bool} {cs : List Char}
    (h : d ∈ slugFrom kept gap cs) :
    d = '-' ∨ ∃ c ∈ cs, isSlugChar c = true ∧ d ∈ lowercase c := by
  induction cs generalizing kept gap with
  | nil => cases h
  | cons c cs ih =>
    have hrest {kept gap : Bool} (h : d ∈ slugFrom kept gap cs) :
        d = '-' ∨ ∃ a ∈ c :: cs, isSlugChar a = true ∧ d ∈ lowercase a :=
      (ih h).imp id fun ⟨a, ha, hd⟩ => ⟨a, List.mem_cons_of_mem c ha, hd⟩
    unfold slugFrom at h
    split at h
    · next hc =>
      rcases List.mem_append.1 h with h | h
      · rcases List.mem_append.1 h with h | h
        · split at h
          · exact .inl (List.mem_singleton.1 h)
          · cases h
        · exact .inr ⟨c, List.mem_cons_self, hc, h⟩
      · exact hrest h
    · exact hrest h

theorem mem_slugFrom_of_mem_lowercase {c d : Char} {cs : List Char} (hc : c ∈ cs)
    (hkept : isSlugChar c = true) (hd : d ∈ lowercase c) (kept gap : Bool) :
    d ∈ slugFrom kept gap cs := by
  induction cs generalizing kept gap with
  | nil => cases hc
  | cons a cs ih =>
    unfold slugFrom
    rcases List.mem_cons.1 hc with rfl | hc
    · rw [if_pos hkept]
      exact List.mem_append_left _ (List.mem_append_right _ hd)
    · split
      · exact List.mem_append_right _ (ih hc true false)
      · exact ih hc kept true

theorem not_mem_slugFrom {d : Char} (hd : d.toNat < 0x61)
    (hkept : isSlugChar d = false) (hdash : d ≠ '-') (kept gap : Bool) (cs : List Char) :
    d ∉ slugFrom kept gap cs := by
  intro h
  rcases mem_slugFrom h with rfl | ⟨c, _, hc, hmem⟩
  · exact hdash rfl
  · rw [eq_of_mem_lowercase hd hmem, hc] at hkept
    cases hkept

theorem toList_urlize (s : String) : (urlize s).toList = slug s.toList := by
  rw [urlize, String.toList_ofList]

theorem not_mem_urlize {d : Char} (hd : d.toNat < 0x61)
    (hkept : isSlugChar d = false) (hdash : d ≠ '-') (s : String) : d ∉ (urlize s).toList := by
  rw [toList_urlize]
  exact not_mem_slugFrom hd hkept hdash false false s.toList

theorem slash_not_mem_urlize (s : String) : '/' ∉ (urlize s).toList :=
  not_mem_urlize (by decide) (by decide +kernel) (by decide) s

theorem question_not_mem_urlize (s : String) : '?' ∉ (urlize s).toList :=
  not_mem_urlize (by decide) (by decide +kernel) (by decide) s

end UrlRouter
