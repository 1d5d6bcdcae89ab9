import UrlRouter.Dispatch.Invocation
import UrlRouter.Proofs.Json.Quoting
import UrlRouter.Proofs.Json.Text

namespace UrlRouter

theorem cacheKey_toList (descriptor : String) (args : Args) :
    (cacheKey descriptor args).toList =
      descriptor.toList ++ '(' :: (Json.ofArgs args).render ++ [')'] := by
  simp [cacheKey, Json.text]

theorem cacheKey_split {d e : String} {a b : Args} (h : cacheKey d a = cacheKey e b) :
    d = e ∧ (Json.ofArgs a).render = (Json.ofArgs b).render := by
  have hchars := congrArg String.toList h
  rw [cacheKey_toList, cacheKey_toList] at hchars
  obtain ⟨hdescriptor, hargs⟩ := Json.append_opening_injective (List.append_cancel_right hchars)
  exact ⟨String.toList_injective hdescriptor, hargs⟩

theorem cacheKey_eq_iff_render {d e : String} {a b : Args} :
    cacheKey d a = cacheKey e b ↔ d = e ∧ (Json.ofArgs a).render = (Json.ofArgs b).render := by
  refine ⟨cacheKey_split, ?_⟩
  rintro ⟨rfl, hargs⟩
  rw [cacheKey, cacheKey, Json.text, Json.text, hargs]

theorem Json.ofArgs_injective {a b : Args} (h : Json.ofArgs a = Json.ofArgs b) : a = b :=
  Dict.ext_entries (Json.obj.inj h)

theorem cacheKey_eq_iff {d e : String} {a b : Args}
    (hfloats : Json.TextsTell (Json.ofArgs a).floats (Json.ofArgs b).floats) :
    cacheKey d a = cacheKey e b ↔ d = e ∧ a = b := by
  constructor
  · intro h
    obtain ⟨hdescriptor, hargs⟩ := cacheKey_split h
    exact ⟨hdescriptor, Json.ofArgs_injective (Json.render_injective hfloats hargs)⟩
  · rintro ⟨rfl, rfl⟩
    rfl

theorem cacheKey_eq_iff_opening_in_argument :
    let tenth : Json := .float ⟨false, 0x3FB999999999999A, by decide⟩
    let a : Args := .ofList [("q", .str "(\x7b\x7d"), ("weight", tenth)]
    let b : Args := .ofList [("weight", tenth)]
    Json.TextsTell (Json.ofArgs a).floats (Json.ofArgs b).floats ∧
      (cacheKey "fn@list" a = cacheKey "fn@list(\x7b\"q\":\"" b ↔
        "fn@list" = "fn@list(\x7b\"q\":\"" ∧ a = b) := by
  intro tenth a b
  have htell : Json.TextsTell (Json.ofArgs a).floats (Json.ofArgs b).floats := by decide +kernel
  exact ⟨htell, cacheKey_eq_iff htell⟩

end UrlRouter
