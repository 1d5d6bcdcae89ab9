import UrlRouter.Unicode.WhiteSpace

namespace UrlRouter.Text

open Unicode

def cut (sep : List Char) : List Char → Option (List Char × List Char)
  | [] => if sep = [] then some ([], []) else none
  | c :: cs =>
      match sep.isPrefixOf? (c :: cs) with
      | some rest => some ([], rest)
      | none => (cut sep cs).map fun (before, after) => (c :: before, after)

theorem eq_append_of_isPrefixOf? {a b rest : List Char} (h : a.isPrefixOf? b = some rest) :
    b = a ++ rest := by
  induction a generalizing b with
  | nil => exact Option.some.inj h
  | cons x a ih =>
      cases b with
      | nil => cases h
      | cons y b =>
          change (if x == y then a.isPrefixOf? b else none) = some rest at h
          split at h
          · next hxy => rw [ih h, beq_iff_eq.1 hxy]; rfl
          · cases h

theorem eq_append_of_cut {sep s before after : List Char} (h : cut sep s = some (before, after)) :
    s = before ++ sep ++ after := by
  induction s generalizing before with
  | nil =>
      simp only [cut] at h
      split at h
      · next hs => cases h; simp [hs]
      · cases h
  | cons c cs ih =>
      simp only [cut] at h
      split at h
      · next rest hp => cases h; simpa using eq_append_of_isPrefixOf? hp
      · obtain ⟨⟨b, a⟩, hb, hab⟩ := Option.map_eq_some_iff.1 h
        cases hab
        simp [ih hb]

def cutAt (p : Char → Bool) : List Char → Option (List Char × List Char)
  | [] => none
  | c :: cs =>
      if p c then some ([], cs) else (cutAt p cs).map fun (before, after) => (c :: before, after)

def pieces (sep : Char) : List Char → List (List Char)
  | [] => [[]]
  | c :: cs =>
      if c = sep then [] :: pieces sep cs
      else
        match pieces sep cs with
        | [] => [[c]]
        | p :: ps => (c :: p) :: ps

theorem pieces_ne_nil (sep : Char) (cs : List Char) : pieces sep cs ≠ [] := by
  cases cs with
  | nil => simp [pieces]
  | cons c cs =>
      simp only [pieces]
      split
      · simp
      · split <;> simp

def dropEndWhile (p : Char → Bool) (cs : List Char) : List Char :=
  (cs.reverse.dropWhile p).reverse

def trimStart (cs : List Char) : List Char := cs.dropWhile isWhiteSpace

def trimEnd (cs : List Char) : List Char := dropEndWhile isWhiteSpace cs

def trim (cs : List Char) : List Char := trimEnd (trimStart cs)

def trimmed (s : String) : String := String.ofList (trim s.toList)

def cutString (sep s : String) : Option (String × String) :=
  (cut sep.toList s.toList).map fun (before, after) => (String.ofList before, String.ofList after)

end UrlRouter.Text
