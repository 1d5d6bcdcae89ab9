import UrlRouter.Proofs.Regex.Prefix
import UrlRouter.Proofs.Regex.Tail

/-!
Expressions between the anchors. Their group is closed by the parenthesis that was put there, or by
one that the text brings along; in the first case the text is an expression by itself, and the whole
matches exactly the texts that it matches from the start to the end.
-/

namespace UrlRouter.Regex

/-- The node of a text that is an expression. How large it is does not matter here. -/
def node? (source : String) : Option Node :=
  (Expr.read? source.toList).bind fun e => (e.node? .initial 0).map (·.1)

def Valid (source : String) : Prop := (node? source).isSome = true

instance (source : String) : Decidable (Valid source) := inferInstanceAs (Decidable (_ = true))

def MatchesWhole (source text : String) : Prop :=
  ∃ n caps, node? source = some n ∧ n.reading [] text.toList [] caps

/-- The source has a closing parenthesis that closes none of its own groups. -/
def closesGroup (source : String) : Bool :=
  (readBody (source.toList.length + 1) false [] [] source.toList).any fun (_, rest) => !rest.isEmpty

structure Anchored (source : String) (accepts : String → Bool) : Prop where
  valid_iff : Valid source ↔ closesGroup source = false
  accepts_iff : Valid source → ∀ text, accepts text = true ↔ MatchesWhole source text

theorem closesGroup_eq_false_of_not_mem {source : String} (h : ')' ∉ source.toList) :
    closesGroup source = false := by
  unfold closesGroup
  cases hbody : readBody (source.toList.length + 1) false [] [] source.toList with
  | none => rfl
  | some read =>
    rcases rest_of_readBody hbody with hrest | ⟨after, hrest⟩
    · simp [hrest]
    · have hparen : ')' ∈ read.2 := hrest ▸ List.mem_cons_self
      exact absurd ((suffix_readBody hbody).mem hparen) h

theorem eq_append_of_suffix_closing {cs src : List Char} (h : ')' :: cs <:+ src ++ [')', '$']) :
    ∃ w, ')' :: cs = w ++ [')', '$'] := by
  obtain ⟨u, hu⟩ := h
  rcases List.append_eq_append_iff.1 hu with ⟨w, _, hw⟩ | ⟨w, _, hw⟩
  · exact ⟨w, hw⟩
  · match w with
    | [] => exact ⟨[], hw.symm⟩
    | [c] => cases hw
    | c :: d :: w => cases w <;> cases hw

theorem readBody_of_compile?_wrapped {source : String} {r : Regex}
    (h : compile? (wrapped source) = some r) :
    ∃ e rest,
      readBody (source.toList.length + 1) false [] [] source.toList = some (e, rest) ∧
        (rest = [] → ∃ n, node? source = some n ∧
          r.program = .ofNode (.joined [.assertion .textStart, n, .assertion .textEnd])) := by
  obtain ⟨whole, node, _, hwhole, hnode, rfl⟩ := exists_node_of_compile? h
  rw [toList_wrapped] at hwhole
  obtain ⟨body, cs, hbody, hgroup⟩ := group_of_read?_anchored hwhole
  obtain ⟨w, hw⟩ := eq_append_of_suffix_closing (suffix_readBody hbody)
  rw [hw] at hbody
  have halone := readBody_local hbody (Nat.lt_succ_self source.toList.length)
  refine ⟨body, w, halone, ?_⟩
  rintro rfl
  cases hw
  have hparts : whole = .seq [.mark .lineStart, .group (.plain []) body, .mark .lineEnd] := by
    cases hgroup
    rfl
  subst hparts
  obtain ⟨_, hnames, hdepth⟩ := read?_eq_some_iff.1 hwhole
  have hread : Expr.read? source.toList = some body := by
    refine read?_eq_some_iff.2 ⟨halone, ?_, ?_⟩
    · simpa [Expr.groupNames, namesOfAll] using hnames
    · simp [Expr.depth, depths] at hdepth
      omega
  rw [Expr.node?, nodes?_anchored] at hnode
  obtain ⟨⟨ns, _⟩, hnodes, heq⟩ := Option.map_eq_some_iff.1 hnode
  obtain ⟨⟨n, _⟩, hn, hns⟩ := Option.map_eq_some_iff.1 hnodes
  cases hns
  cases heq
  refine ⟨n, Option.bind_eq_some_iff.2 ⟨body, hread, ?_⟩, rfl⟩
  rw [hn]
  rfl

theorem readBody_of_valid {source : String} (h : Valid source) :
    ∃ e, readBody (source.toList.length + 1) false [] [] source.toList = some (e, []) := by
  obtain ⟨n, hn⟩ := Option.isSome_iff_exists.1 h
  obtain ⟨e, hread, _⟩ := Option.bind_eq_some_iff.1 hn
  exact ⟨e, (read?_eq_some_iff.1 hread).1⟩

theorem anchored_of_compile?_wrapped {source : String} {r : Regex}
    (h : compile? (wrapped source) = some r) : Anchored source r.isMatch := by
  obtain ⟨e, rest, hbody, hend⟩ := readBody_of_compile?_wrapped h
  have hrest (hvalid : Valid source) : rest = [] := by
    obtain ⟨e', hread⟩ := readBody_of_valid hvalid
    cases hbody.symm.trans hread
    rfl
  constructor
  · have hcloses : closesGroup source = false ↔ rest = [] := by
      rw [closesGroup, hbody]
      simp
    rw [hcloses]
    refine ⟨hrest, fun hempty => ?_⟩
    obtain ⟨n, hn, _⟩ := hend hempty
    exact Option.isSome_iff_exists.2 ⟨n, hn⟩
  · intro hvalid text
    obtain ⟨n, hn, hprogram⟩ := hend (hrest hvalid)
    constructor
    · intro hmatch
      obtain ⟨caps, hcaps⟩ := Option.isSome_iff_exists.1 hmatch
      exact ⟨n, caps, hn, reading_of_captures? hprogram hcaps⟩
    · rintro ⟨n', caps, hn', hreading⟩
      cases hn.symm.trans hn'
      exact isSome_captures?_of_reading hprogram hreading

end UrlRouter.Regex
