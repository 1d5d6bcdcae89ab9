import UrlRouter.Proofs.Regex.Means
import UrlRouter.Proofs.Regex.Parts

/-!
Texts that a regular expression begins with. Bare text in front of any other is taken over character
by character, but the last one may be repeated; and as long as the whole has no alternatives, all
matches begin with that text.
-/

namespace UrlRouter.Regex

def repeats (cs : List Char) : Bool := cs.head?.any ['?', '*', '+', '\x7b'].contains

def Expr.core : Expr → Expr
  | .loop _ _ _ e => e.core
  | e => e

def Expr.isOptional : Expr → Bool
  | .loop 0 _ _ _ => true
  | .loop (_ + 1) _ _ e => e.isOptional
  | _ => false

/-- The reader comes from the items and branches collected so far to this expression. -/
inductive Collects : List Expr → List Expr → Expr → Prop
  | done (items branches : List Expr) : Collects items branches (.ofParts items branches)
  | branch {items branches : List Expr} {e : Expr} :
      Collects [] (Expr.ofItems items.reverse :: branches) e → Collects items branches e
  | push {items branches : List Expr} {e : Expr} (item : Expr) :
      Collects (item :: items) branches e → Collects items branches e
  | again {items items' branches : List Expr} {e : Expr} {bounds : Nat × Option Nat}
      {greedy : Bool} :
      repeatLast bounds greedy items = some items' → Collects items' branches e →
        Collects items branches e

theorem repeats_of_readPart? {steps : Nat} {blanks first : Bool} {bounds : Nat × Option Nat}
    {greedy : Bool} {cs rest : List Char}
    (h : readPart? steps blanks first cs = some (.again bounds greedy, rest)) :
    repeats cs = true := by
  unfold readPart? at h
  split at h
  -- What is no repetition is another part.
  any_goals rfl
  any_goals cases h
  all_goals
    obtain ⟨_, _, heq⟩ := Option.map_eq_some_iff.1 h
    cases heq

theorem close_of_readPart? {steps : Nat} {blanks first : Bool} {cs rest : List Char}
    (h : readPart? steps blanks first cs = some (.close, rest)) :
    rest = [] ∨ ∃ after, rest = ')' :: after := by
  unfold readPart? at h
  split at h
  · cases h
    exact .inl rfl
  · cases h
    exact .inr ⟨_, rfl⟩
  any_goals cases h
  · obtain ⟨_, _, heq⟩ := Option.map_eq_some_iff.1 h
    cases heq
  · obtain ⟨_, _, heq⟩ := Option.map_eq_some_iff.1 h
    cases heq
  · obtain ⟨_, h⟩ := Option.ite_none_left_eq_some.1 h
    obtain ⟨_, _, heq⟩ := Option.map_eq_some_iff.1 h
    cases heq
  · obtain ⟨_, _, heq⟩ := Option.map_eq_some_iff.1 h
    cases heq

theorem readBody_step {steps : Nat} {blanks : Bool} {items branches : List Expr}
    {cs rest : List Char} {e : Expr}
    (h : readBody (steps + 1) blanks items branches cs = some (e, rest)) :
    (e = .ofParts items branches ∧ (rest = [] ∨ ∃ after, rest = ')' :: after)) ∨
      (∃ cs', readBody steps blanks [] (Expr.ofItems items.reverse :: branches) cs' =
        some (e, rest)) ∨
      (∃ blanks' item cs', readBody steps blanks' (item :: items) branches cs' = some (e, rest)) ∨
      repeats (skip blanks cs) = true ∧ ∃ bounds greedy items' cs',
        repeatLast bounds greedy items = some items' ∧
          readBody steps blanks items' branches cs' = some (e, rest) := by
  rw [readBody_succ] at h
  obtain ⟨⟨part, cs'⟩, hpart, h⟩ := Option.bind_eq_some_iff.1 h
  cases part with
  | close =>
    cases h
    exact .inl ⟨rfl, close_of_readPart? hpart⟩
  | branch => exact .inr (.inl ⟨_, h⟩)
  | item item => exact .inr (.inr (.inl ⟨_, _, _, h⟩))
  | opening o =>
    cases o with
    | flags changes => exact .inr (.inr (.inl ⟨_, _, _, h⟩))
    | group kind =>
      obtain ⟨⟨body, cs⟩, _, h⟩ := Option.bind_eq_some_iff.1 h
      dsimp only at h
      split at h
      · exact .inr (.inr (.inl ⟨_, _, _, h⟩))
      · cases h
  | again bounds greedy =>
    obtain ⟨items', hitems, h⟩ := Option.bind_eq_some_iff.1 h
    exact .inr (.inr (.inr ⟨repeats_of_readPart? hpart, _, _, items', _, hitems, h⟩))

theorem collects_of_readBody {steps : Nat} {blanks : Bool} {items branches : List Expr}
    {cs rest : List Char} {e : Expr}
    (h : readBody steps blanks items branches cs = some (e, rest)) :
    Collects items branches e := by
  induction steps generalizing blanks items branches cs with
  | zero =>
    rw [readBody] at h
    cases h
  | succ steps ih =>
    rcases readBody_step h with
      ⟨rfl, _⟩ | ⟨cs', h⟩ | ⟨blanks', item, cs', h⟩ | ⟨_, bounds, greedy, items', cs', hitems, h⟩
    · exact .done items branches
    · exact .branch (ih h)
    · exact .push item (ih h)
    · exact .again hitems (ih h)

theorem rest_of_readBody {steps : Nat} {blanks : Bool} {items branches : List Expr}
    {cs rest : List Char} {e : Expr}
    (h : readBody steps blanks items branches cs = some (e, rest)) :
    rest = [] ∨ ∃ after, rest = ')' :: after := by
  induction steps generalizing blanks items branches cs with
  | zero =>
    rw [readBody] at h
    cases h
  | succ steps ih =>
    rcases readBody_step h with
      ⟨_, hrest⟩ | ⟨cs', h⟩ | ⟨blanks', item, cs', h⟩ | ⟨_, bounds, greedy, items', cs', _, h⟩
    · exact hrest
    · exact ih h
    · exact ih h
    · exact ih h

theorem repeatLast_cons {bounds : Nat × Option Nat} {greedy : Bool} {item : Expr}
    {items items' : List Expr} (h : repeatLast bounds greedy (item :: items) = some items') :
    items' = .loop bounds.1 bounds.2 greedy item :: items := by
  unfold repeatLast at h
  split at h
  · next heq => cases heq
  · cases h
  · cases h
  · next heq =>
    cases heq
    cases h
    rfl

namespace Collects

variable {item e : Expr} {items branches : List Expr}

theorem keeps_branches (h : Collects items branches e) :
    ∃ last others, e = .ofBranches (branches.reverse ++ last :: others) := by
  induction h with
  | done items branches => exact ⟨Expr.ofItems items.reverse, [], by simp [Expr.ofParts]⟩
  | @branch items branches e _ ih =>
    obtain ⟨last, others, rfl⟩ := ih
    exact ⟨Expr.ofItems items.reverse, last :: others, by simp⟩
  | push item _ ih => exact ih
  | again _ _ ih => exact ih

theorem keeps_items (h : Collects (item :: items) branches e) :
    ∃ last more others, last.core = item.core ∧
      e = .ofBranches
        (branches.reverse ++ Expr.ofItems (items.reverse ++ last :: more) :: others) := by
  generalize hall : item :: items = all at h
  induction h generalizing item items with
  | done all branches =>
    subst hall
    exact ⟨item, [], [], rfl, by simp [Expr.ofParts]⟩
  | branch h =>
    subst hall
    obtain ⟨last, others, rfl⟩ := h.keeps_branches
    exact ⟨item, [], last :: others, rfl, by simp⟩
  | push next _ ih =>
    subst hall
    obtain ⟨last, more, others, _, rfl⟩ := ih rfl
    exact ⟨item, last :: more, others, rfl, by simp⟩
  | again hitems _ ih =>
    subst hall
    obtain rfl := repeatLast_cons hitems
    obtain ⟨last, more, others, hlast, rfl⟩ := ih rfl
    exact ⟨last, more, others, hlast, rfl⟩

end Collects

theorem readBody_keeps_items {steps : Nat} {items branches : List Expr} {cs rest : List Char}
    {e : Expr} (h : readBody steps false items branches cs = some (e, rest))
    (hcs : repeats cs = false) :
    ∃ more others,
      e = .ofBranches (branches.reverse ++ Expr.ofItems (items.reverse ++ more) :: others) := by
  cases steps with
  | zero =>
    rw [readBody] at h
    cases h
  | succ steps =>
    rcases readBody_step h with
      ⟨rfl, _⟩ | ⟨cs', h⟩ | ⟨blanks', item, cs', h⟩ | ⟨hrepeats, _⟩
    · exact ⟨[], [], by simp [Expr.ofParts]⟩
    · obtain ⟨last, others, rfl⟩ := (collects_of_readBody h).keeps_branches
      exact ⟨[], last :: others, by simp⟩
    · obtain ⟨last, more, others, _, rfl⟩ := (collects_of_readBody h).keeps_items
      exact ⟨last :: more, others, by simp⟩
    · rw [skip, if_neg Bool.false_ne_true, hcs] at hrepeats
      cases hrepeats

theorem readBody_bareText {text : List Char} (h : ∀ c ∈ text, isBare c = true) (steps : Nat)
    (items branches : List Expr) (cs : List Char) :
    readBody (text.length + steps) false items branches (text ++ cs) =
      readBody steps false ((text.map (.char · false)).reverse ++ items) branches cs := by
  induction text generalizing items with
  | nil => simp
  | cons c text ih =>
    rw [List.forall_mem_cons] at h
    have hsteps : (c :: text).length + steps = text.length + steps + 1 := by
      rw [List.length_cons]
      omega
    rw [hsteps, List.cons_append, readBody_bare h.1, ih h.2]
    simp

theorem ofBranches_of_ne_alt {e : Expr} {others : List Expr}
    (h : ∀ branches, Expr.ofBranches (e :: others) ≠ .alt branches) :
    Expr.ofBranches (e :: others) = e := by
  cases others with
  | nil => rfl
  | cons next others => exact absurd rfl (h (e :: next :: others))

theorem items_of_readBody {steps : Nat} {pre cs rest : List Char} {body : Expr}
    (hpre : ∀ c ∈ pre, isBare c = true) (hsteps : pre.length ≤ steps)
    (h : readBody steps false [] [] (pre ++ cs) = some (body, rest))
    (hbody : ∀ branches, body ≠ .alt branches) :
    (∃ more, body = .ofItems (pre.dropLast.map (.char · false) ++ more)) ∧
      (repeats cs = false → ∃ more, body = .ofItems (pre.map (.char · false) ++ more)) := by
  obtain ⟨steps, rfl⟩ := Nat.exists_eq_add_of_le hsteps
  rw [readBody_bareText hpre, List.append_nil] at h
  constructor
  · rcases List.eq_nil_or_concat pre with rfl | ⟨init, c, hconcat⟩
    · exact ⟨[body], rfl⟩
    · rw [List.concat_eq_append] at hconcat
      subst hconcat
      rw [List.map_append, List.map_singleton, List.reverse_concat] at h
      obtain ⟨last, more, others, _, rfl⟩ := (collects_of_readBody h).keeps_items
      rw [List.reverse_nil, List.nil_append, List.reverse_reverse] at hbody ⊢
      rw [List.dropLast_concat]
      exact ⟨last :: more, ofBranches_of_ne_alt hbody⟩
  · intro hcs
    obtain ⟨more, others, rfl⟩ := readBody_keeps_items h hcs
    rw [List.reverse_nil, List.nil_append, List.reverse_reverse] at hbody ⊢
    exact ⟨more, ofBranches_of_ne_alt hbody⟩

theorem nodes?_append_eq_some {es fs : List Expr} {f k : Flags} {i l : Nat} {ns : List Node}
    (h : nodes? f i (es ++ fs) = some (ns, k, l)) :
    ∃ ns₁ g j ns₂, nodes? f i es = some (ns₁, g, j) ∧ nodes? g j fs = some (ns₂, k, l) ∧
      ns = ns₁ ++ ns₂ := by
  induction es generalizing f i ns with
  | nil => exact ⟨[], f, i, ns, rfl, h, rfl⟩
  | cons e es ih =>
    rw [List.cons_append, nodes?] at h
    split at h
    · next n g j he =>
      obtain ⟨⟨ns', k', l'⟩, hns, heq⟩ := Option.map_eq_some_iff.1 h
      cases heq
      obtain ⟨ns₁, g', j', ns₂, hes, hfs, rfl⟩ := ih hns
      refine ⟨n :: ns₁, g', j', ns₂, ?_, hfs, rfl⟩
      rw [nodes?, he]
      dsimp only
      rw [hes]
      rfl
    · cases h

theorem reading_ofItems {es : List Expr} {f g : Flags} {i j : Nat} {n : Node}
    (h : (Expr.ofItems es).node? f i = some (n, g, j)) :
    ∃ ns, nodes? f i es = some (ns, g, j) ∧ n.reading = Node.readingOfAll ns := by
  unfold Expr.ofItems at h
  split at h
  · rw [Expr.node?] at h
    cases h
    exact ⟨[], rfl, rfl⟩
  · refine ⟨[n], ?_, (Node.readingOfAll_singleton n).symm⟩
    rw [nodes?, h]
    rfl
  · rw [Expr.node?] at h
    obtain ⟨⟨ns, g', j'⟩, hns, heq⟩ := Option.map_eq_some_iff.1 h
    cases heq
    exact ⟨ns, hns, Node.reading_joined ns⟩

def Reading.Begins (m : Reading) (text : List Char) : Prop :=
  ∀ b w a caps, m b w a caps → text <+: w

theorem Reading.Begins.append {m : Reading} {text : List Char} (h : m.Begins text) (k : Reading) :
    (m.append k).Begins text := by
  rintro b w a caps ⟨u, v, d, e, rfl, _, hm, _⟩
  exact (h b u (v ++ a) d hm).trans (List.prefix_append u v)

theorem Reading.Begins.rounds {m : Reading} {text : List Char} (h : m.Begins text) (least : Nat)
    (most : Option Nat) : (m.rounds (least + 1) most).Begins text := by
  rintro b w a caps ⟨n, hleast, _, hm⟩
  obtain ⟨k, rfl⟩ : ∃ k, n = k + 1 := ⟨n - 1, by omega⟩
  exact h.append (times k m) b w a caps hm

theorem Node.begins_repeated {n : Node} {text : List Char} (h : n.reading.Begins text) (least : Nat)
    (most : Option Nat) (greedy : Bool) :
    (repeated (least + 1) most greedy n).reading.Begins text := by
  have hpositive : ∃ k most', (if n.staysInPlace then
      (min (least + 1) 1, some (min (most.getD 1) 1)) else (least + 1, most)) = (k + 1, most') := by
    split
    · exact ⟨0, _, by rw [Nat.min_eq_right (Nat.le_add_left 1 least)]⟩
    · exact ⟨least, most, rfl⟩
  obtain ⟨k, most', hbounds⟩ := hpositive
  rw [repeated, hbounds]
  split
  · next hzero => cases hzero
  split
  · exact h
  · exact h.rounds k most'

theorem begins_of_text_items {text : List Char} {more : List Expr} {g : Flags} {i j : Nat}
    {n : Node}
    (h : (Expr.ofItems (text.map (.char · false) ++ more)).node? .initial i = some (n, g, j)) :
    n.reading.Begins text := by
  obtain ⟨ns, hns, hreading⟩ := reading_ofItems h
  obtain ⟨ns₁, g', j', ns₂, htext, _, rfl⟩ := nodes?_append_eq_some hns
  rw [nodes?_text] at htext
  cases htext
  have hword : (Reading.word text).Begins text := by
    rintro b w a caps ⟨rfl, _⟩
    exact List.prefix_rfl
  rw [hreading, Node.readingOfAll_append, readingOfAll_text]
  exact hword.append _

theorem begins_of_core {f g : Flags} {i j : Nat} {text : List Char} :
    ∀ {e : Expr} {n : Node}, e.isOptional = false → e.node? f i = some (n, g, j) →
      (∀ {n g j}, e.core.node? f i = some (n, g, j) → n.reading.Begins text) →
        n.reading.Begins text
  | .loop 0 _ _ _, _, hneeded, _, _ => by cases hneeded
  | .loop (least + 1) most greedy e, _, hneeded, hn, hcore => by
    rw [Expr.node?] at hn
    obtain ⟨⟨n, g', j'⟩, hbody, heq⟩ := Option.map_eq_some_iff.1 hn
    cases heq
    exact Node.begins_repeated (begins_of_core (e := e) hneeded hbody hcore) least most _
  | .empty, _, _, hn, hcore | .flags _, _, _, hn, hcore | .char _ _, _, _, hn, hcore
  | .dot, _, _, hn, hcore | .mark _, _, _, hn, hcore | .charClass _, _, _, hn, hcore
  | .group _ _, _, _, hn, hcore | .seq _, _, _, hn, hcore | .alt _, _, _, hn, hcore => hcore hn

/-- The anchored expression needs a group behind the start of the line, which may stand before more,
and the group has no alternatives. -/
def Expr.isUndivided : Expr → Bool
  | .seq (.mark .lineStart :: item :: _) =>
      match item.core with
      | .group (.plain []) (.alt _) => false
      | .group (.plain []) _ => !item.isOptional
      | _ => false
  | _ => false

/-- The text has no alternatives outside of its groups, and does not end the group around it for
others or to make it optional. -/
def undivided (source : String) : Bool := (Expr.read? (wrapped source).toList).any Expr.isUndivided

theorem Expr.isUndivided_iff {e : Expr} : e.isUndivided = true ↔
    ∃ item body more, e = .seq (.mark .lineStart :: item :: more) ∧ item.isOptional = false ∧
      item.core = .group (.plain []) body ∧ ∀ branches, body ≠ .alt branches := by
  unfold isUndivided
  split
  · next item more =>
    split
    · next hcore => simp [hcore]
    · next body hne hcore =>
      simp only [Bool.not_eq_true']
      constructor
      · intro hneeded
        exact ⟨item, body, more, rfl, hneeded, hcore, hne⟩
      · rintro ⟨_, _, _, heq, hneeded, _⟩
        cases heq
        exact hneeded
    · next hcore =>
      simp only [Bool.false_eq_true, false_iff]
      rintro ⟨_, body, _, heq, _, hgroup, _⟩
      cases heq
      exact hcore body hgroup
  · next hne =>
    simp only [Bool.false_eq_true, false_iff]
    rintro ⟨item, _, more, rfl, _⟩
    exact hne item more rfl

theorem body_of_undivided {source : String} {whole : Expr}
    (hread : Expr.read? (wrapped source).toList = some whole) (h : whole.isUndivided = true) :
    ∃ steps body item more rest, source.toList.length ≤ steps ∧
      readBody steps false [] [] (source.toList ++ [')', '$']) = some (body, rest) ∧
      whole = .seq (.mark .lineStart :: item :: more) ∧ item.isOptional = false ∧
      item.core = .group (.plain []) body ∧ ∀ branches, body ≠ .alt branches := by
  rw [toList_wrapped] at hread
  obtain ⟨body, cs', hgroup, hrest⟩ := group_of_read?_anchored hread
  obtain ⟨last, more, others, hlast, hwhole⟩ := (collects_of_readBody hrest).keeps_items
  obtain ⟨item, body', more', heq, hneeded, hcore, hne⟩ := Expr.isUndivided_iff.1 h
  rw [List.reverse_nil, List.nil_append] at hwhole
  have hone : whole = .ofItems ([Expr.mark .lineStart].reverse ++ last :: more) := by
    rw [hwhole]
    refine ofBranches_of_ne_alt fun branches halt => ?_
    rw [← hwhole, heq] at halt
    cases halt
  rw [heq] at hone
  obtain ⟨rfl, rfl⟩ : item = last ∧ more' = more := by
    simpa [Expr.ofItems] using hone
  obtain ⟨_, rfl⟩ := Expr.group.inj (hcore.symm.trans hlast)
  exact ⟨_, body', item, more', _, by simp, hgroup, heq, hneeded, hcore, hne⟩

theorem node?_lineStart {item : Expr} {more : List Expr} {node : Node} {g : Flags} {i : Nat}
    (h : (Expr.seq (.mark .lineStart :: item :: more)).node? .initial 0 = some (node, g, i)) :
    ∃ n ns g' j, item.node? .initial 0 = some (n, g', j) ∧
      node = .joined (.assertion .textStart :: n :: ns) := by
  rw [Expr.node?] at h
  obtain ⟨⟨ns, _, _⟩, hns, heq⟩ := Option.map_eq_some_iff.1 h
  cases heq
  obtain ⟨⟨rest, _⟩, hrest, heq⟩ := Option.map_eq_some_iff.1 hns
  cases heq
  rw [nodes?] at hrest
  split at hrest
  · next n g' j hitem =>
    obtain ⟨⟨behind, _⟩, _, heq⟩ := Option.map_eq_some_iff.1 hrest
    cases heq
    exact ⟨_, behind, _, _, hitem, rfl⟩
  · cases hrest

theorem Node.prefix_of_reading_anchored {n : Node} {ns : List Node} {text b w a : List Char}
    {caps : Captures} (hn : n.reading.Begins text)
    (h : (Node.joined (.assertion .textStart :: n :: ns)).reading b w a caps) :
    text <+: b.reverse ++ w ++ a := by
  rw [Node.reading_joined, Node.readingOfAll, Node.readingOfAll] at h
  obtain ⟨_, _, _, _, rfl, _, ⟨hstart, rfl, _⟩, hrest⟩ := h
  obtain rfl : b = [] := by simpa [Assertion.holds] using hstart
  exact (hn.append _ _ _ _ _ hrest).trans (by simp)

theorem prefix_of_isMatch {source : String} {r : Regex}
    (hr : compile? (wrapped source) = some r) (hundivided : undivided source = true)
    {pre tail : List Char} (hsource : source.toList = pre ++ tail)
    (hpre : ∀ c ∈ pre, isBare c = true) {text : String} (hmatch : r.isMatch text = true) :
    (if repeats tail then pre.dropLast else pre) <+: text.toList := by
  obtain ⟨whole, node, _, hread, hnode, rfl⟩ := exists_node_of_compile? hr
  obtain ⟨caps, hcaps⟩ := Option.isSome_iff_exists.1 hmatch
  obtain ⟨b, w, a, htext, hreading⟩ := Program.captures?_sound hcaps
  rw [htext]
  rw [undivided, hread] at hundivided
  obtain ⟨steps, body, item, more, rest, hsteps, hbody, rfl, hneeded, hcore, hne⟩ :=
    body_of_undivided hread hundivided
  obtain ⟨n, ns, _, _, hn, rfl⟩ := node?_lineStart hnode
  have hbegins {start : List Char} (h : ∃ es, body = .ofItems (start.map (.char · false) ++ es)) :
      start <+: b.reverse ++ w ++ a := by
    obtain ⟨es, rfl⟩ := h
    refine Node.prefix_of_reading_anchored (begins_of_core hneeded hn ?_) hreading
    intro n g j hgroup
    rw [hcore, Expr.node?] at hgroup
    obtain ⟨_, hitems, heq⟩ := Option.map_eq_some_iff.1 hgroup
    cases heq
    exact begins_of_text_items hitems
  have hlength : pre.length ≤ steps := by
    rw [hsource, List.length_append] at hsteps
    omega
  rw [hsource, List.append_assoc] at hbody
  obtain ⟨hinit, hall⟩ := items_of_readBody hpre hlength hbody hne
  split
  · exact hbegins hinit
  · next hrepeats =>
    refine hbegins (hall ?_)
    cases tail with
    | nil => rfl
    | cons c tail => simpa [repeats] using hrepeats

end UrlRouter.Regex
