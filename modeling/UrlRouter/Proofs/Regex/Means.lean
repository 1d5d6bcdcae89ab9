import UrlRouter.Proofs.Regex.NormalForm
import UrlRouter.Proofs.Regex.Parsing
import UrlRouter.Proofs.Regex.Search
import UrlRouter.Regex.Basic

/-!
The meaning of the texts that patterns are compiled to: from the text to its items, from the items
to their nodes, and from the nodes to what they read.
-/

namespace UrlRouter.Regex

namespace Reading

def segment : Reading := fun _ w _ caps => w ≠ [] ∧ '/' ∉ w ∧ caps = []

def anyWord (words : List (List Char)) : Reading := fun _ w _ caps => w ∈ words ∧ caps = []

end Reading

def Denotes (e : Expr) (m : Reading) : Prop :=
  ∀ groups, ∃ n groups', e.node? .initial groups = some (n, .initial, groups') ∧ n.reading = m

def DenotesAll (es : List Expr) (m : Reading) : Prop :=
  ∀ groups, ∃ ns groups', nodes? .initial groups es = some (ns, .initial, groups') ∧
    Node.readingOfAll ns = m

theorem ofClass_single (c : Char) : Node.ofClass (.single c) = .literal [c] := by
  have hchar : (CharClass.single c).char? = some c := by
    simp [CharClass.single, CharClass.range, CharClass.char?]
  rw [Node.ofClass, hchar]

theorem node?_char (c : Char) (groups : Nat) :
    (Expr.char c false).node? .initial groups = some (.literal [c], .initial, groups) :=
  congrArg (fun n => some (n, Flags.initial, groups)) (ofClass_single c)

theorem nodes?_text (text : List Char) (groups : Nat) :
    nodes? .initial groups (text.map (.char · false)) =
      some (text.map fun c => .literal [c], .initial, groups) := by
  induction text with
  | nil => rfl
  | cons c text ih =>
    rw [List.map_cons, nodes?, node?_char]
    dsimp only
    rw [ih]
    rfl

theorem readingOfAll_text (text : List Char) :
    Node.readingOfAll (text.map fun c => .literal [c]) = .word text := by
  induction text with
  | nil => rfl
  | cons c text ih =>
    rw [List.map_cons, Node.readingOfAll, ih]
    exact Reading.word_append [c] text

theorem DenotesAll.nil : DenotesAll [] .nil :=
  fun groups => ⟨[], groups, rfl, rfl⟩

theorem DenotesAll.cons {e : Expr} {es : List Expr} {m k : Reading} (he : Denotes e m)
    (hes : DenotesAll es k) : DenotesAll (e :: es) (m.append k) := by
  intro groups
  obtain ⟨n, groups₁, hn, hm⟩ := he groups
  obtain ⟨ns, groups₂, hns, hk⟩ := hes groups₁
  refine ⟨n :: ns, groups₂, ?_, ?_⟩
  · rw [nodes?, hn]
    dsimp only
    rw [hns]
    rfl
  · rw [Node.readingOfAll, hm, hk]

theorem DenotesAll.singleton {e : Expr} {m : Reading} (h : Denotes e m) : DenotesAll [e] m := by
  have hall := DenotesAll.cons h .nil
  rwa [Reading.append_nil] at hall

theorem nodes?_append {es fs : List Expr} {ns ms : List Node} {f g k : Flags} {i j l : Nat}
    (hes : nodes? f i es = some (ns, g, j)) (hfs : nodes? g j fs = some (ms, k, l)) :
    nodes? f i (es ++ fs) = some (ns ++ ms, k, l) := by
  induction es generalizing f i ns with
  | nil =>
    cases hes
    exact hfs
  | cons e es ih =>
    rw [nodes?] at hes
    split at hes
    · next n f' i' he =>
      obtain ⟨⟨ns, g', j'⟩, hns, heq⟩ := Option.map_eq_some_iff.1 hes
      cases heq
      rw [List.cons_append, nodes?, he]
      dsimp only
      rw [ih hns]
      rfl
    · cases hes

theorem DenotesAll.append {es fs : List Expr} {m k : Reading} (hes : DenotesAll es m)
    (hfs : DenotesAll fs k) : DenotesAll (es ++ fs) (m.append k) := by
  intro groups
  obtain ⟨ns, groups₁, hns, rfl⟩ := hes groups
  obtain ⟨ms, groups₂, hms, rfl⟩ := hfs groups₁
  exact ⟨ns ++ ms, groups₂, nodes?_append hns hms, Node.readingOfAll_append ns ms⟩

theorem DenotesAll.text (text : List Char) : DenotesAll (text.map (.char · false)) (.word text) :=
  fun groups => ⟨_, groups, nodes?_text text groups, readingOfAll_text text⟩

theorem DenotesAll.ofItems {es : List Expr} {m : Reading} (h : DenotesAll es m) :
    Denotes (.ofItems es) m := by
  intro groups
  obtain ⟨ns, groups', hns, hm⟩ := h groups
  unfold Expr.ofItems
  split
  · cases hns
    exact ⟨.empty, groups, rfl, hm⟩
  · next e =>
    rw [nodes?] at hns
    split at hns
    · next n f i he =>
      cases hns
      exact ⟨n, _, he, (Node.readingOfAll_singleton n).symm.trans hm⟩
    · cases hns
  · refine ⟨.joined ns, groups', ?_, (Node.reading_joined ns).trans hm⟩
    rw [Expr.node?, hns]
    rfl

theorem Denotes.named {e : Expr} {m : Reading} (h : Denotes e m) (name : List Char) :
    Denotes (.group (.named name) e) (m.named (String.ofList name)) := by
  intro groups
  obtain ⟨n, groups', hn, rfl⟩ := h (groups + 1)
  refine ⟨.group groups (some (String.ofList name)) n, groups', ?_, rfl⟩
  rw [Expr.node?, hn]
  rfl

theorem Denotes.plain {e : Expr} {m : Reading} (h : Denotes e m) :
    Denotes (.group (.plain []) e) m := by
  intro groups
  obtain ⟨n, groups', hn, hm⟩ := h groups
  refine ⟨n, groups', ?_, hm⟩
  have hflags : Flags.initial.changes [] = .initial := rfl
  rw [Expr.node?, hflags, hn]
  rfl

theorem Denotes.optional {e : Expr} {m : Reading} (h : Denotes e m) :
    Denotes (.loop 0 (some 1) true e) (Reading.nil.either m) := by
  intro groups
  obtain ⟨n, groups', hn, rfl⟩ := h groups
  refine ⟨_, groups', ?_, Node.reading_repeated_optional true n⟩
  rw [Expr.node?, hn]
  rfl

theorem contains_noSlash (c : Char) :
    (CharClass.between '/' '/').compl.contains c.toNat = true ↔ c ≠ '/' := by
  have hslash : c = '/' ↔ c.toNat = '/'.toNat := Char.toNat_inj.symm
  have hbetween : (CharClass.between '/' '/').contains c.toNat = true ↔ c = '/' := by
    rw [CharClass.contains_between, hslash, Bool.and_eq_true, decide_eq_true_iff,
      decide_eq_true_iff]
    omega
  rw [CharClass.contains_compl, Bool.not_eq_true', ← Bool.not_eq_true, hbetween]

theorem Denotes.segment :
    Denotes (.loop 1 none true (.charClass (.bracketed true (.range '/' '/')))) .segment := by
  intro groups
  refine ⟨.repeated 1 none true (.set (CharClass.between '/' '/').compl), groups, rfl, ?_⟩
  rw [Node.reading_repeated_some]
  refine Reading.ext fun b w a caps => ?_
  have hall : (∀ c ∈ w, (CharClass.between '/' '/').compl.contains c.toNat = true) ↔ '/' ∉ w := by
    simp only [contains_noSlash]
    exact ⟨fun h hmem => h '/' hmem rfl, fun h c hc heq => h (heq ▸ hc)⟩
  rw [Reading.rounds_oneOf, Reading.segment, hall]

theorem joined_text {text : List Char} (h : text ≠ []) :
    Node.joined (text.map fun c => .literal [c]) = .literal text := by
  have hitems : (text.map fun c => Node.literal [c]).flatMap Node.items =
      text.map fun c => .literal [c] := by
    rw [List.flatMap_map, List.map_eq_flatMap]
    rfl
  have hparts : (text.map fun c => Node.literal [c]).foldr Node.consPart [] = [.literal text] := by
    clear hitems
    induction text with
    | nil => exact absurd rfl h
    | cons c text ih =>
      rw [List.map_cons, List.foldr_cons]
      cases text with
      | nil => rfl
      | cons d text =>
        rw [ih (by simp)]
        rfl
  rw [Node.joined, hitems, hparts]

theorem node?_word (w : List Char) (groups : Nat) :
    ∃ n, (Expr.ofItems (w.map (.char · false))).node? .initial groups =
      some (n, .initial, groups) ∧ Node.IsWord n w := by
  match w with
  | [] => exact ⟨.empty, rfl, .empty⟩
  | [c] => exact ⟨.literal [c], node?_char c groups, .literal [c]⟩
  | c :: d :: w =>
    refine ⟨.literal (c :: d :: w), ?_, .literal _⟩
    have hseq : Expr.ofItems ((c :: d :: w).map (.char · false)) =
        .seq ((c :: d :: w).map (.char · false)) := rfl
    rw [hseq, Expr.node?, nodes?_text]
    exact congrArg (fun n => some (n, Flags.initial, groups)) (joined_text (by simp))

theorem nodes?_words (words : List (List Char)) (groups : Nat) :
    ∃ ns, nodes? .initial groups (words.map fun w => Expr.ofItems (w.map (.char · false))) =
        some (ns, .initial, groups) ∧
      (∀ n ∈ ns, ∃ w, Node.IsWord n w) ∧ Node.readingOfAny ns = .anyWord words := by
  induction words with
  | nil =>
    refine ⟨[], rfl, by simp, Reading.ext fun b w a caps => ?_⟩
    simp [Node.readingOfAny, Reading.never, Reading.anyWord]
  | cons w words ih =>
    obtain ⟨n, hn, hword⟩ := node?_word w groups
    obtain ⟨ns, hns, hall, hreading⟩ := ih
    refine ⟨n :: ns, ?_, ?_, ?_⟩
    · rw [List.map_cons, nodes?, hn]
      dsimp only
      rw [hns]
      rfl
    · rw [List.forall_mem_cons]
      exact ⟨⟨w, hword⟩, hall⟩
    · rw [Node.readingOfAny, hreading, hword.reading]
      refine Reading.ext fun b v a caps => ?_
      simp [Reading.either, Reading.word, Reading.anyWord, or_and_right]

theorem Denotes.words {words : List (List Char)} (hne : words ≠ []) :
    Denotes (.ofBranches (words.map fun w => Expr.ofItems (w.map (.char · false))))
      (.anyWord words) := by
  intro groups
  match words with
  | [w] =>
    obtain ⟨n, hn, hword⟩ := node?_word w groups
    refine ⟨n, groups, hn, ?_⟩
    rw [hword.reading]
    refine Reading.ext fun b v a caps => ?_
    simp [Reading.word, Reading.anyWord]
  | v :: w :: words =>
    obtain ⟨ns, hns, hall, hreading⟩ := nodes?_words (v :: w :: words) groups
    refine ⟨.choice ns, groups, ?_, (Node.reading_choice_of_isWord hall).trans hreading⟩
    have halt : Expr.ofBranches ((v :: w :: words).map fun w => Expr.ofItems (w.map (.char · false))) =
        .alt ((v :: w :: words).map fun w => Expr.ofItems (w.map (.char · false))) := rfl
    rw [halt, Expr.node?, hns]
    rfl

def Means (src : List Char) (names : List (List Char)) (m : Reading) : Prop :=
  ∃ es, Reads src es ∧ DenotesAll es m ∧ namesOfAll es = names

def MeansBody (src : List Char) (names : List (List Char)) (m : Reading) : Prop :=
  ∃ e, ReadsBody src e ∧ Denotes e m ∧ e.groupNames = names

theorem namesOfAll_append (es fs : List Expr) :
    namesOfAll (es ++ fs) = namesOfAll es ++ namesOfAll fs := by
  induction es with
  | nil => rfl
  | cons e es ih => rw [List.cons_append, namesOfAll, ih, namesOfAll, List.append_assoc]

theorem namesOfAll_text (text : List Char) : namesOfAll (text.map (.char · false)) = [] := by
  induction text with
  | nil => rfl
  | cons c text ih =>
    rw [List.map_cons, namesOfAll, ih]
    rfl

theorem groupNames_ofItems (es : List Expr) : (Expr.ofItems es).groupNames = namesOfAll es := by
  unfold Expr.ofItems
  split
  · rfl
  · next e => exact (List.append_nil _).symm
  · rfl

theorem groupNames_ofBranches (es : List Expr) : (Expr.ofBranches es).groupNames = namesOfAll es := by
  unfold Expr.ofBranches
  split
  · next e => exact (List.append_nil _).symm
  · rfl

namespace Means

variable {u v : List Char} {names names' : List (List Char)} {m k : Reading}

theorem nil : Means [] [] .nil := ⟨[], .nil, .nil, rfl⟩

theorem append (hu : Means u names m) (hv : Means v names' k) :
    Means (u ++ v) (names ++ names') (m.append k) := by
  obtain ⟨es, hread, hdenotes, rfl⟩ := hu
  obtain ⟨fs, hread', hdenotes', rfl⟩ := hv
  exact ⟨es ++ fs, hread.append hread', hdenotes.append hdenotes', namesOfAll_append es fs⟩

theorem text (h : ∀ c ∈ u, isBare c = true) : Means u [] (.word u) :=
  ⟨_, .bareText h, .text u, namesOfAll_text u⟩

theorem body (h : Means u names m) : MeansBody u names m := by
  obtain ⟨es, hread, hdenotes, hnames⟩ := h
  exact ⟨.ofItems es, hread.body, hdenotes.ofItems, (groupNames_ofItems es).trans hnames⟩

theorem segment : Means ['[', '^', '/', ']', '+'] [] .segment :=
  ⟨_, .segment, .singleton .segment, rfl⟩

end Means

namespace MeansBody

variable {body : List Char} {names : List (List Char)} {m : Reading}

theorem words {words : List (List Char)} (hne : words ≠ []) :
    MeansBody (['|'].intercalate (words.map escape)) [] (.anyWord words) := by
  refine ⟨_, ReadsBody.words hne, Denotes.words hne, ?_⟩
  rw [groupNames_ofBranches]
  clear hne
  induction words with
  | nil => rfl
  | cons w words ih =>
    rw [List.map_cons, namesOfAll, groupNames_ofItems, namesOfAll_text, ih]
    rfl

theorem plain (h : MeansBody body names m) :
    Means ('(' :: '?' :: ':' :: (body ++ [')'])) names m := by
  obtain ⟨e, hread, hdenotes, rfl⟩ := h
  exact ⟨_, .group opens_plain hread, .singleton hdenotes.plain, List.append_nil _⟩

theorem optional (h : MeansBody body names m) :
    Means ('(' :: '?' :: ':' :: (body ++ [')', '?'])) names (Reading.nil.either m) := by
  obtain ⟨e, hread, hdenotes, rfl⟩ := h
  exact ⟨_, .optional opens_plain hread, .singleton hdenotes.plain.optional, List.append_nil _⟩

theorem named (h : MeansBody body names m) {name : List Char} (hname : isGroupName name = true)
    (hend : '>' ∉ name) :
    Means ('(' :: '?' :: 'P' :: '<' :: (name ++ '>' :: body ++ [')'])) (name :: names)
      (m.named (String.ofList name)) := by
  obtain ⟨e, hread, hdenotes, rfl⟩ := h
  refine ⟨[.group (.named name) e], ?_, .singleton (hdenotes.named name), ?_⟩
  · simpa using Reads.group (opens_named hname hend) hread
  · exact List.append_nil _

end MeansBody

theorem reading_anchored (n : Node) (b w a : List Char) (caps : Captures) :
    (Node.joined [.assertion .textStart, n, .assertion .textEnd]).reading b w a caps ↔
      b = [] ∧ a = [] ∧ n.reading [] w [] caps := by
  rw [Node.reading_joined]
  simp only [Node.readingOfAll, Reading.append_nil, Node.reading]
  constructor
  · rintro ⟨_, _, _, _, rfl, rfl, ⟨hstart, rfl, rfl⟩, u, _, d, _, rfl, rfl, hn, hstop, rfl, rfl⟩
    simp only [Assertion.holds, beq_iff_eq, List.head?_eq_none_iff] at hstart hstop
    subst hstart hstop
    exact ⟨rfl, rfl, by simpa using hn⟩
  · rintro ⟨rfl, rfl, hn⟩
    refine ⟨[], w, [], caps, rfl, by simp, ⟨rfl, rfl, rfl⟩, w, [], caps, [], by simp, rfl, ?_, ?_⟩
    · simpa using hn
    · exact ⟨rfl, rfl, rfl⟩

theorem exists_node_of_compile? {source : String} {r : Regex} (h : compile? source = some r) :
    ∃ e n rest, Expr.read? source.toList = some e ∧ e.node? .initial 0 = some (n, rest) ∧
      r = ⟨source, .ofNode n⟩ := by
  obtain ⟨e, he, h⟩ := Option.bind_eq_some_iff.1 h
  obtain ⟨⟨n, rest⟩, hn, h⟩ := Option.bind_eq_some_iff.1 h
  obtain ⟨_, hr⟩ := Option.ite_none_right_eq_some.1 h
  exact ⟨e, n, rest, he, hn, (Option.some.inj hr).symm⟩

theorem isMatch_of_reading {source text : String} {r : Regex} {n : Node} {b w a : List Char}
    {caps : Captures} (hr : compile? source = some r)
    (hnode : ((Expr.read? source.toList).bind fun e =>
      (e.node? .initial 0).map fun read => read.1.same n) = some true)
    (htext : text.toList = b.reverse ++ w ++ a) (h : n.reading b w a caps) :
    r.isMatch text = true := by
  obtain ⟨e, m, rest, he, hm, rfl⟩ := exists_node_of_compile? hr
  rw [he, Option.bind_some, hm, Option.map_some, Option.some.injEq] at hnode
  obtain rfl : m = n := Node.eq_of_same hnode
  rw [isMatch, captures?, htext]
  exact Program.captures?_isSome h

theorem toList_wrapped (source : String) :
    (wrapped source).toList = '^' :: '(' :: '?' :: ':' :: (source.toList ++ [')', '$']) := by
  simp [wrapped]

theorem nodes?_anchored (e : Expr) :
    nodes? .initial 0 [.mark .lineStart, .group (.plain []) e, .mark .lineEnd] =
      (e.node? .initial 0).map fun (n, _, groups) =>
        ([.assertion .textStart, n, .assertion .textEnd], .initial, groups) := by
  have hfirst : (Expr.mark .lineStart).node? .initial 0 =
      some (.assertion .textStart, .initial, 0) := rfl
  have hflags : Flags.initial.changes [] = .initial := rfl
  rw [nodes?, hfirst]
  dsimp only
  rw [nodes?, Expr.node?, hflags]
  cases e.node? .initial 0 <;> rfl

theorem compile?_wrapped {src : String} {names : List (List Char)} {m : Reading} {r : Regex}
    (h : Means src.toList names m) (hr : Regex.compile? (Regex.wrapped src) = some r) :
    names.Nodup ∧ ∃ n, n.reading = m ∧
      r.program = .ofNode (.joined [.assertion .textStart, n, .assertion .textEnd]) := by
  obtain ⟨e, hbody, hdenotes, rfl⟩ := h.body
  obtain ⟨whole, node, _, hwhole, hnode, rfl⟩ := exists_node_of_compile? hr
  rw [toList_wrapped] at hwhole
  obtain ⟨rfl, hnames⟩ := read?_anchored hbody hwhole
  obtain ⟨n, groups, hn, hm⟩ := hdenotes 0
  rw [Expr.node?, nodes?_anchored, hn] at hnode
  cases hnode
  exact ⟨hnames, n, hm, rfl⟩

section Anchored

variable {r : Regex} {n : Node} {text : String} {caps : Captures}

theorem reading_of_captures?
    (h : r.program = .ofNode (.joined [.assertion .textStart, n, .assertion .textEnd]))
    (hcaps : r.captures? text = some caps) : n.reading [] text.toList [] caps := by
  rw [captures?, h] at hcaps
  obtain ⟨b, w, a, htext, hreading⟩ := Program.captures?_sound hcaps
  obtain ⟨rfl, rfl, hn⟩ := (reading_anchored ..).1 hreading
  rw [htext]
  simpa using hn

theorem isSome_captures?_of_reading
    (h : r.program = .ofNode (.joined [.assertion .textStart, n, .assertion .textEnd]))
    (hn : n.reading [] text.toList [] caps) : (r.captures? text).isSome = true := by
  have hreading := (reading_anchored n [] text.toList [] caps).2 ⟨rfl, rfl, hn⟩
  have hfound := Program.captures?_isSome hreading
  rw [captures?, h]
  simpa using hfound

end Anchored

theorem Means.of_captures? {src : String} {names : List (List Char)} {m : Reading} {r : Regex}
    (h : Means src.toList names m) (hr : Regex.compile? (Regex.wrapped src) = some r)
    {text : String} {caps : Captures} (hcaps : r.captures? text = some caps) :
    m [] text.toList [] caps := by
  obtain ⟨_, n, rfl, hprogram⟩ := compile?_wrapped h hr
  exact reading_of_captures? hprogram hcaps

theorem Means.isSome_captures? {src : String} {names : List (List Char)} {m : Reading} {r : Regex}
    (h : Means src.toList names m) (hr : Regex.compile? (Regex.wrapped src) = some r)
    {text : String} {caps : Captures} (hm : m [] text.toList [] caps) :
    (r.captures? text).isSome = true := by
  obtain ⟨_, n, rfl, hprogram⟩ := compile?_wrapped h hr
  exact isSome_captures?_of_reading hprogram hm

end UrlRouter.Regex
