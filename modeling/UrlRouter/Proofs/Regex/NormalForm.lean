import UrlRouter.Proofs.Regex.Readings

/-!
The normal form of nodes changes no reading: sequences may be flattened and their literals joined,
and a choice between words may become a class.
-/

namespace UrlRouter.Regex

namespace CharClass

def Valid (s : CharClass) : Prop := ∀ n, s.contains n = true → n.isValidChar

theorem valid_single (c : Char) : (single c).Valid := by
  intro n hn
  simp only [single, contains_range, Bool.and_eq_true, decide_eq_true_eq] at hn
  obtain rfl : n = c.toNat := by omega
  exact c.valid

theorem valid_unions {ss : List CharClass} (h : ∀ s ∈ ss, s.Valid) : (unions ss).Valid := by
  intro n hn
  rw [contains_unions, List.any_eq_true] at hn
  obtain ⟨s, hs, hn⟩ := hn
  exact h s hs n hn

end CharClass

namespace Reading

theorem times_oneOf (chars : CharClass) (n : Nat) (b w a : List Char) (caps : Captures) :
    times n (oneOf chars) b w a caps ↔
      w.length = n ∧ (∀ c ∈ w, chars.contains c.toNat = true) ∧ caps = [] := by
  induction n generalizing b w caps with
  | zero => simp [times, nil, List.length_eq_zero_iff]; grind
  | succ n ih =>
    rw [times]
    constructor
    · rintro ⟨_, v, _, e, rfl, rfl, ⟨c, hc, rfl, rfl⟩, hv⟩
      obtain ⟨hlength, hall, rfl⟩ := (ih ..).1 hv
      exact ⟨by simp [hlength], by simpa [hc] using hall, rfl⟩
    · rintro ⟨hlength, hall, rfl⟩
      cases w with
      | nil => cases hlength
      | cons c w =>
        refine ⟨[c], w, [], [], rfl, rfl, ⟨c, hall c List.mem_cons_self, rfl, rfl⟩, (ih ..).2 ?_⟩
        exact ⟨Nat.succ.inj hlength, fun d hd => hall d (List.mem_cons_of_mem _ hd), rfl⟩

theorem rounds_oneOf (chars : CharClass) (b w a : List Char) (caps : Captures) :
    rounds 1 none (oneOf chars) b w a caps ↔
      w ≠ [] ∧ (∀ c ∈ w, chars.contains c.toNat = true) ∧ caps = [] := by
  constructor
  · rintro ⟨n, hn, _, hm⟩
    obtain ⟨hlength, hall, hcaps⟩ := (times_oneOf ..).1 hm
    exact ⟨List.ne_nil_of_length_pos (by omega), hall, hcaps⟩
  · rintro ⟨hne, hall, hcaps⟩
    exact ⟨w.length, List.length_pos_iff.2 hne, by simp, (times_oneOf ..).2 ⟨rfl, hall, hcaps⟩⟩

end Reading

namespace Node

theorem readingOfAll_append (ns ms : List Node) :
    readingOfAll (ns ++ ms) = (readingOfAll ns).append (readingOfAll ms) := by
  induction ns with
  | nil => exact (Reading.nil_append _).symm
  | cons n ns ih => rw [List.cons_append, readingOfAll, ih, readingOfAll, Reading.append_assoc]

theorem readingOfAll_singleton (n : Node) : readingOfAll [n] = n.reading :=
  Reading.append_nil _

theorem readingOfAll_items (n : Node) : readingOfAll n.items = n.reading := by
  cases n with
  | empty => rfl
  | seq ns => rfl
  | _ => exact readingOfAll_singleton _

theorem readingOfAll_flatMap_items (ns : List Node) :
    readingOfAll (ns.flatMap items) = readingOfAll ns := by
  induction ns with
  | nil => rfl
  | cons n ns ih =>
    rw [List.flatMap_cons, readingOfAll_append, readingOfAll_items, ih, readingOfAll]

theorem readingOfAll_consPart (n : Node) (ns : List Node) :
    readingOfAll (consPart n ns) = n.reading.append (readingOfAll ns) := by
  unfold consPart
  split
  · next s t ns =>
    have hjoin : (literal (s ++ t)).reading = (Reading.word s).append (.word t) :=
      (Reading.word_append s t).symm
    rw [readingOfAll, hjoin, Reading.append_assoc]
    rfl
  · rfl

theorem readingOfAll_foldr_consPart (ns : List Node) :
    readingOfAll (ns.foldr consPart []) = readingOfAll ns := by
  induction ns with
  | nil => rfl
  | cons n ns ih => rw [List.foldr_cons, readingOfAll_consPart, ih, readingOfAll]

theorem reading_joined (ns : List Node) : (joined ns).reading = readingOfAll ns := by
  have hparts : readingOfAll ((ns.flatMap items).foldr consPart []) = readingOfAll ns := by
    rw [readingOfAll_foldr_consPart, readingOfAll_flatMap_items]
  unfold joined
  split
  · next h => rw [← hparts, h, reading, readingOfAll]
  · next n h => rw [← hparts, h, readingOfAll_singleton]
  · exact hparts

theorem reading_ofClass {s : CharClass} (h : s.Valid) : (ofClass s).reading = .oneOf s := by
  unfold ofClass
  split
  · next c hc =>
    have hcontains (n : Nat) : s.contains n = true ↔ n = c.toNat := by
      unfold CharClass.char? at hc
      split at hc
      · next low past hedges =>
        obtain ⟨hpast, hchar⟩ := Option.ite_none_right_eq_some.1 hc
        cases hchar
        have hlow (n : Nat) : s.contains n = true ↔ n = low := by
          simp only [CharClass.contains, hedges, CharClass.within]
          grind
        have hvalid := h low ((hlow low).2 rfl)
        have heq : (Char.ofNat low).toNat = low := by
          rw [Char.ofNat, dif_pos hvalid]
          rfl
        rw [hlow, heq]
      · cases hc
    refine Reading.ext fun b w a caps => ?_
    simp [reading, Reading.word, Reading.oneOf, hcontains, Char.toNat_inj]
  · rfl

theorem reading_repeated_optional (greedy : Bool) (body : Node) :
    (repeated 0 (some 1) greedy body).reading = Reading.nil.either body.reading := by
  have hbounds : repeated 0 (some 1) greedy body = .loop 0 (some 1) greedy body := by
    unfold repeated
    cases body.staysInPlace <;> rfl
  rw [hbounds, reading, Reading.rounds_zero_succ, Reading.rounds_zero_zero, Reading.append_nil]

theorem reading_repeated_some (greedy : Bool) (chars : CharClass) :
    (repeated 1 none greedy (.set chars)).reading = .rounds 1 none (.oneOf chars) := rfl

inductive IsWord : Node → List Char → Prop where
  | empty : IsWord .empty []
  | literal (text : List Char) : IsWord (.literal text) text

theorem IsWord.reading {n : Node} {w : List Char} (h : IsWord n w) : n.reading = .word w := by
  cases h <;> rfl

theorem flatMap_branches_of_isWord {ns : List Node} (h : ∀ n ∈ ns, ∃ w, IsWord n w) :
    ns.flatMap branches = ns := by
  induction ns with
  | nil => rfl
  | cons n ns ih =>
    obtain ⟨w, hw⟩ := h n List.mem_cons_self
    have hn : n.branches = [n] := by cases hw <;> rfl
    rw [List.flatMap_cons, hn, ih fun m hm => h m (List.mem_cons_of_mem _ hm)]
    rfl

theorem readingOfAny_of_singles? {ns : List Node} {ss : List CharClass}
    (h : singles? ns = some ss) :
    (∀ s ∈ ss, s.Valid) ∧ readingOfAny ns = .oneOf (.unions ss) := by
  induction ns generalizing ss with
  | nil =>
    cases h
    exact ⟨by simp, Reading.ext fun b w a caps => by simp [readingOfAny, Reading.never, Reading.oneOf]⟩
  | cons n ns ih =>
    unfold singles? at h
    split at h
    · next heq => cases heq
    · next c ns' heq =>
      cases heq
      obtain ⟨ss, hss, rfl⟩ := Option.map_eq_some_iff.1 h
      obtain ⟨hvalid, hreading⟩ := ih hss
      refine ⟨?_, Reading.ext fun b w a caps => ?_⟩
      · simp only [List.forall_mem_cons]
        exact ⟨CharClass.valid_single c, hvalid⟩
      · rw [readingOfAny, hreading]
        simp only [Reading.either, Node.reading, Reading.word, Reading.oneOf, CharClass.contains_unions,
          List.any_cons, CharClass.contains_single]
        grind
    · cases h

theorem reading_choice_of_isWord {ns : List Node} (h : ∀ n ∈ ns, ∃ w, IsWord n w) :
    (choice ns).reading = readingOfAny ns := by
  unfold choice choiceIn
  rw [flatMap_branches_of_isWord h]
  split
  · exact Reading.ext fun b w a caps => by simp [reading, Reading.oneOf, readingOfAny, Reading.never]
  · next n => exact (Reading.either_never _).symm
  · next hnil _ =>
    obtain ⟨n, ns, rfl⟩ := List.exists_cons_of_ne_nil hnil
    obtain ⟨w, hw⟩ := h n List.mem_cons_self
    have hsets : sets? (n :: ns) = none := by cases hw <;> rfl
    have hsequences : sequences? (n :: ns) = none := by cases hw <;> rfl
    split
    · next ss hss =>
      rw [hsets, Option.or_none] at hss
      obtain ⟨hvalid, hreading⟩ := readingOfAny_of_singles? hss
      rw [hreading, reading_ofClass (CharClass.valid_unions hvalid)]
    · split
      · next hseq =>
        rw [hsequences] at hseq
        cases hseq
      · rfl

end Node

end UrlRouter.Regex
