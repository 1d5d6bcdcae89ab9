import UrlRouter.Proofs.Regex.Runs

/-!
The search finds a match where there is one, and what it finds is one. Only the preferred of the
threads at a step goes on; the others would go the same ways.
-/

namespace UrlRouter.Regex

namespace Thread

theorem next_after {t t' : Thread} (h : t.next = t'.next) (here : Place) (step : Step) :
    (t.after here step).map next = (t'.after here step).map next := by
  cases step with
  | check a =>
    simp only [after]
    split <;> simp [proceed, h]
  | openGroup name => simp [after, openGroup, proceed, h]
  | closeGroup name => simp [after, next_closeGroup, h]
  | jump distances => simp [after, jump, h, Function.comp_def]
  | _ => rfl

theorem read?_eq_some {t t' : Thread} {c : Char} {step : Step} (h : t.read? c step = some t') :
    t' = t.proceed ∧ ∀ s : Thread, s.read? c step = some s.proceed := by
  unfold read? at h ⊢
  split at h <;> simp_all

end Thread

/-- From the step on a match can be completed; what the groups hold does not matter for that. -/
inductive Accepts (code : List Step) : List Char → List Char → Nat → Prop where
  | accept {b rest : List Char} {i : Nat} : code[i]? = some .accept → Accepts code b rest i
  | silent {b rest : List Char} {t t' : Thread} {step : Step} : code[t.next]? = some step →
      t' ∈ t.after ⟨b.length, b.head?, rest.head?⟩ step → Accepts code b rest t'.next →
      Accepts code b rest t.next
  | read {b rest : List Char} {c : Char} {t t' : Thread} {step : Step} :
      code[t.next]? = some step → t.read? c step = some t' → Accepts code (c :: b) rest t'.next →
      Accepts code b (c :: rest) t.next

theorem Accepts.of_runs {code : List Step} {n : Nat} {x f : Config} (h : Runs code n x f)
    (hf : Completes code f) : Accepts code x.before x.rest x.thread.next := by
  induction h with
  | stay x => exact .accept hf
  | @move n x y z hmove _ ih =>
    obtain ⟨step, hstep, hy⟩ := hmove
    have hnext := ih hf
    rcases List.mem_append.1 hy with hy | hy
    · obtain ⟨t, ht, rfl⟩ := List.mem_map.1 hy
      exact .silent hstep ht hnext
    · obtain ⟨b, rest, t⟩ := x
      cases rest with
      | nil => cases hy
      | cons c rest =>
        obtain ⟨t', ht', rfl⟩ := List.mem_map.1 hy
        exact .read hstep (Option.mem_toList.1 ht') hnext

theorem Accepts.lt {code : List Step} {b text : List Char} {i : Nat} (h : Accepts code b text i) :
    i < code.length := by
  induction h with
  | accept hstep => exact (List.getElem?_eq_some_iff.1 hstep).1
  | silent hstep => exact (List.getElem?_eq_some_iff.1 hstep).1
  | read hstep => exact (List.getElem?_eq_some_iff.1 hstep).1

section Settle

variable {p : Program} {here : Place}

theorem settle_sound {Q : Thread → Prop} {seen : Array Bool} {ready todo : List Thread}
    (hafter : ∀ t step, Q t → p.steps[t.next]? = some step → ∀ t' ∈ t.after here step, Q t')
    (hready : ∀ t ∈ ready, Q t) (htodo : ∀ t ∈ todo, Q t) :
    (∀ t ∈ (settle p here seen ready todo).1, Q t) ∧
      ∀ t ∈ (settle p here seen ready todo).2, Q t ∧ p.steps[t.next]? = some .accept := by
  fun_induction settle p here seen ready todo with
  | case1 seen ready => exact ⟨hready, by simp⟩
  | case2 seen ready t todo h hs ih => exact ih hready fun t' ht' => htodo t' (by simp [ht'])
  | case3 seen ready t todo h hs hstep =>
    refine ⟨hready, fun t' ht' => ?_⟩
    cases ht'
    exact ⟨htodo t (by simp), hstep⟩
  | case4 seen ready t todo h hs c hstep ih | case5 seen ready t todo h hs c hstep ih =>
    refine ih (fun t' ht' => ?_) fun t' ht' => htodo t' (by simp [ht'])
    rcases List.mem_cons.1 ht' with rfl | ht'
    · exact htodo t' (by simp)
    · exact hready t' ht'
  | case6 seen ready t todo h hs step hne hchar hread hstep ih =>
    refine ih hready fun t' ht' => ?_
    rcases List.mem_append.1 ht' with ht' | ht'
    · exact hafter t step (htodo t (by simp)) hstep t' ht'
    · exact htodo t' (by simp [ht'])
  | case7 seen ready t todo h hs hstep ih => exact ih hready fun t' ht' => htodo t' (by simp [ht'])
  | case8 seen ready t todo h ih => exact ih hready fun t' ht' => htodo t' (by simp [ht'])

structure Followed (p : Program) (here : Place) (ready : List Thread) (S : Nat → Prop) (i : Nat) :
    Prop where
  goesOn : p.steps[i]? ≠ some .accept
  silent : ∀ (t t' : Thread) (step : Step), t.next = i → p.steps[i]? = some step →
    t' ∈ t.after here step → t'.next < p.steps.size → S t'.next
  reads : ∀ (t t' : Thread) (c : Char) (step : Step), t.next = i → p.steps[i]? = some step →
    t.read? c step = some t' → ∃ r ∈ ready, r.next = i

structure Settled (p : Program) (here : Place) (seen : Array Bool) (todo ready : List Thread)
    (S : Nat → Prop) : Prop where
  listed : ∀ t ∈ todo, t.next < seen.size → S t.next
  before : ∀ i, seen[i]? = some true → S i
  followed : ∀ i, S i → seen[i]? = some true ∨ Followed p here ready S i

theorem Settled.skip {seen : Array Bool} {t : Thread} {todo ready : List Thread} {S : Nat → Prop}
    (hs : Settled p here seen todo ready S) (ht : t.next < seen.size → seen[t.next]? = some true) :
    Settled p here seen (t :: todo) ready S := by
  refine ⟨fun t' ht' hlt => ?_, hs.before, hs.followed⟩
  rcases List.mem_cons.1 ht' with rfl | ht'
  · exact hs.before _ (ht hlt)
  · exact hs.listed t' ht' hlt

theorem Settled.visit {seen : Array Bool} {t : Thread} {todo ready : List Thread}
    {S : Nat → Prop} (more : List Thread) (h : t.next < seen.size)
    (hs : Settled p here (seen.set t.next true) (more ++ todo) ready S)
    (hfollowed : Followed p here ready S t.next) : Settled p here seen (t :: todo) ready S := by
  refine ⟨fun t' ht' hlt => ?_, fun i hi => ?_, fun i hi => ?_⟩
  · rcases List.mem_cons.1 ht' with rfl | ht'
    · exact hs.before _ (by simp [h])
    · exact hs.listed t' (by simp [ht']) (by simpa using hlt)
  · refine hs.before i ?_
    rw [Array.getElem?_set]
    split <;> simp_all
  · rcases hs.followed i hi with hseen | hi
    · rw [Array.getElem?_set] at hseen
      split at hseen
      · next heq => exact .inr (heq ▸ hfollowed)
      · exact .inl hseen
    · exact .inr hi

theorem settle_keeps (seen : Array Bool) (ready todo : List Thread) :
    ∀ t ∈ ready, t ∈ (settle p here seen ready todo).1 := by
  fun_induction settle p here seen ready todo with
  | case1 | case3 => exact fun _ => id
  | case4 seen ready t todo h hs c hstep ih | case5 seen ready t todo h hs c hstep ih =>
    exact fun t' ht' => ih t' (List.mem_cons_of_mem _ ht')
  | case2 | case6 | case7 | case8 => assumption

theorem settle_complete {seen : Array Bool} {ready todo : List Thread}
    (hsize : seen.size = p.steps.size) (hnone : (settle p here seen ready todo).2 = none) :
    ∃ S, Settled p here seen todo (settle p here seen ready todo).1 S := by
  fun_induction settle p here seen ready todo with
  | case1 seen ready => exact ⟨fun i => seen[i]? = some true, by simp, fun _ => id, fun _ => .inl⟩
  | case2 seen ready t todo h hs ih =>
    obtain ⟨S, hS⟩ := ih hsize hnone
    exact ⟨S, hS.skip fun _ => Array.getElem?_eq_some_iff.2 ⟨h, hs⟩⟩
  | case3 seen ready t todo h hs hstep => cases hnone
  | case4 seen ready t todo h hs c hstep ih | case5 seen ready t todo h hs c hstep ih =>
    obtain ⟨S, hS⟩ := ih (by simpa using hsize) hnone
    refine ⟨S, Settled.visit [] h hS ⟨by simp [hstep], ?_, ?_⟩⟩
    · intro t₁ t₂ step _ hstep' ht₂
      cases hstep.symm.trans hstep'
      cases ht₂
    · exact fun _ _ _ _ _ _ _ => ⟨t, settle_keeps _ _ _ t List.mem_cons_self, rfl⟩
  | case6 seen ready t todo h hs step hne hchar hread hstep ih =>
    -- The threads behind the step are followed next, so the set has them.
    obtain ⟨S, hS⟩ := ih (by simpa using hsize) hnone
    refine ⟨S, Settled.visit _ h hS ⟨by simp_all, ?_, ?_⟩⟩
    · intro t₁ t₂ step' ht₁ hstep' ht₂ hlt
      cases hstep.symm.trans hstep'
      have hmem : t₂.next ∈ (t.after here step).map Thread.next := by
        rw [← Thread.next_after ht₁]
        exact List.mem_map_of_mem ht₂
      obtain ⟨t₃, ht₃, heq⟩ := List.mem_map.1 hmem
      rw [← heq]
      refine hS.listed t₃ (List.mem_append_left _ ht₃) ?_
      rw [Array.size_set, hsize, heq]
      exact hlt
    · intro t₁ t₂ c step' _ hstep' ht₂
      cases hstep.symm.trans hstep'
      cases step <;> simp_all [Thread.read?]
  | case7 seen ready t todo h hs hstep ih =>
    obtain ⟨S, hS⟩ := ih (by simpa using hsize) hnone
    refine ⟨S, Settled.visit [] h hS ⟨by simp [hstep], ?_, ?_⟩⟩
    · intro t₁ t₂ step _ hstep'
      cases hstep.symm.trans hstep'
    · intro t₁ t₂ c step _ hstep'
      cases hstep.symm.trans hstep'
  | case8 seen ready t todo h ih =>
    obtain ⟨S, hS⟩ := ih hsize hnone
    exact ⟨S, hS.skip fun hlt => absurd hlt h⟩

theorem Settled.ready_of_accepts {b text : List Char} {i : Nat} {ready : List Thread}
    {S : Nat → Prop} (h : Accepts p.steps.toList b text i)
    (hfollowed : ∀ i, S i → Followed p ⟨b.length, b.head?, text.head?⟩ ready S i) (hi : S i) :
    ∃ c rest, text = c :: rest ∧ ∃ r ∈ ready, ∃ r', p.steps[r.next]?.bind (r.read? c) = some r' ∧
      Accepts p.steps.toList (c :: b) rest r'.next := by
  induction h with
  | accept hstep =>
    rw [Array.getElem?_toList] at hstep
    exact absurd hstep (hfollowed _ hi).goesOn
  | @silent b rest t t' step hstep ht' hnext ih =>
    rw [Array.getElem?_toList] at hstep
    exact ih hfollowed ((hfollowed _ hi).silent t t' step rfl hstep ht' hnext.lt)
  | @read b rest c t t' step hstep ht' hnext ih =>
    rw [Array.getElem?_toList] at hstep
    obtain ⟨r, hr, hrnext⟩ := (hfollowed _ hi).reads t t' c step rfl hstep ht'
    obtain ⟨rfl, hread⟩ := Thread.read?_eq_some ht'
    refine ⟨c, rest, rfl, r, hr, r.proceed, ?_, ?_⟩
    · rw [hrnext, hstep, Option.bind_some, hread r]
    · rw [Thread.proceed, hrnext]
      exact hnext

end Settle

section Advance

variable {p : Program}

def settled (p : Program) (best : Option Thread) (threads : List Thread) (here : Place) :
    List Thread × Option Thread :=
  settle p here (.replicate p.steps.size false) []
    (if best.isNone then threads ++ [.start] else threads)

theorem advance_nil (best : Option Thread) (threads : List Thread) (index : Nat)
    (before : Option Char) :
    advance p best threads index before [] =
      (settled p best threads ⟨index, before, none⟩).2.or best := rfl

theorem advance_cons (best : Option Thread) (threads : List Thread) (index : Nat)
    (before : Option Char) (c : Char) (text : List Char) :
    advance p best threads index before (c :: text) =
      let found := settled p best threads ⟨index, before, some c⟩
      let next := found.1.reverse.filterMap fun t => p.steps[t.next]?.bind (t.read? c)
      if next.isEmpty && (found.2.or best).isSome then found.2.or best
      else advance p (found.2.or best) next (index + 1) (some c) text := rfl

theorem advance_isSome_of_best {best : Option Thread} (h : best.isSome = true)
    (threads : List Thread) (index : Nat) (before : Option Char) (text : List Char) :
    (advance p best threads index before text).isSome = true := by
  induction text generalizing best threads index before with
  | nil =>
    rw [advance_nil, Option.isSome_or, h, Bool.or_true]
  | cons c text ih =>
    have hbest (done : Option Thread) : (done.or best).isSome = true := by
      rw [Option.isSome_or, h, Bool.or_true]
    rw [advance_cons]
    dsimp only
    split
    · exact hbest _
    · exact ih (hbest _) _ _ _

theorem settled_reads {b text : List Char} {threads : List Thread} {t : Thread}
    (hnone : (settled p none threads ⟨b.length, b.head?, text.head?⟩).2 = none)
    (ht : t ∈ threads ++ [.start]) (h : Accepts p.steps.toList b text t.next) :
    ∃ c rest, text = c :: rest ∧
      ∃ r ∈ (settled p none threads ⟨b.length, b.head?, text.head?⟩).1, ∃ r',
        p.steps[r.next]?.bind (r.read? c) = some r' ∧
        Accepts p.steps.toList (c :: b) rest r'.next := by
  obtain ⟨S, hS⟩ := settle_complete Array.size_replicate hnone
  refine Settled.ready_of_accepts h (fun i hi => ?_) (hS.listed t ht (by simpa using h.lt))
  refine (hS.followed i hi).resolve_left ?_
  rw [Array.getElem?_replicate]
  split <;> simp

theorem advance_isSome {b text : List Char} {threads : List Thread}
    (h : (∃ t ∈ threads ++ [.start], Accepts p.steps.toList b text t.next) ∨
      ∃ c u v, text = c :: (u ++ v) ∧ Accepts p.steps.toList (u.reverse ++ c :: b) v 0) :
    (advance p none threads b.length b.head? text).isSome = true := by
  induction text generalizing b threads with
  | nil =>
    rw [advance_nil]
    obtain ⟨t, ht, hacc⟩ := h.resolve_right (by simp)
    cases hdone : (settled p none threads ⟨b.length, b.head?, none⟩).2 with
    | some done => rfl
    | none =>
      obtain ⟨c, rest, htext, _⟩ := settled_reads hdone ht hacc
      cases htext
  | cons c text ih =>
    rw [advance_cons]
    dsimp only
    cases hdone : (settled p none threads ⟨b.length, b.head?, some c⟩).2 with
    | some done =>
      split
      · rfl
      · exact advance_isSome_of_best rfl _ _ _ _
    | none =>
      -- No thread completes a match here, so the one that can reads the next character.
      rw [if_neg (by simp)]
      refine ih (b := c :: b) ?_
      rcases h with ⟨t, ht, hacc⟩ | ⟨d, u, v, htext, hacc⟩
      · obtain ⟨d, rest, htext, r, hr, r', hr', hacc'⟩ := settled_reads hdone ht hacc
        cases htext
        refine .inl ⟨r', List.mem_append_left _ ?_, hacc'⟩
        exact List.mem_filterMap.2 ⟨r, List.mem_reverse.2 hr, hr'⟩
      · cases htext
        cases u with
        | nil => exact .inl ⟨.start, by simp, hacc⟩
        | cons d u => exact .inr ⟨d, u, v, rfl, by simpa using hacc⟩

def Arrives (p : Program) (b rest : List Char) (t : Thread) : Prop :=
  ∃ u v n, u.reverse ++ v = b.reverse ++ rest ∧ Runs p.steps.toList n ⟨u, v, .start⟩ ⟨b, rest, t⟩

def Found (p : Program) (text : List Char) (t : Thread) : Prop :=
  ∃ b rest, b.reverse ++ rest = text ∧ Arrives p b rest t ∧ p.steps[t.next]? = some .accept

theorem Arrives.move {b rest b' rest' : List Char} {t t' : Thread} (h : Arrives p b rest t)
    (hm : Moves p.steps.toList ⟨b, rest, t⟩ ⟨b', rest', t'⟩)
    (htext : b.reverse ++ rest = b'.reverse ++ rest') : Arrives p b' rest' t' := by
  obtain ⟨u, v, n, huv, hrun⟩ := h
  exact ⟨u, v, n + 1, huv.trans htext, hrun.trans (.one hm)⟩

theorem settled_sound {b text : List Char} {threads : List Thread} (best : Option Thread)
    (hthreads : ∀ t ∈ threads, Arrives p b text t) :
    (∀ t ∈ (settled p best threads ⟨b.length, b.head?, text.head?⟩).1, Arrives p b text t) ∧
      ∀ t ∈ (settled p best threads ⟨b.length, b.head?, text.head?⟩).2,
        Found p (b.reverse ++ text) t := by
  have hstart : Arrives p b text .start := ⟨b, text, 0, rfl, .stay _⟩
  have htodo : ∀ t ∈ (if best.isNone then threads ++ [.start] else threads), Arrives p b text t := by
    intro t ht
    split at ht
    · rcases List.mem_append.1 ht with ht | ht
      · exact hthreads t ht
      · exact List.mem_singleton.1 ht ▸ hstart
    · exact hthreads t ht
  have hafter (t : Thread) (step : Step) (ht : Arrives p b text t)
      (hstep : p.steps[t.next]? = some step) :
      ∀ t' ∈ t.after ⟨b.length, b.head?, text.head?⟩ step, Arrives p b text t' := by
    intro t' ht'
    refine ht.move ⟨step, by rwa [Array.getElem?_toList], ?_⟩ rfl
    exact List.mem_append_left _ (List.mem_map_of_mem (f := fun t => Config.mk b text t) ht')
  obtain ⟨hready, hdone⟩ := settle_sound hafter (List.forall_mem_nil _) htodo
  refine ⟨hready, fun t ht => ?_⟩
  obtain ⟨harrives, haccept⟩ := hdone t ht
  exact ⟨b, text, rfl, harrives, haccept⟩

theorem forall_mem_or {Q : Thread → Prop} {done best : Option Thread} (hdone : ∀ t ∈ done, Q t)
    (hbest : ∀ t ∈ best, Q t) : ∀ t ∈ done.or best, Q t := by
  cases done with
  | none => exact hbest
  | some done => exact hdone

theorem advance_sound {b text : List Char} {best : Option Thread} {threads : List Thread}
    (hthreads : ∀ t ∈ threads, Arrives p b text t)
    (hbest : ∀ t ∈ best, Found p (b.reverse ++ text) t) :
    ∀ t ∈ advance p best threads b.length b.head? text, Found p (b.reverse ++ text) t := by
  induction text generalizing b best threads with
  | nil =>
    rw [advance_nil]
    exact forall_mem_or (settled_sound best hthreads).2 hbest
  | cons c text ih =>
    obtain ⟨hready, hdone⟩ := settled_sound best hthreads
    have hnext := forall_mem_or hdone hbest
    rw [advance_cons]
    dsimp only
    split
    · exact hnext
    · have htext : b.reverse ++ c :: text = (c :: b).reverse ++ text := by simp
      rw [htext] at hnext ⊢
      refine ih (b := c :: b) (fun t ht => ?_) hnext
      obtain ⟨r, hr, hread⟩ := List.mem_filterMap.1 ht
      obtain ⟨step, hstep, hread⟩ := Option.bind_eq_some_iff.1 hread
      refine (hready r (List.mem_reverse.1 hr)).move ⟨step, by rwa [Array.getElem?_toList], ?_⟩ htext
      exact List.mem_append_right _ (by simp [hread])

end Advance

namespace Program

variable {n : Node} {text : List Char}

theorem toList_steps_ofNode (n : Node) : (ofNode n).steps.toList = n.steps ++ [.accept] := rfl

theorem at_ofNode (n : Node) : At (ofNode n).steps.toList 0 n.steps :=
  ⟨[], [.accept], rfl, rfl⟩

theorem captures?_sound {caps : Captures} (h : (ofNode n).captures? text = some caps) :
    ∃ b w a, text = b.reverse ++ w ++ a ∧ n.reading b w a caps := by
  obtain ⟨t, ht, hcaps⟩ := Option.map_eq_some_iff.1 h
  have hfound : ∀ t ∈ advance (ofNode n) none [] 0 none text, Found (ofNode n) text t :=
    advance_sound (b := []) (by simp) (by simp)
  obtain ⟨b, rest, htext, ⟨u, v, k, huv, hrun⟩, haccept⟩ := hfound t ht
  have hf : Completes (ofNode n).steps.toList ⟨b, rest, t⟩ := by
    rwa [Completes, Array.getElem?_toList]
  obtain ⟨y, j, _, hnext, ⟨w, caps', marks, hv, _, hm, _, hclosed, hheld⟩, hend⟩ :=
    (Node.implements n).sound (at_ofNode n) rfl hrun hf
  -- behind the node the run cannot go on
  obtain rfl : y = ⟨b, rest, t⟩ := by
    cases hend with
    | stay => rfl
    | move hmove _ =>
      obtain ⟨step, hstep, hy⟩ := hmove
      rw [hnext, Nat.zero_add, toList_steps_ofNode, List.getElem?_concat_length] at hstep
      cases hstep
      rw [Config.after_of_silent fun _ => rfl] at hy
      cases hy
  refine ⟨u, w, rest, ?_, ?_⟩
  · rw [List.append_assoc, ← hv]
    exact (htext.symm.trans huv.symm)
  · have hfull : Config.text ⟨u, v, .start⟩ = text := huv.trans htext
    have heq : caps' = caps := by
      rw [← hheld, ← hcaps, hclosed, hfull]
      exact congrArg _ (List.append_nil marks).symm
    exact heq ▸ hm

theorem captures?_isSome {b w a : List Char} {caps : Captures} (h : n.reading b w a caps) :
    ((ofNode n).captures? (b.reverse ++ w ++ a)).isSome = true := by
  obtain ⟨k, y, hrun, hbefore, hrest, hnext⟩ := (Node.implements n).complete (x := ⟨b, w ++ a, .start⟩)
    (at_ofNode n) rfl rfl h
  have haccepts : Accepts (ofNode n).steps.toList b (w ++ a) 0 := by
    refine .of_runs hrun ?_
    rw [Completes, hnext, Nat.zero_add, toList_steps_ofNode, List.getElem?_concat_length]
  rw [captures?, Option.isSome_map]
  refine advance_isSome (b := []) ?_
  rw [List.append_assoc]
  generalize hu : b.reverse = u
  cases u with
  | nil =>
    cases List.reverse_eq_nil_iff.1 hu
    exact .inl ⟨.start, by simp, haccepts⟩
  | cons c u =>
    refine .inr ⟨c, u, w ++ a, rfl, ?_⟩
    have hb : u.reverse ++ [c] = b := by
      rw [← List.reverse_cons, ← hu, List.reverse_reverse]
    exact hb ▸ haccepts

end Program

end UrlRouter.Regex
