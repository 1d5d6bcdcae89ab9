import UrlRouter.Proofs.Regex.Readings

/-!
Runs of the steps of a node. From the first step to behind the last one they read what the node
reads, and every run that completes a match somewhere behind comes by there.
-/

namespace UrlRouter.Regex

structure Config where
  before : List Char
  rest : List Char
  thread : Thread

def held (text : List Char) (g : String × Nat × Nat) : String × List Char :=
  (g.1, (text.drop g.2.1).take (g.2.2 - g.2.1))

namespace Config

def place (x : Config) : Place := ⟨x.before.length, x.before.head?, x.rest.head?⟩

def text (x : Config) : List Char := x.before.reverse ++ x.rest

def after (x : Config) (step : Step) : List Config :=
  (x.thread.after x.place step).map (fun t => { x with thread := t }) ++
    match x.rest with
    | [] => []
    | c :: rest => (x.thread.read? c step).toList.map fun t => ⟨c :: x.before, rest, t⟩

theorem after_of_silent {x : Config} {step : Step} (h : ∀ c, x.thread.read? c step = none) :
    x.after step = (x.thread.after x.place step).map fun t => { x with thread := t } := by
  unfold after
  cases x.rest with
  | nil => exact List.append_nil _
  | cons c rest => simp [h]

def jump (x : Config) (distance : Int) : Config := { x with thread := x.thread.jump distance }

theorem after_jump (x : Config) (distances : List Int) :
    x.after (.jump distances) = distances.map x.jump := by
  rw [after_of_silent fun _ => rfl]
  exact List.map_map

theorem mem_after_ways {x y : Config} {greedy : Bool} {again leave : Int} :
    y ∈ x.after (ways greedy again leave) ↔ y = x.jump again ∨ y = x.jump leave := by
  rw [ways, after_jump]
  cases greedy <;> simp [or_comm]

theorem next_jump {x : Config} {n : Nat} {distance : Int} (h : x.thread.next + distance = n) :
    (x.jump distance).thread.next = n := by
  simp [jump, Thread.jump, h]

end Config

section

variable (code : List Step)

def Moves (x y : Config) : Prop := ∃ step, code[x.thread.next]? = some step ∧ y ∈ x.after step

inductive Runs : Nat → Config → Config → Prop where
  | stay (x : Config) : Runs 0 x x
  | move {n : Nat} {x y z : Config} : Moves code x y → Runs n y z → Runs (n + 1) x z

def Completes (x : Config) : Prop := code[x.thread.next]? = some .accept

def At (base : Nat) (part : List Step) : Prop :=
  ∃ front back, code = front ++ part ++ back ∧ front.length = base

end

variable {code : List Step}

theorem Runs.one {x y : Config} (h : Moves code x y) : Runs code 1 x y :=
  .move h (.stay y)

theorem Runs.trans {m n : Nat} {x y z : Config} (h : Runs code m x y) (h' : Runs code n y z) :
    Runs code (m + n) x z := by
  induction h with
  | stay x => rwa [Nat.zero_add]
  | move hm _ ih =>
    rw [Nat.succ_add]
    exact .move hm (ih h')

theorem Runs.first {n : Nat} {x f : Config} {step : Step} (h : Runs code n x f)
    (hf : Completes code f) (hstep : code[x.thread.next]? = some step) (hne : step ≠ .accept) :
    ∃ y m, n = m + 1 ∧ y ∈ x.after step ∧ Runs code m y f := by
  cases h with
  | stay =>
    rw [Completes, hstep, Option.some.injEq] at hf
    exact absurd hf hne
  | @move m _ y _ hmove hrun =>
    obtain ⟨step', hstep', hy⟩ := hmove
    rw [hstep, Option.some.injEq] at hstep'
    subst hstep'
    exact ⟨y, m, rfl, hy, hrun⟩

theorem At.getElem? {base : Nat} {step : Step} {part : List Step}
    (h : At code base (step :: part)) : code[base]? = some step := by
  obtain ⟨front, back, rfl, rfl⟩ := h
  simp

theorem At.left {base : Nat} {u v : List Step} (h : At code base (u ++ v)) : At code base u := by
  obtain ⟨front, back, rfl, rfl⟩ := h
  exact ⟨front, v ++ back, by simp, rfl⟩

theorem At.right {base : Nat} {u v : List Step} (h : At code base (u ++ v)) :
    At code (base + u.length) v := by
  obtain ⟨front, back, rfl, rfl⟩ := h
  exact ⟨front ++ u, back, by simp, by simp⟩

theorem At.tail {base : Nat} {step : Step} {v : List Step} (h : At code base (step :: v)) :
    At code (base + 1) v :=
  At.right (u := [step]) h

def Passes (m : Reading) (x y : Config) : Prop :=
  ∃ w caps marks, x.rest = w ++ y.rest ∧ y.before = w.reverse ++ x.before ∧
    m x.before w y.rest caps ∧ y.thread.opened = x.thread.opened ∧
    y.thread.closed = marks ++ x.thread.closed ∧ marks.map (held x.text) = caps

theorem Passes.text_eq {m : Reading} {x y : Config} (h : Passes m x y) : y.text = x.text := by
  obtain ⟨w, _, _, hrest, hbefore, _⟩ := h
  simp [Config.text, hrest, hbefore]

theorem Passes.append {m k : Reading} {x y z : Config} (h : Passes m x y) (h' : Passes k y z) :
    Passes (m.append k) x z := by
  have htext := h.text_eq
  obtain ⟨u, d, marks, hrest, hbefore, hm, hopened, hclosed, hheld⟩ := h
  obtain ⟨v, e, marks', hrest', hbefore', hk, hopened', hclosed', hheld'⟩ := h'
  refine ⟨u ++ v, e ++ d, marks' ++ marks, by simp [hrest, hrest'], by simp [hbefore, hbefore'], ?_,
    hopened'.trans hopened, by simp [hclosed, hclosed'], ?_⟩
  · exact ⟨u, v, d, e, rfl, rfl, hrest' ▸ hm, hbefore ▸ hk⟩
  · rw [List.map_append, hheld, ← htext, hheld']

theorem Passes.nil {x y : Config} (hbefore : y.before = x.before) (hrest : y.rest = x.rest)
    (hopened : y.thread.opened = x.thread.opened) (hclosed : y.thread.closed = x.thread.closed) :
    Passes .nil x y :=
  ⟨[], [], [], hrest.symm, hbefore, ⟨rfl, rfl⟩, hopened, hclosed, rfl⟩

theorem Passes.mono {m k : Reading} {x y : Config} (h : Passes m x y)
    (hmk : ∀ b w a caps, m b w a caps → k b w a caps) : Passes k x y := by
  obtain ⟨w, caps, marks, hrest, hbefore, hm, h⟩ := h
  exact ⟨w, caps, marks, hrest, hbefore, hmk _ _ _ _ hm, h⟩

theorem held_text {x : Config} {w a : List Char} (h : x.rest = w ++ a) (name : String) :
    held x.text (name, x.before.length, (w.reverse ++ x.before).length) = (name, w) := by
  simp [held, Config.text, h]

theorem Passes.named {m : Reading} {x y : Config} {name : String}
    (h : Passes m { x with thread := x.thread.openGroup x.before.length } y) :
    Passes (m.named name) x { y with thread := y.thread.closeGroup name y.before.length } := by
  obtain ⟨w, caps, marks, hrest, hbefore, hm, hopened, hclosed, hheld⟩ := h
  have hthread : y.thread.closeGroup name y.before.length =
      ⟨y.thread.next + 1, x.thread.opened,
        (name, x.before.length, y.before.length) :: y.thread.closed⟩ := by
    rw [Thread.closeGroup, hopened]
    rfl
  refine ⟨w, (name, w) :: caps, (name, x.before.length, y.before.length) :: marks, hrest, hbefore,
    ⟨caps, rfl, hm⟩, ?_, ?_, ?_⟩
  · rw [hthread]
  · rw [hthread, hclosed]
    rfl
  · have hword := held_text (x := x) hrest name
    rw [List.map_cons, hbefore, hword]
    exact congrArg _ hheld

theorem Thread.next_closeGroup (t : Thread) (name : String) (index : Nat) :
    (t.closeGroup name index).next = t.next + 1 := by
  unfold closeGroup
  split <;> rfl

theorem Runs.jump {x : Config} {distances : List Int} {distance : Int}
    (h : code[x.thread.next]? = some (.jump distances)) (hd : distance ∈ distances) :
    Runs code 1 x (x.jump distance) := by
  refine .one ⟨_, h, ?_⟩
  rw [Config.after_jump]
  exact List.mem_map_of_mem hd

theorem Runs.again {x : Config} {greedy : Bool} {again leave : Int}
    (h : code[x.thread.next]? = some (ways greedy again leave)) : Runs code 1 x (x.jump again) :=
  .one ⟨_, h, Config.mem_after_ways.2 (.inl rfl)⟩

theorem Runs.leave {x : Config} {greedy : Bool} {again leave : Int}
    (h : code[x.thread.next]? = some (ways greedy again leave)) : Runs code 1 x (x.jump leave) :=
  .one ⟨_, h, Config.mem_after_ways.2 (.inr rfl)⟩

/-- The steps read what the reading says. For completeness only the way is followed, since which
texts the groups hold then is a matter of soundness. -/
structure Implements (part : List Step) (m : Reading) : Prop where
  complete : ∀ {code base x w a caps}, At code base part → x.thread.next = base →
    x.rest = w ++ a → m x.before w a caps →
    ∃ n y, Runs code n x y ∧ y.before = w.reverse ++ x.before ∧ y.rest = a ∧
      y.thread.next = base + part.length
  sound : ∀ {code base n x f}, At code base part → x.thread.next = base → Runs code n x f →
    Completes code f →
    ∃ y k, k ≤ n ∧ y.thread.next = base + part.length ∧ Passes m x y ∧ Runs code k y f

namespace Implements

theorem nil : Implements [] .nil := by
  refine ⟨fun {code base x w a caps} _ hnext hrest hm => ?_, fun {code base n x f} _ hnext h hf => ?_⟩
  · obtain ⟨rfl, rfl⟩ := hm
    exact ⟨0, x, .stay x, rfl, hrest, hnext⟩
  · exact ⟨x, n, Nat.le_refl n, hnext, .nil rfl rfl rfl rfl, h⟩

theorem append {u v : List Step} {m k : Reading} (hu : Implements u m) (hv : Implements v k) :
    Implements (u ++ v) (m.append k) := by
  refine ⟨fun {code base x w a caps} hat hnext hrest hm => ?_,
    fun {code base n x f} hat hnext h hf => ?_⟩
  · obtain ⟨w₁, w₂, d, e, rfl, rfl, hm, hk⟩ := hm
    obtain ⟨i, y, hxy, hbefore, hy, hnexty⟩ :=
      hu.complete hat.left hnext (hrest.trans (List.append_assoc _ _ _)) hm
    obtain ⟨j, z, hyz, hbefore', hz, hnextz⟩ := hv.complete hat.right hnexty hy (hbefore ▸ hk)
    refine ⟨i + j, z, hxy.trans hyz, by simp [hbefore, hbefore'], hz, ?_⟩
    rw [hnextz, List.length_append, Nat.add_assoc]
  · obtain ⟨y, i, hi, hnexty, hxy, hyf⟩ := hu.sound hat.left hnext h hf
    obtain ⟨z, j, hj, hnextz, hyz, hzf⟩ := hv.sound hat.right hnexty hyf hf
    refine ⟨z, j, Nat.le_trans hj hi, ?_, hxy.append hyz, hzf⟩
    rw [hnextz, List.length_append, Nat.add_assoc]

theorem single {step : Step} {m : Reading} (hne : step ≠ .accept)
    (hafter : ∀ x : Config, ∀ y ∈ x.after step, y.thread.next = x.thread.next + 1 ∧ Passes m x y)
    (hm : ∀ (x : Config) w a caps, x.rest = w ++ a → m x.before w a caps →
      ∃ y ∈ x.after step, y.before = w.reverse ++ x.before ∧ y.rest = a) :
    Implements [step] m := by
  refine ⟨fun {code base x w a caps} hat hnext hrest hx => ?_,
    fun {code base n x f} hat hnext h hf => ?_⟩
  · obtain ⟨y, hy, hbefore, hyrest⟩ := hm x w a caps hrest hx
    refine ⟨1, y, .one ⟨step, hnext ▸ hat.getElem?, hy⟩, hbefore, hyrest, ?_⟩
    rw [(hafter x y hy).1, hnext]
    rfl
  · obtain ⟨y, k, rfl, hy, hyf⟩ := h.first hf (hnext ▸ hat.getElem?) hne
    obtain ⟨hnexty, hxy⟩ := hafter x y hy
    exact ⟨y, k, Nat.le_succ k, hnexty.trans (congrArg (· + 1) hnext), hxy, hyf⟩

theorem readChar (c : Char) : Implements [.readChar c] (.word [c]) := by
  refine single (by simp) (fun x y hy => ?_) (fun x w a caps hrest hm => ?_)
  · cases hx : x.rest with
    | nil => simp [Config.after, Thread.after, hx] at hy
    | cons d rest =>
      simp only [Config.after, Thread.after, hx, Thread.read?, List.map_nil, List.nil_append,
        List.mem_map, Option.mem_toList, Option.ite_none_right_eq_some, Option.some.injEq] at hy
      obtain ⟨t, ⟨rfl, rfl⟩, rfl⟩ := hy
      exact ⟨rfl, [d], [], [], hx, rfl, ⟨rfl, rfl⟩, rfl, rfl, rfl⟩
  · obtain ⟨rfl, rfl⟩ := hm
    exact ⟨⟨c :: x.before, a, x.thread.proceed⟩, by simp [Config.after, Thread.read?, hrest], rfl, rfl⟩

theorem read (chars : CharClass) : Implements [.read chars] (.oneOf chars) := by
  refine single (by simp) (fun x y hy => ?_) (fun x w a caps hrest hm => ?_)
  · cases hx : x.rest with
    | nil => simp [Config.after, Thread.after, hx] at hy
    | cons d rest =>
      simp only [Config.after, Thread.after, hx, Thread.read?, List.map_nil, List.nil_append,
        List.mem_map, Option.mem_toList, Option.ite_none_right_eq_some, Option.some.injEq] at hy
      obtain ⟨t, ⟨hd, rfl⟩, rfl⟩ := hy
      exact ⟨rfl, [d], [], [], hx, rfl, ⟨d, hd, rfl, rfl⟩, rfl, rfl, rfl⟩
  · obtain ⟨c, hc, rfl, rfl⟩ := hm
    exact ⟨⟨c :: x.before, a, x.thread.proceed⟩, by simp [Config.after, Thread.read?, hrest, hc],
      rfl, rfl⟩

theorem check (a : Assertion) : Implements [.check a] (.check a) := by
  refine single (by simp) (fun x y hy => ?_) (fun x w after caps hrest hm => ?_)
  · rw [Config.after_of_silent fun _ => rfl, Thread.after] at hy
    split at hy
    · next hholds =>
      cases List.mem_singleton.1 hy
      exact ⟨rfl, [], [], [], rfl, rfl, ⟨hholds, rfl, rfl⟩, rfl, rfl, rfl⟩
    · cases hy
  · obtain ⟨hholds, rfl, rfl⟩ := hm
    refine ⟨{ x with thread := x.thread.proceed }, ?_, rfl, hrest⟩
    have hplace : a.holds x.place.before x.place.after = true := by
      rw [List.nil_append] at hrest
      simpa [Config.place, hrest] using hholds
    rw [Config.after_of_silent fun _ => rfl, Thread.after, if_pos hplace]
    exact List.mem_singleton.2 rfl

theorem never : Implements [.jump []] .never := by
  refine ⟨fun _ _ _ hm => hm.elim, fun {code base n x f} hat hnext h hf => ?_⟩
  obtain ⟨y, k, _, hy, _⟩ := h.first hf (hnext ▸ hat.getElem?) (by simp)
  rw [Config.after_jump] at hy
  cases hy

theorem either {one others : List Step} {m k : Reading} (hone : Implements one m)
    (hothers : Implements others k) :
    Implements
      (.jump [1, (one.length + 2 : Nat)] :: one ++ .jump [(others.length + 1 : Nat)] :: others)
      (m.either k) := by
  refine ⟨fun {code base x w a caps} hat hnext hrest hm => ?_,
    fun {code base n x f} hat hnext h hf => ?_⟩
  · have hway : code[x.thread.next]? = some (.jump [1, (one.length + 2 : Nat)]) :=
      hnext ▸ hat.left.getElem?
    have hbody : At code (base + 1) (one ++ .jump [(others.length + 1 : Nat)] :: others) := hat.tail
    rcases hm with hm | hk
    · obtain ⟨n, y, hrun, hbefore, hy, hnexty⟩ := hone.complete (x := x.jump 1) hbody.left
        (Config.next_jump (by omega)) hrest hm
      have hover := Runs.jump (hnexty ▸ hbody.right.getElem?) List.mem_cons_self
      refine ⟨_, _, ((Runs.jump hway (by simp)).trans hrun).trans hover, hbefore, hy, ?_⟩
      exact Config.next_jump (by simp; omega)
    · obtain ⟨n, y, hrun, hbefore, hy, hnexty⟩ := hothers.complete
        (x := x.jump (one.length + 2 : Nat)) hbody.right.tail
        (Config.next_jump (by omega)) hrest hk
      refine ⟨_, y, (Runs.jump hway (by simp)).trans hrun, hbefore, hy, ?_⟩
      simp [hnexty]
      omega
  · have hbody : At code (base + 1) (one ++ .jump [(others.length + 1 : Nat)] :: others) := hat.tail
    obtain ⟨z, k', rfl, hz, hzf⟩ := h.first hf (hnext ▸ hat.left.getElem?) (by simp)
    rw [Config.after_jump] at hz
    simp only [List.map_cons, List.map_nil, List.mem_cons, List.not_mem_nil, or_false] at hz
    rcases hz with rfl | rfl
    · obtain ⟨y, j, hj, hnexty, hxy, hyf⟩ := hone.sound hbody.left
        (Config.next_jump (by omega)) hzf hf
      have hover := hbody.right.getElem?
      obtain ⟨v, i, rfl, hv, hvf⟩ := hyf.first hf (hnexty ▸ hover) (by simp)
      rw [Config.after_jump, List.map_singleton, List.mem_singleton] at hv
      subst hv
      refine ⟨_, i, by omega, Config.next_jump (by simp; omega), hxy.mono fun _ _ _ _ => .inl, hvf⟩
    · obtain ⟨y, j, hj, hnexty, hxy, hyf⟩ := hothers.sound hbody.right.tail
        (Config.next_jump (by omega)) hzf hf
      refine ⟨y, j, by omega, ?_, hxy.mono fun _ _ _ _ => .inr, hyf⟩
      simp [hnexty]
      omega

theorem optional {part : List Step} {m : Reading} (greedy : Bool) (h : Implements part m) :
    Implements (ways greedy 1 (part.length + 1 : Nat) :: part) (Reading.nil.either m) := by
  refine ⟨fun {code base x w a caps} hat hnext hrest hm => ?_,
    fun {code base n x f} hat hnext hrun hf => ?_⟩
  · have hway := hnext ▸ hat.getElem?
    rcases hm with ⟨rfl, rfl⟩ | hm
    · exact ⟨1, _, .leave hway, rfl, hrest, Config.next_jump (by simp; omega)⟩
    · obtain ⟨n, y, hrun, hbefore, hy, hnexty⟩ := h.complete (x := x.jump 1) hat.tail
        (Config.next_jump (by omega)) hrest hm
      refine ⟨_, y, (Runs.again hway).trans hrun, hbefore, hy, ?_⟩
      simp [hnexty]
      omega
  · obtain ⟨z, k, rfl, hz, hzf⟩ := hrun.first hf (hnext ▸ hat.getElem?) (by simp [ways])
    rcases Config.mem_after_ways.1 hz with rfl | rfl
    · obtain ⟨y, j, hj, hnexty, hxy, hyf⟩ := h.sound hat.tail (Config.next_jump (by omega)) hzf hf
      refine ⟨y, j, by omega, ?_, hxy.mono fun _ _ _ _ => .inr, hyf⟩
      simp [hnexty]
      omega
    · refine ⟨_, k, by omega, Config.next_jump (by simp; omega), ?_, hzf⟩
      exact (Passes.nil (x := x) rfl rfl rfl rfl).mono fun _ _ _ _ => .inl

theorem times {part : List Step} {m : Reading} (h : Implements part m) (n : Nat) :
    Implements (timesSteps n part) (.times n m) := by
  induction n with
  | zero => exact nil
  | succ n ih =>
    rw [timesSteps, List.replicate_succ, List.flatten_cons]
    exact h.append ih

theorem upToSteps_succ (n : Nat) (greedy : Bool) (part : List Step) :
    upToSteps (n + 1) greedy part =
      ways greedy 1 ((part ++ upToSteps n greedy part).length + 1 : Nat) ::
        (part ++ upToSteps n greedy part) := by
  have hlength (k : Nat) : (upToSteps k greedy part).length = k * (part.length + 1) := by
    simp [upToSteps, List.length_flatMap, List.map_const']
  have hdistance : (part ++ upToSteps n greedy part).length + 1 = (n + 1) * (part.length + 1) := by
    rw [List.length_append, hlength, Nat.succ_mul]
    omega
  rw [hdistance]
  simp [upToSteps, List.range_succ_eq_map, List.flatMap_map]

theorem upTo {part : List Step} {m : Reading} (h : Implements part m) (greedy : Bool) (n : Nat) :
    Implements (upToSteps n greedy part) (.rounds 0 (some n) m) := by
  induction n with
  | zero =>
    rw [Reading.rounds_zero_zero]
    exact nil
  | succ n ih =>
    rw [Reading.rounds_zero_succ, upToSteps_succ]
    exact optional greedy (h.append ih)

theorem some {part : List Step} {m : Reading} (h : Implements part m) (greedy : Bool) :
    Implements (someSteps greedy part) (.rounds 1 none m) := by
  have hlast : Reading.rounds 1 none m = m.append (.rounds 0 none m) := Reading.rounds_succ 0 m
  refine ⟨fun {code base x w a caps} hat hnext hrest hm => ?_,
    fun {code base n x f} hat hnext hrun hf => ?_⟩
  · obtain ⟨n, hn, hmost, hm⟩ := hm
    obtain ⟨n, rfl⟩ := Nat.exists_eq_add_of_le' hn
    clear hn hmost
    -- by the number of rounds: all but the last one go back to the first step
    induction n generalizing x w caps with
    | zero =>
      rw [Nat.zero_add, Reading.times_one] at hm
      obtain ⟨n, y, hrun, hbefore, hy, hnexty⟩ := h.complete hat.left hnext hrest hm
      have hway := hnexty ▸ hat.right.getElem?
      refine ⟨_, _, hrun.trans (.leave hway), hbefore, hy, Config.next_jump ?_⟩
      simp [hnexty, someSteps]
      omega
    | succ n ih =>
      obtain ⟨u, v, d, e, rfl, rfl, hu, hv⟩ := hm
      obtain ⟨i, y, hrun, hbefore, hy, hnexty⟩ :=
        h.complete hat.left hnext (hrest.trans (List.append_assoc _ _ _)) hu
      have hway := hnexty ▸ hat.right.getElem?
      obtain ⟨j, z, hrest', hbefore', hz, hnextz⟩ := ih (x := y.jump (-(part.length : Int)))
        (Config.next_jump (by omega)) hy (hbefore ▸ hv)
      refine ⟨_, z, (hrun.trans (.again hway)).trans hrest', ?_, hz, hnextz⟩
      rw [hbefore', List.reverse_append, List.append_assoc, ← hbefore]
      rfl
  · -- by the length of the run, of which each round takes up a step at least
    induction n using Nat.strongRecOn generalizing x with
    | ind n ih =>
      obtain ⟨y, i, hi, hnexty, hxy, hyf⟩ := h.sound hat.left hnext hrun hf
      obtain ⟨z, k, rfl, hz, hzf⟩ := hyf.first hf (hnexty ▸ hat.right.getElem?) (by simp [ways])
      rw [hlast]
      rcases Config.mem_after_ways.1 hz with rfl | rfl
      · obtain ⟨v, j, hj, hnextv, hyv, hvf⟩ :=
          ih k (by omega) (x := y.jump (-(part.length : Int))) (Config.next_jump (by omega)) hzf
        refine ⟨v, j, by omega, hnextv, hxy.append ?_, hvf⟩
        rw [Reading.rounds_zero]
        exact hyv.mono fun _ _ _ _ => .inr
      · refine ⟨y.jump 1, k, by omega, Config.next_jump ?_, hxy.append ?_, hzf⟩
        · simp [hnexty, someSteps]
          omega
        · rw [Reading.rounds_zero]
          exact (Passes.nil (x := y) rfl rfl rfl rfl).mono fun _ _ _ _ => .inl

theorem any {part : List Step} {m : Reading} (h : Implements part m) (greedy : Bool) :
    Implements (anySteps greedy part) (.rounds 0 none m) := by
  refine ⟨fun {code base x w a caps} hat hnext hrest hm => ?_,
    fun {code base n x f} hat hnext hrun hf => ?_⟩
  · have hway : code[base]? = Option.some (ways greedy 1 (part.length + 2 : Nat)) := hat.left.getElem?
    have hbody : At code (base + 1) (part ++ [.jump [-(part.length + 1 : Nat)]]) := hat.tail
    obtain ⟨n, hn, hmost, hm⟩ := hm
    clear hn hmost
    -- by the number of rounds, each of them from the choice back to the choice
    induction n generalizing x w caps with
    | zero =>
      obtain ⟨rfl, rfl⟩ := hm
      refine ⟨1, _, .leave (hnext ▸ hway), rfl, hrest, Config.next_jump ?_⟩
      simp [hnext, anySteps]
      omega
    | succ n ih =>
      obtain ⟨u, v, d, e, rfl, rfl, hu, hv⟩ := hm
      obtain ⟨i, y, hrun, hbefore, hy, hnexty⟩ := h.complete (x := x.jump 1) hbody.left
        (Config.next_jump (by omega)) (hrest.trans (List.append_assoc _ _ _)) hu
      have hback := Runs.jump (hnexty ▸ hbody.right.getElem?) List.mem_cons_self
      obtain ⟨j, z, hrest', hbefore', hz, hnextz⟩ := ih (x := y.jump (-(part.length + 1 : Nat)))
        (Config.next_jump (by omega)) hy (hbefore ▸ hv)
      refine ⟨_, z, (((Runs.again (hnext ▸ hway)).trans hrun).trans hback).trans hrest', ?_, hz,
        hnextz⟩
      rw [hbefore', List.reverse_append, List.append_assoc]
      exact congrArg (v.reverse ++ ·) hbefore
  · have hway : code[base]? = Option.some (ways greedy 1 (part.length + 2 : Nat)) := hat.left.getElem?
    have hbody : At code (base + 1) (part ++ [.jump [-(part.length + 1 : Nat)]]) := hat.tail
    -- by the length of the run, as a round may take up no character
    induction n using Nat.strongRecOn generalizing x with
    | ind n ih =>
      obtain ⟨z, k, rfl, hz, hzf⟩ := hrun.first hf (hnext ▸ hway) (by simp [ways])
      rcases Config.mem_after_ways.1 hz with rfl | rfl
      · obtain ⟨y, i, hi, hnexty, hxy, hyf⟩ :=
          h.sound hbody.left (Config.next_jump (by omega)) hzf hf
        have hback := hbody.right.getElem?
        obtain ⟨v, j, rfl, hv, hvf⟩ := hyf.first hf (hnexty ▸ hback) (by simp)
        rw [Config.after_jump, List.map_singleton, List.mem_singleton] at hv
        subst hv
        obtain ⟨v, l, hl, hnextv, hyv, hvf⟩ := ih j (by omega)
          (x := y.jump (-(part.length + 1 : Nat))) (Config.next_jump (by omega)) hvf
        refine ⟨v, l, by omega, hnextv, ?_, hvf⟩
        have hround : Passes (m.append (.rounds 0 none m)) x v := Passes.append hxy hyv
        rw [← Reading.rounds_succ] at hround
        rw [Reading.rounds_zero]
        exact hround.mono fun _ _ _ _ => .inr
      · refine ⟨_, k, by omega, Config.next_jump ?_, ?_, hzf⟩
        · simp [hnext, anySteps]
          omega
        · rw [Reading.rounds_zero]
          exact (Passes.nil (x := x) rfl rfl rfl rfl).mono fun _ _ _ _ => .inl

theorem loop {part : List Step} {m : Reading} (h : Implements part m) (least : Nat)
    (most : Option Nat) (greedy movesOn : Bool) :
    Implements (loopSteps least most greedy movesOn part) (.rounds least most m) := by
  cases most with
  | some most =>
    rw [Reading.rounds_some]
    exact (h.times least).append (h.upTo greedy (most - least))
  | none =>
    cases least with
    | zero =>
      cases movesOn with
      | true => exact h.any greedy
      | false =>
        have hsome := (h.some greedy).upTo greedy 1
        rw [Reading.rounds_zero_succ, Reading.rounds_zero_zero, Reading.append_nil,
          ← Reading.rounds_zero] at hsome
        exact hsome
    | succ least =>
      have hrounds : Reading.rounds (least + 1) none m =
          (Reading.times least m).append (.rounds 1 none m) := by
        induction least with
        | zero => exact (Reading.nil_append _).symm
        | succ least ih => rw [Reading.rounds_succ, ih, Reading.times, Reading.append_assoc]
      rw [hrounds]
      exact (h.times least).append (h.some greedy)

theorem named {part : List Step} {m : Reading} (h : Implements part m) (name : String) :
    Implements (.openGroup name :: part ++ [.closeGroup name]) (m.named name) := by
  have hopen (x : Config) : x.after (.openGroup name) =
      [{ x with thread := x.thread.openGroup x.before.length }] :=
    Config.after_of_silent fun _ => rfl
  have hclose (x : Config) : x.after (.closeGroup name) =
      [{ x with thread := x.thread.closeGroup name x.before.length }] :=
    Config.after_of_silent fun _ => rfl
  refine ⟨fun {code base x w a caps} hat hnext hrest hm => ?_,
    fun {code base n x f} hat hnext hrun hf => ?_⟩
  · have hbody : At code (base + 1) (part ++ [.closeGroup name]) := hat.tail
    obtain ⟨d, rfl, hm⟩ := hm
    let z : Config := { x with thread := x.thread.openGroup x.before.length }
    have hxz : Runs code 1 x z := .one ⟨_, hnext ▸ hat.left.getElem?, by simp [hopen, z]⟩
    obtain ⟨n, y, hrun, hbefore, hy, hnexty⟩ := h.complete (x := z) hbody.left
      (congrArg (· + 1) hnext) hrest hm
    refine ⟨_, { y with thread := y.thread.closeGroup name y.before.length },
      (hxz.trans hrun).trans (.one ⟨_, hnexty ▸ hbody.right.getElem?, by simp [hclose]⟩), hbefore,
      hy, ?_⟩
    rw [Thread.next_closeGroup, hnexty]
    simp
    omega
  · have hbody : At code (base + 1) (part ++ [.closeGroup name]) := hat.tail
    obtain ⟨z, k, rfl, hz, hzf⟩ := hrun.first hf (hnext ▸ hat.left.getElem?) (by simp)
    rw [hopen, List.mem_singleton] at hz
    subst hz
    obtain ⟨y, i, hi, hnexty, hxy, hyf⟩ :=
      h.sound hbody.left (congrArg (· + 1) hnext) hzf hf
    have hend := hbody.right.getElem?
    obtain ⟨v, j, rfl, hv, hvf⟩ := hyf.first hf (hnexty ▸ hend) (by simp)
    rw [hclose, List.mem_singleton] at hv
    subst hv
    refine ⟨_, j, by omega, ?_, hxy.named, hvf⟩
    rw [Thread.next_closeGroup, hnexty]
    simp
    omega

theorem word (text : List Char) : Implements (text.map .readChar) (.word text) := by
  induction text with
  | nil => exact nil
  | cons c text ih =>
    have hword : Reading.word (c :: text) = (Reading.word [c]).append (.word text) :=
      (Reading.word_append [c] text).symm
    rw [hword]
    exact (readChar c).append ih

end Implements

mutual

theorem Node.implements : ∀ n : Node, Implements n.steps n.reading
  | .empty => .nil
  | .literal text => .word text
  | .set chars => .read chars
  | .assertion a => .check a
  | .loop least most greedy body => (Node.implements body).loop least most greedy body.movesOn
  | .group _ (some name) body => (Node.implements body).named name
  | .group _ none body => Node.implements body
  | .seq items => Node.implementsAll items
  | .alt branches => Node.implementsAny branches

theorem Node.implementsAll : ∀ ns : List Node, Implements (stepsOfAll ns) (readingOfAll ns)
  | [] => .nil
  | n :: ns => (Node.implements n).append (Node.implementsAll ns)

theorem Node.implementsAny : ∀ ns : List Node, Implements (stepsOfAny ns) (readingOfAny ns)
  | [] => .never
  | [n] => by
    rw [stepsOfAny, readingOfAny, readingOfAny, Reading.either_never]
    exact Node.implements n
  | n :: m :: ns => (Node.implements n).either (Node.implementsAny (m :: ns))

end

end UrlRouter.Regex
