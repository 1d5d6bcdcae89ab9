import UrlRouter.Calendar.Reader
import UrlRouter.Proofs.Decimal.Integer

/-!
The formats of dates and times. What a text has besides digits and white space tells its format, so
at most one format accepts a text and it does not matter in which order they are tried.
-/

namespace UrlRouter

open Text Unicode

inductive TimeFormat where
  | internet
  | spaced
  | lettered
  | date
  | seconds
  deriving DecidableEq

namespace TimeFormat

variable {cs mid rest : List Char}

def marks (cs : List Char) : List Char := cs.filter fun c => !c.isDigit && !isWhiteSpace c

theorem marks_append (cs rest : List Char) : marks (cs ++ rest) = marks cs ++ marks rest :=
  List.filter_append ..

theorem marks_of_digits (h : ∀ c ∈ cs, c.isDigit = true) : marks cs = [] := by
  rw [marks, List.filter_eq_nil_iff]
  intro c hc
  simp [h c hc]

theorem marks_of_blank (h : Blank cs) : marks cs = [] := by
  rw [marks, List.filter_eq_nil_iff]
  intro c hc
  simp [h c hc]

/-- The texts that have one of the alternatives of each row, one row after the other. -/
def choices : List (List (List Char)) → List (List Char)
  | [] => [[]]
  | row :: rows => row.flatMap fun a => (choices rows).map (a ++ ·)

theorem append_mem_choices {rows rows' : List (List (List Char))} {a b : List Char}
    (ha : a ∈ choices rows) (hb : b ∈ choices rows') : a ++ b ∈ choices (rows ++ rows') := by
  induction rows generalizing a with
  | nil =>
    rw [List.mem_singleton.1 ha]
    exact hb
  | cons row rows ih =>
    obtain ⟨x, hx, y, hy, rfl⟩ : ∃ x ∈ row, ∃ y ∈ choices rows, x ++ y = a := by
      simpa [choices] using ha
    simp only [List.cons_append, choices, List.mem_flatMap, List.mem_map]
    exact ⟨x, hx, y ++ b, ih hy, (List.append_assoc ..).symm⟩

def Marked (rows : List (List (List Char))) (cs rest : List Char) : Prop :=
  ∃ ms ∈ choices rows, marks cs = ms ++ marks rest

namespace Marked

variable {rows rows' : List (List (List Char))}

theorem trans (h : Marked rows cs mid) (h' : Marked rows' mid rest) :
    Marked (rows ++ rows') cs rest := by
  obtain ⟨a, ha, hcs⟩ := h
  obtain ⟨b, hb, hmid⟩ := h'
  exact ⟨a ++ b, append_mem_choices ha hb, by rw [hcs, hmid, List.append_assoc]⟩

theorem nil (h : marks cs = marks rest) : Marked [] cs rest :=
  ⟨[], List.mem_singleton_self [], h⟩

theorem skip (h : marks cs = marks mid) (h' : Marked rows mid rest) : Marked rows cs rest := by
  rwa [Marked, h]

theorem of_mem (ms : List Char) {row : List (List Char)} (hms : ms ∈ row)
    (h : marks cs = ms ++ marks rest) : Marked [row] cs rest :=
  ⟨ms, by simpa [choices] using hms, h⟩

end Marked

theorem marks_trimStart (cs : List Char) : marks (trimStart cs) = marks cs := by
  have hblank : Blank (cs.takeWhile isWhiteSpace) := fun c hc => List.mem_takeWhile_imp hc
  calc marks (trimStart cs) = marks (cs.takeWhile isWhiteSpace ++ trimStart cs) := by
        rw [marks_append, marks_of_blank hblank, List.nil_append]
    _ = marks cs := by rw [trimStart, List.takeWhile_append_dropWhile]

theorem exists_digits_of_readNumber? {least n : Nat} {most : Option Nat}
    (h : readNumber? least most cs = some (n, rest)) :
    ∃ ds, cs = ds ++ rest ∧ ∀ c ∈ ds, c.isDigit = true := by
  have hsplit (bs : List Char) (hbs : bs <+: cs)
      (hrest : cs.drop (bs.takeWhile Char.isDigit).length = rest) :
      ∃ ds, cs = ds ++ rest ∧ ∀ c ∈ ds, c.isDigit = true := by
    obtain ⟨t, rfl⟩ := (List.takeWhile_prefix Char.isDigit).trans hbs
    rw [List.drop_left] at hrest
    exact ⟨_, by rw [hrest], fun c hc => List.mem_takeWhile_imp hc⟩
  unfold readNumber? at h
  cases most with
  | none =>
    dsimp only at h
    split at h
    · cases h
    · cases h
      exact hsplit cs List.prefix_rfl rfl
  | some k =>
    dsimp only at h
    split at h
    · cases h
    · cases h
      exact hsplit (cs.take k) (List.take_prefix k cs) rfl

theorem marks_of_readNumber? {least n : Nat} {most : Option Nat}
    (h : readNumber? least most cs = some (n, rest)) : marks cs = marks rest := by
  obtain ⟨ds, rfl, hds⟩ := exists_digits_of_readNumber? h
  rw [marks_append, marks_of_digits hds, List.nil_append]

theorem marks_of_readPair? {n : Nat} (h : readPair? cs = some (n, rest)) :
    marks cs = marks rest := by
  rw [← marks_trimStart, marks_of_readNumber? h]

theorem readChar?_eq_some_iff {c : Char} : readChar? c cs = some rest ↔ cs = c :: rest := by
  cases cs with
  | nil => simp [readChar?]
  | cons d cs =>
    rw [readChar?]
    by_cases hd : d = c <;> simp [hd]

def signs : List (List Char) := [[], ['-'], ['+']]

def dateRows : List (List (List Char)) := [signs, [['-']], [['-']]]

def clockRows : List (List (List Char)) := [[[':']], [[':']]]

theorem marked_of_readYear? {year : Int} (h : readYear? cs = some (year, rest)) :
    Marked [signs] cs rest := by
  refine .skip (marks_trimStart cs).symm ?_
  unfold readYear? at h
  split at h
  all_goals
    obtain ⟨⟨n, after⟩, hnumber, heq⟩ := Option.map_eq_some_iff.1 h
    cases heq
    have hmarks := marks_of_readNumber? hnumber
  · next hsign =>
    rw [hsign]
    exact .of_mem ['-'] (by decide) (congrArg ('-' :: ·) hmarks)
  · next hsign =>
    rw [hsign]
    exact .of_mem ['+'] (by decide) (congrArg ('+' :: ·) hmarks)
  · exact .of_mem [] (by decide) hmarks

theorem marked_of_readChar? {c : Char} (hc : marks [c] = [c]) (h : readChar? c cs = some rest) :
    Marked [[[c]]] cs rest := by
  rw [readChar?_eq_some_iff.1 h]
  refine .of_mem [c] (List.mem_singleton_self [c]) ?_
  rw [← List.singleton_append, marks_append, hc]

theorem marked_of_readDate? {d : Date} (h : readDate? cs = some (d, rest)) :
    Marked dateRows cs rest := by
  obtain ⟨⟨year, cs₁⟩, hyear, h⟩ := Option.bind_eq_some_iff.1 h
  obtain ⟨cs₂, hdash, h⟩ := Option.bind_eq_some_iff.1 h
  obtain ⟨⟨month, cs₃⟩, hmonth, h⟩ := Option.bind_eq_some_iff.1 h
  obtain ⟨cs₄, hdash', h⟩ := Option.bind_eq_some_iff.1 h
  obtain ⟨⟨day, cs₅⟩, hday, h⟩ := Option.bind_eq_some_iff.1 h
  obtain ⟨date, _, h⟩ := Option.bind_eq_some_iff.1 h
  cases h
  exact (marked_of_readYear? hyear).trans <| (marked_of_readChar? rfl hdash).trans <|
    .skip (marks_of_readPair? hmonth) <| (marked_of_readChar? rfl hdash').trans <|
    .nil (marks_of_readPair? hday)

theorem marked_of_readTime? {d : Date} {t : DateTime} (h : readTime? d cs = some (t, rest)) :
    Marked clockRows cs rest := by
  obtain ⟨⟨hour, cs₁⟩, hhour, h⟩ := Option.bind_eq_some_iff.1 h
  obtain ⟨cs₂, hcolon, h⟩ := Option.bind_eq_some_iff.1 h
  obtain ⟨⟨minute, cs₃⟩, hminute, h⟩ := Option.bind_eq_some_iff.1 h
  obtain ⟨cs₄, hcolon', h⟩ := Option.bind_eq_some_iff.1 h
  obtain ⟨⟨second, cs₅⟩, hsecond, h⟩ := Option.bind_eq_some_iff.1 h
  obtain ⟨time, _, h⟩ := Option.bind_eq_some_iff.1 h
  cases h
  exact .skip (marks_of_readPair? hhour) <| (marked_of_readChar? rfl hcolon).trans <|
    .skip (marks_of_readPair? hminute) <| (marked_of_readChar? rfl hcolon').trans <|
    .nil (marks_of_readPair? hsecond)

theorem marks_of_readFraction? {n : Nat} (h : readFraction? cs = some (n, rest)) :
    marks cs = marks rest := by
  obtain ⟨⟨value, cs₁⟩, hvalue, h⟩ := Option.bind_eq_some_iff.1 h
  cases h
  have hdigits : marks (cs₁.takeWhile Char.isDigit) = [] :=
    marks_of_digits fun c hc => List.mem_takeWhile_imp hc
  calc marks cs = marks cs₁ := marks_of_readNumber? hvalue
    _ = marks (cs₁.takeWhile Char.isDigit ++ cs₁.dropWhile Char.isDigit) := by
        rw [List.takeWhile_append_dropWhile]
    _ = marks (cs₁.dropWhile Char.isDigit) := by rw [marks_append, hdigits, List.nil_append]

def offsetMarks : List (List Char) := [['Z'], ['z'], ['+', ':'], ['-', ':'], ['\u2212', ':']]

theorem marked_of_readOffset? {n : Int} (h : readOffset? cs = some (n, rest)) :
    Marked [offsetMarks] cs rest := by
  unfold readOffset? at h
  extract_lets signed at h
  have hsigned {negative : Bool} {cs : List Char} (h : signed negative cs = some (n, rest)) :
      marks cs = ':' :: marks rest := by
    obtain ⟨⟨hours, cs₁⟩, hhours, h⟩ := Option.bind_eq_some_iff.1 h
    obtain ⟨cs₂, hcolon, h⟩ := Option.bind_eq_some_iff.1 h
    obtain ⟨⟨minutes, cs₃⟩, hminutes, h⟩ := Option.bind_eq_some_iff.1 h
    have hmarks : marks cs = ':' :: marks cs₃ := by
      rw [marks_of_readNumber? hhours, readChar?_eq_some_iff.1 hcolon,
        ← marks_of_readNumber? hminutes]
      rfl
    dsimp only at h
    split at h <;> cases h
    exact hmarks
  split at h
  · cases h
    exact .of_mem ['Z'] (by decide) rfl
  · cases h
    exact .of_mem ['z'] (by decide) rfl
  · exact .of_mem ['+', ':'] (by decide) (congrArg ('+' :: ·) (hsigned h))
  · exact .of_mem ['-', ':'] (by decide) (congrArg ('-' :: ·) (hsigned h))
  · exact .of_mem ['\u2212', ':'] (by decide) (congrArg ('\u2212' :: ·) (hsigned h))
  · cases h

theorem whole?_eq_some_iff {α : Type} {r : Option (α × List Char)} {a : α} :
    whole? r = some a ↔ r = some (a, []) := by
  unfold whole?
  split <;> simp_all

/-- The order in which they are tried. -/
def all : List TimeFormat := [internet, spaced, lettered, date, seconds]

/-- What a text of this format stands for. A number of seconds is one also where it is out of the
range of dates. -/
def read? : TimeFormat → List Char → Option (Option DateTime)
  | internet, cs => (internetTime? cs).map some
  | spaced, cs => (spacedTime? cs).map some
  | lettered, cs => (letteredTime? cs).map some
  | date, cs => (date? cs).map fun d => some (.midnight d)
  | seconds, cs => (int64? cs).map DateTime.ofTimestamp?

def firstOf? (formats : List TimeFormat) (cs : List Char) : Option DateTime :=
  (formats.findSome? (·.read? cs)).join

def rows : TimeFormat → List (List (List Char))
  | internet =>
      [[['-']], [['-']], [[], ['t'], ['T']], [[':']], [[':']], [[], ['.']], offsetMarks]
  | spaced => dateRows ++ clockRows
  | lettered => dateRows ++ [['T']] :: clockRows
  | date => dateRows
  | seconds => [signs]

theorem eq_of_mem_choices (f g : TimeFormat) :
    ∀ ms ∈ choices f.rows, ms ∈ choices g.rows → f = g := by
  cases f <;> cases g <;> decide

theorem marked_of_internetTime? {t : DateTime} (h : internetTime? cs = some t) :
    Marked internet.rows cs [] := by
  obtain ⟨⟨year, cs₁⟩, hyear, h⟩ := Option.bind_eq_some_iff.1 h
  obtain ⟨cs₂, hdash, h⟩ := Option.bind_eq_some_iff.1 h
  obtain ⟨⟨month, cs₃⟩, hmonth, h⟩ := Option.bind_eq_some_iff.1 h
  obtain ⟨cs₄, hdash', h⟩ := Option.bind_eq_some_iff.1 h
  obtain ⟨⟨day, cs₅⟩, hday, h⟩ := Option.bind_eq_some_iff.1 h
  -- The letter and the point may be missing: what is read behind them has a name of its own.
  dsimp -zeta only at h
  extract_lets clock at h
  obtain ⟨cs₆, hletter, h⟩ : ∃ cs₆, Marked [[[], ['t'], ['T']]] cs₅ cs₆ ∧ clock cs₆ = some t := by
    split at h
    · exact ⟨_, .of_mem ['t'] (by decide) rfl, h⟩
    · exact ⟨_, .of_mem ['T'] (by decide) rfl, h⟩
    · exact ⟨_, .of_mem [] (by decide) rfl, h⟩
    · cases h
  obtain ⟨⟨hour, cs₇⟩, hhour, h⟩ := Option.bind_eq_some_iff.1 h
  obtain ⟨cs₈, hcolon, h⟩ := Option.bind_eq_some_iff.1 h
  obtain ⟨⟨minute, cs₉⟩, hminute, h⟩ := Option.bind_eq_some_iff.1 h
  obtain ⟨cs₁₀, hcolon', h⟩ := Option.bind_eq_some_iff.1 h
  obtain ⟨⟨second, cs₁₁⟩, hsecond, h⟩ := Option.bind_eq_some_iff.1 h
  dsimp -zeta only at h
  extract_lets ending at h
  obtain ⟨nano, cs₁₂, hpoint, h⟩ : ∃ nano cs₁₂, Marked [[[], ['.']]] cs₁₁ cs₁₂ ∧
      ending (nano, cs₁₂) = some t := by
    split at h
    · obtain ⟨⟨nano, cs₁₂⟩, hfraction, h⟩ := Option.bind_eq_some_iff.1 h
      have hmarks := marks_of_readFraction? hfraction
      exact ⟨nano, cs₁₂, .of_mem ['.'] (by decide) (congrArg ('.' :: ·) hmarks), h⟩
    · exact ⟨_, _, .of_mem [] (by decide) rfl, h⟩
  obtain ⟨offset, hoffset, _⟩ := Option.bind_eq_some_iff.1 h
  have hoffset := marked_of_readOffset? (whole?_eq_some_iff.1 hoffset)
  exact .skip (marks_of_readNumber? hyear) <| (marked_of_readChar? rfl hdash).trans <|
    .skip (marks_of_readNumber? hmonth) <| (marked_of_readChar? rfl hdash').trans <|
    .skip (marks_of_readNumber? hday) <| hletter.trans <|
    .skip (marks_of_readNumber? hhour) <| (marked_of_readChar? rfl hcolon).trans <|
    .skip (marks_of_readNumber? hminute) <| (marked_of_readChar? rfl hcolon').trans <|
    .skip (marks_of_readNumber? hsecond) <| hpoint.trans hoffset

theorem marked_of_spacedTime? {t : DateTime} (h : spacedTime? cs = some t) :
    Marked spaced.rows cs [] := by
  obtain ⟨⟨d, cs₁⟩, hdate, h⟩ := Option.bind_eq_some_iff.1 (whole?_eq_some_iff.1 h)
  exact (marked_of_readDate? hdate).trans <|
    .skip (marks_trimStart cs₁).symm (marked_of_readTime? h)

theorem marked_of_letteredTime? {t : DateTime} (h : letteredTime? cs = some t) :
    Marked lettered.rows cs [] := by
  obtain ⟨⟨d, cs₁⟩, hdate, h⟩ := Option.bind_eq_some_iff.1 h
  obtain ⟨cs₂, hletter, h⟩ := Option.bind_eq_some_iff.1 h
  exact (marked_of_readDate? hdate).trans <| (marked_of_readChar? rfl hletter).trans <|
    marked_of_readTime? (whole?_eq_some_iff.1 h)

theorem marked_of_date? {d : Date} (h : date? cs = some d) : Marked date.rows cs [] :=
  marked_of_readDate? (whole?_eq_some_iff.1 h)

theorem marks_of_readDigits {limit value n : Nat} {beyond : IntegerError}
    (h : readDigits limit beyond value cs = .ok n) : marks cs = [] := by
  refine marks_of_digits ?_
  induction cs generalizing value with
  | nil => nofun
  | cons c cs ih =>
    rw [readDigits] at h
    split at h
    · cases h
    next d hd =>
    split at h
    · have hdigit : c.isDigit = true := by
        by_contra hc
        rw [digit?, if_neg hc] at hd
        cases hd
      exact List.forall_mem_cons.2 ⟨hdigit, ih h⟩
    · cases h

theorem marked_of_int64? {n : Int} (h : int64? cs = some n) : Marked seconds.rows cs [] := by
  have hread : readInt64 cs = .ok n := Except.eq_ok_of_toOption h
  unfold readInt64 at hread
  split at hread
  case h_1 | h_2 | h_3 => cases hread
  case h_4 =>
    obtain ⟨m, hm, _⟩ := Except.map_eq_ok_iff.1 hread
    obtain ⟨k, hdigits, _⟩ := Except.bind_eq_ok_iff.1 hm
    exact .of_mem ['-'] (by decide) (congrArg ('-' :: ·) (marks_of_readDigits hdigits))
  case h_5 =>
    obtain ⟨m, hdigits, _⟩ := Except.map_eq_ok_iff.1 hread
    exact .of_mem ['+'] (by decide) (congrArg ('+' :: ·) (marks_of_readDigits hdigits))
  case h_6 =>
    obtain ⟨m, hdigits, _⟩ := Except.map_eq_ok_iff.1 hread
    exact .of_mem [] (by decide) (marks_of_readDigits hdigits)

theorem marked_of_read? {f : TimeFormat} {t : Option DateTime} (h : f.read? cs = some t) :
    Marked f.rows cs [] := by
  cases f with
  | internet =>
    obtain ⟨t, ht, _⟩ := Option.map_eq_some_iff.1 h
    exact marked_of_internetTime? ht
  | spaced =>
    obtain ⟨t, ht, _⟩ := Option.map_eq_some_iff.1 h
    exact marked_of_spacedTime? ht
  | lettered =>
    obtain ⟨t, ht, _⟩ := Option.map_eq_some_iff.1 h
    exact marked_of_letteredTime? ht
  | date =>
    obtain ⟨d, hd, _⟩ := Option.map_eq_some_iff.1 h
    exact marked_of_date? hd
  | seconds =>
    obtain ⟨n, hn, _⟩ := Option.map_eq_some_iff.1 h
    exact marked_of_int64? hn

theorem eq_of_read? {f g : TimeFormat} {t u : Option DateTime} (hf : f.read? cs = some t)
    (hg : g.read? cs = some u) : f = g := by
  obtain ⟨ms, hms, hmarks⟩ := marked_of_read? hf
  obtain ⟨ms', hms', hmarks'⟩ := marked_of_read? hg
  have heq : ms = ms' := List.append_cancel_right (hmarks.symm.trans hmarks')
  exact eq_of_mem_choices f g ms hms (heq ▸ hms')

theorem firstOf?_of_read? {formats : List TimeFormat} {f : TimeFormat} {t : Option DateTime}
    (hmem : f ∈ formats) (h : f.read? cs = some t) : firstOf? formats cs = t := by
  cases hfirst : formats.findSome? (·.read? cs) with
  | none =>
    rw [List.findSome?_eq_none_iff.1 hfirst f hmem] at h
    cases h
  | some u =>
    obtain ⟨g, _, hg⟩ := List.exists_of_findSome?_eq_some hfirst
    cases eq_of_read? h hg
    rw [firstOf?, hfirst, ← hg, h]
    rfl

theorem firstOf?_congr {formats formats' : List TimeFormat}
    (h : ∀ f, f ∈ formats ↔ f ∈ formats') (cs : List Char) :
    firstOf? formats cs = firstOf? formats' cs := by
  by_cases hread : ∃ f ∈ formats, ∃ t, f.read? cs = some t
  · obtain ⟨f, hf, t, ht⟩ := hread
    rw [firstOf?_of_read? hf ht, firstOf?_of_read? ((h f).1 hf) ht]
  · have hnone : ∀ f ∈ formats, f.read? cs = none := fun f hf =>
      Option.eq_none_iff_forall_ne_some.2 fun t ht => hread ⟨f, hf, t, ht⟩
    have hnone' : ∀ f ∈ formats', f.read? cs = none := fun f hf => hnone f ((h f).2 hf)
    rw [firstOf?, firstOf?, List.findSome?_eq_none_iff.2 hnone, List.findSome?_eq_none_iff.2 hnone']

theorem firstOf?_all (cs : List Char) : firstOf? all cs = dateTimeOfText? cs := by
  simp only [firstOf?, all, dateTimeOfText?, List.findSome?_cons, List.findSome?_nil, read?]
  cases internetTime? cs with
  | some t => rfl
  | none =>
    cases spacedTime? cs with
    | some t => rfl
    | none =>
      cases letteredTime? cs with
      | some t => rfl
      | none =>
        cases date? cs with
        | some d => rfl
        | none =>
          rw [timestamp?]
          cases int64? cs <;> rfl

end TimeFormat

open TimeFormat

theorem dateTime?_intText (n : Int64) :
    dateTime? (.str (String.ofList (intText n.toInt))) = DateTime.ofTimestamp? n.toInt := by
  have hread : int64? (intText n.toInt) = some n.toInt :=
    int64?_intText n.le_toInt n.toInt_lt
  rw [dateTime?, String.toList_ofList, trim_intText, ← firstOf?_all]
  refine firstOf?_of_read? (by decide : seconds ∈ all) ?_
  rw [TimeFormat.read?, hread, Option.map_some]

theorem formats_exclusive :
    (∀ (s : String) (f g : TimeFormat), f ≠ g →
      f.read? (trim s.toList) = none ∨ g.read? (trim s.toList) = none) ∧
      (∀ (s : String) (formats : List TimeFormat), formats.Perm all →
        firstOf? formats (trim s.toList) = dateTime? (.str s)) ∧
      ∀ n : Int64,
        dateTime? (.int n.toInt) = dateTime? (.str (String.ofList (intText n.toInt))) := by
  refine ⟨fun s f g hne => ?_, fun s formats hperm => ?_, fun n => ?_⟩
  · cases hf : f.read? (trim s.toList) with
    | none => exact .inl rfl
    | some t =>
      refine .inr (Option.eq_none_iff_forall_ne_some.2 fun u hg => ?_)
      exact hne (eq_of_read? hf hg)
  · rw [firstOf?_congr (fun _ => hperm.mem_iff), firstOf?_all]
    rfl
  · have hrange : -(Nat.pow 2 63 : Int) ≤ n.toInt ∧ n.toInt < Nat.pow 2 63 :=
      ⟨n.le_toInt, n.toInt_lt⟩
    rw [dateTime?_intText, dateTime?, Json.asInt64?, if_pos hrange, Option.bind_some]

theorem formats_exclusive_reversed :
    let s := " +12024-3-1T7:05:09\n"
    (lettered ≠ internet ∧
      (lettered.read? (trim s.toList) = none ∨ internet.read? (trim s.toList) = none)) ∧
      (all.reverse.Perm all ∧ firstOf? all.reverse (trim s.toList) = dateTime? (.str s)) ∧
      (dateTime? (.str s)).map DateTime.text = some "+12024-03-01 07:05:09".toList ∧
      dateTime? (.int (-1)) = dateTime? (.str "-1") ∧
      (dateTime? (.str "-1")).map DateTime.text = some "1969-12-31 23:59:59".toList := by
  intro s
  have hne : lettered ≠ internet := by decide
  have hperm : all.reverse.Perm all := List.reverse_perm all
  exact ⟨⟨hne, formats_exclusive.1 s lettered internet hne⟩,
    ⟨hperm, formats_exclusive.2.1 s all.reverse hperm⟩, by decide +kernel,
    formats_exclusive.2.2 (-1), by decide +kernel⟩

end UrlRouter
