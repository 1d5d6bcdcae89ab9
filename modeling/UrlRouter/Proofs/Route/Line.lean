import UrlRouter.Proofs.Decimal.Notation
import UrlRouter.Proofs.Text.Cut
import UrlRouter.Proofs.Text.Trim
import UrlRouter.Route.Line

namespace UrlRouter

open Text Unicode

variable {φ : Type}

theorem natText_of_hundreds {a b c : Nat} (ha : 0 < a) (ha' : a < 10) (hb : b < 10) (hc : c < 10) :
    natText (100 * a + 10 * b + c) = [a.digitChar, b.digitChar, c.digitChar] := by
  have htwo : Nat.toDigits 10 (10 * a + b) = [a.digitChar, b.digitChar] := by
    rw [← Nat.toDigits_append_toDigits (by decide) ha hb, Nat.toDigits_of_lt_base ha',
      Nat.toDigits_of_lt_base hb]
    rfl
  have hthree : 100 * a + 10 * b + c = 10 * (10 * a + b) + c := by omega
  rw [natText, hthree, ← Nat.toDigits_append_toDigits (by decide) (by omega) hc, htwo,
    Nat.toDigits_of_lt_base hc]
  rfl

theorem digitChar_sub {c : Char} (h : c.isDigit = true) :
    (c.toNat - '0'.toNat).digitChar = c ∧ c.toNat - '0'.toNat < 10 := by
  have hrange : 48 ≤ c.toNat ∧ c.toNat ≤ 57 := Char.isDigit_iff_toNat.1 h
  have hzero : '0'.toNat = 48 := rfl
  have hlt : c.toNat - '0'.toNat < 10 := by omega
  refine ⟨Char.toNat_inj.1 ?_, hlt⟩
  rw [Nat.toNat_digitChar_of_lt_ten hlt]
  omega

theorem toList_toString (n : Nat) : (toString n).toList = natText n := Nat.toList_repr

theorem Status.isError_iff {s : Status} : s.isError = true ↔ 400 ≤ s.code ∧ s.code < 600 := by
  simp [isError]

theorem eq_toString_of_errorStatus? {text : String} {s : Status} (h : errorStatus? text = some s) :
    s.isError = true ∧ text = toString s.code := by
  unfold errorStatus? at h
  split at h
  next a b c htext =>
    split at h
    next hdigits =>
      obtain ⟨hcode, herror⟩ := Option.filter_eq_some_iff.1 h
      have hcode := Status.of?_eq_some_iff.1 hcode
      have hrange := Status.isError_iff.1 herror
      obtain ⟨⟨ha, hb⟩, hc⟩ : (a.isDigit = true ∧ b.isDigit = true) ∧ c.isDigit = true := by
        simpa using hdigits
      obtain ⟨hachar, halt⟩ := digitChar_sub ha
      obtain ⟨hbchar, hblt⟩ := digitChar_sub hb
      obtain ⟨hcchar, hclt⟩ := digitChar_sub hc
      dsimp only at hcode
      refine ⟨herror, String.toList_inj.1 ?_⟩
      rw [htext, toList_toString, hcode, natText_of_hundreds (by omega) halt hblt hclt, hachar,
        hbchar, hcchar]
    · cases h
  · cases h

theorem errorStatus?_toString {s : Status} (h : s.isError = true) :
    errorStatus? (toString s.code) = some s := by
  have hrange := Status.isError_iff.1 h
  have hcode : s.code = 100 * (s.code / 100) + 10 * (s.code / 10 % 10) + s.code % 10 := by omega
  have htext : (toString s.code).toList =
      [(s.code / 100).digitChar, (s.code / 10 % 10).digitChar, (s.code % 10).digitChar] := by
    rw [toList_toString, ← natText_of_hundreds (by omega) (by omega) (by omega) (by omega),
      ← hcode]
  have hdigit (n : Nat) (hn : n < 10) : n.digitChar.isDigit = true ∧
      n.digitChar.toNat - '0'.toNat = n :=
    ⟨by simp [Nat.isDigit_digitChar, hn], Nat.toNat_digitChar_sub_48_of_lt_ten hn⟩
  obtain ⟨ha, ha'⟩ := hdigit (s.code / 100) (by omega)
  obtain ⟨hb, hb'⟩ := hdigit (s.code / 10 % 10) (by omega)
  obtain ⟨hc, hc'⟩ := hdigit (s.code % 10) (by omega)
  rw [errorStatus?, htext]
  dsimp only
  rw [ha, hb, hc, ha', hb', hc', ← hcode]
  exact Option.filter_eq_some_iff.2 ⟨Status.of?_eq_some_iff.2 rfl, h⟩

theorem errorStatus?_eq_some_iff {text : String} {s : Status} :
    errorStatus? text = some s ↔ s.isError = true ∧ text = toString s.code := by
  constructor
  · exact eq_toString_of_errorStatus?
  · rintro ⟨herror, rfl⟩
    exact errorStatus?_toString herror

structure Gap where
  text : List Char
  ne_nil : text ≠ []
  blank : Blank text

structure RouteLine where
  verb : Option String
  pattern : String
  handler : String
  verb_upper : ∀ v ∈ verb, v ≠ "" ∧ ∀ c ∈ v.toList, c.isUpper = true
  pattern_trimmed : trim pattern.toList = pattern.toList
  pattern_arrowless : ¬ arrow <:+: pattern.toList
  pattern_end : pattern.toList.getLast? ≠ some '>'
  pattern_present : verb ≠ none → pattern ≠ ""
  pattern_verbless : verb = none → ∀ v c rest, pattern.toList = v ++ c :: rest →
    isWhiteSpace c = true → v ≠ [] → ∃ x ∈ v, x.isUpper = false
  handler_trimmed : trim handler.toList = handler.toList
  handler_present : handler ≠ ""

namespace RouteLine

def settings (l : RouteLine) : RouteSettings φ :=
  { (.empty : RouteSettings φ) with
    method := l.verb.map Method.mk
    handler := some (.read l.handler) }

def opening (l : RouteLine) (afterVerb : Gap) : List Char :=
  l.verb.elim [] fun v => v.toList ++ afterVerb.text

def left (l : RouteLine) (afterVerb beforeArrow : Gap) : List Char :=
  l.opening afterVerb ++ l.pattern.toList ++ beforeArrow.text

def text (l : RouteLine) (afterVerb beforeArrow afterArrow : Gap) : String :=
  String.ofList
    (l.left afterVerb beforeArrow ++ arrow ++ (afterArrow.text ++ l.handler.toList))

variable {l : RouteLine} {afterVerb beforeArrow afterArrow : Gap}

theorem not_mem_gap (g : Gap) : '>' ∉ g.text := by
  intro h
  have hblank := g.blank '>' h
  revert hblank
  decide

theorem not_mem_opening : '>' ∉ l.opening afterVerb := by
  rw [opening]
  cases hverb : l.verb with
  | none => nofun
  | some v =>
    intro h
    rcases List.mem_append.1 h with h | h
    · have hupper := (l.verb_upper v hverb).2 '>' h
      revert hupper
      decide
    · exact not_mem_gap afterVerb h

theorem not_arrow_infix {cs : List Char} (h : '>' ∉ cs) : ¬ arrow <:+: cs := by
  intro harrow
  have hmem : '>' ∈ arrow := by decide
  exact h (harrow.subset hmem)

theorem not_arrow_infix_left :
    ¬ arrow <:+: l.left afterVerb beforeArrow ++ arrow.dropLast := by
  rw [left, List.append_assoc]
  intro h
  rcases replicate_infix_append (n := 3) h with h | h | ⟨h, _⟩
  · rcases replicate_infix_append (n := 3) h with h | h | ⟨h, _⟩
    · exact not_arrow_infix not_mem_opening h
    · exact l.pattern_arrowless h
    · exact not_mem_opening (List.mem_of_getLast? h)
  · rcases replicate_infix_append (n := 3) h with h | h | ⟨h, _⟩
    · exact not_arrow_infix (not_mem_gap beforeArrow) h
    · exact absurd h.length_le (by decide)
    · exact not_mem_gap beforeArrow (List.mem_of_getLast? h)
  · rw [List.getLast?_append, Option.or_eq_some_iff] at h
    rcases h with h | ⟨_, h⟩
    · exact l.pattern_end h
    · exact not_mem_opening (List.mem_of_getLast? h)

theorem cut_text : cut arrow (l.text afterVerb beforeArrow afterArrow).toList =
    some (l.left afterVerb beforeArrow, afterArrow.text ++ l.handler.toList) := by
  rw [text, String.toList_ofList]
  exact cut_append (by decide) not_arrow_infix_left

theorem trim_right : trim (afterArrow.text ++ l.handler.toList) = l.handler.toList := by
  have htrim := trim_append_blanks afterArrow.blank (v := []) nofun l.handler.toList
  rwa [List.append_nil, l.handler_trimmed] at htrim

theorem isVerb_iff {cs : List Char} :
    isVerb cs = true ↔ cs ≠ [] ∧ ∀ c ∈ cs, c.isUpper = true := by
  simp [isVerb]

theorem isVerb_verb {v : String} (h : l.verb = some v) : isVerb v.toList = true := by
  obtain ⟨hne, hupper⟩ := l.verb_upper v h
  exact isVerb_iff.2 ⟨by simpa using hne, hupper⟩

theorem trim_opening_append {v : String} (h : l.verb = some v) :
    trim (v.toList ++ afterVerb.text ++ l.pattern.toList) =
      v.toList ++ afterVerb.text ++ l.pattern.toList := by
  obtain ⟨_, hlast⟩ := trim_eq_self_iff.1 l.pattern_trimmed
  obtain ⟨hne, hupper⟩ := isVerb_iff.1 (isVerb_verb h)
  have hpattern : l.pattern.toList ≠ [] := by
    simpa using l.pattern_present (by simp [h])
  refine trim_eq_self_iff.2 ⟨fun c hc => ?_, fun c hc => ?_⟩
  · rw [List.append_assoc, List.head?_append_of_ne_nil _ hne] at hc
    exact isWhiteSpace_of_isUpper (hupper c (List.mem_of_head? hc))
  · rw [List.getLast?_append_of_ne_nil _ hpattern] at hc
    exact hlast c hc

theorem trim_left : trim (l.left afterVerb beforeArrow) =
    l.opening afterVerb ++ l.pattern.toList := by
  have htrim := trim_append_blanks (u := []) nofun beforeArrow.blank
    (l.opening afterVerb ++ l.pattern.toList)
  rw [left, ← List.nil_append (_ ++ l.pattern.toList), htrim, opening]
  cases hverb : l.verb with
  | none => exact l.pattern_trimmed
  | some v => exact trim_opening_append hverb

theorem splitVerb_left : splitVerb (trim (l.left afterVerb beforeArrow)) =
    (l.verb.map Method.mk, l.pattern.toList) := by
  rw [trim_left, opening, splitVerb]
  cases hverb : l.verb with
  | none =>
    rw [Option.elim_none, List.nil_append]
    split
    next v rest hcut =>
      obtain ⟨c, hpattern, hc, _⟩ := cutAt_eq_some_iff.1 hcut
      have hverbless : ¬ isVerb v = true := by
        intro hv
        obtain ⟨hne, hupper⟩ := isVerb_iff.1 hv
        obtain ⟨x, hx, hlower⟩ := l.pattern_verbless hverb v c rest hpattern hc hne
        rw [hupper x hx] at hlower
        cases hlower
      rw [if_neg hverbless]
      rfl
    · rfl
  | some v =>
    obtain ⟨c, gap, hgap⟩ := List.exists_cons_of_ne_nil afterVerb.ne_nil
    have hblank := afterVerb.blank
    rw [hgap] at hblank
    obtain ⟨hc, hgapblank⟩ := List.forall_mem_cons.1 hblank
    have hupper := (isVerb_iff.1 (isVerb_verb hverb)).2
    have hcut : cutAt isWhiteSpace (v.toList ++ c :: (gap ++ l.pattern.toList)) =
        some (v.toList, gap ++ l.pattern.toList) :=
      cutAt_append hc fun x hx => isWhiteSpace_of_isUpper (hupper x hx)
    have htrim := trim_append_blanks hgapblank (v := []) nofun l.pattern.toList
    rw [List.append_nil, l.pattern_trimmed] at htrim
    rw [Option.elim_some, hgap, List.append_assoc, List.cons_append, hcut]
    dsimp only
    rw [if_pos (isVerb_verb hverb), htrim, String.ofList_toList]
    rfl

end RouteLine

def Handlerless (line : List Char) : Prop :=
  ¬ arrow <:+: line ∨
    ∃ before after, line = before ++ arrow ++ after ∧ ¬ arrow <:+: before ++ arrow.dropLast ∧
      Blank after

theorem handlerless_iff {line : List Char} :
    Handlerless line ↔ ∀ before after, cut arrow line = some (before, after) → Blank after := by
  have hne : arrow ≠ [] := by decide
  constructor
  · rintro (hnone | ⟨before, after, hline, hfirst, hblank⟩) before' after' hcut
    · rw [(cut_eq_none_iff hne).2 hnone] at hcut
      cases hcut
    · rw [(cut_eq_some_iff hne).2 ⟨hline, hfirst⟩] at hcut
      cases hcut
      exact hblank
  · intro h
    cases hcut : cut arrow line with
    | none => exact .inl ((cut_eq_none_iff hne).1 hcut)
    | some cuts =>
      obtain ⟨hline, hfirst⟩ := (cut_eq_some_iff hne).1 hcut
      exact .inr ⟨cuts.1, cuts.2, hline, hfirst, h cuts.1 cuts.2 hcut⟩

theorem ofLine_eq_error_iff {line : String} {e : RouterError} :
    (RouteDefinition.ofLine line : Except RouterError (RouteDefinition φ)) = .error e ↔
      e = .invalidLine line ∧ Handlerless line.toList := by
  rw [handlerless_iff, RouteDefinition.ofLine]
  cases cut arrow line.toList with
  | none => simp [eq_comm]
  | some cuts =>
    obtain ⟨left, right⟩ := cuts
    by_cases hblank : trim right = []
    · simp [hblank, trim_eq_nil_iff.1 hblank, eq_comm]
    · have hright : ¬ Blank right := fun h => hblank (trim_eq_nil_iff.2 h)
      simp [hblank, hright]

theorem settings_ofPattern (pattern : String) :
    (RouteDefinition.ofPattern pattern : RouteDefinition φ).settings = .empty := by
  unfold RouteDefinition.ofPattern
  split <;> rfl

theorem ofLine_text (l : RouteLine) (afterVerb beforeArrow afterArrow : Gap) :
    RouteDefinition.ofLine (l.text afterVerb beforeArrow afterArrow) =
      (.ok { (.ofPattern l.pattern : RouteDefinition φ) with settings := l.settings } :
        Except RouterError (RouteDefinition φ)) := by
  have hpresent : l.handler.toList ≠ [] := by simpa using l.handler_present
  rw [RouteDefinition.ofLine, RouteLine.cut_text]
  dsimp only
  rw [RouteLine.trim_right, if_neg hpresent, RouteLine.splitVerb_left, String.ofList_toList,
    String.ofList_toList, settings_ofPattern]
  rfl

theorem ofLine_grammar :
    (∀ (line : String) (e : RouterError),
      (RouteDefinition.ofLine line : Except RouterError (RouteDefinition φ)) = .error e ↔
        e = .invalidLine line ∧ Handlerless line.toList) ∧
      ∀ (l : RouteLine) (afterVerb beforeArrow afterArrow : Gap), ∃ d : RouteDefinition φ,
        RouteDefinition.ofLine (l.text afterVerb beforeArrow afterArrow) = .ok d ∧
          d.settings = l.settings ∧
          ((∃ s : Status, s.isError = true ∧ l.pattern = toString s.code ∧
              d.name = some (.error s) ∧ d.pattern = "") ∨
            (∀ s : Status, s.isError = true → l.pattern ≠ toString s.code) ∧
              d.name = none ∧ d.pattern = l.pattern) := by
  refine ⟨fun _ _ => ofLine_eq_error_iff, fun l afterVerb beforeArrow afterArrow => ?_⟩
  refine ⟨_, ofLine_text l afterVerb beforeArrow afterArrow, ?_⟩
  rw [RouteDefinition.ofPattern]
  cases hstatus : errorStatus? l.pattern with
  | some s =>
    obtain ⟨herror, hpattern⟩ := errorStatus?_eq_some_iff.1 hstatus
    exact ⟨rfl, .inl ⟨s, herror, hpattern, rfl, rfl⟩⟩
  | none =>
    refine ⟨rfl, .inr ⟨fun s herror hpattern => ?_, rfl, rfl⟩⟩
    rw [errorStatus?_eq_some_iff.2 ⟨herror, hpattern⟩] at hstatus
    cases hstatus

theorem ofLine_grammar_arrows :
    (∃ d : RouteDefinition Unit,
      RouteDefinition.ofLine "PATCH \u2003GET /a >> b\t>>>\u00a0Page::show >>> x" = .ok d ∧
        d.name = none ∧ d.pattern = "GET /a >> b" ∧ d.settings.method = some ⟨"PATCH"⟩ ∧
        d.settings.handler = some (.target "Page" (some "show >>> x"))) ∧
      (RouteDefinition.ofLine "/a >>>\u3000" : Except RouterError (RouteDefinition Unit)) =
        .error (.invalidLine "/a >>>\u3000") := by
  constructor
  · let l : RouteLine :=
      { verb := some "PATCH"
        pattern := "GET /a >> b"
        handler := "Page::show >>> x"
        verb_upper := by
          rintro v ⟨⟩
          exact ⟨by decide, List.all_eq_true.1 (by decide)⟩
        pattern_trimmed := by decide
        pattern_arrowless := by decide
        pattern_end := by decide
        pattern_present := by decide
        pattern_verbless := nofun
        handler_trimmed := by decide
        handler_present := by decide }
    let afterVerb : Gap := ⟨[' ', '\u2003'], by decide, by decide⟩
    let beforeArrow : Gap := ⟨['\t'], by decide, by decide⟩
    let afterArrow : Gap := ⟨['\u00a0'], by decide, by decide⟩
    have htext : l.text afterVerb beforeArrow afterArrow =
        "PATCH \u2003GET /a >> b\t>>>\u00a0Page::show >>> x" :=
      String.toList_inj.1 <| by
        rw [RouteLine.text, String.toList_ofList, RouteLine.left, RouteLine.opening]
        decide
    have hnone : errorStatus? l.pattern = none := by
      change errorStatus? "GET /a >> b" = none
      decide
    obtain ⟨d, hline, hsettings, hpattern⟩ := ofLine_grammar.2 l afterVerb beforeArrow afterArrow
    rw [htext] at hline
    rcases hpattern with ⟨s, herror, hpattern, _⟩ | ⟨_, hname, hpattern⟩
    · rw [errorStatus?_eq_some_iff.2 ⟨herror, hpattern⟩] at hnone
      cases hnone
    · refine ⟨d, hline, hname, hpattern, ?_, ?_⟩
      · rw [hsettings]
        rfl
      · have hhandler : (HandlerRef.read "Page::show >>> x" : HandlerRef Unit) =
            .target "Page" (some "show >>> x") := by decide
        rw [hsettings]
        exact congrArg some hhandler
  · exact (ofLine_grammar.1 _ _).2
      ⟨rfl, .inr ⟨"/a ".toList, "\u3000".toList, rfl, by decide, by decide⟩⟩

end UrlRouter
