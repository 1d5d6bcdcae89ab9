import UrlRouter.Proofs.Pattern.Slug
import UrlRouter.Proofs.Text.Cut

namespace UrlRouter

open Text Unicode

def keptPieces (cs : List Char) : List (List Char) := cs.splitOnP fun c => !isSlugChar c

def keptRuns (cs : List Char) : List (List Char) := (keptPieces cs).filter (· ≠ [])

def lowercaseText (cs : List Char) : List Char := cs.flatMap lowercase

def joinRuns (runs : List (List Char)) : List Char := ['-'].intercalate runs

section

variable {c : Char} {cs run next : List Char} {runs pieces : List (List Char)}

theorem exists_keptPieces (cs : List Char) : ∃ run pieces, keptPieces cs = run :: pieces :=
  List.exists_cons_of_ne_nil (List.splitOnP_ne_nil _ _)

theorem keptPieces_cons_of_kept (h : isSlugChar c = true) (hcs : keptPieces cs = run :: pieces) :
    keptPieces (c :: cs) = (c :: run) :: pieces := by
  rw [keptPieces] at hcs ⊢
  simp [List.splitOnP_cons_eq_if_modifyHead, h, hcs]

theorem keptPieces_cons_of_not (h : isSlugChar c = false) :
    keptPieces (c :: cs) = [] :: keptPieces cs := by
  simp [keptPieces, List.splitOnP_cons_eq_if_modifyHead, h]

theorem keptRuns_cons_of_not (h : isSlugChar c = false) : keptRuns (c :: cs) = keptRuns cs := by
  simp [keptRuns, keptPieces_cons_of_not h]

theorem isSlugChar_of_mem_keptPieces (h : run ∈ keptPieces cs) (hc : c ∈ run) :
    isSlugChar c = true ∧ c ∈ cs := by
  induction cs generalizing run with
  | nil =>
    rw [keptPieces, List.splitOnP_nil, List.mem_singleton] at h
    subst h
    cases hc
  | cons a cs ih =>
    have hrest {run : List Char} (h : run ∈ keptPieces cs) (hc : c ∈ run) :
        isSlugChar c = true ∧ c ∈ a :: cs :=
      (ih h hc).imp id (List.mem_cons_of_mem a)
    cases ha : isSlugChar a with
    | false =>
      rw [keptPieces_cons_of_not ha] at h
      rcases List.mem_cons.1 h with rfl | h
      · cases hc
      · exact hrest h hc
    | true =>
      obtain ⟨first, pieces, hpieces⟩ := exists_keptPieces cs
      rw [keptPieces_cons_of_kept ha hpieces] at h
      rcases List.mem_cons.1 h with rfl | h
      · rcases List.mem_cons.1 hc with rfl | hc
        · exact ⟨ha, List.mem_cons_self⟩
        · exact hrest (hpieces ▸ List.mem_cons_self) hc
      · exact hrest (hpieces ▸ List.mem_cons_of_mem first h) hc

theorem isSlugChar_of_mem_keptRuns (h : run ∈ keptRuns cs) (hc : c ∈ run) :
    isSlugChar c = true ∧ c ∈ cs :=
  isSlugChar_of_mem_keptPieces (List.mem_filter.1 h).1 hc

theorem ne_nil_of_mem_keptRuns (h : run ∈ keptRuns cs) : run ≠ [] := by
  simpa using (List.mem_filter.1 h).2

theorem lowercaseText_ne_nil (h : run ≠ []) : lowercaseText run ≠ [] := by
  obtain ⟨c, cs, rfl⟩ := List.exists_cons_of_ne_nil h
  simp [lowercaseText, lowercase_ne_nil]

theorem joinRuns_cons (run : List Char) (runs : List (List Char)) :
    joinRuns (run :: runs) = run ++ runs.flatMap ('-' :: ·) := by
  induction runs generalizing run with
  | nil => simp [joinRuns]
  | cons next runs ih =>
    rw [List.flatMap_cons, List.cons_append, ← ih]
    simp [joinRuns, List.intercalate]

theorem joinRuns_cons_cons (run next : List Char) (runs : List (List Char)) :
    joinRuns (run :: next :: runs) = run ++ '-' :: joinRuns (next :: runs) := by
  rw [joinRuns_cons, joinRuns_cons, List.flatMap_cons, List.cons_append]

/-- Behind a gap each run comes with a dash; behind a kept character the first piece goes on with
its run. -/
theorem slugFrom_true (cs : List Char) :
    slugFrom true true cs = (keptRuns cs).flatMap (fun run => '-' :: lowercaseText run) ∧
      ∀ run pieces, keptPieces cs = run :: pieces →
        slugFrom true false cs = lowercaseText run ++
          (pieces.filter (· ≠ [])).flatMap fun run => '-' :: lowercaseText run := by
  induction cs with
  | nil =>
    refine ⟨rfl, fun run pieces h => ?_⟩
    cases h
    rfl
  | cons c cs ih =>
    obtain ⟨first, rest, hcs⟩ := exists_keptPieces cs
    have hfirst := ih.2 first rest hcs
    cases hc : isSlugChar c with
    | true =>
      have hcons := keptPieces_cons_of_kept hc hcs
      constructor
      · rw [keptRuns, hcons]
        simp [slugFrom, hc, hfirst, lowercaseText]
      · intro run pieces h
        cases hcons.symm.trans h
        simp [slugFrom, hc, hfirst, lowercaseText]
    | false =>
      have hcons : keptPieces (c :: cs) = [] :: keptPieces cs := keptPieces_cons_of_not hc
      constructor
      · rw [keptRuns_cons_of_not hc, ← ih.1]
        simp [slugFrom, hc]
      · intro run pieces h
        cases hcons.symm.trans h
        rw [← keptRuns, lowercaseText, List.flatMap_nil, List.nil_append, ← ih.1]
        simp [slugFrom, hc]

theorem slugFrom_false (gap : Bool) (cs : List Char) :
    slugFrom false gap cs = joinRuns ((keptRuns cs).map lowercaseText) := by
  induction cs generalizing gap with
  | nil => rfl
  | cons c cs ih =>
    cases hc : isSlugChar c with
    | true =>
      obtain ⟨first, rest, hcs⟩ := exists_keptPieces cs
      have hruns : keptRuns (c :: cs) = (c :: first) :: rest.filter (· ≠ []) := by
        simp [keptRuns, keptPieces_cons_of_kept hc hcs]
      rw [hruns, List.map_cons, joinRuns_cons, List.flatMap_map]
      simp [slugFrom, hc, (slugFrom_true cs).2 first rest hcs, lowercaseText]
    | false =>
      rw [keptRuns_cons_of_not hc, ← ih true]
      simp [slugFrom, hc]

theorem slug_eq_joinRuns (cs : List Char) : slug cs = joinRuns ((keptRuns cs).map lowercaseText) :=
  slugFrom_false false cs

end

def Joinable (runs : List (List Char)) : Prop := ∀ run ∈ runs, run ≠ [] ∧ '-' ∉ run

namespace Joinable

variable {runs : List (List Char)}

theorem head? (h : Joinable runs) : (joinRuns runs).head? ≠ some '-' := by
  cases runs with
  | nil => simp [joinRuns]
  | cons run runs =>
    obtain ⟨hne, hdash⟩ := h run List.mem_cons_self
    obtain ⟨c, cs, rfl⟩ := List.exists_cons_of_ne_nil hne
    rw [joinRuns_cons]
    simp only [List.mem_cons, not_or] at hdash
    simpa using Ne.symm hdash.1

theorem joinRuns_ne_nil (h : Joinable runs) (hruns : runs ≠ []) : joinRuns runs ≠ [] := by
  obtain ⟨run, runs, rfl⟩ := List.exists_cons_of_ne_nil hruns
  rw [joinRuns_cons]
  simp [(h run List.mem_cons_self).1]

theorem getLast? (h : Joinable runs) : (joinRuns runs).getLast? ≠ some '-' := by
  induction runs with
  | nil => simp [joinRuns]
  | cons run runs ih =>
    have hrest : Joinable runs := fun r hr => h r (List.mem_cons_of_mem run hr)
    cases runs with
    | nil =>
      rw [joinRuns_cons, List.flatMap_nil, List.append_nil]
      exact fun hlast => (h run List.mem_cons_self).2 (List.mem_of_getLast? hlast)
    | cons next runs =>
      rw [joinRuns_cons_cons, List.getLast?_append, List.getLast?_cons_of_ne_nil
        (hrest.joinRuns_ne_nil (by simp))]
      have hsome : (joinRuns (next :: runs)).getLast?.isSome = true := by
        rw [List.getLast?_isSome]
        exact hrest.joinRuns_ne_nil (by simp)
      rw [Option.or_of_isSome hsome]
      exact ih hrest

theorem not_infix (h : Joinable runs) : ¬ ['-', '-'] <:+: joinRuns runs := by
  induction runs with
  | nil => simp [joinRuns]
  | cons run runs ih =>
    have hrest : Joinable runs := fun r hr => h r (List.mem_cons_of_mem run hr)
    have hdash := (h run List.mem_cons_self).2
    have hrun : ¬ ['-', '-'] <:+: run := fun hin => hdash (hin.subset List.mem_cons_self)
    cases runs with
    | nil =>
      rw [joinRuns_cons, List.flatMap_nil, List.append_nil]
      exact hrun
    | cons next runs =>
      rw [joinRuns_cons_cons]
      intro hin
      rcases pair_infix_append hin with hin | hin | ⟨hlast, _⟩
      · exact hrun hin
      · rcases List.infix_cons_iff.1 hin with hin | hin
        · obtain ⟨_, hin⟩ := List.cons_prefix_cons.1 hin
          exact hrest.head? (List.head?_eq_some_iff.2 (by
            obtain ⟨rest, hrest⟩ := hin
            exact ⟨rest, hrest.symm⟩))
        · exact ih hrest hin
      · exact hdash (List.mem_of_getLast? hlast)

end Joinable

theorem joinable_keptRuns (cs : List Char) : Joinable ((keptRuns cs).map lowercaseText) := by
  intro run hrun
  obtain ⟨kept, hkept, rfl⟩ := List.mem_map.1 hrun
  refine ⟨lowercaseText_ne_nil (ne_nil_of_mem_keptRuns hkept), fun hdash => ?_⟩
  obtain ⟨c, hc, hmem⟩ := List.mem_flatMap.1 hdash
  have hslug := (isSlugChar_of_mem_keptRuns hkept hc).1
  rw [← eq_of_mem_lowercase (by decide) hmem] at hslug
  revert hslug
  decide +kernel

theorem toList_urlize_eq_joinRuns (s : String) :
    (urlize s).toList = joinRuns ((keptRuns s.toList).map lowercaseText) := by
  rw [toList_urlize, slug_eq_joinRuns]

theorem urlize_eq_empty_iff {s : String} :
    urlize s = "" ↔ ∀ c ∈ s.toList, isSlugChar c = false := by
  rw [urlize, String.ofList_eq_empty_iff, slug, slugFrom_eq_nil_iff]

def IsStable (cs : List Char) : Prop := ∀ c ∈ cs, isSlugChar c = true ∧ lowercase c = [c]

theorem lowercaseText_of_isStable {cs : List Char} (h : IsStable cs) : lowercaseText cs = cs := by
  induction cs with
  | nil => rfl
  | cons c cs ih =>
    obtain ⟨hc, hcs⟩ := List.forall_mem_cons.1 h
    rw [lowercaseText, List.flatMap_cons, hc.2, ← lowercaseText, ih hcs]
    rfl

theorem isStable_lowercase {c : Char} (hc : isSlugChar c = true) (h : c ≠ dottedI) :
    IsStable (lowercase c) := by
  obtain ⟨d, hd, hself, hor⟩ := lowercase_cases h
  rw [hd]
  intro e he
  obtain rfl := List.mem_singleton.1 he
  refine ⟨?_, hself⟩
  rcases hor with rfl | ⟨_, hletter⟩
  · exact hc
  · simp [isSlugChar, isAlphanumeric, hletter]

theorem keptPieces_append {run cs first : List Char} {pieces : List (List Char)}
    (hrun : ∀ c ∈ run, isSlugChar c = true) (hcs : keptPieces cs = first :: pieces) :
    keptPieces (run ++ cs) = (run ++ first) :: pieces := by
  induction run with
  | nil => exact hcs
  | cons c run ih =>
    obtain ⟨hc, hrun⟩ := List.forall_mem_cons.1 hrun
    exact keptPieces_cons_of_kept hc (ih hrun)

theorem keptPieces_joinRuns {runs : List (List Char)} (hne : runs ≠ [])
    (h : ∀ run ∈ runs, ∀ c ∈ run, isSlugChar c = true) : keptPieces (joinRuns runs) = runs := by
  induction runs with
  | nil => exact absurd rfl hne
  | cons run runs ih =>
    obtain ⟨hrun, hruns⟩ := List.forall_mem_cons.1 h
    cases runs with
    | nil =>
      have hpieces := keptPieces_append hrun (List.splitOnP_nil : keptPieces [] = [[]])
      rw [joinRuns_cons, List.flatMap_nil, hpieces, List.append_nil]
    | cons next runs =>
      have hdash : isSlugChar '-' = false := by decide +kernel
      have hpieces : keptPieces (run ++ '-' :: joinRuns (next :: runs)) =
          (run ++ []) :: keptPieces (joinRuns (next :: runs)) :=
        keptPieces_append hrun (keptPieces_cons_of_not hdash)
      rw [joinRuns_cons_cons, hpieces, ih (by simp) hruns, List.append_nil]

theorem slug_joinRuns {runs : List (List Char)} (hne : ∀ run ∈ runs, run ≠ [])
    (h : ∀ run ∈ runs, IsStable run) : slug (joinRuns runs) = joinRuns runs := by
  have hkept : keptRuns (joinRuns runs) = runs := by
    by_cases hruns : runs = []
    · subst hruns
      rfl
    · rw [keptRuns, keptPieces_joinRuns hruns fun run hrun c hc => (h run hrun c hc).1,
        List.filter_eq_self]
      simpa using hne
  rw [slug_eq_joinRuns, hkept]
  refine congrArg joinRuns ?_
  conv_rhs => rw [← List.map_id runs]
  exact List.map_congr_left fun run hrun => lowercaseText_of_isStable (h run hrun)

theorem slug_slug {cs : List Char} (h : dottedI ∉ cs) : slug (slug cs) = slug cs := by
  rw [slug_eq_joinRuns cs]
  refine slug_joinRuns (fun run hrun => (joinable_keptRuns cs run hrun).1) fun run hrun => ?_
  obtain ⟨kept, hkept, rfl⟩ := List.mem_map.1 hrun
  intro d hd
  obtain ⟨c, hc, hd⟩ := List.mem_flatMap.1 hd
  obtain ⟨hslug, hmem⟩ := isSlugChar_of_mem_keptRuns hkept hc
  exact isStable_lowercase hslug (fun heq => h (heq ▸ hmem)) d hd

theorem isSlugChar_dottedI : isSlugChar dottedI = true := by decide +kernel

theorem isSlugChar_combiningDot : isSlugChar combiningDot = false := by decide +kernel

theorem isSlugChar_of_mem_slug {cs : List Char} (h : dottedI ∉ cs) {d : Char} (hd : d ∈ slug cs) :
    d = '-' ∨ isSlugChar d = true := by
  refine (mem_slugFrom hd).imp id fun ⟨c, hc, hkept, hd⟩ => ?_
  exact (isStable_lowercase hkept (fun heq => h (heq ▸ hc)) d hd).1

theorem combiningDot_mem_slug_iff {cs : List Char} : combiningDot ∈ slug cs ↔ dottedI ∈ cs := by
  constructor
  · intro h
    by_contra hnot
    rcases isSlugChar_of_mem_slug hnot h with hdash | hkept
    · exact absurd hdash (by decide)
    · rw [isSlugChar_combiningDot] at hkept
      cases hkept
  · intro h
    refine mem_slugFrom_of_mem_lowercase h isSlugChar_dottedI ?_ false false
    rw [lowercase_dottedI]
    decide

theorem dottedI_not_mem_lowercase (c : Char) : dottedI ∉ lowercase c := by
  by_cases h : c = dottedI
  · rw [h, lowercase_dottedI]
    decide
  · obtain ⟨d, hd, hself, _⟩ := lowercase_cases h
    rw [hd, List.mem_singleton]
    rintro rfl
    rw [lowercase_dottedI] at hself
    cases hself

theorem dottedI_not_mem_slug (cs : List Char) : dottedI ∉ slug cs := by
  intro h
  rcases mem_slugFrom h with hdash | ⟨c, _, _, hc⟩
  · exact absurd hdash (by decide)
  · exact dottedI_not_mem_lowercase c hc

theorem slug_slug_eq_iff {cs : List Char} : slug (slug cs) = slug cs ↔ dottedI ∉ cs := by
  refine ⟨fun heq h => ?_, slug_slug⟩
  have hdot : combiningDot ∈ slug cs := combiningDot_mem_slug_iff.2 h
  rw [← heq] at hdot
  exact dottedI_not_mem_slug cs (combiningDot_mem_slug_iff.1 hdot)

end UrlRouter
