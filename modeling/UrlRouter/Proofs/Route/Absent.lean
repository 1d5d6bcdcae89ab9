import UrlRouter.Proofs.Pattern.SlugRuns
import UrlRouter.Proofs.Route.Exchange

/-!
Values that leave no slug. A path is generated as if they were not there, and from any other value
of its placeholders another path comes.
-/

namespace UrlRouter

open Unicode

def PathData.without (d : PathData) (name : String) : PathData :=
  { d with values := d.values.erase name }

structure Places (ps : List Piece) (name : String) : Prop where
  placed : ∃ t, .token t ∈ ps ∧ t.kind.needsName = true ∧ t.nameString = some name
  only : ∀ t, .token t ∈ ps → t.nameString = some name → t.kind.needsName = true

namespace PathData

variable {d : PathData} {name s : String}

theorem text?_without (d : PathData) (name n : String) :
    (d.without name).text? n = if name = n then none else d.text? n := by
  rw [text?, without, Dict.get?_erase]
  split <;> rfl

theorem text?_without_self (d : PathData) (name : String) : (d.without name).text? name = none := by
  rw [text?_without, if_pos rfl]

theorem text?_without_of_ne {n : String} (h : n ≠ name) :
    (d.without name).text? n = d.text? n := by
  rw [text?_without, if_neg (Ne.symm h)]

theorem segment?_eq_none_of_text? (h : d.text? name = none) : d.segment? name = none := by
  rw [segment?, h]
  rfl

theorem segment?_of_text? (hurlize : d.urlize = true) (h : d.text? name = some s) :
    d.segment? name = (some (UrlRouter.urlize s)).filter (· ≠ "") := by
  rw [segment?, h, hurlize]
  rfl

theorem segment?_eq_none_iff_kept (hurlize : d.urlize = true) (h : d.text? name = some s) :
    d.segment? name = none ↔ ∀ c ∈ s.toList, isSlugChar c = false := by
  rw [segment?_of_text? hurlize h, ← urlize_eq_empty_iff, Option.filter_eq_none_iff]
  simp

end PathData

section

variable {d : PathData} {t : Token} {ps : List Piece} {name : String}

theorem Token.text_without (hnamed : t.Named) (h : t.nameString ≠ some name) :
    t.text (d.without name) = t.text d := by
  have hother {n : String} (hn : t.nameString = some n) :
      (d.without name).text? n = d.text? n :=
    PathData.text?_without_of_ne fun heq => h (heq ▸ hn)
  refine text_congr rfl rfl (fun hneeds => ?_) fun _ => ?_
  · obtain ⟨n, hname⟩ := hnamed.exists_nameString hneeds
    rw [hname, Option.getD_some, PathData.segment?, PathData.segment?, hother hname]
    rfl
  · cases hname : t.nameString with
    | none => rfl
    | some n => exact hother hname

theorem Token.text_without_of_segment?_eq_none (hnamed : t.Named)
    (hneeds : t.nameString = some name → t.kind.needsName = true) (h : d.segment? name = none) :
    t.text (d.without name) = t.text d := by
  by_cases hname : t.nameString = some name
  · have hgone := PathData.segment?_eq_none_of_text? (d.text?_without_self name)
    rw [t.text_of_segment?_eq_none (hneeds hname) hname h,
      t.text_of_segment?_eq_none (hneeds hname) hname hgone]
  · exact t.text_without hnamed hname

theorem Token.length_text_without (hneeds : t.kind.needsName = true)
    (hname : t.nameString = some name) (h : d.segment? name ≠ none) {u v : List Char}
    (hu : t.text d = .ok u) (hv : t.text (d.without name) = .ok v) : v.length < u.length := by
  obtain ⟨s, hs⟩ := Option.ne_none_iff_exists'.1 h
  have hgone := PathData.segment?_eq_none_of_text? (d.text?_without_self name)
  rw [t.text_of_segment? hneeds hname hs] at hu
  rw [t.text_of_segment?_eq_none hneeds hname hgone] at hv
  have hlength := List.length_pos_iff.2 (segment?_ne_nil hs)
  split at hv
  · cases hu
    cases hv
    rw [List.length_append, List.length_nil]
    omega
  · cases hv

theorem generatePath_without {pattern : String} (hsplit : split pattern.toList = .ok ps)
    (hps : Places ps name) (h : d.segment? name = none) :
    generatePath d pattern = generatePath (d.without name) pattern := by
  rw [generatePath_eq hsplit, generatePath_eq hsplit]
  refine congrArg _ (texts_congr fun t ht => ?_)
  exact (t.text_without_of_segment?_eq_none (named_of_split hsplit t ht) (hps.only t ht) h).symm

/-- Without the value the path gets shorter, if there still is one. -/
theorem generatePath_without_ne {pattern path : String} (hsplit : split pattern.toList = .ok ps)
    (hps : Places ps name) (h : d.segment? name ≠ none)
    (hpath : generatePath d pattern = .ok path) :
    generatePath (d.without name) pattern ≠ .ok path := by
  rw [generatePath_eq_ok_iff hsplit] at hpath
  rw [ne_eq, generatePath_eq_ok_iff hsplit]
  intro hwithout
  obtain ⟨t, ht, hneeds, hname⟩ := hps.placed
  have hshorter : path.toList.length < path.toList.length := by
    refine measure_texts_lt (fun u v => List.length_append) (fun t' ht' u v hu hv => ?_) ht
      (fun u v hu hv => t.length_text_without hneeds hname h hu hv) hpath hwithout
    by_cases hname' : t'.nameString = some name
    · exact Nat.le_of_lt (t'.length_text_without (hps.only t' ht' hname') hname' h hu hv)
    · have heq := t'.text_without (d := d) (named_of_split hsplit t' ht') hname'
      cases hu.symm.trans (heq.symm.trans hv)
      exact Nat.le_refl _
  exact Nat.lt_irrefl _ hshorter

end

theorem urlize_eq_joined_runs (s : String) :
    (urlize s).toList =
        ['-'].intercalate ((keptRuns s.toList).map fun run => run.flatMap lowercase) ∧
      (urlize s).toList.head? ≠ some '-' ∧ (urlize s).toList.getLast? ≠ some '-' ∧
      ¬ ['-', '-'] <:+: (urlize s).toList ∧ '/' ∉ (urlize s).toList ∧ '?' ∉ (urlize s).toList ∧
      (urlize s = "" ↔ ∀ c ∈ s.toList, isSlugChar c = false) ∧
      ∀ (d : PathData) (pattern name : String) (ps : List Piece), d.urlize = true →
        d.text? name = some s → split pattern.toList = .ok ps → Places ps name →
        ((∀ c ∈ s.toList, isSlugChar c = false) →
          generatePath d pattern = generatePath (d.without name) pattern) ∧
        ∀ path, (∃ c ∈ s.toList, isSlugChar c = true) → generatePath d pattern = .ok path →
          generatePath (d.without name) pattern ≠ .ok path := by
  have hjoinable := joinable_keptRuns s.toList
  have hhead := hjoinable.head?
  have hlast := hjoinable.getLast?
  have hpair := hjoinable.not_infix
  rw [← toList_urlize_eq_joinRuns] at hhead hlast hpair
  refine ⟨toList_urlize_eq_joinRuns s, hhead, hlast, hpair, slash_not_mem_urlize s, question_not_mem_urlize s,
    urlize_eq_empty_iff, fun d pattern name ps hurlize htext hsplit hps => ⟨fun hnone => ?_, ?_⟩⟩
  · exact generatePath_without hsplit hps ((d.segment?_eq_none_iff_kept hurlize htext).2 hnone)
  · rintro path ⟨c, hc, hkept⟩ hpath
    refine generatePath_without_ne hsplit hps (fun hnone => ?_) hpath
    rw [d.segment?_eq_none_iff_kept hurlize htext] at hnone
    rw [hnone c hc] at hkept
    cases hkept

theorem urlize_eq_joined_runs_optional :
    let pattern := "/list\x7b\x7bO:/by-<author>\x7d\x7d"
    let data (author : String) : PathData := ⟨.empty, .ofList [("author", .str author)], "en", true⟩
    urlize "--Ünal & Co.--" = "ünal-co." ∧ urlize " ☃ " = "" ∧
      generatePath (data "--Ünal & Co.--") pattern = .ok "/list/by-ünal-co." ∧
      generatePath ((data "--Ünal & Co.--").without "author") pattern ≠ .ok "/list/by-ünal-co." ∧
      generatePath (data " ☃ ") pattern = generatePath ((data " ☃ ").without "author") pattern := by
  intro pattern data
  have hsplit : split pattern.toList = .ok [.literal "/list".toList,
      .token ⟨.optional, "/by-".toList, some "author".toList, []⟩] :=
    Except.eq_ok_of_toOption (by decide +kernel)
  have hps : Places [.literal "/list".toList,
      .token ⟨.optional, "/by-".toList, some "author".toList, []⟩] "author" :=
    ⟨⟨⟨.optional, "/by-".toList, some "author".toList, []⟩, by simp, rfl, rfl⟩,
      by simp [Kind.needsName]⟩
  have hpath : generatePath (data "--Ünal & Co.--") pattern = .ok "/list/by-ünal-co." :=
    Except.eq_ok_of_toOption (by decide +kernel)
  have hkept := (urlize_eq_joined_runs "--Ünal & Co.--").2.2.2.2.2.2.2
  have hnone := (urlize_eq_joined_runs " ☃ ").2.2.2.2.2.2.2
  have hempty : urlize " ☃ " = "" := by decide +kernel
  refine ⟨by decide +kernel, hempty, hpath, ?_, ?_⟩
  · exact (hkept _ pattern "author" _ rfl rfl hsplit hps).2 _
      ⟨'Ü', by decide +kernel, by decide +kernel⟩ hpath
  · exact (hnone _ pattern "author" _ rfl rfl hsplit hps).1 (urlize_eq_empty_iff.1 hempty)

end UrlRouter
