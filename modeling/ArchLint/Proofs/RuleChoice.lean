import Mathlib.Data.List.TakeWhile
import ArchLint.Proofs.ListLaws
import ArchLint.Proofs.SeverityOverrides

/-! # Every rule contributes on its own

The diagnostics of a file are those of its rules, one rule after the other, and no rule sees what another
one found. So a list of rules may be cut in two, rules that say nothing may stand anywhere in it, and to
choose rules before a run is to choose among the diagnostics after it, since every diagnostic carries the
name and the code of its rule. A blank text is a choice like any other: it asks for the rules that have no
name or no code.

* `Interleaved` — a list that is put together from two others.
* `Analyzer.check_of_interleaved` — rules that break down or are switched off, at any places among others.
* `Analyzer.analyze_only` — a run of chosen rules, from the run of all.
-/

namespace ArchLint

/-! ## Parts of a list -/

/-- The third list holds the elements of the first and of the second, each in their order. -/
inductive Interleaved {α : Type} : List α → List α → List α → Prop
  | nil : Interleaved [] [] []
  | left {a l m n} : Interleaved l m n → Interleaved (a :: l) m (a :: n)
  | right {a l m n} : Interleaved l m n → Interleaved l (a :: m) (a :: n)

theorem Interleaved.flatMap_eq {α β : Type} {f : α → List β} {l silent n : List α}
    (h : Interleaved l silent n) (nothing : ∀ a ∈ silent, f a = []) :
    n.flatMap f = l.flatMap f := by
  induction h with
  | nil => rfl
  | left _ ih => rw [List.flatMap_cons, List.flatMap_cons, ih nothing]
  | right _ ih =>
    rw [List.flatMap_cons, nothing _ List.mem_cons_self, List.nil_append]
    exact ih fun a ha => nothing a (.tail _ ha)

/-- A choice may be made before or after a stable sort. -/
theorem filter_mergeSort {α : Type} {cmp : α → α → Ordering} [Std.TransCmp cmp] (p : α → Bool)
    (l : List α) : (l.filter p).mergeSort (fun a b => (cmp a b).isLE) =
      (l.mergeSort fun a b => (cmp a b).isLE).filter p := by
  rw [← List.filterMap_eq_filter]
  apply filterMap_mergeSort
  intro x y z chosen
  rw [(Option.guard_eq_some_iff.1 chosen).1]

/-! ## Names and codes -/

/-- The diagnostic comes from a rule that goes by the name or code that was asked for. -/
def Diagnostic.answersTo (d : Diagnostic) (id : String) : Bool :=
  d.rule == Text.trim id || Text.asciiLower d.code.toList == Text.asciiLower (Text.trim id).toList

theorem trim_eq_empty {id : String} (blank : Text.allBlank id = true) : Text.trim id = "" := by
  have margin : id.toList.dropWhile Text.isBlank = [] :=
    List.dropWhile_eq_nil_iff.2 (List.all_eq_true.1 blank)
  simp [Text.trim, Text.stripBy, margin]

/-- A blank text asks for the rules without a name or without a code. -/
theorem Rule.answersTo_iff_of_blank {r : Rule} {id : String} (blank : Text.allBlank id = true) :
    r.answersTo id = true ↔ r.name = "" ∨ r.code = "" := by
  simp [answersTo, trim_eq_empty blank, Text.asciiLower]

theorem Rule.named_of_mem_catalog : ∀ r ∈ Rule.catalog, r.name ≠ "" ∧ r.code ≠ "" := by
  decide

namespace Analyzer

variable {a : Analyzer} {u : SourceUnit} {r : Rule} {ids : List String}

/-! ## Cut lists and silent rules -/

/-- The analyzer with other rules. -/
def withRules (a : Analyzer) (rules : List Rule) : Analyzer :=
  { a with rules := rules }

/-- The rule breaks down on the file or is switched off. -/
def Silent (a : Analyzer) (u : SourceUnit) (r : Rule) : Prop :=
  r.findings (a.config.contextOf u.path) u.unit = none ∨ a.effectiveSeverity r = .ignore

theorem checkRule_of_silent (h : a.Silent u r) : a.checkRule u r = [] := by
  rcases h with broken | off
  · simp [checkRule, broken]
  · exact checkRule_of_ignored off

theorem check_withRules (a : Analyzer) (u : SourceUnit) (rules : List Rule) :
    (a.withRules rules).check u = if a.skips u then [] else rules.flatMap (a.checkRule u) :=
  rfl

/-- Rules that break down on a file or are switched off, in any number and at any places among the
others, leave the diagnostics of the file as they are. And where a list of rules is cut in two, the
diagnostics are those of the first part followed by those of the second. -/
theorem check_of_interleaved (a : Analyzer) (u : SourceUnit) :
    (∀ silent rules, (∀ r ∈ silent, a.Silent u r) → Interleaved a.rules silent rules →
      (a.withRules rules).check u = a.check u) ∧
    ∀ first second, a.rules = first ++ second →
      a.check u = (a.withRules first).check u ++ (a.withRules second).check u := by
  constructor
  · intro silent rules nothing mixed
    rw [check_withRules, check, mixed.flatMap_eq fun r hr => checkRule_of_silent (nothing r hr)]
  · intro first second cut
    rw [check_withRules, check_withRules, check, cut, List.flatMap_append]
    split
    next => rfl
    next => rfl

/-- A rule that breaks down on every file. -/
def brokenRule : Rule where
  name := "broken"
  code := "X001"
  findings := fun _ _ => none

theorem check_of_interleaved_brokenRule :
    let a : Analyzer :=
      { rules := [.domainNoDataImports, .domainNoDataImports]
        config := { lint := { severity := ⟨[("bloc_naming_convention", "ignore")]⟩ } } }
    let silent := [brokenRule, .blocNamingConvention]
    let rules := [brokenRule, .domainNoDataImports, .blocNamingConvention, .domainNoDataImports]
    (∀ r ∈ silent, a.Silent misnamed r) ∧ Interleaved a.rules silent rules ∧
      ((a.withRules rules).check misnamed).length = 2 ∧
      (a.withRules rules).check misnamed = a.check misnamed := by
  intro a silent rules
  have nothing : ∀ r ∈ silent, a.Silent misnamed r := by
    intro r hr
    simp only [silent, List.mem_cons, List.not_mem_nil, or_false] at hr
    rcases hr with rfl | rfl
    · exact .inl rfl
    · exact .inr (by decide +kernel)
  have mixed : Interleaved a.rules silent rules := .right (.left (.right (.left .nil)))
  exact ⟨nothing, mixed, by decide +kernel,
    (a.check_of_interleaved misnamed).1 silent rules nothing mixed⟩

/-! ## Chosen rules -/

theorem answersTo_of_mem_checkRule {d : Diagnostic} (h : d ∈ a.checkRule u r) (id : String) :
    d.answersTo id = r.answersTo id := by
  obtain ⟨-, found, -, x, -, rfl⟩ := mem_checkRule.1 h
  rfl

theorem check_only (a : Analyzer) (ids : List String) (u : SourceUnit) :
    (a.only ids).check u = (a.check u).filter fun d => ids.any d.answersTo := by
  have skips : (a.only ids).skips u = a.skips u := rfl
  have rule : (a.only ids).checkRule u = a.checkRule u := rfl
  rw [check, check, skips, rule]
  split
  next => rfl
  next =>
    apply flatMap_filter
    intro r _ d hd
    exact congrArg ids.any (funext (answersTo_of_mem_checkRule hd))

theorem only_eq_of_answersTo {ids ids' : List String} (kept : ids ⊆ ids')
    (idle : ∀ id ∈ ids', id ∈ ids ∨ ∀ r ∈ a.rules, r.answersTo id = false) :
    a.only ids' = a.only ids := by
  have same : ∀ r ∈ a.rules, (ids'.any r.answersTo) = ids.any r.answersTo := by
    intro r hr
    rw [Bool.eq_iff_iff, List.any_eq_true, List.any_eq_true]
    constructor
    · rintro ⟨id, hid, answers⟩
      rcases idle id hid with known | unknown
      · exact ⟨id, known, answers⟩
      · rw [unknown r hr] at answers
        cases answers
    · rintro ⟨id, hid, answers⟩
      exact ⟨id, kept hid, answers⟩
  rw [only, only, List.filter_congr same]

/-- A run of chosen rules gives the report of the run of all rules, in the same order, less the
diagnostics of rules whose name and code were not asked for. Texts that ask for no rule and texts that are
given again change nothing. A blank text asks for the rules without a name or without a code, so it changes
nothing either if every rule is built in or has both. -/
theorem analyze_only (a : Analyzer) (ids : List String) (units : List SourceUnit) :
    (a.only ids).analyze units =
      { a.analyze units with
        diagnostics := (a.analyze units).diagnostics.filter fun d => ids.any d.answersTo } ∧
    (∀ id (r : Rule), Text.allBlank id = true → (r.answersTo id = true ↔ r.name = "" ∨ r.code = "")) ∧
    ∀ ids', ids ⊆ ids' →
      (∀ id ∈ ids', id ∈ ids ∨ (∀ r ∈ a.rules, r.answersTo id = false) ∨
        (Text.allBlank id = true ∧ ∀ r ∈ a.rules, r ∈ Rule.catalog ∨ (r.name ≠ "" ∧ r.code ≠ ""))) →
      (a.only ids').analyze units = (a.only ids).analyze units := by
  refine ⟨?chosen, fun _ _ => Rule.answersTo_iff_of_blank, ?unchanged⟩
  case chosen =>
    -- The choice passes through each file, the files put together, and the sort of the report.
    have found : units.flatMap (a.only ids).check =
        (units.flatMap a.check).filter fun d => ids.any d.answersTo := by
      rw [List.filter_flatMap]
      exact List.flatMap_congr fun u _ => a.check_only ids u
    simp only [analyze, Report.sort, found, @filter_mergeSort _ Diagnostic.order _]
  case unchanged =>
    intro ids' kept idle
    rw [only_eq_of_answersTo kept]
    intro id hid
    rcases idle id hid with again | unknown | ⟨blank, named⟩
    · exact .inl again
    · exact .inr unknown
    · refine .inr fun r hr => ?_
      rw [← Bool.not_eq_true, Rule.answersTo_iff_of_blank blank, not_or]
      exact (named r hr).elim (Rule.named_of_mem_catalog r) fun both => both

theorem analyze_only_misnamed :
    let a : Analyzer := { rules := Rule.catalog }
    let ids := [" cma015 "]
    let ids' := ["nothing", " cma015 ", " ", " cma015 "]
    (a.check misnamed).map (·.code) = ["CMA010", "CMA015"] ∧
      ((a.only ids').check misnamed).map (·.code) = ["CMA015"] ∧
      (a.only ids').analyze [misnamed] =
        { a.analyze [misnamed] with
          diagnostics := (a.analyze [misnamed]).diagnostics.filter fun d => ids.any d.answersTo } := by
  intro a ids ids'
  have idle : ∀ id ∈ ids', id ∈ ids ∨ (∀ r ∈ a.rules, r.answersTo id = false) ∨
      (Text.allBlank id = true ∧ ∀ r ∈ a.rules, r ∈ Rule.catalog ∨ (r.name ≠ "" ∧ r.code ≠ "")) := by
    intro id hid
    simp only [ids', List.mem_cons, List.not_mem_nil, or_false] at hid
    rcases hid with rfl | rfl | rfl | rfl
    · exact .inr (.inl (by decide +kernel))
    · exact .inl (by decide)
    · exact .inr (.inr ⟨by decide, fun r hr => .inl hr⟩)
    · exact .inl (by decide)
  obtain ⟨chosen, -, unchanged⟩ := a.analyze_only ids [misnamed]
  exact ⟨by decide +kernel, by decide +kernel, (unchanged ids' (by decide) idle).trans chosen⟩

/-- A boundary without a name. -/
def namelessBoundary : ImportBoundary :=
  { code := "X001", name := "", packages := ["package:dio/"] }

/-- A blank text chooses a rule without a name. -/
theorem only_blank_namelessBoundary :
    let a : Analyzer := { rules := [namelessBoundary.rule] }
    Text.allBlank " " = true ∧
      ((a.only []).analyze [misnamed]).diagnostics = [] ∧
      ((a.only [" "]).analyze [misnamed]).diagnostics.map (·.code) = ["X001"] ∧
      (a.only [" "]).analyze [misnamed] ≠ (a.only []).analyze [misnamed] := by
  intro a
  have none : ((a.only []).analyze [misnamed]).diagnostics = [] := by decide +kernel
  have one : ((a.only [" "]).analyze [misnamed]).diagnostics.map (·.code) = ["X001"] := by
    decide +kernel
  refine ⟨by decide, none, one, fun same => ?_⟩
  rw [same, none] at one
  cases one

end Analyzer

end ArchLint
