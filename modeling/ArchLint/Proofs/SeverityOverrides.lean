import Mathlib.Data.List.Basic
import ArchLint.Analyzer
import ArchLint.Proofs.ReportOrder
import ArchLint.Rule.Catalog

/-! # Severity overrides relabel or drop

A project may give single rules another severity. Rules do not see these settings, so they find the
same with and without them. The non-trivial ingredient is `filterMap_mergeSort`: dropping and
relabelling before a report is sorted is the same as doing so afterwards, since neither changes what
the order looks at.

* `Overrides.relabel?` — what becomes of a diagnostic.
* `Analyzer.severity_ne_ignore` — no report holds a diagnostic that was switched off.
* `Analyzer.analyze_withOverrides` — a whole run under overrides, from the run without any.
-/

namespace ArchLint

/-- The diagnostic under the overrides: absent if its rule is switched off, at the severity that its
rule is given, and as it was where no valid severity is given. -/
def Overrides.relabel? (m : Overrides) (d : Diagnostic) : Option Diagnostic :=
  match m.severity? d.rule with
  | none => some d
  | some .ignore => none
  | some severity => some { d with severity := severity }

/-- Rules under other overrides. -/
def Analyzer.withOverrides (a : Analyzer) (m : Overrides) : Analyzer :=
  { a with config := { a.config with lint := { a.config.lint with severity := m } } }

/-! ## Choice and stable order -/

section Choice

variable {α : Type} {cmp : α → α → Ordering} {f : α → Option α}

theorem tiedWith_filterMap (kept : ∀ x y z, f y = some z → cmp x z = cmp x y) (x : α)
    (l : List α) : tiedWith cmp x (l.filterMap f) = (tiedWith cmp x l).filterMap f := by
  simp only [tiedWith]
  induction l with
  | nil => rfl
  | cons y l ih =>
    cases image : f y with
    | none =>
      rw [List.filterMap_cons_none image, ih, List.filter_cons]
      split
      next => rw [List.filterMap_cons_none image]
      next => rfl
    | some z =>
      rw [List.filterMap_cons_some image, List.filter_cons, List.filter_cons, kept x y z image, ih]
      split
      next => rw [List.filterMap_cons_some image]
      next => rfl

/-- A choice that keeps what the order looks at may be made before or after a stable sort. -/
theorem filterMap_mergeSort [Std.TransCmp cmp] (kept : ∀ x y z, f y = some z → cmp x z = cmp x y)
    (l : List α) : (l.filterMap f).mergeSort (fun a b => (cmp a b).isLE) =
      (l.mergeSort fun a b => (cmp a b).isLE).filterMap f := by
  apply @eq_of_tiedWith_eq _ cmp _ _ _ (pairwise_mergeSort_isLE _)
  · refine List.Pairwise.filterMap f ?_ (pairwise_mergeSort_isLE l)
    intro a b le a' ha b' hb
    rw [kept a' b b' hb, @Std.OrientedCmp.eq_swap _ cmp _ a' b, kept b a a' ha,
      ← @Std.OrientedCmp.eq_swap _ cmp _ a b]
    exact le
  · intro x
    rw [tiedWith_mergeSort, tiedWith_filterMap kept, tiedWith_filterMap kept, tiedWith_mergeSort]

end Choice

namespace Overrides

variable {m : Overrides} {d : Diagnostic} {s : Severity}

theorem relabel?_of_none (entry : m.severity? d.rule = none) : m.relabel? d = some d := by
  rw [relabel?, entry]

theorem relabel?_of_ignore (entry : m.severity? d.rule = some .ignore) : m.relabel? d = none := by
  rw [relabel?, entry]

theorem relabel?_of_severity (entry : m.severity? d.rule = some s) (on : s ≠ .ignore) :
    m.relabel? d = some { d with severity := s } := by
  rw [relabel?, entry]
  cases s with
  | ignore => exact absurd rfl on
  | info | warning | error => rfl

/-- The order of diagnostics does not look at severities. -/
theorem order_relabel? (c d d' : Diagnostic) (h : m.relabel? d = some d') :
    c.order d' = c.order d := by
  simp only [relabel?] at h
  split at h
  next => rw [Option.some_inj.1 h]
  next => cases h
  next => rw [← Option.some_inj.1 h]; rfl

end Overrides

/-! ## Counting -/

theorem Report.count_add {r : Report} (heard : ∀ d ∈ r.diagnostics, d.severity ≠ .ignore) :
    r.count .error + r.count .warning + r.count .info = r.diagnostics.length := by
  obtain ⟨diagnostics, files⟩ := r
  simp only [count] at *
  induction diagnostics with
  | nil => rfl
  | cons d ds ih =>
    have rest := ih fun e he => heard e (.tail d he)
    have this := heard d (.head ds)
    simp only [List.countP_cons, List.length_cons]
    cases severity : d.severity with
    | ignore => exact absurd severity this
    | info | warning | error => simp; omega

theorem Severity.atLeast_error {s : Severity} : s.atLeast .error = (s == .error) := by
  cases s <;> rfl

theorem Report.hasErrors_iff (r : Report) : r.hasErrors = true ↔ 0 < r.count .error := by
  simp [hasErrors, hasAt, count, List.countP_pos_iff, Severity.atLeast_error]

namespace Analyzer

variable {a : Analyzer} {m : Overrides} {u : SourceUnit} {r : Rule}

/-! ## One rule, one file, all files -/

theorem checkRule_of_ignored (off : a.effectiveSeverity r = .ignore) : a.checkRule u r = [] := by
  simp [checkRule, off]

theorem checkRule_of_severity {s : Severity} (force : a.effectiveSeverity r = s)
    (on : s ≠ .ignore) :
    a.checkRule u r =
      ((r.findings (a.config.contextOf u.path) u.unit).getD []).map (r.diagnose u.path s) := by
  simp only [checkRule, force, beq_iff_eq, if_neg on]
  cases r.findings (a.config.contextOf u.path) u.unit with
  | none => rfl
  | some found => rfl

theorem severity_of_mem_checkRule {d : Diagnostic} (h : d ∈ a.checkRule u r) :
    d.severity ≠ .ignore := by
  obtain ⟨on, found, -, x, -, rfl⟩ := mem_checkRule.1 h
  exact on

theorem severity_ne_ignore (units : List SourceUnit) :
    ∀ d ∈ (a.analyze units).diagnostics, d.severity ≠ .ignore := by
  intro d hd
  obtain ⟨u, -, hu⟩ := mem_analyze.1 hd
  obtain ⟨-, r, -, hr⟩ := mem_check.1 hu
  exact severity_of_mem_checkRule hr

theorem checkRule_withOverrides (on : r.severity ≠ .ignore) :
    (a.withOverrides m).checkRule u r =
      ((a.withOverrides {}).checkRule u r).filterMap m.relabel? := by
  rw [checkRule_of_severity (a := a.withOverrides {}) rfl on, List.filterMap_map]
  have force : (a.withOverrides m).effectiveSeverity r = (m.severity? r.name).getD r.severity := rfl
  -- All diagnostics of the rule carry its name, so one entry decides on all of them.
  cases entry : m.severity? r.name with
  | none =>
    rw [entry] at force
    rw [checkRule_of_severity force on, ← List.filterMap_eq_map]
    refine congrArg (List.filterMap · _) (funext fun f => ?_)
    exact (Overrides.relabel?_of_none entry).symm
  | some s =>
    rw [entry] at force
    by_cases off : s = .ignore
    · subst s
      rw [checkRule_of_ignored force]
      refine (List.filterMap_eq_nil_iff.2 fun f _ => ?_).symm
      exact Overrides.relabel?_of_ignore entry
    · rw [checkRule_of_severity force off, ← List.filterMap_eq_map]
      refine congrArg (List.filterMap · _) (funext fun f => ?_)
      exact (Overrides.relabel?_of_severity (d := r.diagnose u.path r.severity f) entry off).symm

theorem check_withOverrides (on : ∀ r ∈ a.rules, r.severity ≠ .ignore) :
    (a.withOverrides m).check u = ((a.withOverrides {}).check u).filterMap m.relabel? := by
  have skips : ∀ m, (a.withOverrides m).skips u = a.skips u := fun _ => rfl
  have rules : ∀ m, (a.withOverrides m).rules = a.rules := fun _ => rfl
  simp only [check, skips, rules]
  split
  next => rfl
  next =>
    rw [List.filterMap_flatMap]
    exact List.flatMap_congr fun r hr => checkRule_withOverrides (on r hr)

/-- Without rules that are switched off of themselves, a run under any overrides gives the report of
the run without overrides, in the same order, less the diagnostics of the rules that are switched
off, and the others at the severities that are given. And in no report is there a diagnostic that is
switched off, so that the counts of the other severities add up and errors are found when they are
counted. -/
theorem analyze_withOverrides (a : Analyzer) (on : ∀ r ∈ a.rules, r.severity ≠ .ignore)
    (m : Overrides) (units : List SourceUnit) :
    (a.withOverrides m).analyze units =
      { (a.withOverrides {}).analyze units with
        diagnostics := ((a.withOverrides {}).analyze units).diagnostics.filterMap m.relabel? } ∧
    ∀ (b : Analyzer) (units : List SourceUnit),
      (∀ d ∈ (b.analyze units).diagnostics, d.severity ≠ .ignore) ∧
      (b.analyze units).count .error + (b.analyze units).count .warning +
        (b.analyze units).count .info = (b.analyze units).diagnostics.length ∧
      ((b.analyze units).hasErrors = true ↔ 0 < (b.analyze units).count .error) := by
  constructor
  · have found : units.flatMap (a.withOverrides m).check =
        (units.flatMap (a.withOverrides {}).check).filterMap m.relabel? := by
      rw [List.filterMap_flatMap]
      exact List.flatMap_congr fun u _ => check_withOverrides on
    simp only [analyze, Report.sort, found]
    rw [@filterMap_mergeSort _ Diagnostic.order _ _ Overrides.order_relabel?]
  · intro b units
    have heard := b.severity_ne_ignore units
    exact ⟨heard, Report.count_add heard, (b.analyze units).hasErrors_iff⟩

/-- A file of the domain layer that imports a data client and has a misnamed Bloc. -/
def misnamed : SourceUnit where
  path := "domain/a_bloc.dart"
  unit :=
    { directives := [.reference .imported { uri := "package:dio/dio.dart" }]
      declarations := [.classLike { name := "A", superclass := some { name := "Bloc" } }] }

theorem analyze_misnamed :
    let a : Analyzer := { rules := Rule.catalog }
    let m : Overrides :=
      ⟨[("bloc_naming_convention", "ignore"), ("domain_no_data_imports", " Info ")]⟩
    (∀ r ∈ a.rules, r.severity ≠ .ignore) ∧
      ((a.withOverrides {}).check misnamed).map (·.severity) = [.error, .warning] ∧
      ((a.withOverrides m).check misnamed).map (·.severity) = [.info] ∧
      (a.withOverrides m).analyze [misnamed] =
        { (a.withOverrides {}).analyze [misnamed] with
          diagnostics :=
            ((a.withOverrides {}).analyze [misnamed]).diagnostics.filterMap m.relabel? } := by
  intro a m
  have on : ∀ r ∈ a.rules, r.severity ≠ .ignore := by decide
  exact ⟨on, by decide +kernel, by decide +kernel, (a.analyze_withOverrides on m [misnamed]).1⟩

end Analyzer

end ArchLint
