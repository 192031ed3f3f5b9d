import ArchLint.Analyzer
import ArchLint.Proofs.ListLaws
import ArchLint.Proofs.ReportOrder
import ArchLint.Rule.Catalog

/-! # Reports do not depend on the order of rules and files

Diagnostics that compare equal have one code and lie in one file. When the codes of the rules differ and
so do the files, all of them come from one run of one rule, and that run alone fixes their order.

* `Analyzer.code_of_mem_checkRule`, `Analyzer.file_of_mem_check` — where a diagnostic comes from.
* `Analyzer.analyze_eq_of_perm` — the order of rules and files does not show in the report.
-/

namespace ArchLint

namespace Analyzer

variable {a : Analyzer} {u v : SourceUnit} {r s : Rule} {d : Diagnostic}

/-! ## Where a diagnostic comes from -/

theorem code_of_mem_checkRule (h : d ∈ a.checkRule u r) :
    d.code = r.code ∧ d.location.file = u.path := by
  obtain ⟨-, found, -, x, -, rfl⟩ := mem_checkRule.1 h
  exact ⟨rfl, rfl⟩

theorem file_of_mem_check (h : d ∈ a.check u) : d.location.file = u.path := by
  obtain ⟨-, r, -, hr⟩ := mem_check.1 h
  exact (code_of_mem_checkRule hr).2

theorem tiedWith_checkRule_of_code_ne (codes : r.code ≠ s.code) :
    tiedWith Diagnostic.order d (a.checkRule u r) = [] ∨
      tiedWith Diagnostic.order d (a.checkRule u s) = [] := by
  apply tiedWith_eq_nil_or
  intro e he e' he' tie
  apply codes
  rw [← (code_of_mem_checkRule he).1, ← (code_of_mem_checkRule he').1]
  exact Diagnostic.order_code tie

theorem tiedWith_check_of_path_ne (paths : Path.order u.path v.path ≠ .eq) :
    tiedWith Diagnostic.order d (a.check u) = [] ∨
      tiedWith Diagnostic.order d (a.check v) = [] := by
  apply tiedWith_eq_nil_or
  intro e he e' he' tie
  apply paths
  rw [← file_of_mem_check he, ← file_of_mem_check he']
  exact Diagnostic.order_file tie

/-! ## What is tied -/

variable {rules : List Rule}

theorem tiedWith_check_perm (perm : a.rules.Perm rules)
    (codes : a.rules.Pairwise fun r s => r.code ≠ s.code) :
    tiedWith Diagnostic.order d (a.check u) =
      tiedWith Diagnostic.order d ({ a with rules := rules }.check u) := by
  simp only [check]
  split
  next skipped => rw [if_pos (show skips { a with rules := rules } u = true from skipped)]
  next checked =>
    rw [if_neg (show ¬ skips { a with rules := rules } u = true from checked)]
    simp only [tiedWith, List.filter_flatMap]
    exact flatMap_eq_of_perm perm (codes.imp fun h => tiedWith_checkRule_of_code_ne h)

theorem tiedWith_flatMap_check_perm (perm : a.rules.Perm rules)
    (codes : a.rules.Pairwise fun r s => r.code ≠ s.code) (units : List SourceUnit) :
    tiedWith Diagnostic.order d (units.flatMap a.check) =
      tiedWith Diagnostic.order d (units.flatMap ({ a with rules := rules } : Analyzer).check) := by
  simp only [tiedWith, List.filter_flatMap]
  exact congrArg (units.flatMap ·) (funext fun _ => tiedWith_check_perm perm codes)

theorem tiedWith_flatMap_check_perm_units {units units' : List SourceUnit} (perm : units.Perm units')
    (paths : units.Pairwise fun u v => Path.order u.path v.path ≠ .eq) :
    tiedWith Diagnostic.order d (units.flatMap a.check) =
      tiedWith Diagnostic.order d (units'.flatMap a.check) := by
  simp only [tiedWith, List.filter_flatMap]
  exact flatMap_eq_of_perm perm (paths.imp fun h => tiedWith_check_of_path_ne h)

/-! ## The report -/

/-- With rules of different codes, the order of the rules does not show in a report; and when moreover
no two files have the same path, component by component, neither does the order of the files. -/
theorem analyze_eq_of_perm (a : Analyzer) {rules : List Rule} (perm : a.rules.Perm rules)
    (codes : a.rules.Pairwise fun r s => r.code ≠ s.code) (units : List SourceUnit) :
    ({ a with rules := rules } : Analyzer).analyze units = a.analyze units ∧
      ∀ units' : List SourceUnit, units.Perm units' →
        (units.Pairwise fun u v => Path.order u.path v.path ≠ .eq) →
          ({ a with rules := rules } : Analyzer).analyze units' = a.analyze units := by
  constructor
  -- The rules are permuted, and the files stay.
  · refine Report.sort_congr ?_ fun d => ?_
    · rfl
    · exact (tiedWith_flatMap_check_perm perm codes units).symm
  -- Both are permuted: the rules first, within each file, then the files.
  · intro units' moved paths
    refine Report.sort_congr ?_ fun d => ?_
    · exact congrArg UInt64.ofNat moved.length_eq.symm
    · calc tiedWith Diagnostic.order d (units'.flatMap { a with rules := rules }.check)
        _ = tiedWith Diagnostic.order d (units'.flatMap a.check) :=
          (tiedWith_flatMap_check_perm perm codes units').symm
        _ = tiedWith Diagnostic.order d (units.flatMap a.check) :=
          (tiedWith_flatMap_check_perm_units moved paths).symm

/-- A file whose two imports are both reported, at one place and under one code. -/
def clientsAt (path : String) : SourceUnit where
  path := path
  unit :=
    { directives := [.reference .imported { uri := "package:dio/dio.dart" },
        .reference .imported { uri := "package:http/http.dart" }] }

theorem analyze_catalog_reversed :
    (Rule.catalog.Pairwise fun r s => r.code ≠ s.code) ∧
      Path.order "lib/a/domain/x.dart" "lib/a-b/domain/x.dart" ≠ .eq ∧
      ({ rules := Rule.catalog.reverse } : Analyzer).analyze
          [clientsAt "lib/a-b/domain/x.dart", clientsAt "lib/a/domain/x.dart"] =
        ({ rules := Rule.catalog } : Analyzer).analyze
          [clientsAt "lib/a/domain/x.dart", clientsAt "lib/a-b/domain/x.dart"] :=
  have codes : Rule.catalog.Pairwise fun r s => r.code ≠ s.code := by decide
  have paths : Path.order "lib/a/domain/x.dart" "lib/a-b/domain/x.dart" ≠ .eq := by decide
  ⟨codes, paths,
    (analyze_eq_of_perm { rules := Rule.catalog } (List.reverse_perm _).symm codes _).2 _
      (List.Perm.swap _ _ []) (by simpa [clientsAt] using paths)⟩

end Analyzer

end ArchLint
