import ArchLint.Analyzer
import ArchLint.Proofs.PathOrder
import ArchLint.Proofs.ReportOrder

/-! # Reports are stably sorted

A report holds what was found in the single files, each diagnostic as often as it was found, in an order
that four keys decide: the components of the file, the line, the column and the code. Diagnostics that agree
in all four keep the order in which the files and the rules gave them. This settles the report completely,
so reports on parts of the files can be put together to the report on all.

* `Diagnostic.Before`, `Diagnostic.Tied` — the four keys, and `Diagnostic.StablySorted` — a list in the
  order that they decide.
* `Report.stablySorted_sort`, `Report.sort_sort`, `Report.sort_append` — what sorting does to a report.
* `Analyzer.analyze_stablySorted` — the report on several files.
-/

namespace ArchLint

open Relation (ReflTransGen Join)

/-! ## The four keys -/

namespace Diagnostic

/-- The diagnostic lies in an earlier file, on an earlier line of the same file, in an earlier column of
that line, or is of a smaller code there. -/
def Before (d e : Diagnostic) : Prop :=
  List.Lex Path.Component.Before (Path.components d.location.file)
      (Path.components e.location.file) ∨
    Path.components d.location.file = Path.components e.location.file ∧
      (d.location.line < e.location.line ∨ d.location.line = e.location.line ∧
        (d.location.column < e.location.column ∨ d.location.column = e.location.column ∧
          d.code < e.code))

/-- File, line, column and code. -/
def keys (d : Diagnostic) : List Path.Component × UInt64 × UInt64 × String :=
  (Path.components d.location.file, d.location.line, d.location.column, d.code)

/-- The two agree in all four keys. -/
def Tied (d e : Diagnostic) : Prop :=
  d.keys = e.keys

instance : DecidableRel Tied := fun d e =>
  inferInstanceAs (Decidable (d.keys = e.keys))

theorem order_eq_then (d e : Diagnostic) : d.order e =
    (Path.order d.location.file e.location.file).then
      ((compare d.location.line e.location.line).then
        ((compare d.location.column e.location.column).then (compare d.code e.code))) :=
  rfl

theorem compare_word_eq_lt {a b : UInt64} : compare a b = .lt ↔ a < b :=
  compareOfLessAndEq_eq_lt

theorem order_eq_lt_iff {d e : Diagnostic} : d.order e = .lt ↔ d.Before e := by
  simp only [order_eq_then, Ordering.then_eq_lt, Path.order_eq_lt_iff, Path.order_eq_eq_iff,
    compare_word_eq_lt, Std.LawfulEqOrd.compare_eq_iff_eq, Path.compare_string_eq_lt, Before]

theorem order_eq_eq_iff {d e : Diagnostic} : d.order e = .eq ↔ d.Tied e := by
  simp only [order_eq_then, Ordering.then_eq_eq, Path.order_eq_eq_iff,
    Std.LawfulEqOrd.compare_eq_iff_eq, Tied, keys, Prod.mk.injEq]

theorem isLE_order_iff {d e : Diagnostic} : (d.order e).isLE = true ↔ ¬ e.Before d := by
  rw [← order_eq_lt_iff, @Std.OrientedCmp.eq_swap _ order _ e d]
  cases d.order e <;> decide

theorem tied_iff {d e : Diagnostic} : d.Tied e ↔ ¬ d.Before e ∧ ¬ e.Before d := by
  rw [← order_eq_eq_iff, ← order_eq_lt_iff, ← order_eq_lt_iff, @Std.OrientedCmp.eq_swap _ order _ e d]
  cases d.order e <;> decide

/-- The second list holds what the first one does, as often, in the order that the keys decide, and all
that is tied in the order of the first list. -/
structure StablySorted (found sorted : List Diagnostic) : Prop where
  perm : sorted.Perm found
  ordered : sorted.Pairwise fun d e => ¬ e.Before d
  stable : ∀ d : Diagnostic, (sorted.filter fun e => d.Tied e) = found.filter fun e => d.Tied e

end Diagnostic

theorem tiedWith_order (d : Diagnostic) (l : List Diagnostic) :
    tiedWith Diagnostic.order d l = l.filter fun e => d.Tied e := by
  refine List.filter_congr fun e _ => ?_
  rw [← Bool.coe_iff_coe, beq_iff_eq, Diagnostic.order_eq_eq_iff, decide_eq_true_iff]

/-! ## Sorting a report -/

namespace Report

theorem stablySorted_sort (r : Report) : Diagnostic.StablySorted r.diagnostics r.sort.diagnostics where
  perm := r.sort_perm
  ordered := (pairwise_mergeSort_isLE r.diagnostics).imp Diagnostic.isLE_order_iff.1
  stable d := by
    rw [← tiedWith_order, ← tiedWith_order]
    exact tiedWith_mergeSort d r.diagnostics

/-- A sorted report stays as it is. -/
theorem sort_sort (r : Report) : r.sort.sort = r.sort :=
  sort_congr rfl fun d => tiedWith_mergeSort d r.diagnostics

/-- Parts of a report may be sorted before they are joined. -/
theorem sort_append (first second : Report) :
    sort ⟨first.sort.diagnostics ++ second.sort.diagnostics,
        first.sort.filesChecked + second.sort.filesChecked⟩ =
      sort ⟨first.diagnostics ++ second.diagnostics, first.filesChecked + second.filesChecked⟩ := by
  refine sort_congr rfl fun d => ?_
  simp only [tiedWith, List.filter_append]
  exact congr_arg₂ _ (tiedWith_mergeSort d first.diagnostics) (tiedWith_mergeSort d second.diagnostics)

end Report

/-! ## The report on several files -/

namespace Analyzer

/-- A report is what was found in the single files, one after the other, stably sorted by file, line,
column and code. Files are compared by their components; texts name the same ones exactly if they can be
respelled to one text. The comparison is a total preorder whose ties are the diagnostics that agree in all
four keys. To sort again changes nothing, and the report on more files is that on the first and that on the
others, joined and sorted. -/
theorem analyze_stablySorted (a : Analyzer) (units : List SourceUnit) :
    Diagnostic.StablySorted (units.flatMap a.check) (a.analyze units).diagnostics ∧
    (∀ p q, Path.components p = Path.components q ↔
      Join (ReflTransGen Path.Respelled) p.toList q.toList) ∧
    (∀ d e : Diagnostic, (¬ e.Before d ∨ ¬ d.Before e) ∧ (d.Tied e ↔ ¬ d.Before e ∧ ¬ e.Before d) ∧
      ∀ f : Diagnostic, ¬ e.Before d → ¬ f.Before e → ¬ f.Before d) ∧
    (∀ r : Report, Diagnostic.StablySorted r.diagnostics r.sort.diagnostics ∧ r.sort.sort = r.sort) ∧
    ∀ more, a.analyze (units ++ more) =
      Report.sort ⟨(a.analyze units).diagnostics ++ (a.analyze more).diagnostics,
        (a.analyze units).filesChecked + (a.analyze more).filesChecked⟩ := by
  refine ⟨Report.stablySorted_sort ⟨units.flatMap a.check, _⟩, fun p q => Path.components_eq_iff,
    fun d e => ⟨?_, ?_, ?_⟩, fun r => ⟨r.stablySorted_sort, r.sort_sort⟩, fun more => ?_⟩
  · rw [← Diagnostic.isLE_order_iff, ← Diagnostic.isLE_order_iff, ← Bool.or_eq_true]
    exact isLE_total d e
  · exact Diagnostic.tied_iff
  · intro f
    simp only [← Diagnostic.isLE_order_iff]
    exact Std.TransCmp.isLE_trans
  · rw [analyze, analyze, analyze, Report.sort_append, List.flatMap_append, List.length_append,
      UInt64.ofNat_add]

end Analyzer

end ArchLint
