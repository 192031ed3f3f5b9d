import ArchLint.Diagnostic

/-! # Reports

* `Report` — the outcome of an analysis.
* `Report.sort` — the stable order of its diagnostics, none of which is lost (`Report.sort_perm`).
* `Report.count`, `Report.hasAt`, `Report.hasErrors`, `Report.byRule` — questions about it.
-/

namespace ArchLint

/-- The outcome of an analysis. -/
structure Report where
  diagnostics : List Diagnostic := []
  filesChecked : UInt64 := 0
deriving DecidableEq, Repr

namespace Report

/-- The report with one more diagnostic at its end. -/
def push (r : Report) (d : Diagnostic) : Report :=
  { r with diagnostics := r.diagnostics ++ [d] }

/-- The report with its diagnostics in order; those that compare equal keep their order. -/
def sort (r : Report) : Report :=
  { r with diagnostics := r.diagnostics.mergeSort fun a b => (a.order b).isLE }

/-- Sorting loses and adds nothing. -/
theorem sort_perm (r : Report) : r.sort.diagnostics.Perm r.diagnostics :=
  List.mergeSort_perm _ _

/-- The number of diagnostics of a severity. -/
def count (r : Report) (s : Severity) : Nat :=
  r.diagnostics.countP fun d => d.severity == s

/-- Some diagnostic weighs at least as much as `s`. -/
def hasAt (r : Report) (s : Severity) : Bool :=
  r.diagnostics.any fun d => d.severity.atLeast s

/-- Some diagnostic is an error. -/
def hasErrors (r : Report) : Bool :=
  r.hasAt .error

/-- The diagnostics of one rule. -/
def byRule (r : Report) (rule : String) : List Diagnostic :=
  r.diagnostics.filter fun d => d.rule == rule

end Report

end ArchLint
