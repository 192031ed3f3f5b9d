import ArchLint.Path.Order
import ArchLint.Severity
import ArchLint.Syntax.Basic
import ArchLint.Text.Decimal

/-! # Diagnostics

* `Location`, `Diagnostic` — a reported violation of a rule.
* `Diagnostic.display` — the report in one line.
* `Diagnostic.order` — by file, line, column and code.
* `Diagnostic.Rendering` — the parts of a report that is drawn beside the source.
-/

namespace ArchLint

/-- A place in a file. -/
structure Location where
  file : String
  line : UInt64
  column : UInt64
  offset : UInt64
  length : UInt64
deriving DecidableEq, Repr

/-- The place of a span in a file. -/
def Location.ofSpan (file : String) (s : Span) : Location :=
  ⟨file, s.line, s.column, s.offset, s.length⟩

/-- A violation of a rule. -/
structure Diagnostic where
  code : String
  rule : String
  severity : Severity
  location : Location
  message : String
  correction : Option String
deriving DecidableEq, Repr

namespace Diagnostic

/-- The place in front of a report: file, line and column. -/
def place (d : Diagnostic) : String :=
  d.location.file ++ ":" ++ Text.decimal d.location.line.toNat ++ ":" ++
    Text.decimal d.location.column.toNat

/-- The report in one line. -/
def display (d : Diagnostic) : String :=
  d.place ++ ": " ++ d.severity.token ++ " [" ++ d.rule ++ "] " ++ d.message

/-- By the components of the file, then line, column and code. -/
def order : Diagnostic → Diagnostic → Ordering :=
  compareLex (fun a b => Path.order a.location.file b.location.file)
    (compareLex (compareOn fun d => d.location.line)
      (compareLex (compareOn fun d => d.location.column) (compareOn fun d => d.code)))

/-- What is drawn beside the source: a headline, a labelled stretch of the text and perhaps advice. -/
structure Rendering where
  headline : String
  label : String
  offset : UInt64
  length : UInt64
  help : Option String
deriving DecidableEq, Repr

/-- The drawing of a diagnostic. -/
def rendering (d : Diagnostic) : Rendering :=
  ⟨"[" ++ d.rule ++ "] " ++ d.message, d.rule, d.location.offset, d.location.length, d.correction⟩

end Diagnostic

end ArchLint
