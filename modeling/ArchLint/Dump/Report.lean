import ArchLint.Dump.Reader
import ArchLint.Dump.Writer
import ArchLint.Report

/-! # Reports as documents

* `Report.toJson`, `Report.ofJson?` — a report as a document and back.
* `Report.ofText?` — a report from the text of a document.
-/

namespace ArchLint

open Json (required defaulted optional text? word? keyword? listOf? word)

def Location.toJson (l : Location) : Json :=
  .obj [("file", .str l.file), ("line", word l.line), ("column", word l.column),
    ("offset", word l.offset), ("length", word l.length)]

/-- A diagnostic as a document. A missing correction is left out. -/
def Diagnostic.toJson (d : Diagnostic) : Json :=
  .obj ([("code", .str d.code), ("rule", .str d.rule), ("severity", .str d.severity.token),
    ("location", d.location.toJson), ("message", .str d.message)] ++
    match d.correction with
    | some text => [("correction", .str text)]
    | none => [])

def Report.toJson (r : Report) : Json :=
  .obj [("diagnostics", .arr (r.diagnostics.map Diagnostic.toJson)),
    ("files_checked", word r.filesChecked)]

def Location.ofJson? : Nat → Json → Option Location
  | 0, _ => none
  | _ + 1, j =>
    match j.fields? ["file", "line", "column", "offset", "length"] with
    | some [file, line, column, offset, length] => do
      return ⟨← required text? file, ← required word? line, ← required word? column,
        ← required word? offset, ← required word? length⟩
    | _ => none

def Severity.words : List (String × Severity) :=
  Severity.all.map fun s => (s.token, s)

def Diagnostic.ofJson? : Nat → Json → Option Diagnostic
  | 0, _ => none
  | n + 1, j =>
    match j.fields? ["code", "rule", "severity", "location", "message", "correction"] with
    | some [code, rule, severity, location, message, correction] => do
      return ⟨← required text? code, ← required text? rule,
        ← required (keyword? false Severity.words) severity,
        ← required (Location.ofJson? n) location, ← required text? message,
        ← optional text? correction⟩
    | _ => none

def Report.ofJson? : Nat → Json → Option Report
  | 0, _ => none
  | n + 1, j =>
    match j.fields? ["diagnostics", "files_checked"] with
    | some [diagnostics, filesChecked] => do
      return ⟨← required (listOf? Diagnostic.ofJson? n) diagnostics,
        ← required word? filesChecked⟩
    | _ => none

/-- A report from the text of a document. -/
def Report.ofText? (text : String) : Option Report :=
  readDocument Report.ofJson? text

end ArchLint
