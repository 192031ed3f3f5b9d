import ArchLint.Analyzer
import ArchLint.Dump.Report
import ArchLint.Json.Printer
import ArchLint.Text.Lines

/-! # What a run prints

* `Report.plain`, `Report.pretty`, `Report.compact`, `Report.document` — the layouts of a report.
* `Analyzer.listing` — the table of rules.
* `verdict` — the problems of a configuration.
-/

namespace ArchLint

open Text (line lines padded)

/-! ## Colours -/

/-- The colours of a terminal. -/
inductive Colour where
  | red
  | green
  | yellow
  | blue
deriving DecidableEq, Repr

/-- What turns a colour on. -/
def Colour.start : Colour → String
  | .red => "\x1b[31m"
  | .green => "\x1b[32m"
  | .yellow => "\x1b[33m"
  | .blue => "\x1b[34m"

/-- A text in a colour. -/
def Colour.paint (c : Colour) (text : String) : String :=
  c.start ++ text ++ "\x1b[0m"

/-- The token of a severity in its colour. -/
def Severity.painted (s : Severity) : String :=
  match s with
  | .error => Colour.red.paint s.token
  | .warning => Colour.yellow.paint s.token
  | .info => Colour.blue.paint s.token
  | .ignore => s.token

/-! ## Reports -/

/-- A diagnostic on several lines, with an empty one at the end. -/
def Diagnostic.plain (d : Diagnostic) : String :=
  lines ([d.code ++ " " ++ d.rule ++ " at " ++ d.place,
    "  " ++ d.severity.painted ++ ": " ++ d.message] ++
    (d.correction.map fun text => "  = help: " ++ text).toList ++ [""])

/-- A diagnostic in one line, with the code of its rule. -/
def Diagnostic.compact (d : Diagnostic) : String :=
  d.place ++ ": " ++ d.severity.token ++ " [" ++ d.code ++ "] " ++ d.message

/-- The content of the file with this path, if one of the files under analysis has it. Of several the last
one counts. -/
def contentOf? (units : List SourceUnit) (path : String) : Option String :=
  (units.filterMap fun u => if Path.same u.path path then u.content else none).getLast?

/-- What draws a report beside the source: a text from the parts of the report and from the name and the
content of the file. -/
abbrev Drawing := Diagnostic.Rendering → (name content : String) → String

/-- A diagnostic drawn beside the source, behind the code of its rule. Where the content of the file is not
known or there is no stretch of it to show, the diagnostic stands on several lines. -/
def Diagnostic.pretty (draw : Drawing) (units : List SourceUnit) (d : Diagnostic) : String :=
  match contentOf? units d.location.file with
  | some content =>
    if 0 < d.location.length then
      line (d.code ++ " " ++ draw d.rendering d.location.file content)
    else d.plain
  | none => d.plain

namespace Report

/-- The colour of a summary: that of the worst finding, green if there are no errors and warnings. -/
def colour (r : Report) : Colour :=
  if 0 < r.count .error then .red
  else if 0 < r.count .warning then .yellow
  else .green

/-- The last line of a report: what was found in how many files. -/
def summary (r : Report) : String :=
  r.colour.paint
    ("Found " ++ Text.decimal (r.count .error) ++ " error(s), " ++
      Text.decimal (r.count .warning) ++ " warning(s), " ++ Text.decimal (r.count .info) ++
      " info(s) in " ++ Text.decimal r.filesChecked.toNat ++ " file(s)")

/-- The report for readers. -/
def plain (r : Report) : String :=
  String.join (r.diagnostics.map Diagnostic.plain) ++ line r.summary

/-- The report for readers, with the source of the files under analysis. -/
def pretty (draw : Drawing) (units : List SourceUnit) (r : Report) : String :=
  String.join (r.diagnostics.map (·.pretty draw units)) ++ line r.summary

/-- The report with a line for every diagnostic. -/
def compact (r : Report) : String :=
  lines (r.diagnostics.map Diagnostic.compact)

/-- The report as a document. -/
def document (r : Report) : String :=
  line r.toJson.pretty

end Report

/-! ## Rules and configurations -/

/-- A row of the table of rules. -/
def tableRow (code name severity description : String) : String :=
  padded 8 code ++ " " ++ padded 38 name ++ " " ++ padded 9 severity ++ " " ++ description

/-- The row of a rule, with the severity at which it reports. -/
def Analyzer.row (a : Analyzer) (r : Rule) : String :=
  tableRow r.code r.name (a.effectiveSeverity r).token r.description

/-- The table of rules, and how to choose among them. -/
def Analyzer.listing (a : Analyzer) : String :=
  lines (["Available rules:", "", tableRow "Code" "Name" "Severity" "Description",
    String.ofList (List.replicate 110 '-')] ++ a.rules.map a.row ++
    ["", "Override severities in clean_modular_architecture.yaml:",
      "  clean_modular_architecture:", "    lint:", "      severity:",
      "        entity_no_getters: error", "        bloc_naming_convention: ignore", "",
      "Use --rules to filter specific rules, e.g.:",
      "  cma-lint check --rules entity_no_copywith,domain_no_data_imports",
      "  cma-lint check --rules CMA001,CMA010"])

/-- What is said of a configuration with the given problems. -/
def verdict (problems : List String) : String :=
  if problems.isEmpty then line (Colour.green.paint "Configuration is valid")
  else
    lines ((problems.map fun text => "  " ++ Colour.red.paint "error" ++ ": " ++ text) ++
      ["Found " ++ Text.decimal problems.length ++ " configuration error(s)"])

end ArchLint
