import ArchLint.Config.Problem
import ArchLint.Console.Invocation
import ArchLint.Console.Layout
import ArchLint.Dump.Files
import ArchLint.Rule.Catalog

/-! # Runs

What a command line leads to, given the files that its paths lead to.

* `Outcome` — exit code, output, log and the error that ended a run.
* `checkRun`, `listRun`, `validateRun` — the three commands.
* `Invocation.run` — any of them.
-/

namespace ArchLint

open Text (line lines)

/-- How much a line of the log matters. -/
inductive LogLevel where
  | debug
  | info
  | warning
deriving DecidableEq, Repr

/-- A line of the log. -/
structure LogLine where
  level : LogLevel
  message : String
deriving DecidableEq, Repr

/-- The outcome of a run. -/
structure Outcome where
  code : UInt32 := 0
  output : String := ""
  log : List LogLine := []
  /-- What ended the run before its time. -/
  error : Option String := none
deriving DecidableEq, Repr

/-- Lines of the log that warn. -/
def warnings (messages : List String) : List LogLine :=
  messages.map (⟨.warning, ·⟩)

/-- Lines of the log that inform. -/
def notes (messages : List String) : List LogLine :=
  messages.map (⟨.info, ·⟩)

/-- The run ends with an error. -/
def Outcome.failed (output : String) (log : List LogLine) (error : String) : Outcome :=
  ⟨1, output, log, some error⟩

/-! ## Checks -/

/-- The names in a list of rules that is separated by commas. Blank ones do not count. -/
def chosenRules (list : String) : List String :=
  ((Text.segments ',' list.toList).map fun cs => Text.trim (String.ofList cs)).filter (!·.isEmpty)

/-- The names that no rule answers to. -/
def Analyzer.unknown (a : Analyzer) (ids : List String) : List String :=
  ids.filter fun id => !a.rules.any (·.answersTo id)

/-- The report on files under analysis in a layout. Only the pretty one shows the files. -/
def Report.layout (draw : Drawing) (units : List SourceUnit) (r : Report) : Format → String
  | .text => r.plain
  | .json => r.document
  | .compact => r.compact
  | .pretty => r.pretty draw units

/-- The file under analysis in a dump file, if it is in order. -/
def DumpFile.unit? (f : DumpFile) : Option SourceUnit :=
  f.read.toOption

/-- The warning for a dump file that is not in order. -/
def DumpFile.warning? (f : DumpFile) : Option String :=
  match f.read with
  | .ok _ => none
  | .error e => some ("Skipping " ++ f.path ++ ": " ++ e.message)

/-- What the log says of a check that takes place. -/
def Analyzer.progress (a : Analyzer) (units : List SourceUnit) (r : Report) : List String :=
  let scope := Text.decimal units.length ++ " units with " ++ Text.decimal a.rules.length ++ " rules"
  ["Checking " ++ scope, "Analyzing " ++ scope,
    "Analysis complete: " ++ Text.decimal r.diagnostics.length ++ " diagnostics in " ++
      Text.decimal r.filesChecked.toNat ++ " files"]

/-- Checks dump files. A file that is not in order is passed over with a warning. -/
def checkDumps (draw : Drawing) (a : Analyzer) (format : Format) (log : List LogLine)
    (dumps : List DumpFile) : Outcome :=
  if dumps.isEmpty then .failed "" log "No .ast.json files found"
  else
    let units := dumps.filterMap DumpFile.unit?
    let report := a.analyze units
    { code := if report.hasErrors then 1 else 0
      output := report.layout draw units format
      log := log ++ warnings (dumps.filterMap DumpFile.warning?) ++
        notes (a.progress units report) }

/-- Checks the dump files that the paths lead to. -/
def checkRun (draw : Drawing) (files : Files) (source : ConfigSource) (paths : List String)
    (format : Format) (rules : Option String) : Outcome :=
  match source.load files with
  | .error e => .failed "" [] e
  | .ok (config, ignored) =>
    let all : Analyzer := { rules := Rule.catalog, config := config }
    let ids := rules.map chosenRules
    let log := ignored ++ (config.problems.map fun p => "Configuration: " ++ p.message) ++
      ((ids.map all.unknown).getD []).map ("Unknown rule: " ++ ·) ++
      paths.flatMap files.complaints
    checkDumps draw ((ids.map all.only).getD all) format (warnings log) (files.dumps paths)

/-! ## Other commands -/

/-- Lists the rules with the severities at which they report. -/
def listRun (files : Files) (source : ConfigSource) : Outcome :=
  match source.load files with
  | .error e => .failed "" [] e
  | .ok (config, ignored) =>
    { output := Analyzer.listing { rules := Rule.catalog, config := config }
      log := warnings ignored }

/-- Says what is wrong with the configuration, which a file must give if there is one. -/
def validateRun (files : Files) (source : ConfigSource) : Outcome :=
  let heading := line (match source.path? with
    | some path => "Validating " ++ path
    | none => "No configuration file found; checking defaults")
  match (source.path?.map (Config.ofFile files)).getD (.ok {}) with
  | .error e => .failed heading [] e.message
  | .ok config =>
    { code := if config.problems.isEmpty then 0 else 1
      output := heading ++ verdict (config.problems.map Config.Problem.message) }

/-- What the log says of where the configuration was found. -/
def ConfigSource.trace : ConfigSource → List LogLine
  | .project path => [⟨.debug, "Found project config: " ++ path⟩]
  | _ => []

/-- Does what a command line asks for. -/
def Invocation.run (draw : Drawing) (files : Files) (i : Invocation) : Outcome :=
  let source := ConfigSource.find files i.project i.config
  let outcome := match i.command with
    | .check paths format rules => checkRun draw files source paths format rules
    | .listRules => listRun files source
    | .validateConfig => validateRun files source
  { outcome with log := source.trace ++ outcome.log }

/-- The name and version of the program. -/
def versionText : String :=
  "cma-lint 0.1.0"

/-- How to use the program. -/
def helpText : String :=
  lines ["Clean Modular Architecture linter for Flutter projects", "",
    "Usage: cma-lint [OPTIONS] <COMMAND>", "",
    "Commands:",
    "  check [PATHS]... [--format text|json|compact|pretty] [--rules LIST]",
    "  list-rules",
    "  validate-config", "",
    "Options:",
    "  -v, --verbose",
    "  -c, --config <FILE>",
    "  -p, --project <DIR>"]

/-- A drawing without the source: the headline, where the labelled stretch of the file lies, and the
advice. -/
def Drawing.words : Drawing := fun r name _ =>
  lines ([r.headline, "  " ++ name ++ ": " ++ r.label ++ " at " ++ Text.decimal r.offset.toNat] ++
    (r.help.map ("  help: " ++ ·)).toList)

/-- What a command line leads to. -/
def Request.run (files : Files) (r : Request) (draw : Drawing := .words) : Outcome :=
  match r with
  | .invoke i => i.run draw files
  | .version => { output := line versionText }
  | .help => { output := helpText }

end ArchLint
