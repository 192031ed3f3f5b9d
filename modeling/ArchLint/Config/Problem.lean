import ArchLint.Config.Basic
import ArchLint.Text.Decimal
import ArchLint.Text.Segment

/-! # Problems of a configuration

A configuration that can be read may still make no sense. Such problems are reported and do not stop
an analysis. An override for a rule that does not exist is no problem.

* `Config.Problem`, `Config.Problem.message` — what can be wrong, and how it is said.
* `Config.problems` — all problems of a configuration, in the order of its settings.
-/

namespace ArchLint.Config

/-- Something wrong with a configuration. -/
inductive Problem where
  /-- A setting that must not be blank. -/
  | blank (setting : String)
  /-- A blank entry of a list. -/
  | blankEntry (setting : String) (index : Nat)
  /-- A severity token that is none. -/
  | unknownSeverity (rule : String) (cause : UnknownSeverity)
  /-- A choice that is not among the possible ones. -/
  | unknownChoice (setting given expected : String)
deriving DecidableEq, Repr

/-- The text that reports a problem. -/
def Problem.message : Problem → String
  | .blank setting => setting ++ " must not be empty"
  | .blankEntry setting index => setting ++ "[" ++ Text.decimal index ++ "] must not be empty"
  | .unknownSeverity rule cause => "lint.severity." ++ rule ++ ": " ++ cause.message
  | .unknownChoice setting given expected =>
    setting ++ ": unknown choice '" ++ given ++ "' (expected one of: " ++ expected ++ ")"

/-- The problem of a setting that is blank. -/
def blankSetting (setting value : String) : List Problem :=
  if Text.allBlank value then [.blank setting] else []

/-- The problems of the blank entries of a list, counted from `index` on. -/
def blankEntries (setting : String) (index : Nat) : List String → List Problem
  | [] => []
  | value :: rest =>
    (if Text.allBlank value then [.blankEntry setting index] else []) ++
      blankEntries setting (index + 1) rest

/-- The problem of a severity token that is none. -/
def severityProblem : String × String → List Problem
  | (rule, token) =>
    match Severity.parse token with
    | .ok _ => []
    | .error cause => [.unknownSeverity rule cause]

/-- All problems of a configuration. -/
def problems (c : Config) : List Problem :=
  blankSetting "structure.features_path" c.layout.featuresPath ++
  blankSetting "structure.core_path" c.layout.corePath ++
  blankEntries "structure.entity_patterns" 0 c.layout.entityPatterns ++
  blankEntries "structure.model_patterns" 0 c.layout.modelPatterns ++
  blankSetting "naming.model_suffix" c.naming.modelSuffix ++
  blankSetting "naming.repository_suffix" c.naming.repositorySuffix ++
  blankSetting "naming.bloc_suffix" c.naming.blocSuffix ++
  blankSetting "naming.cubit_suffix" c.naming.cubitSuffix ++
  c.lint.severity.entries.flatMap severityProblem ++
  (if c.stateManagement?.isNone then
    [.unknownChoice "templates.state_management" c.templates.stateManagement
      (Text.joined ", " (StateManagement.all.map (·.token)))]
  else []) ++
  (if c.injection?.isNone then
    [.unknownChoice "templates.di_package" c.templates.diPackage
      (Text.joined ", " (Injection.all.map (·.token)))]
  else [])

end ArchLint.Config
