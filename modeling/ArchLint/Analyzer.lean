import ArchLint.Report
import ArchLint.Rule.Basic

/-! # Analysis

* `Analyzer` — rules bound to a configuration.
* `Analyzer.only` — the choice of some of its rules (`Analyzer.mem_rules_only`).
* `Analyzer.check` — the diagnostics of one file (`Analyzer.mem_check`, `Analyzer.check_eq_map`), rule by
  rule (`Analyzer.mem_checkRule`).
* `Analyzer.analyze` — the report on several files (`Analyzer.mem_analyze`).
-/

namespace ArchLint

/-- Rules bound to a configuration. -/
structure Analyzer where
  rules : List Rule := []
  config : Config := {}
  /-- Files that code generators write are passed over. -/
  skipGenerated : Bool := true

/-- The rule goes by the name or code that was asked for. Case counts in names and not in codes, and
white space around the text does not count. -/
def Rule.answersTo (r : Rule) (id : String) : Bool :=
  let id := Text.trim id
  r.name == id || Text.asciiLower r.code.toList == Text.asciiLower id.toList

namespace Analyzer

/-- The analyzer with those of its rules that were asked for. -/
def only (a : Analyzer) (ids : List String) : Analyzer :=
  { a with rules := a.rules.filter fun r => ids.any r.answersTo }

/-- The rules that are left are those that were asked for. -/
theorem mem_rules_only {a : Analyzer} {ids : List String} {r : Rule} :
    r ∈ (a.only ids).rules ↔ r ∈ a.rules ∧ ∃ id ∈ ids, r.answersTo id = true := by
  simp [only]

/-- The severity at which a rule reports. -/
def effectiveSeverity (a : Analyzer) (r : Rule) : Severity :=
  (a.config.lint.severity.severity? r.name).getD r.severity

/-- The diagnostics of one rule for a file: none if the rule is switched off or breaks down. -/
def checkRule (a : Analyzer) (unit : SourceUnit) (r : Rule) : List Diagnostic :=
  let severity := a.effectiveSeverity r
  if severity == .ignore then []
  else
    match r.findings (a.config.contextOf unit.path) unit.unit with
    | some found => found.map (r.diagnose unit.path severity)
    | none => []

theorem mem_checkRule {a : Analyzer} {unit : SourceUnit} {r : Rule} {d : Diagnostic} :
    d ∈ a.checkRule unit r ↔ a.effectiveSeverity r ≠ .ignore ∧
      ∃ found, r.findings (a.config.contextOf unit.path) unit.unit = some found ∧
        ∃ x ∈ found, d = r.diagnose unit.path (a.effectiveSeverity r) x := by
  by_cases off : a.effectiveSeverity r = .ignore
  · simp [checkRule, off]
  · simp only [checkRule, beq_iff_eq, if_neg off]
    cases r.findings (a.config.contextOf unit.path) unit.unit with
    | none => simp
    | some found => simp [off, @eq_comm _ _ d]

/-- The file is passed over. -/
def skips (a : Analyzer) (unit : SourceUnit) : Bool :=
  !a.config.lint.enabled || (a.skipGenerated && isGeneratedPath (.of unit.path))

/-- The diagnostics of one file, rule by rule. -/
def check (a : Analyzer) (unit : SourceUnit) : List Diagnostic :=
  if a.skips unit then [] else a.rules.flatMap (a.checkRule unit)

theorem mem_check {a : Analyzer} {unit : SourceUnit} {d : Diagnostic} :
    d ∈ a.check unit ↔ a.skips unit = false ∧ ∃ r ∈ a.rules, d ∈ a.checkRule unit r := by
  cases skipped : a.skips unit <;> simp [check, skipped]

/-- Two files whose diagnostics correspond rule by rule have corresponding diagnostics. -/
theorem check_eq_map {a : Analyzer} {unit unit' : SourceUnit} {g : Diagnostic → Diagnostic}
    (skips : a.skips unit' = a.skips unit)
    (each : ∀ r ∈ a.rules, a.checkRule unit' r = (a.checkRule unit r).map g) :
    a.check unit' = (a.check unit).map g := by
  rw [check, check, skips]
  split
  next => rfl
  next => rw [List.map_flatMap, List.flatMap_def, List.flatMap_def, List.map_congr_left each]

/-- The sorted report on several files. -/
def analyze (a : Analyzer) (units : List SourceUnit) : Report :=
  Report.sort ⟨units.flatMap a.check, UInt64.ofNat units.length⟩

theorem mem_analyze {a : Analyzer} {units : List SourceUnit} {d : Diagnostic} :
    d ∈ (a.analyze units).diagnostics ↔ ∃ unit ∈ units, d ∈ a.check unit := by
  rw [analyze, (Report.sort_perm _).mem_iff, List.mem_flatMap]

end Analyzer

end ArchLint
