import ArchLint.Diagnostic
import ArchLint.Role

/-! # Rules

A rule looks at one file and says what it finds; everything else about a diagnostic is the same for
all its findings.

* `Finding` — what a rule says of one place.
* `Rule` — a rule with its name, code and defaults.
* `Rule.diagnose`, `Rule.check?` — findings as diagnostics.
-/

namespace ArchLint

/-- What a rule says of one place in a file. -/
structure Finding where
  span : Span
  message : String
deriving DecidableEq, Repr

/-- A rule about single files. It says where and what it finds, and no more: that its diagnostics carry its
own name, code and advice, lie in the file it was given and have the severity at which it reports is the same
for all rules, so a rule that would put something else into a diagnostic is not one of these. -/
structure Rule where
  /-- The name in configurations and reports. -/
  name : String
  /-- The short code. -/
  code : String
  description : String := ""
  /-- The severity unless the configuration gives another. -/
  severity : Severity := .error
  /-- Advice that goes with every finding. -/
  correction : Option String := none
  /-- The findings in a file, or nothing at all when the rule breaks down on it. -/
  findings : FileContext → CompilationUnit → Option (List Finding)

namespace Rule

/-- A finding as a diagnostic of the rule, at a given severity. -/
def diagnose (r : Rule) (file : String) (severity : Severity) (f : Finding) : Diagnostic :=
  ⟨r.code, r.name, severity, .ofSpan file f.span, f.message, r.correction⟩

/-- The diagnostics of the rule for a file, at its default severity. -/
def check? (r : Rule) (config : Config) (file : String) (unit : CompilationUnit) :
    Option (List Diagnostic) :=
  (r.findings (config.contextOf file) unit).map (·.map (r.diagnose file r.severity))

end Rule

end ArchLint
