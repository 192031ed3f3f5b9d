import ArchLint.Text.Blank
import ArchLint.Text.Lowercase

/-! # Severities

* `Severity` — how much a finding weighs.
* `Severity.parse` — the reading of a configured token, and `UnknownSeverity` for all others.
* `Severity.parse_token` — a severity is read back from its token.
-/

namespace ArchLint

/-- The weight of a finding, in ascending order. -/
inductive Severity where
  /-- The rule is switched off and its findings are dropped. -/
  | ignore
  /-- For information. -/
  | info
  /-- To be looked at. -/
  | warning
  /-- To be mended; a run with errors fails. -/
  | error
deriving DecidableEq, Repr

namespace Severity

/-- The position in ascending order. -/
def rank : Severity → Nat
  | .ignore => 0
  | .info => 1
  | .warning => 2
  | .error => 3

/-- `s` weighs at least as much as `bound`. -/
def atLeast (s bound : Severity) : Bool :=
  bound.rank ≤ s.rank

/-- The token of a severity. -/
def token : Severity → String
  | .ignore => "ignore"
  | .info => "info"
  | .warning => "warning"
  | .error => "error"

/-- The severities in the order in which messages list them. -/
def all : List Severity :=
  [.error, .warning, .info, .ignore]

end Severity

/-- A token that names no severity, as it was given. -/
structure UnknownSeverity where
  token : String
deriving DecidableEq, Repr

/-- The text that reports an unknown token. -/
def UnknownSeverity.message (e : UnknownSeverity) : String :=
  "unknown severity '" ++ e.token ++ "' (expected one of: error, warning, info, ignore)"

/-- Reads a token without regard to white space around it and to the case of ASCII letters. -/
def Severity.parse (token : String) : Except UnknownSeverity Severity :=
  let plain := String.ofList (Text.asciiLower (Text.stripBy Text.isBlank token.toList))
  match Severity.all.find? (·.token == plain) with
  | some s => .ok s
  | none => .error ⟨token⟩

/-- Every severity is read back from its token. -/
theorem Severity.parse_token (s : Severity) : parse s.token = .ok s := by
  cases s <;> cbv

end ArchLint
