import ArchLint.Path.Normal
import ArchLint.Path.Glob

/-! # Configured locations

A location of a project is configured as a directory fragment or as a wildcard pattern. Both are read
without regard to case, kind of slash and surrounding white space.

* `NormalPath.matchesPattern` — a path lies in a configured location.
-/

namespace ArchLint

/-- A configured location as it is compared: trimmed, with forward slashes, in lowercase. -/
def normalPattern (pattern : String) : List Char :=
  Text.lower (forwardSlashes (Text.stripBy Text.isBlank pattern.toList))

/-- The location is written with wildcards. -/
def isWildcard (pattern : List Char) : Bool :=
  pattern.any fun c => c == '*' || c == '?' || c == '['

/-- The path lies in the configured location. A wildcard pattern may begin at any directory of the
path; a fragment names whole directories. Both sides are in lowercase, so letters compare exactly. -/
def NormalPath.matchesPattern (p : NormalPath) (pattern : String) : Bool :=
  let g := normalPattern pattern
  if isWildcard g then
    let g := withoutLeadingSlashes g
    let text := withoutLeadingSlashes p.chars
    Glob.accepts g text || Glob.accepts ('*' :: '*' :: '/' :: g) text
  else p.containsChars g

end ArchLint
