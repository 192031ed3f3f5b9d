import ArchLint.Text.Lowercase
import ArchLint.Text.Segment

/-! # Normal form of a path

Everything a rule asks of a path is asked of its normal form: forward slashes, lowercase, and a slash
in front, so that a directory is found by its name between two slashes wherever it stands.

* `forwardSlashes`, `NormalPath.of` — the normal form of a path, which has a slash in front
  (`NormalPath.leadsWithSlash_of`).
* `NormalPath.fileName` — what follows the last slash.
* `NormalPath.contains` — a run of whole directories lies on the path.
-/

namespace ArchLint

/-- Backslashes become slashes. -/
def forwardSlashes (cs : List Char) : List Char :=
  cs.map fun c => if c == '\\' then '/' else c

/-- No backslash is left. -/
theorem not_mem_forwardSlashes (cs : List Char) : '\\' ∉ forwardSlashes cs := by
  simp only [forwardSlashes, List.mem_map, not_exists, not_and]
  intro c _
  by_cases h : c = '\\' <;> simp [h]

/-- Forward slashes stay as they are. -/
theorem forwardSlashes_eq_self {cs : List Char} (absent : '\\' ∉ cs) : forwardSlashes cs = cs := by
  refine (List.map_congr_left fun c mem => ?_).trans (List.map_id cs)
  have other : c ≠ '\\' := fun backslash => absent (backslash ▸ mem)
  simp [other]

/-- A path in normal form, character by character. -/
structure NormalPath where
  chars : List Char
deriving DecidableEq, Repr

/-- The text begins with a slash. -/
def leadsWithSlash (cs : List Char) : Bool :=
  cs.head? == some '/'

/-- The normal form of a path as it was reported. -/
def NormalPath.of (path : String) : NormalPath :=
  let cs := Text.lower (forwardSlashes path.toList)
  ⟨if leadsWithSlash cs then cs else '/' :: cs⟩

/-- A normal form begins with a slash. -/
theorem NormalPath.leadsWithSlash_of (path : String) : leadsWithSlash (of path).chars = true := by
  simp only [of]
  split
  · assumption
  · rfl

/-- The normal form as text. -/
def NormalPath.text (p : NormalPath) : String :=
  String.ofList p.chars

/-- The last segment of the path. -/
def NormalPath.fileName (p : NormalPath) : String :=
  Text.afterLast '/' p.text

/-- The text without its leading slashes. -/
def withoutLeadingSlashes (cs : List Char) : List Char :=
  cs.dropWhile (· == '/')

/-- `needle` occurs in the text, character after character. -/
def occursIn (needle : List Char) : List Char → Bool
  | [] => needle.isEmpty
  | c :: cs => needle.isPrefixOf (c :: cs) || occursIn needle cs

/-- To occur is to be a run of neighbouring characters. -/
theorem occursIn_iff {needle cs : List Char} : occursIn needle cs = true ↔ needle <:+: cs := by
  induction cs with
  | nil => simp [occursIn, List.isEmpty_iff]
  | cons c cs ih => simp [occursIn, ih, List.infix_cons_iff]

/-- The directories of `fragment` lie on the path as whole segments, one after the other and before
the file name. Slashes around the fragment do not count, and an empty one lies nowhere. -/
def NormalPath.containsChars (p : NormalPath) (fragment : List Char) : Bool :=
  let inner := Text.stripBy (· == '/') fragment
  !inner.isEmpty && occursIn ('/' :: inner ++ ['/']) p.chars

theorem NormalPath.containsChars_iff {p : NormalPath} {fragment : List Char} :
    p.containsChars fragment = true ↔ Text.stripBy (· == '/') fragment ≠ [] ∧
      '/' :: (Text.stripBy (· == '/') fragment ++ ['/']) <:+: p.chars := by
  simp [containsChars, occursIn_iff]

/-- `NormalPath.containsChars` of a fragment given as text. -/
def NormalPath.contains (p : NormalPath) (fragment : String) : Bool :=
  p.containsChars fragment.toList

end ArchLint
