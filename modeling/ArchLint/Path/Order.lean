import ArchLint.Text.Segment

/-! # Order of paths

Paths compare component by component, not character by character: repeated slashes, a trailing slash
and inner dots do not count, and a path that another one continues comes first.

* `Path.Component`, `Path.components` — what a path consists of.
* `Path.order` — the comparison.
* `Path.fileName?` — the name at the end of a path.
-/

namespace ArchLint.Path

/-- A component of a path. -/
inductive Component where
  /-- The slash that an absolute path begins with. -/
  | root
  /-- The dot that a relative path may begin with. -/
  | here
  /-- Two dots. -/
  | parent
  | name (text : String)
deriving DecidableEq, Repr

/-- The kinds of component in ascending order. -/
def Component.rank : Component → Nat
  | .root => 0
  | .here => 1
  | .parent => 2
  | .name _ => 3

/-- The text by which two names compare. -/
def Component.label : Component → String
  | .name text => text
  | _ => ""

/-- By kind, then by name. -/
instance : Ord Component where
  compare := compareLex (compareOn Component.rank) (compareOn Component.label)

/-- A segment between slashes as a component, if it counts as one. -/
def componentOf? (segment : List Char) : Option Component :=
  if segment.isEmpty || segment == ['.'] then none
  else if segment == ['.', '.'] then some .parent
  else some (.name (String.ofList segment))

/-- The component that a first segment stands for: an empty one with a slash after it is the root,
and a dot counts. -/
def leadOf : List (List Char) → List Component
  | [] :: _ :: _ => [.root]
  | ['.'] :: _ => [.here]
  | _ => []

/-- The components of a path. -/
def components (path : String) : List Component :=
  let parts := Text.segments '/' path.toList
  leadOf parts ++ parts.filterMap componentOf?

/-- The last component, if it is a name. -/
def fileName? (path : String) : Option String :=
  match (components path).getLast? with
  | some (.name text) => some text
  | _ => none

/-- Compares two paths by their components. -/
def order (p q : String) : Ordering :=
  compare (components p) (components q)

/-- The two texts name the same sequence of components. -/
def same (p q : String) : Bool :=
  components p == components q

end ArchLint.Path
