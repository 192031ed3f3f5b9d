import ArchLint.Text.Segment

/-! # Paths of entries

* `Path.join` — the path of an entry of a directory.
* `Path.isHidden` — the names of hidden entries.
-/

namespace ArchLint.Path

/-- The path of the entry `name` of the directory `dir`. -/
def join (dir name : String) : String :=
  if dir.isEmpty || Text.endsWith dir "/" then dir ++ name else dir ++ "/" ++ name

/-- The name begins with a dot. -/
def isHidden (name : String) : Bool :=
  Text.startsWith name "."

end ArchLint.Path
