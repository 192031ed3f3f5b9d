import ArchLint.Path.Join

/-! # Files

A run only looks at files: it asks what a path leads to, and walks directories. What a walk comes upon is for
the walk to say. It passes over hidden entries, and over what files with patterns exclude.

* `Files` — what paths lead to and what walks come upon, whatever is behind them; `Files.isFile`,
  `Files.text?` ask about it.
* `FileTree` — a file with its content, or a directory with its entries.
* `FileTree.at?`, `FileTree.walk`, `FileTree.files` — a tree as the files that a run looks at.
-/

namespace ArchLint

/-- A file or a directory. -/
inductive FileTree where
  | file (content : ByteArray)
  | directory (entries : List (String × FileTree))

namespace FileTree

/-- The tree is a single file. -/
def isFile : FileTree → Bool
  | .file _ => true
  | .directory _ => false

/-- Follows the segments of a path, `above` being the directories passed through, innermost first. An
empty segment and a dot stay in a directory, two dots leave it, and a file leads nowhere. -/
def follow : FileTree → (above : List FileTree) → List String → Option FileTree
  | t, _, [] => some t
  | .file _, _, _ :: _ => none
  | .directory entries, above, segment :: rest =>
    if segment.isEmpty || segment == "." then follow (.directory entries) above rest
    else if segment == ".." then
      match above with
      | [] => none
      | outer :: above => follow outer above rest
    else
      match entries.lookup segment with
      | none => none
      | some t => follow t (.directory entries :: above) rest

/-- What a relative path leads to from the root of the tree. Nothing lies outside the tree. -/
def at? (t : FileTree) (path : String) : Option FileTree :=
  if Text.startsWith path "/" then none
  else t.follow [] ((Text.segments '/' path.toList).map String.ofList)

/-- The names that a file `.ignore` among the entries lists, one on every line. -/
def excludedNames (entries : List (String × FileTree)) : List String :=
  match entries.lookup ".ignore" with
  | some (.file content) =>
    (String.fromUTF8? content).elim [] fun text =>
      (Text.segments '\n' text.toList).map String.ofList
  | _ => []

mutual

/-- What a walk from `path`, which has the tree behind it, comes upon: paths, and what they lead to. Entries
are passed over if they are hidden or go by an excluded name, and a directory may exclude further names for
what is in it. The walk is a simple one: of the patterns that exclude entries it knows names only. -/
def walk (path : String) (excluded : List String) : FileTree → List (String × FileTree)
  | .file content => [(path, .file content)]
  | .directory entries =>
    (path, .directory entries) :: walkEntries path (excludedNames entries ++ excluded) entries

/-- What the walk comes upon among and under the entries of a directory. -/
def walkEntries (path : String) (excluded : List String) :
    List (String × FileTree) → List (String × FileTree)
  | [] => []
  | (name, t) :: rest =>
    (if Path.isHidden name || excluded.contains name then []
      else t.walk (Path.join path name) excluded) ++ walkEntries path excluded rest

end

end FileTree

/-- What a run may ask of files. -/
structure Files where
  /-- What a path leads to, if to anything. Links are followed. -/
  entry? : String → Option FileTree
  /-- What a walk from a directory comes upon, in any order: the path of an entry, or what is said of
  one that cannot be read. -/
  walk : String → List (Except String String)

/-- The files of a tree. -/
def FileTree.files (t : FileTree) : Files where
  entry? := t.at?
  walk path := (t.at? path).elim [] fun s => (s.walk path []).map fun e => .ok e.1

namespace Files

/-- The path leads to a file. -/
def isFile (files : Files) (path : String) : Bool :=
  (files.entry? path).any FileTree.isFile

/-- The text of a file, unless its content is no text. -/
def text? (files : Files) (path : String) : Option String :=
  match files.entry? path with
  | some (.file content) => String.fromUTF8? content
  | _ => none

end Files

end ArchLint
