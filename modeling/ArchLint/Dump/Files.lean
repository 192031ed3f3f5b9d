import ArchLint.Dump.Reader
import ArchLint.FileTree
import ArchLint.Path.Order

/-! # Dump files

A dump file holds the tree of one source file. It is named directly, under any name, or is come upon under
its suffix in a walk from a directory.

* `DumpError`, `DumpFile`, `DumpFile.read` — a dump file and the file under analysis in it.
* `Files.dumpsFrom`, `Files.complaints` — what one path leads to, and what is said of it.
* `Files.dumps` — the dump files that several paths lead to, in order and each once.
-/

namespace ArchLint

/-- Why a file gives no tree. -/
inductive DumpError where
  /-- There is no such file, or it holds no text. -/
  | unreadable (path : String)
  /-- The text is no dump. -/
  | malformed
deriving DecidableEq, Repr

/-- The text that reports an error. -/
def DumpError.message : DumpError → String
  | .unreadable path => "Failed to read " ++ path ++ ": not a text file"
  | .malformed => "Invalid syntax dump: not the tree of a file"

/-- The file under analysis in the text of a dump. -/
def SourceUnit.parse (text : String) : Except DumpError SourceUnit :=
  match SourceUnit.ofText? text with
  | some u => .ok u
  | none => .error .malformed

/-- The file under analysis in a dump file. -/
def SourceUnit.ofFile (files : Files) (path : String) : Except DumpError SourceUnit :=
  match files.text? path with
  | some text => parse text
  | none => .error (.unreadable path)

/-- A dump file: the path that led to it and its content. -/
structure DumpFile where
  path : String
  content : ByteArray

/-- The file under analysis in a dump file. -/
def DumpFile.read (f : DumpFile) : Except DumpError SourceUnit :=
  match String.fromUTF8? f.content with
  | some text => SourceUnit.parse text
  | none => .error (.unreadable f.path)

/-! ## Collecting -/

/-- The suffix of dump files. -/
def dumpSuffix : String :=
  ".ast.json"

/-- The name at the end of the path has the suffix of dump files. -/
def isDumpPath (path : String) : Bool :=
  (Path.fileName? path).any (Text.endsWith · dumpSuffix)

namespace Files

/-- The file that a path leads to. -/
def dumpAt? (files : Files) (path : String) : Option DumpFile :=
  match files.entry? path with
  | some (.file content) => some ⟨path, content⟩
  | _ => none

/-- The dump file that an entry of a walk is, if it is one. -/
def walked? (files : Files) : Except String String → Option DumpFile
  | .ok path => if isDumpPath path then files.dumpAt? path else none
  | .error _ => none

/-- The dump files that one path leads to: the file that it names, or those under a directory. -/
def dumpsFrom (files : Files) (path : String) : List DumpFile :=
  match files.entry? path with
  | some (.file content) => [⟨path, content⟩]
  | some (.directory _) => (files.walk path).filterMap files.walked?
  | none => []

/-- What is to be said of a path: that it leads nowhere, or what a walk from it could not read. -/
def complaints (files : Files) (path : String) : List String :=
  match files.entry? path with
  | some (.file _) => []
  | some (.directory _) =>
    (files.walk path).filterMap fun
      | .ok _ => none
      | .error text => some ("Skipping unreadable entry: " ++ text)
  | none => ["Path not found: " ++ path]

/-- The files without those whose path repeats the one before. -/
def withoutRepeats (last : DumpFile) : List DumpFile → List DumpFile
  | [] => []
  | f :: rest =>
    if Path.same last.path f.path then withoutRepeats last rest else f :: withoutRepeats f rest

/-- The dump files that several paths lead to, in the order of their paths. Of equal paths the first one
counts. -/
def dumps (files : Files) (paths : List String) : List DumpFile :=
  match (paths.flatMap files.dumpsFrom).mergeSort fun a b => (Path.order a.path b.path).isLE with
  | [] => []
  | f :: rest => f :: withoutRepeats f rest

end Files

end ArchLint
