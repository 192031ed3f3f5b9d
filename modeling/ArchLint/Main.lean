import ArchLint.Console.Run

/-! # The program

Reads the files that a command line names, and prints the outcome.
-/

namespace ArchLint

/-- The place of a path in the file system. -/
def placeOf (path : String) : IO.FS.DirEntry :=
  ⟨path, ""⟩

/-- Content that is no text. It stands for that of a file which cannot be read. -/
def unreadable : ByteArray :=
  ⟨#[0xFF]⟩

/-- Reads a file, or a directory with everything under it that is not a link to a directory. Of the hidden
entries only those are read that exclude others. -/
partial def readTree (path : String) : IO (Option FileTree) := do
  let place := (placeOf path).root
  if ← place.isDir then
    let found ← try place.readDir catch _ => pure #[]
    let names := (found.toList.map (·.fileName)).filter fun name =>
      name == ".ignore" || !Path.isHidden name
    let entries ← names.filterMapM fun name => do
      let inner := (placeOf (Path.join path name)).root
      if (← inner.symlinkMetadata).type == .symlink && (← inner.isDir) then return none
      return (← readTree (Path.join path name)).map (name, ·)
    return some (.directory entries)
  else if ← place.pathExists then
    let content ← try IO.FS.readBinFile place catch _ => pure unreadable
    return some (.file content)
  else return none

/-- Reads the files behind the paths of an invocation. -/
def readFiles (paths : List String) : IO Files := do
  let trees ← paths.mapM fun path => return (path, ← readTree path)
  let walk (path : String) : List (String × FileTree) :=
    (trees.lookup path).join.elim [] fun t => t.walk path []
  let found := paths.flatMap walk
  return ⟨fun path => found.lookup path, fun path => (walk path).map fun e => .ok e.1⟩

/-- A line of the log as it is printed, if it is. -/
def LogLine.printed (verbose : Bool) (l : LogLine) : Option String :=
  match l.level with
  | .debug => if verbose then some ("DEBUG " ++ l.message) else none
  | .info => some ("INFO " ++ l.message)
  | .warning => some ("WARN " ++ l.message)

/-- Prints the outcome of a run. -/
def Outcome.print (verbose : Bool) (o : Outcome) : IO UInt32 := do
  for text in o.log.filterMap (LogLine.printed verbose) do
    IO.eprintln text
  IO.print o.output
  if let some text := o.error then
    IO.eprintln ("Error: " ++ text)
  return o.code

end ArchLint

open ArchLint in
/-- The program. -/
def main (arguments : List String) : IO UInt32 := do
  match Request.ofArguments arguments with
  | .error e =>
    IO.eprintln ("error: " ++ e.message)
    return 2
  | .ok (.invoke i) => (i.run .words (← readFiles i.paths)).print i.verbose
  | .ok request => (request.run (FileTree.directory []).files).print false
