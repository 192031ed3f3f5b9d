import ArchLint.Config.Reader
import ArchLint.FileTree
import ArchLint.Path.Join

/-! # Configuration files

A project has at most one configuration file, under one of two names. A run may name a file of its own
instead.

* `ConfigError` — why a file gives no configuration.
* `Config.ofFile`, `Config.ofProject` — the configuration in a file and in a directory.
* `ConfigSource`, `ConfigSource.find`, `ConfigSource.load` — where a run takes its configuration from.
-/

namespace ArchLint

/-- Why a file gives no configuration. -/
inductive ConfigError where
  /-- There is no such file, or it holds no text. -/
  | unreadable (path : String)
  /-- The text is no configuration. -/
  | malformed
deriving DecidableEq, Repr

/-- The text that reports an error. -/
def ConfigError.message : ConfigError → String
  | .unreadable path => "Failed to read config file " ++ path ++ ": not a text file"
  | .malformed => "Failed to parse config: not a document of settings"

namespace Config

/-- The names of configuration files, the preferred one first. -/
def fileNames : List String :=
  ["clean_modular_architecture.yaml", "analysis_options.yaml"]

/-- The name of the configuration file in a directory. -/
def fileName? (files : Files) (dir : String) : Option String :=
  fileNames.find? fun name => files.isFile (Path.join dir name)

/-- The configuration in a text. -/
def parse (text : String) : Except ConfigError Config :=
  match ofText? text with
  | some c => .ok c
  | none => .error .malformed

/-- The configuration in a file. -/
def ofFile (files : Files) (path : String) : Except ConfigError Config :=
  match files.text? path with
  | some text => parse text
  | none => .error (.unreadable path)

/-- The configuration of a project, which is the default one if the project has no file for it. -/
def ofProject (files : Files) (dir : String) : Except ConfigError Config :=
  match fileName? files dir with
  | some name => ofFile files (Path.join dir name)
  | none => .ok {}

/-- The configuration of a project, or the default one if that cannot be had. -/
def ofProjectOrDefault (files : Files) (dir : String) : Config :=
  match ofProject files dir with
  | .ok c => c
  | .error _ => {}

end Config

/-- Where a run takes its configuration from. -/
inductive ConfigSource where
  /-- A file that was asked for. -/
  | explicit (path : String)
  /-- The file of the project. -/
  | project (path : String)
  | defaults
deriving DecidableEq, Repr

namespace ConfigSource

/-- A file that was asked for counts before that of the project. -/
def find (files : Files) (dir : String) : Option String → ConfigSource
  | some path => .explicit path
  | none =>
    match Config.fileName? files dir with
    | some name => .project (Path.join dir name)
    | none => .defaults

/-- The file, if there is one. -/
def path? : ConfigSource → Option String
  | .explicit path => some path
  | .project path => some path
  | .defaults => none

/-- The configuration of a run with its warnings, or what stops the run. A file that was asked for must
be in order; a broken file of the project is passed over with a warning. -/
def load (files : Files) : ConfigSource → Except String (Config × List String)
  | .explicit path =>
    match Config.ofFile files path with
    | .ok c => .ok (c, [])
    | .error _ => .error ("Failed to load config: " ++ path)
  | .project path =>
    match Config.ofFile files path with
    | .ok c => .ok (c, [])
    | .error e => .ok ({}, ["Ignoring " ++ path ++ ": " ++ e.message])
  | .defaults => .ok ({}, [])

end ConfigSource

end ArchLint
