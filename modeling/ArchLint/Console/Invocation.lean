import ArchLint.Config.Source

/-! # The command line

* `Invocation` — what a command line asks to be done.
* `Switch`, `Scope` — the options, and where each may stand.
* `Settings`, `readArguments` — the options and words of a command line, read from left to right.
* `Request.ofArguments` — the whole command line.
-/

namespace ArchLint

/-- The layouts of a report. -/
inductive Format where
  | text
  | json
  | compact
  | pretty
deriving DecidableEq, Repr

/-- The formats by their words. -/
def Format.words : List (String × Format) :=
  [("text", .text), ("json", .json), ("compact", .compact), ("pretty", .pretty)]

/-- What is to be done. -/
inductive Command where
  /-- Checks the dump files that the paths lead to, by those rules that are chosen. -/
  | check (paths : List String) (format : Format) (rules : Option String)
  | listRules
  | validateConfig
deriving DecidableEq, Repr

/-- What is to be done, and with which configuration. -/
structure Invocation where
  verbose : Bool := false
  config : Option String := none
  project : String := "."
  command : Command
deriving DecidableEq, Repr

/-- What a command line asks for. -/
inductive Request where
  | invoke (invocation : Invocation)
  | version
  | help
deriving DecidableEq, Repr

/-! ## Options -/

/-- An option. -/
inductive Switch where
  | verbose
  | config
  | project
  | format
  | rules
  | help
  | version
deriving DecidableEq, Repr

/-- The long name of an option. -/
def Switch.long : Switch → String
  | .verbose => "verbose"
  | .config => "config"
  | .project => "project"
  | .format => "format"
  | .rules => "rules"
  | .help => "help"
  | .version => "version"

/-- The letter of an option. -/
def Switch.letter? : Switch → Option Char
  | .verbose => some 'v'
  | .config => some 'c'
  | .project => some 'p'
  | .format => some 'f'
  | .rules => none
  | .help => some 'h'
  | .version => some 'V'

/-- The option has a value. -/
def Switch.takesValue : Switch → Bool
  | .config => true
  | .project => true
  | .format => true
  | .rules => true
  | _ => false

/-- The part of a command line: before the command or after it. -/
inductive Scope where
  | top
  | check
  | listRules
  | validateConfig
deriving DecidableEq, Repr

/-- The commands by their words. -/
def Scope.words : List (String × Scope) :=
  [("check", .check), ("list-rules", .listRules), ("validate-config", .validateConfig)]

/-- The options that may stand in a part. -/
def Scope.switches : Scope → List Switch
  | .top => [.verbose, .config, .project, .help, .version]
  | .check => [.verbose, .config, .project, .help, .format, .rules]
  | _ => [.verbose, .config, .project, .help]

/-- The option of a long name. -/
def Scope.long? (s : Scope) (name : String) : Option Switch :=
  s.switches.find? (·.long == name)

/-- The option of a letter. -/
def Scope.letter? (s : Scope) (letter : Char) : Option Switch :=
  s.switches.find? (·.letter? == some letter)

/-! ## Mistakes -/

/-- What is wrong with a command line. -/
inductive UsageError where
  | unknownOption (argument : String)
  | repeatedOption (option : Switch)
  | missingValue (option : Switch)
  | unexpectedValue (option : Switch)
  | invalidValue (option : Switch) (value : String)
  | emptyPath
  | unexpectedArgument (argument : String)
  | unknownCommand (argument : String)
  | missingCommand
deriving DecidableEq, Repr

/-- The text that reports a mistake. -/
def UsageError.message : UsageError → String
  | .unknownOption argument => "unexpected option '" ++ argument ++ "'"
  | .repeatedOption option => "option '--" ++ option.long ++ "' cannot be used several times"
  | .missingValue option => "option '--" ++ option.long ++ "' needs a value"
  | .unexpectedValue option => "option '--" ++ option.long ++ "' takes no value"
  | .invalidValue option value => "invalid value '" ++ value ++ "' for '--" ++ option.long ++ "'"
  | .emptyPath => "a path must not be empty"
  | .unexpectedArgument argument => "unexpected argument '" ++ argument ++ "'"
  | .unknownCommand argument => "unknown command '" ++ argument ++ "'"
  | .missingCommand => "a command is needed"

/-- What ends the reading of a command line early. -/
inductive Stop where
  | mistake (error : UsageError)
  | version
  | help
deriving DecidableEq, Repr

/-! ## Reading -/

/-- The options and paths of one part of a command line. -/
structure Settings where
  verbose : Bool := false
  config : Option String := none
  project : Option String := none
  format : Option Format := none
  rules : Option String := none
  paths : List String := []
deriving DecidableEq, Repr

namespace Settings

/-- The settings with an option that has no value. -/
def raise (s : Settings) : Switch → Except Stop Settings
  | .verbose =>
    if s.verbose then .error (.mistake (.repeatedOption .verbose)) else .ok { s with verbose := true }
  | .version => .error .version
  | .help => .error .help
  | option => .error (.mistake (.missingValue option))

/-- A value for an option that has none so far and takes no empty value. -/
def firstPath (option : Switch) (old : Option String) (value : String) :
    Except Stop (Option String) :=
  if old.isSome then .error (.mistake (.repeatedOption option))
  else if value.isEmpty then .error (.mistake (.invalidValue option value))
  else .ok (some value)

/-- The settings with an option that has a value. -/
def set (s : Settings) (option : Switch) (value : String) : Except Stop Settings :=
  match option with
  | .config => (firstPath .config s.config value).map fun v => { s with config := v }
  | .project => (firstPath .project s.project value).map fun v => { s with project := v }
  | .format =>
    if s.format.isSome then .error (.mistake (.repeatedOption .format))
    else
      match Format.words.lookup value with
      | some f => .ok { s with format := some f }
      | none => .error (.mistake (.invalidValue .format value))
  | .rules =>
    if s.rules.isSome then .error (.mistake (.repeatedOption .rules))
    else .ok { s with rules := some value }
  | option => .error (.mistake (.unexpectedValue option))

/-- The settings with one more path. -/
def addPath (s : Settings) (path : String) : Except Stop Settings :=
  if path.isEmpty then .error (.mistake .emptyPath) else .ok { s with paths := s.paths ++ [path] }

/-- The settings with a word that is no option. Only a check takes such words. -/
def addWord (scope : Scope) (s : Settings) (word : String) : Except Stop Settings :=
  match scope with
  | .check => s.addPath word
  | _ => .error (.mistake (.unexpectedArgument word))

/-- Reads the letters after a hyphen: options without a value, and at last perhaps one with a value,
which the rest is, or the next argument if there is no rest. -/
def addLetters (scope : Scope) : Settings → List Char → Except Stop (Settings × Option Switch)
  | s, [] => .ok (s, none)
  | s, c :: cs =>
    match scope.letter? c with
    | none => .error (.mistake (.unknownOption (String.ofList ['-', c])))
    | some option =>
      if option.takesValue then
        match cs with
        | [] => .ok (s, some option)
        | '=' :: value => (s.set option (String.ofList value)).map (·, none)
        | value => (s.set option (String.ofList value)).map (·, none)
      else
        match s.raise option with
        | .error e => .error e
        | .ok s => addLetters scope s cs

end Settings

/-- An argument by its beginning. -/
inductive ArgumentShape where
  /-- All further arguments are words. -/
  | separator
  | long (name : String) (value : Option String)
  | letters (letters : List Char)
  | word
deriving DecidableEq, Repr

/-- The name and value of a long option. -/
def splitLong (cs : List Char) : ArgumentShape :=
  match cs.dropWhile (· != '=') with
  | [] => .long (String.ofList cs) none
  | _ :: value => .long (String.ofList (cs.takeWhile (· != '='))) (some (String.ofList value))

/-- The shape of an argument. A single hyphen is a word. -/
def shapeOf (argument : String) : ArgumentShape :=
  match argument.toList with
  | ['-', '-'] => .separator
  | '-' :: '-' :: cs => splitLong cs
  | '-' :: c :: cs => .letters (c :: cs)
  | _ => .word

/-- What was read: the settings, and the command with the arguments after it. -/
structure Reading where
  settings : Settings
  command : Option (Scope × List String) := none
deriving DecidableEq, Repr

/-- Reads the arguments of one part of a command line. -/
def readArguments (scope : Scope) : Settings → List String → Except Stop Reading
  | s, [] => .ok ⟨s, none⟩
  | s, argument :: rest =>
    match shapeOf argument with
    | .separator => (rest.foldlM (Settings.addWord scope) s).map (⟨·, none⟩)
    | .word =>
      if scope == .top then
        match Scope.words.lookup argument with
        | some command => .ok ⟨s, some (command, rest)⟩
        | none =>
          if argument == "help" then .error .help
          else .error (.mistake (.unknownCommand argument))
      else
        match s.addWord scope argument with
        | .error e => .error e
        | .ok s => readArguments scope s rest
    | .long name value =>
      match scope.long? name with
      | none => .error (.mistake (.unknownOption argument))
      | some option =>
        match option.takesValue, value with
        | false, some _ => .error (.mistake (.unexpectedValue option))
        | false, none =>
          match s.raise option with
          | .error e => .error e
          | .ok s => readArguments scope s rest
        | true, some value =>
          match s.set option value with
          | .error e => .error e
          | .ok s => readArguments scope s rest
        | true, none =>
          match rest with
          | [] => .error (.mistake (.missingValue option))
          | next :: rest =>
            if shapeOf next == .word then
              match s.set option next with
              | .error e => .error e
              | .ok s => readArguments scope s rest
            else .error (.mistake (.missingValue option))
    | .letters letters =>
      match s.addLetters scope letters with
      | .error e => .error e
      | .ok (s, none) => readArguments scope s rest
      | .ok (s, some option) =>
        match rest with
        | [] => .error (.mistake (.missingValue option))
        | next :: rest =>
          if shapeOf next == .word then
            match s.set option next with
            | .error e => .error e
            | .ok s => readArguments scope s rest
          else .error (.mistake (.missingValue option))

/-- The command with its options. -/
def Settings.command (s : Settings) : Scope → Command
  | .listRules => .listRules
  | .validateConfig => .validateConfig
  | _ => .check (if s.paths.isEmpty then ["."] else s.paths) (s.format.getD .text) s.rules

/-- The invocation from the settings before and after the command. An option that stands on both sides
counts where it stands after the command. -/
def Settings.invocation (before after : Settings) (command : Scope) : Invocation where
  verbose := before.verbose || after.verbose
  config := after.config.or before.config
  project := (after.project.or before.project).getD "."
  command := after.command command

/-- What a command line asks for, unless there is a mistake in it. -/
def readRequest (arguments : List String) : Except Stop Request :=
  match readArguments .top {} arguments with
  | .error e => .error e
  | .ok ⟨_, none⟩ => .error (.mistake .missingCommand)
  | .ok ⟨before, some (command, rest)⟩ =>
    (readArguments command {} rest).map fun after => .invoke (before.invocation after.settings command)

/-- What a command line asks for. -/
def Request.ofArguments (arguments : List String) : Except UsageError Request :=
  match readRequest arguments with
  | .ok r => .ok r
  | .error .version => .ok .version
  | .error .help => .ok .help
  | .error (.mistake e) => .error e

/-- The paths that a run may look at. -/
def Invocation.paths (i : Invocation) : List String :=
  (match i.config with
    | some path => [path]
    | none => Config.fileNames.map (Path.join i.project)) ++
  match i.command with
  | .check paths _ _ => paths
  | _ => []

end ArchLint
