import ArchLint.Severity

/-! # Project configuration

What a project may set, with the values that hold when it sets nothing.

* `Layout`, `Naming`, `Linting`, `Templates`, `Config` — the settings.
* `Overrides` — the severities given to single rules; `Overrides.token?_insert_self` and
  `Overrides.token?_insert_of_ne` say what an insertion changes.
* `StateManagement`, `Injection` — the choices of packages.
-/

namespace ArchLint

/-- Where the parts of a project lie. -/
structure Layout where
  featuresPath : String := "lib/features"
  corePath : String := "lib/core"
  entityPatterns : List String := ["domain/entities"]
  modelPatterns : List String := ["data/models"]
deriving DecidableEq, Repr

/-- How the names of classes end, by role. Entities have no ending by convention. -/
structure Naming where
  entitySuffix : String := ""
  modelSuffix : String := "Model"
  repositorySuffix : String := "Repository"
  blocSuffix : String := "Bloc"
  cubitSuffix : String := "Cubit"
deriving DecidableEq, Repr

/-! ## Severities of single rules -/

/-- Severity tokens by rule name, in ascending order of names. Tokens are kept as they were given, valid
or not. -/
structure Overrides where
  entries : List (String × String) := []
deriving DecidableEq, Repr

namespace Overrides

/-- Puts an entry in its place among sorted entries; an entry of the same name gives way. -/
def insertEntry (name token : String) : List (String × String) → List (String × String)
  | [] => [(name, token)]
  | (n, t) :: rest =>
    match compare name n with
    | .lt => (name, token) :: (n, t) :: rest
    | .eq => (name, token) :: rest
    | .gt => (n, t) :: insertEntry name token rest

/-- The overrides with one more entry, which replaces an earlier one of the same name. -/
def insert (o : Overrides) (name token : String) : Overrides :=
  ⟨insertEntry name token o.entries⟩

/-- The entries one after the other, so that the last one of a name counts. -/
def ofList (entries : List (String × String)) : Overrides :=
  entries.foldl (fun o (name, token) => o.insert name token) {}

/-- The token given for a rule. -/
def token? (o : Overrides) (name : String) : Option String :=
  o.entries.lookup name

/-- The name that was inserted has the token that was given. -/
theorem token?_insert_self (o : Overrides) (name token : String) :
    (o.insert name token).token? name = some token := by
  obtain ⟨entries⟩ := o
  simp only [insert, token?]
  induction entries with
  | nil => simp [insertEntry]
  | cons e rest ih =>
    obtain ⟨n, t⟩ := e
    simp only [insertEntry]
    split
    · simp
    · simp
    · next h =>
      have : name ≠ n := by rintro rfl; simp at h
      simp [List.lookup_cons, beq_eq_false_iff_ne.2 this, ih]

/-- All other names keep their tokens. -/
theorem token?_insert_of_ne (o : Overrides) {name other : String} (token : String)
    (h : other ≠ name) : (o.insert name token).token? other = o.token? other := by
  obtain ⟨entries⟩ := o
  simp only [insert, token?]
  induction entries with
  | nil => simp [insertEntry, List.lookup_cons, beq_eq_false_iff_ne.2 h]
  | cons e rest ih =>
    obtain ⟨n, t⟩ := e
    simp only [insertEntry]
    split
    · simp [List.lookup_cons, beq_eq_false_iff_ne.2 h]
    · next hn =>
      have : name = n := by simpa using hn
      subst this
      simp [List.lookup_cons, beq_eq_false_iff_ne.2 h]
    · simp only [List.lookup_cons, ih]

/-- The severity given for a rule, if its token is valid. -/
def severity? (o : Overrides) (name : String) : Option Severity :=
  (o.token? name).bind fun token => (Severity.parse token).toOption

end Overrides

/-- Whether to lint, and with which severities. -/
structure Linting where
  enabled : Bool := true
  severity : Overrides := {}
deriving DecidableEq, Repr

/-! ## Templates -/

/-- Packages for state management. -/
inductive StateManagement where
  | bloc
  | cubit
  | riverpod
  | provider
deriving DecidableEq, Repr

/-- The token of a state-management package. -/
def StateManagement.token : StateManagement → String
  | .bloc => "bloc"
  | .cubit => "cubit"
  | .riverpod => "riverpod"
  | .provider => "provider"

/-- All state-management packages. -/
def StateManagement.all : List StateManagement :=
  [.bloc, .cubit, .riverpod, .provider]

/-- Packages for dependency injection. -/
inductive Injection where
  | getIt
  | injectable
  | riverpod
deriving DecidableEq, Repr

/-- The token of a dependency-injection package. -/
def Injection.token : Injection → String
  | .getIt => "get_it"
  | .injectable => "injectable"
  | .riverpod => "riverpod"

/-- All dependency-injection packages. -/
def Injection.all : List Injection :=
  [.getIt, .injectable, .riverpod]

/-- Choices of packages as they were given, valid or not. -/
structure Templates where
  stateManagement : String := StateManagement.bloc.token
  diPackage : String := Injection.getIt.token
deriving DecidableEq, Repr

/-- The configuration of a project. -/
structure Config where
  layout : Layout := {}
  naming : Naming := {}
  lint : Linting := {}
  templates : Templates := {}
deriving DecidableEq, Repr

namespace Config

/-- The severity at which a rule without a default of its own reports. -/
def severity (c : Config) (rule : String) : Severity :=
  (c.lint.severity.severity? rule).getD .error

/-- The chosen state-management package, if there is such a one. White space around it does not
count, case does. -/
def stateManagement? (c : Config) : Option StateManagement :=
  StateManagement.all.find? (·.token == Text.trim c.templates.stateManagement)

/-- The chosen dependency-injection package, if there is such a one. -/
def injection? (c : Config) : Option Injection :=
  Injection.all.find? (·.token == Text.trim c.templates.diPackage)

end Config

end ArchLint
