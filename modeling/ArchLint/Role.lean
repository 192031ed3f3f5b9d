import ArchLint.FileContext
import ArchLint.Syntax.Basic

/-! # Roles of classes

The part that a class plays is read off its path first and its shape second. The shape counts in the
domain layer only: a missed entity costs a few findings, a wrong one floods its file with them.

* `Role` — the parts a class may play.
* `FileContext.isEntity`, `FileContext.isModel` and the like — the tests in order of priority.
* `FileContext.role` — the one role of a class.
-/

namespace ArchLint

/-- The part that a class plays in the architecture. -/
inductive Role where
  /-- Plain data of the domain. -/
  | entity
  /-- Data-layer class on top of an entity. -/
  | model
  /-- Abstract repository contract of the domain. -/
  | repositoryInterface
  /-- Concrete repository of the data layer. -/
  | repositoryImplementation
  /-- State unit driven by events. -/
  | bloc
  /-- State unit driven by method calls. -/
  | cubit
  /-- Event of a Bloc. -/
  | event
  /-- State of a Bloc or Cubit. -/
  | state
  /-- Cubit of the whole application, under the core directory. -/
  | globalCubit
  | unclassified
deriving DecidableEq, Repr

/-- The name of a role in messages. -/
def Role.label : Role → String
  | .entity => "entity"
  | .model => "model"
  | .repositoryInterface => "repository interface"
  | .repositoryImplementation => "repository implementation"
  | .bloc => "bloc"
  | .cubit => "cubit"
  | .event => "event"
  | .state => "state"
  | .globalCubit => "global cubit"
  | .unclassified => "unclassified"

/-- Whether each field that belongs to instances is final or constant. -/
def ClassDecl.instanceFieldFlags (c : ClassDecl) : List Bool :=
  (c.fields.filter fun f => !f.isStatic).map fun f => f.isFinal || f.isConst

/-- The class has instance fields, all of them final, and a constant constructor. -/
def ClassDecl.hasEntityShape (c : ClassDecl) : Bool :=
  !c.instanceFieldFlags.isEmpty && c.instanceFieldFlags.all id && c.constructors.any (·.isConst)

/-- The name ends in a suffix that is set. -/
def hasSetSuffix (name suffix : String) : Bool :=
  !suffix.isEmpty && Text.endsWith name suffix

namespace FileContext

variable (ctx : FileContext) (c : ClassDecl)

/-- The class is an entity: never with the model suffix; otherwise by the configured locations, by the
entity directories of a domain layer, or by its shape in a domain layer. -/
def isEntity : Bool :=
  !hasSetSuffix c.name ctx.naming.modelSuffix &&
    (ctx.isEntityPath || ctx.path.contains "domain/entities" ||
      (ctx.path.contains "entities" && ctx.path.contains "domain") ||
      (ctx.path.contains "domain" && !ctx.path.contains "models" && c.hasEntityShape))

/-- The class is a model: by its name or its location, unless it is an entity. -/
def isModel : Bool :=
  !ctx.isEntity c && (hasSetSuffix c.name ctx.naming.modelSuffix || ctx.isModelLocation)

/-- The class is a repository contract. -/
def isRepositoryInterface : Bool :=
  c.isAbstractLike && ctx.isRepositoryInterfacePath

/-- The class is a concrete repository: by its name alone, or by its name and its directory. -/
def isRepositoryImplementation : Bool :=
  let suffix := ctx.naming.repositorySuffix
  !c.isAbstractLike && !suffix.isEmpty &&
    (Text.endsWith c.name (suffix ++ "Impl") ||
      (Text.endsWith c.name suffix && ctx.path.contains "data/repositories"))

/-- The sort of state unit that the class is, by what it extends and then by its name. -/
def stateUnit? : Option Role :=
  if c.extendsBase "Bloc" then some .bloc
  else if c.extendsBase "Cubit" then some .cubit
  else if hasSetSuffix c.name ctx.naming.blocSuffix then some .bloc
  else if hasSetSuffix c.name ctx.naming.cubitSuffix then some .cubit
  else none

/-- The role of a class in the file. -/
def role : Role :=
  if ctx.isEntity c then .entity
  else if ctx.isModel c then .model
  else if ctx.isRepositoryInterface c then .repositoryInterface
  else if ctx.isRepositoryImplementation c then .repositoryImplementation
  else
    match ctx.stateUnit? c with
    | some .cubit => if ctx.isGlobalCubitPath then .globalCubit else .cubit
    | some role => role
    | none =>
      if Text.endsWith c.name "Event" then .event
      else if Text.endsWith c.name "State" then .state
      else .unclassified

end FileContext

end ArchLint
