import ArchLint.Config.Basic
import ArchLint.Path.Pattern

/-! # Where a file lies

What a rule may know of a file besides its tree: the normal form of its path and the conventions of
the project. Severities are not part of it, so no rule depends on them.

* `FileContext`, `Config.contextOf` — the path and the conventions.
* `FileContext.isDomainPath` and the like — the layers and directories of a project.
* `isGeneratedPath` — the file is the output of a code generator.
-/

namespace ArchLint

/-- The path of a file in normal form, and the conventions of its project. That is less than is known of the
file: the path as it was written is left out, since rules only ever ask about its normal form, and so are the
severities and the preferences of the configuration, which no rule asks for. -/
structure FileContext where
  path : NormalPath
  layout : Layout
  naming : Naming
deriving DecidableEq, Repr

/-- The context of a file of the project. -/
def Config.contextOf (c : Config) (path : String) : FileContext :=
  ⟨.of path, c.layout, c.naming⟩

namespace FileContext

/-- The path lies in a configured entity location. -/
def isEntityPath (ctx : FileContext) : Bool :=
  ctx.layout.entityPatterns.any ctx.path.matchesPattern

/-- The path lies in a configured model location. -/
def isModelPath (ctx : FileContext) : Bool :=
  ctx.layout.modelPatterns.any ctx.path.matchesPattern

/-- The path lies in a domain layer. -/
def isDomainPath (ctx : FileContext) : Bool :=
  ctx.path.contains "domain"

/-- The path lies in a data layer. -/
def isDataPath (ctx : FileContext) : Bool :=
  ctx.path.contains "data"

/-- The path lies in a presentation layer. -/
def isPresentationPath (ctx : FileContext) : Bool :=
  ctx.path.contains "presentation"

/-- The path lies under the configured core directory or any directory `core`. -/
def isCorePath (ctx : FileContext) : Bool :=
  ctx.path.containsChars (Text.lower ctx.layout.corePath.toList) || ctx.path.contains "core"

/-- The path lies under the core and in a directory of Cubits. -/
def isGlobalCubitPath (ctx : FileContext) : Bool :=
  ctx.isCorePath && (ctx.path.contains "cubits" || ctx.path.contains "cubit")

/-- The path lies among the repository contracts of a domain layer. -/
def isRepositoryInterfacePath (ctx : FileContext) : Bool :=
  ctx.path.contains "domain/repositories"

/-- The path lies in a configured model location or among the models of a data layer. -/
def isModelLocation (ctx : FileContext) : Bool :=
  ctx.isModelPath || ctx.path.contains "data/models" ||
    (ctx.path.contains "models" && ctx.path.contains "data")

end FileContext

/-- The endings of files that code generators write. -/
def generatedSuffixes : List String :=
  [".g.dart", ".freezed.dart", ".config.dart", ".gr.dart", ".mocks.dart"]

/-- The file is the output of a code generator. -/
def isGeneratedPath (path : NormalPath) : Bool :=
  generatedSuffixes.any (Text.endsWith path.fileName)

end ArchLint
