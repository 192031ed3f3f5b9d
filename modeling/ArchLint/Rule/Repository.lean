import ArchLint.Rule.Basic
import ArchLint.Syntax.Render
import ArchLint.Text.Identifier

/-! # Rules about repository contracts

* `Rule.repositoryReturnsEntity` — a contract speaks of entities, not of models.
* `Rule.repositoryAbstractInterface` — a contract can be implemented and not extended.
-/

namespace ArchLint.Rule

/-- What is wrong with the return type of a method of a contract. -/
def modelReturned? (suffix : String) (c : ClassDecl) (m : MethodDecl) : Option Finding :=
  match m.returnType with
  | none => none
  | some type =>
    if Text.mentions type.render suffix then
      some ⟨m.nameSpan, "`" ++ c.name ++ "." ++ m.name ++ "` returns `" ++ type.render ++
        "`; repository interfaces must return entities"⟩
    else none

/-- A repository contract returns entities. The text of the return type decides. -/
def repositoryReturnsEntity : Rule where
  name := "repository_interface_returns_entity"
  code := "CMA008"
  description := "Repository interfaces must return entities, not models"
  severity := .error
  correction := some
    "Return the domain entity and convert the model inside the repository implementation"
  findings := fun ctx u =>
    some <| if ctx.isRepositoryInterfacePath then
      (u.classes.filter (·.isAbstractLike)).flatMap fun c =>
        c.methods.filterMap (modelReturned? ctx.naming.modelSuffix c)
    else []

/-- A repository contract is an abstract interface class, so that nobody inherits from it. -/
def repositoryAbstractInterface : Rule where
  name := "repository_uses_abstract_interface"
  code := "CMA009"
  description := "Repository interfaces should be declared as abstract interface classes"
  severity := .warning
  correction := some "Declare the repository as `abstract interface class`"
  findings := fun ctx u =>
    let suffix := ctx.naming.repositorySuffix
    some <| if suffix.isEmpty || !ctx.isRepositoryInterfacePath then []
    else
      (u.classes.filter fun c => c.modifiers.isAbstract && !c.modifiers.isInterface &&
          Text.endsWith c.name suffix).map fun c =>
        ⟨c.nameSpan, "Repository `" ++ c.name ++
          "` should be declared as `abstract interface class`"⟩

end ArchLint.Rule
