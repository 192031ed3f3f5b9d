import ArchLint.Rule.BlocNaming
import ArchLint.Rule.Entity
import ArchLint.Rule.GlobalCubit
import ArchLint.Rule.ImportBoundary
import ArchLint.Rule.Model
import ArchLint.Rule.Provider
import ArchLint.Rule.Registration
import ArchLint.Rule.Repository

/-! # The catalog of rules

* `Rule.catalog` — the built-in rules in the order of their codes; `Rule.forall_mem_catalog` goes through
  them group by group.
* `Rule.named?` — a built-in rule by its name.
-/

namespace ArchLint.Rule

/-- The built-in rules. -/
def catalog : List Rule :=
  [entityNoMethods, entityNoCopyWith, entityNoStatic, entityNoSerialization, entityNoGetters,
    modelExtendsEntity, modelNamingConvention, repositoryReturnsEntity,
    repositoryAbstractInterface, domainNoDataImports, domainNoPresentationImports,
    dataNoPresentationImports, lazySingletonForBloc, blocInMultiProvider, blocNamingConvention,
    cubitSimpleState]

/-- What holds of the rules of each group holds of all built-in rules. -/
theorem forall_mem_catalog {P : Rule → Prop}
    (entities : P entityNoMethods ∧ P entityNoCopyWith ∧ P entityNoStatic ∧
      P entityNoSerialization ∧ P entityNoGetters)
    (models : P modelExtendsEntity ∧ P modelNamingConvention)
    (repositories : P repositoryReturnsEntity ∧ P repositoryAbstractInterface)
    (boundaries : P domainNoDataImports ∧ P domainNoPresentationImports ∧
      P dataNoPresentationImports)
    (stateUnits : P lazySingletonForBloc ∧ P blocInMultiProvider ∧ P blocNamingConvention ∧
      P cubitSimpleState) :
    ∀ r ∈ catalog, P r := by
  simp [catalog, entities, models, repositories, boundaries, stateUnits]

/-- The built-in rule of a name. -/
def named? (name : String) : Option Rule :=
  catalog.find? (·.name == name)

end ArchLint.Rule
