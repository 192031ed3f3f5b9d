import ArchLint.Rule.Basic

/-! # Rules about models

* `Rule.modelExtendsEntity` — a model stands on an entity.
* `Rule.modelNamingConvention` — a class among the models carries the model suffix.
-/

namespace ArchLint.Rule

/-- The class extends nothing of its own. -/
def standsAlone (c : ClassDecl) : Bool :=
  match c.superName? with
  | none => true
  | some base => base == "Object"

/-- A model extends its entity; one that stands alone repeats the fields of the entity. -/
def modelExtendsEntity : Rule where
  name := "model_extends_entity"
  code := "CMA006"
  description := "Models must extend their corresponding entity"
  severity := .error
  correction := some "Make the model extend its entity, e.g. `class UserModel extends User`"
  findings := fun ctx u =>
    some <| (u.classes.filter fun c =>
        c.kind == .plain && ctx.role c == .model && standsAlone c).map fun c =>
      ⟨c.nameSpan, "Model `" ++ c.name ++ "` must extend an entity"⟩

/-- A class among the models ends with the model suffix. Private classes are helpers, not models. -/
def modelNamingConvention : Rule where
  name := "model_naming_convention"
  code := "CMA007"
  description := "Model classes must end with the configured model suffix"
  severity := .warning
  correction := some "Rename the class to end with the model suffix, e.g. `UserModel`"
  findings := fun ctx u =>
    let suffix := ctx.naming.modelSuffix
    some <| if suffix.isEmpty || !ctx.isModelLocation then []
    else
      (u.classes.filter fun c =>
          c.kind == .plain && !Text.startsWith c.name "_" && !Text.endsWith c.name suffix).map fun c =>
        ⟨c.nameSpan, "Model class `" ++ c.name ++ "` should end with `" ++ suffix ++ "` (e.g. `" ++
          c.name ++ suffix ++ "`)"⟩

end ArchLint.Rule
