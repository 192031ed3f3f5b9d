import ArchLint.Rule.Basic

/-! # Rules about entities

An entity is data and its construction. Every member that does not belong on an entity belongs to
exactly one of five rules, the narrower ones first: `copyWith`, serialization, static members,
computed getters, and any other method.

* `Fault`, `FieldDecl.fault?`, `ConstructorDecl.fault?`, `MethodDecl.fault?` — the rule that a member
  belongs to.
* `Rule.entityNoMethods` and the like — the five rules.
-/

namespace ArchLint

/-- Why a member does not belong on an entity. -/
inductive Fault where
  | copyWith
  | serialization
  | static
  | computedGetter
  | behaviour
deriving DecidableEq, Repr

/-- The names of members that read or write a wire format. -/
def serializationNames : List String :=
  ["fromJson", "toJson", "fromMap", "toMap", "fromDocument", "toDocument"]

/-- The body is absent or an arrow to a bare name. -/
def FunctionBody.isTrivial (b : FunctionBody) : Bool :=
  match b.content with
  | .empty => true
  | .expression e => e.isBareIdentifier
  | .block _ => false

/-- A static field is a fault. -/
def FieldDecl.fault? (f : FieldDecl) : Option Fault :=
  if f.isStatic then some .static else none

/-- A constructor is a fault if it reads or writes a wire format. -/
def ConstructorDecl.fault? (c : ConstructorDecl) : Option Fault :=
  match c.name with
  | some name => if serializationNames.contains name then some .serialization else none
  | none => none

/-- The fault that comes of the kind of a member whose name and modifiers are none. -/
def MethodDecl.kindFault? (m : MethodDecl) : Option Fault :=
  match m.kind with
  | .getter => if m.body.isTrivial then none else some .computedGetter
  | .method => if m.name == "toString" then none else some .behaviour
  | .setter => if m.name == "toString" then none else some .behaviour
  | .operator => none

/-- The fault of a method-like member. Operators are no fault. -/
def MethodDecl.fault? (m : MethodDecl) : Option Fault :=
  if m.kind == .operator then none
  else if m.name == "copyWith" then some .copyWith
  else if serializationNames.contains m.name then some .serialization
  else if m.isStatic then some .static
  else m.kindFault?

/-- The entities of a file in source order. -/
def FileContext.entities (ctx : FileContext) (u : CompilationUnit) : List ClassDecl :=
  u.classes.filter fun c => ctx.role c == .entity

namespace ClassDecl

variable (c : ClassDecl) (fault : Fault)

/-- The fields with a fault. -/
def faultyFields : List FieldDecl :=
  c.fields.filter fun f => f.fault? == some fault

/-- The constructors with a fault. -/
def faultyConstructors : List ConstructorDecl :=
  c.constructors.filter fun k => k.fault? == some fault

/-- The method-like members with a fault. -/
def faultyMethods : List MethodDecl :=
  c.methods.filter fun m => m.fault? == some fault

end ClassDecl

/-- The beginning of a message about an entity. -/
def entityMustNot (c : ClassDecl) (what : String) : String :=
  "Entity `" ++ c.name ++ "` must not " ++ what

/-- What a method that is no other fault is called. -/
def MethodDecl.noun (m : MethodDecl) : String :=
  if m.kind == .setter then "setter" else "method"

namespace Rule

/-- A rule that reports class by class over the entities of a file. -/
def ofEntities (name code description : String) (severity : Severity) (correction : String)
    (report : ClassDecl → List Finding) : Rule where
  name := name
  code := code
  description := description
  severity := severity
  correction := some correction
  findings := fun ctx u => some ((ctx.entities u).flatMap report)

/-- Entities define no behaviour. -/
def entityNoMethods : Rule :=
  ofEntities "entity_no_methods" "CMA001" "Entities must not contain methods" .error
    "Move the logic to a use case or to the data model" fun c =>
      (c.faultyMethods .behaviour).map fun m =>
        ⟨m.nameSpan, entityMustNot c ("define " ++ m.noun ++ " `" ++ m.name ++ "`")⟩

/-- Entities define no `copyWith`. -/
def entityNoCopyWith : Rule :=
  ofEntities "entity_no_copywith" "CMA002" "Entities must not define copyWith" .error
    "Move copyWith to the data model that extends this entity" fun c =>
      (c.faultyMethods .copyWith).map fun m => ⟨m.nameSpan, entityMustNot c "define `copyWith`"⟩

/-- Entities declare no static members. -/
def entityNoStatic : Rule :=
  ofEntities "entity_no_static" "CMA003" "Entities must not declare static members" .error
    "Move static members to a separate class outside the entity" fun c =>
      ((c.faultyFields .static).map fun f =>
        ⟨f.span, entityMustNot c
          ("declare static field `" ++ Text.joined ", " (f.declarators.map (·.name)) ++ "`")⟩) ++
      ((c.faultyMethods .static).map fun m =>
        ⟨m.nameSpan, entityMustNot c ("declare static member `" ++ m.name ++ "`")⟩)

/-- Entities know no wire format. -/
def entityNoSerialization : Rule :=
  ofEntities "entity_no_serialization" "CMA004" "Entities must not contain serialization logic" .error
    "Move serialization to the data model that extends this entity" fun c =>
      ((c.faultyConstructors .serialization).map fun k =>
        ⟨k.span, entityMustNot c
          ("define serialization constructor `" ++ c.name ++ "." ++ k.name.getD "" ++ "`")⟩) ++
      ((c.faultyMethods .serialization).map fun m =>
        ⟨m.nameSpan, entityMustNot c ("define serialization method `" ++ m.name ++ "`")⟩)

/-- Entities compute nothing in getters. -/
def entityNoGetters : Rule :=
  ofEntities "entity_no_getters" "CMA005" "Entities must not contain computed getters" .warning
    "Store the value in a final field or compute it in a use case" fun c =>
      (c.faultyMethods .computedGetter).map fun m =>
        ⟨m.nameSpan, entityMustNot c ("define computed getter `" ++ m.name ++ "`")⟩

end Rule

end ArchLint
