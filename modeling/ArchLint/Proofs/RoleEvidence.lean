import Mathlib.Data.List.Basic
import Mathlib.Logic.Relation
import ArchLint.Role

/-! # What the role of a class is read from

The tests for roles mix names, suffixes, patterns and the shape of a class, but they look at little of
the class itself: at its name, at whether it is abstract or an interface, at the base name of what it
extends, at the flags of its instance fields and at whether it has a constant constructor. So members of
other sorts may come and go, and bodies, types and clauses may be rewritten, without any change of role.

* `ClassDecl.evidence`, `ClassMember.evidence` — what a class and each of its members show.
* `FileContext.judgement` — all that is said of a class.
* `FileContext.judgement_congr` — classes that show the same are judged alike.
* `ClassDecl.Revision` — one change to a class that leaves alone what it shows.
-/

namespace ArchLint

/-! ## Evidence -/

/-- What is looked at in a class to infer its role. -/
structure RoleEvidence where
  name : String
  isAbstractLike : Bool
  superName? : Option String
  instanceFieldFlags : List Bool
  hasConstConstructor : Bool
deriving DecidableEq

/-- What a member adds to the evidence. -/
inductive MemberEvidence where
  /-- An instance field, and whether it is final or constant. -/
  | instanceField (settled : Bool)
  | constConstructor
  /-- A method-like member, a static field or another constructor. -/
  | nothing
deriving DecidableEq

def ClassMember.evidence : ClassMember → MemberEvidence
  | .field f => if f.isStatic then .nothing else .instanceField (f.isFinal || f.isConst)
  | .constructor k => if k.isConst then .constConstructor else .nothing
  | .method _ => .nothing

def MemberEvidence.flag? : MemberEvidence → Option Bool
  | .instanceField settled => some settled
  | _ => none

namespace ClassDecl

def evidence (c : ClassDecl) : RoleEvidence where
  name := c.name
  isAbstractLike := c.isAbstractLike
  superName? := c.superName?
  instanceFieldFlags := c.instanceFieldFlags
  hasConstConstructor := c.constructors.any (·.isConst)

theorem instanceFieldFlags_eq (c : ClassDecl) :
    c.instanceFieldFlags = (c.members.map ClassMember.evidence).filterMap MemberEvidence.flag? := by
  rw [instanceFieldFlags, fields, List.filter_filterMap, List.map_filterMap, List.filterMap_map]
  refine List.filterMap_congr fun m _ => ?_
  cases m with
  | field f =>
    cases isStatic : f.isStatic <;>
      simp [ClassMember.evidence, MemberEvidence.flag?, isStatic]
  | constructor k => cases isConst : k.isConst <;> simp [ClassMember.evidence, MemberEvidence.flag?, isConst]
  | method => rfl

theorem hasConstConstructor_eq (c : ClassDecl) :
    c.constructors.any (·.isConst) =
      (c.members.map ClassMember.evidence).any (· == .constConstructor) := by
  rw [constructors, List.any_filterMap, List.any_map]
  refine congrArg c.members.any (funext fun m => ?_)
  cases m with
  | field f => cases isStatic : f.isStatic <;> simp [ClassMember.evidence, isStatic]
  | constructor k => cases isConst : k.isConst <;> simp [ClassMember.evidence, isConst]
  | method => rfl

end ClassDecl

/-! ## Judgement -/

/-- All that is said of a class: its one role, and the tests that stand on their own. -/
structure Judgement where
  role : Role
  isEntity : Bool
  isModel : Bool
  isRepositoryInterface : Bool
  isRepositoryImplementation : Bool
deriving DecidableEq

namespace FileContext

variable {c d : ClassDecl}

def judgement (ctx : FileContext) (c : ClassDecl) : Judgement where
  role := ctx.role c
  isEntity := ctx.isEntity c
  isModel := ctx.isModel c
  isRepositoryInterface := ctx.isRepositoryInterface c
  isRepositoryImplementation := ctx.isRepositoryImplementation c

/-- Classes that show the same are judged alike. -/
theorem judgement_congr (ctx : FileContext) (same : c.evidence = d.evidence) :
    ctx.judgement c = ctx.judgement d := by
  simp only [ClassDecl.evidence, RoleEvidence.mk.injEq] at same
  obtain ⟨name, abstractLike, superName, flags, constConstructor⟩ := same
  have shape : c.hasEntityShape = d.hasEntityShape := by
    simp only [ClassDecl.hasEntityShape, flags, constConstructor]
  have entity : ctx.isEntity c = ctx.isEntity d := by
    simp only [isEntity, name, shape]
  have model : ctx.isModel c = ctx.isModel d := by
    simp only [isModel, name, entity]
  have contract : ctx.isRepositoryInterface c = ctx.isRepositoryInterface d := by
    simp only [isRepositoryInterface, abstractLike]
  have repository : ctx.isRepositoryImplementation c = ctx.isRepositoryImplementation d := by
    simp only [isRepositoryImplementation, name, abstractLike]
  have base : ∀ b, c.extendsBase b = d.extendsBase b := fun b => by
    rw [ClassDecl.extendsBase, ClassDecl.extendsBase, superName]
  have stateUnit : ctx.stateUnit? c = ctx.stateUnit? d := by
    rw [stateUnit?, stateUnit?, base "Bloc", base "Cubit", name]
  have role : ctx.role c = ctx.role d := by
    rw [FileContext.role, FileContext.role, entity, model, contract, repository, stateUnit, name]
  simp only [judgement, role, entity, model, contract, repository]

/-- The role of a class depends on its name, on whether it is abstract or an interface, on the base name
of what it extends, on whether its instance fields are final, and on its having a constant constructor. -/
theorem role_congr {ctx : FileContext} (name : c.name = d.name)
    (abstractLike : c.isAbstractLike = d.isAbstractLike) (superName : c.superName? = d.superName?)
    (flags : c.instanceFieldFlags = d.instanceFieldFlags)
    (constConstructor : c.constructors.any (·.isConst) = d.constructors.any (·.isConst)) :
    ctx.role c = ctx.role d := by
  have same : c.evidence = d.evidence := by
    simp only [ClassDecl.evidence, name, abstractLike, superName, flags, constConstructor]
  exact congrArg Judgement.role (ctx.judgement_congr same)

end FileContext

/-! ## Revisions -/

namespace ClassDecl

/-- One change to a class that does not touch what its role is read from. A member that shows nothing is
put in or taken out, a member becomes another one that shows the same, or a part of the header is
rewritten, where a new type to extend must have the old base name. -/
inductive Revision (c : ClassDecl) : ClassDecl → Prop
  | insert (before after : List ClassMember) (m : ClassMember) :
      c.members = before ++ after → m.evidence = .nothing →
      Revision c { c with members := before ++ m :: after }
  | delete (before after : List ClassMember) (m : ClassMember) :
      c.members = before ++ m :: after → m.evidence = .nothing →
      Revision c { c with members := before ++ after }
  | change (before after : List ClassMember) (m m' : ClassMember) :
      c.members = before ++ m :: after → m'.evidence = m.evidence →
      Revision c { c with members := before ++ m' :: after }
  | superclass (type : Option TypeExpr) :
      type.map TypeExpr.baseName = c.superName? → Revision c { c with superclass := type }
  | interfaces (types : List TypeExpr) : Revision c { c with interfaces := types }
  | mixins (types : List TypeExpr) : Revision c { c with mixins := types }
  | typeParameters (names : List String) : Revision c { c with typeParameters := names }
  | spans (nameSpan span : Span) : Revision c { c with nameSpan := nameSpan, span := span }

variable {c d : ClassDecl}

/-- Of the members only what they show counts, in their order, and a member that shows nothing does not
count at all. -/
theorem evidence_withMembers {members : List ClassMember}
    (same : (members.map ClassMember.evidence).filter (· != .nothing) =
      (c.members.map ClassMember.evidence).filter (· != .nothing)) :
    ({ c with members := members } : ClassDecl).evidence = c.evidence := by
  have flags : ∀ shown : List MemberEvidence, shown.filterMap MemberEvidence.flag? =
      (shown.filter (· != .nothing)).filterMap MemberEvidence.flag? := fun shown => by
    rw [List.filterMap_filter]
    refine List.filterMap_congr fun e _ => ?_
    cases e <;> rfl
  have const : ∀ shown : List MemberEvidence, shown.any (· == .constConstructor) =
      (shown.filter (· != .nothing)).any (· == .constConstructor) := fun shown => by
    rw [List.any_filter]
    refine congrArg shown.any (funext fun e => ?_)
    cases e <;> rfl
  have revisedFlags : ({ c with members := members } : ClassDecl).instanceFieldFlags =
      c.instanceFieldFlags := by
    rw [instanceFieldFlags_eq, instanceFieldFlags_eq, flags, same, ← flags]
  have revisedConst : ({ c with members := members } : ClassDecl).constructors.any (·.isConst) =
      c.constructors.any (·.isConst) := by
    rw [hasConstConstructor_eq, hasConstConstructor_eq, const, same, ← const]
  rw [evidence, evidence, revisedFlags, revisedConst]
  rfl

theorem Revision.evidence_eq (h : c.Revision d) : d.evidence = c.evidence := by
  cases h with
  | insert before after m members shows =>
    apply evidence_withMembers
    simp [members, shows]
  | delete before after m members shows =>
    apply evidence_withMembers
    simp [members, shows]
  | change before after m m' members shows =>
    apply evidence_withMembers
    simp [members, shows]
  | superclass type base =>
    have shows : ({ c with superclass := type } : ClassDecl).evidence =
        { c.evidence with superName? := type.map TypeExpr.baseName } := rfl
    rw [shows, base]
    rfl
  | interfaces | mixins | typeParameters | spans => rfl

theorem evidence_eq_of_revisions (h : Relation.ReflTransGen Revision c d) :
    d.evidence = c.evidence := by
  induction h with
  | refl => rfl
  | tail _ step ih => exact step.evidence_eq.trans ih

end ClassDecl

/-- Two classes that show the same, in files whose paths have one normal form, are judged alike under
every configuration. So no number of revisions of a class changes anything that is said of it. -/
theorem FileContext.judgement_eq_of_evidence (config : Config) :
    (∀ c d p q, c.evidence = d.evidence → NormalPath.of p = NormalPath.of q →
      (config.contextOf p).judgement c = (config.contextOf q).judgement d) ∧
    ∀ c d p, Relation.ReflTransGen ClassDecl.Revision c d →
      (config.contextOf p).judgement d = (config.contextOf p).judgement c := by
  constructor
  · intro c d p q same path
    rw [Config.contextOf, Config.contextOf, path]
    exact judgement_congr _ same
  · intro c d p revised
    exact judgement_congr _ (ClassDecl.evidence_eq_of_revisions revised)

/-- A class of plain data. -/
def plainUser : ClassDecl where
  name := "User"
  members := [.field { isFinal := true }, .constructor { isConst := true }]

/-- The class with a static field and a serializing constructor, and its own field with a type. -/
def revisedUser : ClassDecl where
  name := "User"
  interfaces := [{ name := "Comparable" }]
  members :=
    [.field { isFinal := true, type := some { name := "int" } }, .field { isStatic := true },
      .constructor { isConst := true }, .constructor { name := some "fromJson", isFactory := true }]

theorem FileContext.judgement_eq_of_evidence_user :
    let config : Config := {}
    let p := "lib/domain/user.dart"
    let q := "/Lib\\Domain/user.dart"
    plainUser.evidence = revisedUser.evidence ∧ NormalPath.of p = NormalPath.of q ∧
      Relation.ReflTransGen ClassDecl.Revision plainUser revisedUser ∧
      (config.contextOf p).role plainUser = .entity ∧
      (config.contextOf p).judgement plainUser = (config.contextOf q).judgement revisedUser ∧
      (config.contextOf p).judgement revisedUser = (config.contextOf p).judgement plainUser := by
  intro config p q
  have same : plainUser.evidence = revisedUser.evidence := by decide
  have path : NormalPath.of p = NormalPath.of q := by decide +kernel
  have revised : Relation.ReflTransGen ClassDecl.Revision plainUser revisedUser :=
    .head (.interfaces [{ name := "Comparable" }]) <|
    .head (.change [] [_] (.field { isFinal := true })
      (.field { isFinal := true, type := some { name := "int" } }) rfl rfl) <|
    .head (.insert [_] [_] (.field { isStatic := true }) rfl rfl) <|
    .single (.insert [_, _, _] []
      (.constructor { name := some "fromJson", isFactory := true }) rfl rfl)
  obtain ⟨alike, unchanged⟩ := judgement_eq_of_evidence config
  exact ⟨same, path, revised, by decide +kernel, alike _ _ p q same path, unchanged _ _ p revised⟩

end ArchLint
