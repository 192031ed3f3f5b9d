import ArchLint.Proofs.ListLaws
import ArchLint.Rule.Entity

/-! # Every fault of an entity has one rule

The five rules about entities run on their own and overlap: a static `fromJson` is a static member and
serialization too. Together they report each member with a fault once, by the first rule that applies,
and no other member.

* `ClassMember.hasFault` — the faults of a member, each on its own.
* `ClassMember.fault?_eq_find?` — the rule that a member belongs to is the first that applies.
* `Fault.exists_report` — what one rule reports of a class.
* `entity_members_reported_once` — what the five rules report of a file.
-/

namespace ArchLint

/-! ## Faults -/

namespace Fault

/-- The faults in the order in which they count. -/
def all : List Fault :=
  [.copyWith, .serialization, .static, .computedGetter, .behaviour]

def rule : Fault → Rule
  | .copyWith => Rule.entityNoCopyWith
  | .serialization => Rule.entityNoSerialization
  | .static => Rule.entityNoStatic
  | .computedGetter => Rule.entityNoGetters
  | .behaviour => Rule.entityNoMethods

end Fault

/-- The fault applies to a method-like member, whatever other faults do. -/
def MethodDecl.hasFault (m : MethodDecl) (fault : Fault) : Bool :=
  m.kind != .operator &&
    match fault with
    | .copyWith => m.name == "copyWith"
    | .serialization => serializationNames.contains m.name
    | .static => m.isStatic
    | .computedGetter => m.kind == .getter && !m.body.isTrivial
    | .behaviour => (m.kind == .method || m.kind == .setter) && m.name != "toString"

namespace ClassMember

/-- The fault applies to a member, whatever other faults do. -/
def hasFault : ClassMember → Fault → Bool
  | .field f, .static => f.isStatic
  | .constructor k, .serialization => k.name.any serializationNames.contains
  | .method m, fault => m.hasFault fault
  | _, _ => false

def fault? : ClassMember → Option Fault
  | .field f => f.fault?
  | .constructor k => k.fault?
  | .method m => m.fault?

def place : ClassMember → Span
  | .field f => f.span
  | .constructor k => k.span
  | .method m => m.nameSpan

/-- A member belongs to the first rule that applies to it. -/
theorem fault?_eq_find? (m : ClassMember) : m.fault? = Fault.all.find? m.hasFault := by
  cases m with
  | field f => cases h : f.isStatic <;> simp [fault?, FieldDecl.fault?, Fault.all, hasFault, h]
  | constructor k =>
    simp only [fault?, ConstructorDecl.fault?, Fault.all, List.find?_cons, hasFault]
    cases k.name with
    | none => rfl
    | some name =>
      simp only [Option.any_some]
      cases serializationNames.contains name <;> rfl
  | method m =>
    simp only [fault?, MethodDecl.fault?, MethodDecl.kindFault?, Fault.all, List.find?_cons, hasFault,
      MethodDecl.hasFault, bne]
    -- What remains is a function of the kind and of five tests.
    generalize (m.name == "copyWith") = copyWith
    generalize serializationNames.contains m.name = serialization
    generalize m.isStatic = static
    generalize m.body.isTrivial = trivial
    generalize (m.name == "toString") = toString
    cases m.kind <;> cases copyWith <;> cases serialization <;> cases static <;> cases trivial <;>
      cases toString <;> rfl

end ClassMember

/-! ## One rule on one class -/

namespace ClassDecl

theorem faultyFields_eq_nil (c : ClassDecl) {fault : Fault} (h : fault ≠ .static) :
    c.faultyFields fault = [] := by
  simp only [faultyFields, List.filter_eq_nil_iff, beq_iff_eq, FieldDecl.fault?]
  intro f _
  split <;> simp [h.symm]

theorem faultyConstructors_eq_nil (c : ClassDecl) {fault : Fault} (h : fault ≠ .serialization) :
    c.faultyConstructors fault = [] := by
  simp only [faultyConstructors, List.filter_eq_nil_iff, beq_iff_eq, ConstructorDecl.fault?]
  intro k _
  repeat' split
  all_goals simp [h.symm]

theorem faulty_perm (c : ClassDecl) (fault : Fault) :
    ((c.faultyFields fault).map (·.span) ++ (c.faultyConstructors fault).map (·.span) ++
        (c.faultyMethods fault).map (·.nameSpan)).Perm
      ((c.members.filter (·.fault? == some fault)).map (·.place)) := by
  simp only [faultyFields, faultyConstructors, faultyMethods, fields, constructors, methods]
  -- The sort of a member puts it into one of three lists; there it is moved up to the front.
  induction c.members with
  | nil => simp
  | cons m members ih =>
    cases m with
    | field f =>
      by_cases h : f.fault? = some fault
      · simpa [List.filter_cons, ClassMember.fault?, ClassMember.place, h] using ih
      · simpa [List.filter_cons, ClassMember.fault?, ClassMember.place, h] using ih
    | constructor k =>
      rw [List.append_assoc] at ih ⊢
      by_cases h : k.fault? = some fault
      · simpa [List.filter_cons, ClassMember.fault?, ClassMember.place, h] using
          List.perm_middle.trans (ih.cons k.span)
      · simpa [List.filter_cons, ClassMember.fault?, ClassMember.place, h] using ih
    | method m =>
      by_cases h : m.fault? = some fault
      · simpa [List.filter_cons, ClassMember.fault?, ClassMember.place, h] using
          List.perm_middle.trans (ih.cons m.nameSpan)
      · simpa [List.filter_cons, ClassMember.fault?, ClassMember.place, h] using ih

end ClassDecl

theorem ClassDecl.faultyMethods_perm (c : ClassDecl) (fault : Fault) (hs : fault ≠ .static)
    (hw : fault ≠ .serialization) : ((c.faultyMethods fault).map (·.nameSpan)).Perm
      ((c.members.filter (·.fault? == some fault)).map (·.place)) := by
  have h := c.faulty_perm fault
  rwa [c.faultyFields_eq_nil hs, c.faultyConstructors_eq_nil hw] at h

/-- Each rule reports, class by class over the entities, the members that belong to it. -/
theorem Fault.exists_report (fault : Fault) : ∃ report : ClassDecl → List Finding,
    (∀ ctx u, fault.rule.findings ctx u = some ((ctx.entities u).flatMap report)) ∧
      ∀ c, ((report c).map (·.span)).Perm
        ((c.members.filter (·.fault? == some fault)).map (·.place)) := by
  -- Two of the rules list a second sort of members before the methods, the others methods alone.
  cases fault with
  | copyWith =>
    refine ⟨_, fun _ _ => rfl, fun c => ?_⟩
    simpa [Function.comp_def] using c.faultyMethods_perm .copyWith (by decide) (by decide)
  | computedGetter =>
    refine ⟨_, fun _ _ => rfl, fun c => ?_⟩
    simpa [Function.comp_def] using
      c.faultyMethods_perm .computedGetter (by decide) (by decide)
  | behaviour =>
    refine ⟨_, fun _ _ => rfl, fun c => ?_⟩
    simpa [Function.comp_def] using c.faultyMethods_perm .behaviour (by decide) (by decide)
  | static =>
    refine ⟨_, fun _ _ => rfl, fun c => ?_⟩
    have h := c.faulty_perm .static
    rw [c.faultyConstructors_eq_nil (by decide)] at h
    simpa [Function.comp_def] using h
  | serialization =>
    refine ⟨_, fun _ _ => rfl, fun c => ?_⟩
    have h := c.faulty_perm .serialization
    rw [c.faultyFields_eq_nil (by decide)] at h
    simpa [Function.comp_def] using h

/-! ## Five rules on a file -/

theorem flatMap_all_filter_perm {γ : Type} (members : List ClassMember)
    (report : Fault → Span → γ) :
    (Fault.all.flatMap fun fault =>
        (members.filter (·.fault? == some fault)).map fun m => report fault m.place).Perm
      (members.filterMap fun m => m.fault?.map fun fault => report fault m.place) := by
  have split : ∀ fault, ((members.filter (·.fault? == some fault)).map fun m => report fault m.place) =
      members.flatMap fun m => if m.fault? == some fault then [report fault m.place] else [] := by
    intro fault
    induction members with
    | nil => rfl
    | cons m members ih =>
      rw [List.filter_cons, List.flatMap_cons, ← ih]
      split <;> rfl
  -- With each filter as a concatenation, the enumerations of faults and members can be exchanged.
  simp only [split, List.filterMap_eq_flatMap_toList]
  refine (flatMap_flatMap_perm _ _ _).trans (List.Perm.of_eq (congrArg members.flatMap ?_))
  funext m
  cases m.fault? with
  | none => rfl
  | some fault => cases fault <;> rfl

/-- The five rules never break down, and together they report of the entities of a file each member to
which one of them applies, once, at its place, and by the first that applies; and nothing else. -/
theorem entity_members_reported_once (config : Config) (path : String) (u : CompilationUnit) :
    ∃ reports : Fault → List Diagnostic,
      (∀ fault, fault.rule.check? config path u = some (reports fault)) ∧
      ((Fault.all.flatMap reports).map fun d => (d.rule, d.location)).Perm
        ((u.classes.filter fun c => (config.contextOf path).role c == .entity).flatMap fun c =>
          c.members.filterMap fun m => (Fault.all.find? m.hasFault).map fun fault =>
            (fault.rule.name, Location.ofSpan path m.place)) := by
  -- The rules go through the entities one after the other; exchanging the two enumerations leaves, for
  -- each entity, its members fault by fault.
  choose report findings spans using Fault.exists_report
  let entities := (config.contextOf path).entities u
  let located (fault : Fault) (s : Span) := (fault.rule.name, Location.ofSpan path s)
  refine ⟨fun fault => (entities.flatMap (report fault)).map
    (fault.rule.diagnose path fault.rule.severity), fun fault => ?_, ?_⟩
  · rw [Rule.check?, findings]
    rfl
  · have byFault : ((Fault.all.flatMap fun fault => (entities.flatMap (report fault)).map
          (fault.rule.diagnose path fault.rule.severity)).map fun d => (d.rule, d.location)) =
        Fault.all.flatMap fun fault => entities.flatMap fun c =>
          ((report fault c).map (·.span)).map (located fault) := by
      simp [List.map_flatMap, Rule.diagnose, located, Function.comp_def]
    rw [byFault]
    refine (flatMap_flatMap_perm _ _ _).trans (List.Perm.flatMap_left entities fun c _ => ?_)
    simp only [← ClassMember.fault?_eq_find?]
    refine List.Perm.trans ?_ (flatMap_all_filter_perm c.members located)
    apply List.Perm.flatMap_left
    intro fault _
    simpa [Function.comp_def] using (spans fault c).map (located fault)

end ArchLint
