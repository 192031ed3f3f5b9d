import ArchLint.Proofs.ExpressionPlaces
import ArchLint.Proofs.FindingPlaces
import ArchLint.Proofs.RenderedNames
import Mathlib.Logic.Relation

/-! # What global Cubits hold

The rule about Cubits of the whole application reads types off rendered text and looks for two signs of
leaked logic on a walk through a body. Both come down to what is held by a tree, at whatever depth: the
types inside of a type, and the statements and expressions inside of a body, default values apart.

* `TypeExpr.Holds`, `FunctionBody.Holds` — what lies at any depth of a type and of a body.
* `FieldDecl.DependsOnLogic`, `FunctionBody.Guards`, `FunctionBody.Waits` — the signs of leaked logic.
* `FileContext.IsCubit` — the classes that the rule looks at.
* `Rule.cubitSimpleState_reports` — the report of the rule.
-/

namespace ArchLint

open Relation (ReflTransGen)

/-! ## Types inside of a type -/

/-- The type, or an argument of it at any depth. -/
def TypeExpr.Holds : TypeExpr → TypeExpr → Prop :=
  ReflTransGen fun t argument => argument ∈ t.arguments

theorem TypeExpr.holds_iff {t held : TypeExpr} :
    t.Holds held ↔ held = t ∨ ∃ argument ∈ t.arguments, argument.Holds held :=
  ReflTransGen.cases_head_iff.trans (or_congr_left eq_comm)

mutual

/-- The names in a type are those of the types that it holds. -/
theorem TypeExpr.mem_names_iff {name : String} (t : TypeExpr) :
    name ∈ t.names ↔ ∃ held, t.Holds held ∧ held.name = name := by
  obtain ⟨own, arguments, nullable, span⟩ := t
  rw [TypeExpr.names, List.mem_cons, mem_typeNames_iff arguments]
  -- Only the first step down is opened; the rest of the way belongs to the argument that is entered.
  simp only [TypeExpr.holds_iff (t := ⟨own, arguments, nullable, span⟩)]
  constructor
  · rintro (rfl | ⟨argument, mem, held, below, rfl⟩)
    · exact ⟨_, .inl rfl, rfl⟩
    · exact ⟨held, .inr ⟨argument, mem, below⟩, rfl⟩
  · rintro ⟨held, rfl | ⟨argument, mem, below⟩, rfl⟩
    · exact .inl rfl
    · exact .inr ⟨argument, mem, held, below, rfl⟩

theorem mem_typeNames_iff {name : String} (ts : List TypeExpr) :
    name ∈ typeNames ts ↔ ∃ t ∈ ts, ∃ held, t.Holds held ∧ held.name = name := by
  cases ts with
  | nil => simp [typeNames]
  | cons t ts =>
    rw [typeNames, List.mem_append, t.mem_names_iff, mem_typeNames_iff ts, List.exists_mem_cons_iff]

end

/-- An identifier in the text is the name of a type of business logic, going by its ending. -/
def MentionsLogic (text : String) : Prop :=
  ∃ i ∈ Text.identifiers text, Text.isTypeName i = true ∧
    ∃ suffix ∈ logicSuffixes, Text.endsWith i suffix = true

theorem mentionsAny_logicSuffixes_iff (text : String) :
    Text.mentionsAny text logicSuffixes = true ↔ MentionsLogic text := by
  have set : ∀ suffix ∈ logicSuffixes, suffix.isEmpty = false := by decide
  simp only [Text.mentionsAny, Text.mentions, List.any_eq_true, Bool.and_eq_true, MentionsLogic]
  constructor
  · rintro ⟨suffix, known, -, i, mem, capital, ending⟩
    exact ⟨i, mem, capital, suffix, known, ending⟩
  · rintro ⟨i, mem, capital, suffix, known, ending⟩
    exact ⟨suffix, known, by rw [set suffix known]; rfl, i, mem, capital, ending⟩

/-- A type of business logic is named at some depth of the declared type. -/
def FieldDecl.DependsOnLogic (f : FieldDecl) : Prop :=
  ∃ type, f.type = some type ∧ ∃ held, type.Holds held ∧ MentionsLogic held.name

theorem TypeExpr.mentionsAny_render_iff (t : TypeExpr) :
    Text.mentionsAny t.render logicSuffixes = true ↔
      ∃ held, t.Holds held ∧ MentionsLogic held.name := by
  rw [Text.mentionsAny_iff_of_parts t.identifiers_render]
  simp only [mentionsAny_logicSuffixes_iff, TypeExpr.mem_names_iff]
  constructor
  · rintro ⟨_, ⟨held, below, rfl⟩, logic⟩
    exact ⟨held, below, logic⟩
  · rintro ⟨held, below, logic⟩
    exact ⟨held.name, ⟨held, below, rfl⟩, logic⟩

theorem isSome_dependencyFinding?_iff {c : ClassDecl} {f : FieldDecl} :
    (dependencyFinding? c f).isSome = true ↔ f.DependsOnLogic := by
  rw [dependencyFinding?, FieldDecl.DependsOnLogic]
  cases f.type with
  | none => simp
  | some type => simp [← TypeExpr.mentionsAny_render_iff, apply_ite Option.isSome]

/-! ## Statements and expressions inside of a body -/

/-- The node, or a part of it at any depth that belongs to a walk. -/
def SyntaxNode.Holds : SyntaxNode → SyntaxNode → Prop :=
  ReflTransGen fun n part => .walked part ∈ n.parts

/-- A statement or expression at any depth of the body, other than in a default value. -/
def FunctionBody.Holds (b : FunctionBody) (n : SyntaxNode) : Prop :=
  ∃ part, .walked part ∈ b.parts ∧ part.Holds n

theorem SyntaxNode.holds_of_walked? {n m : SyntaxNode} {place : List Nat} (h : n.walked? place = some m) :
    n.Holds m := by
  induction place generalizing n with
  | nil =>
    cases h
    exact .refl
  | cons i place ih =>
    rw [SyntaxNode.walked?] at h
    split at h
    next part found => exact .head (List.mem_of_getElem? found) (ih h)
    next => cases h

theorem SyntaxNode.Holds.exists_place {n m : SyntaxNode} (h : n.Holds m) :
    ∃ place, n.walked? place = some m := by
  induction h using ReflTransGen.head_induction_on with
  | refl => exact ⟨[], rfl⟩
  | head part _ ih =>
    obtain ⟨i, found⟩ := List.getElem?_of_mem part
    obtain ⟨place, there⟩ := ih
    exact ⟨i :: place, by simpa [SyntaxNode.walked?, found] using there⟩

theorem Enumerates.mem_iff {α : Type} {found : List Nat → Option α} {as : List α}
    (h : Enumerates found as) (a : α) : a ∈ as ↔ ∃ place, found place = some a := by
  obtain ⟨entries, -, mem, rfl⟩ := h
  simp [← mem]

/-- A walk through a body meets what the body holds and nothing else. -/
theorem FunctionBody.mem_nodes_iff (b : FunctionBody) (n : SyntaxNode) : n ∈ b.nodes ↔ b.Holds n := by
  rw [b.enumerates.mem_iff]
  constructor
  · rintro ⟨place, found⟩
    obtain ⟨i, rest, rfl, -⟩ := exists_cons_of_below? found
    rw [below?] at found
    split at found
    next part there => exact ⟨part, List.mem_of_getElem? there, SyntaxNode.holds_of_walked? found⟩
    next => cases found
  · rintro ⟨part, mem, holds⟩
    obtain ⟨i, there⟩ := List.getElem?_of_mem mem
    obtain ⟨place, found⟩ := holds.exists_place
    exact ⟨i :: place, by simpa [below?, there] using found⟩

namespace FunctionBody

/-- Some statement in the body is guarded by handlers. -/
def Guards (b : FunctionBody) : Prop :=
  ∃ body catches cleanup span, b.Holds (.statement (.attempt body catches cleanup span))

/-- Some expression in the body waits for a result, or has something follow on it. -/
def Waits (b : FunctionBody) : Prop :=
  (∃ operand span, b.Holds (.expr (.await operand span))) ∨
    ∃ target types arguments span,
      b.Holds (.expr (.methodInvocation (some target) "then" types arguments span))

theorem any_isAttempt_iff (b : FunctionBody) :
    (b.nodes.filterMap SyntaxNode.statement?).any (·.isAttempt) = true ↔ b.Guards := by
  simp only [List.any_eq_true, List.mem_filterMap, b.mem_nodes_iff]
  constructor
  · rintro ⟨s, ⟨n, holds, shown⟩, attempt⟩
    cases n with
    | statement s' =>
      cases shown
      cases s with
      | attempt => exact ⟨_, _, _, _, holds⟩
      | _ => cases attempt
    | _ => cases shown
  · rintro ⟨body, catches, cleanup, span, holds⟩
    exact ⟨_, ⟨_, holds, rfl⟩, rfl⟩

theorem any_waits_iff (b : FunctionBody) :
    (b.nodes.filterMap SyntaxNode.expr?).any (·.waits) = true ↔ b.Waits := by
  simp only [List.any_eq_true, List.mem_filterMap, b.mem_nodes_iff]
  constructor
  · rintro ⟨e, ⟨n, holds, shown⟩, waits⟩
    rw [SyntaxNode.eq_of_expr?_eq_some shown] at holds
    cases e with
    | await => exact .inl ⟨_, _, holds⟩
    | methodInvocation target =>
      cases target with
      | none => cases waits
      | some target =>
        rw [Expr.waits, beq_iff_eq] at waits
        subst waits
        exact .inr ⟨_, _, _, _, holds⟩
    | _ => cases waits
  · rintro (⟨operand, span, holds⟩ | ⟨target, types, arguments, span, holds⟩)
    · exact ⟨_, ⟨_, holds, rfl⟩, rfl⟩
    · exact ⟨_, ⟨_, holds, rfl⟩, rfl⟩

theorem runsAsyncLogic_iff (b : FunctionBody) : b.runsAsyncLogic = true ↔ b.Guards ∧ b.Waits := by
  rw [runsAsyncLogic, Bool.and_eq_true, any_isAttempt_iff, any_waits_iff]

end FunctionBody

theorem isSome_asyncFinding?_iff {c : ClassDecl} {m : MethodDecl} :
    (asyncFinding? c m).isSome = true ↔ m.body.Guards ∧ m.body.Waits := by
  rw [← m.body.runsAsyncLogic_iff, asyncFinding?]
  simp [apply_ite Option.isSome]

/-! ## The rule -/

/-- The class extends a Cubit, going by the ending of the name, or plays the part of one. -/
def FileContext.IsCubit (ctx : FileContext) (c : ClassDecl) : Prop :=
  (∃ base, c.superclass = some base ∧ Text.endsWith base.baseName "Cubit" = true) ∨
    ctx.role c = .cubit ∨ ctx.role c = .globalCubit

theorem FileContext.isCubitLike_iff (ctx : FileContext) (c : ClassDecl) :
    ctx.isCubitLike c = true ↔ ctx.IsCubit c := by
  have extended : c.extendsBase "Cubit" = true ↔
      ∃ base, c.superclass = some base ∧ Text.endsWith base.baseName "Cubit" = true := by
    cases superclass : c.superclass <;> simp [ClassDecl.extendsBase, ClassDecl.superName?, superclass]
  rw [isCubitLike, IsCubit, ← extended, Bool.or_eq_true, Bool.or_eq_true, beq_iff_eq, beq_iff_eq,
    or_assoc, or_comm (a := ctx.role c = .globalCubit)]

instance (f : FieldDecl) : Decidable f.DependsOnLogic :=
  decidable_of_iff _ (isSome_dependencyFinding?_iff (c := { name := "" }))

instance (b : FunctionBody) : Decidable b.Guards :=
  decidable_of_iff _ b.any_isAttempt_iff

instance (b : FunctionBody) : Decidable b.Waits :=
  decidable_of_iff _ b.any_waits_iff

instance (ctx : FileContext) (c : ClassDecl) : Decidable (ctx.IsCubit c) :=
  decidable_of_iff _ (ctx.isCubitLike_iff c)

theorem map_span_dependencies (c : ClassDecl) (fs : List FieldDecl) :
    ((fs.filter fun f => !f.isStatic).filterMap (dependencyFinding? c)).map (·.span) =
      (fs.filter fun f => f.isStatic = false ∧ f.DependsOnLogic).map (·.span) := by
  rw [map_span_filterMap fun f x => span_of_dependencyFinding?, List.filter_filter]
  refine congrArg (List.map _) (List.filter_congr fun f _ => ?_)
  rw [← Bool.coe_iff_coe, Bool.and_eq_true, isSome_dependencyFinding?_iff, Bool.not_eq_true',
    decide_eq_true_iff, and_comm]

theorem map_span_asyncs (c : ClassDecl) (ms : List MethodDecl) :
    (ms.filterMap (asyncFinding? c)).map (·.span) =
      (ms.filter fun m => m.body.Guards ∧ m.body.Waits).map (·.nameSpan) := by
  rw [map_span_filterMap fun m x => span_of_asyncFinding?]
  refine congrArg (List.map _) (List.filter_congr fun m _ => ?_)
  rw [← Bool.coe_iff_coe, isSome_asyncFinding?_iff, decide_eq_true_iff]

/-- The rule says nothing of a file outside of the directories for Cubits of the whole application. In
them there is one diagnostic for each instance field of a Cubit whose declared type holds a type of
business logic, and then one for each of its methods whose body holds both something guarded
and something that waits, class by class and each at its place; and there is no other. -/
theorem Rule.cubitSimpleState_reports (config : Config) (path : String) (u : CompilationUnit) :
    ∃ report, Rule.cubitSimpleState.check? config path u = some report ∧
      report.map (fun d => (d.code, d.rule, d.location)) =
        (if (config.contextOf path).isGlobalCubitPath then
          (u.classes.filter fun c => (config.contextOf path).IsCubit c).flatMap fun c =>
            (c.fields.filter fun f => f.isStatic = false ∧ f.DependsOnLogic).map (·.span) ++
              (c.methods.filter fun m => m.body.Guards ∧ m.body.Waits).map (·.nameSpan)
        else []).map fun s => ("CMA016", "cubit_simple_state", .ofSpan path s) := by
  refine ⟨_, rfl, ?_⟩
  rw [Rule.map_diagnose]
  refine congrArg (List.map _) ?_
  split
  next =>
    have looked : (fun c => decide ((config.contextOf path).IsCubit c)) =
        (config.contextOf path).isCubitLike := by
      funext c
      rw [← Bool.coe_iff_coe, FileContext.isCubitLike_iff, decide_eq_true_iff]
    rw [looked, List.map_flatMap]
    simp only [List.map_append, map_span_dependencies, map_span_asyncs]
  next => rfl

end ArchLint
