import Mathlib.Data.List.Forall2
import Mathlib.Data.List.TakeWhile
import ArchLint.Proofs.Walks
import ArchLint.Syntax.Render

/-! # Two spellings of a constructor call

A host that has not resolved a tree may give `Foo()` as the creation of an instance or as an invocation
without a target. Here some calls of one tree, anywhere in it, are given the other way in a second tree.

* `Expr.Respelled`, `Statement.Respelled` and the like — the second tree is the first one with some
  creations of instances turned into invocations.
* `Expr.Respelled.render_eq`, `Expr.Respelled.invokedName?_eq` — both trees have the same texts and call
  the same names.
* `FunctionBody.Respelled.nodes`, `CompilationUnit.Respelled.exprs` — walks through both go in step.
* `FunctionBody.Respelled.returned?` — bodies return the same up to spelling.
-/

namespace ArchLint

/-! ## Respelled trees -/

mutual

/-- Some creations of instances in an expression are written as invocations. -/
inductive Expr.Respelled : Expr → Expr → Prop
  | identifier {name span} : Expr.Respelled (.identifier name span) (.identifier name span)
  | literal {value span} : Expr.Respelled (.literal value span) (.literal value span)
  | this {span} : Expr.Respelled (.this span) (.this span)
  | propertyAccess {target target' property span} : Expr.Respelled target target' →
      Expr.Respelled (.propertyAccess target property span) (.propertyAccess target' property span)
  | methodInvocation {target target' method types arguments arguments' span} :
      Option.Rel Expr.Respelled target target' →
      List.Forall₂ Argument.Respelled arguments arguments' →
      Expr.Respelled (.methodInvocation target method types arguments span)
        (.methodInvocation target' method types arguments' span)
  | instanceCreation {type constructorName isConst arguments arguments' span} :
      List.Forall₂ Argument.Respelled arguments arguments' →
      Expr.Respelled (.instanceCreation type constructorName isConst arguments span)
        (.instanceCreation type constructorName isConst arguments' span)
  /-- The creation itself is respelled: it is not constant, names no constructor, and its type is
  neither nullable nor behind an import prefix. -/
  | asInvocation {type arguments arguments' span} :
      type.nullable = false → '.' ∉ type.name.toList →
      List.Forall₂ Argument.Respelled arguments arguments' →
      Expr.Respelled (.instanceCreation type none false arguments span)
        (.methodInvocation none type.name type.arguments arguments' span)
  | closure {parameters parameters' body body' span} :
      List.Forall₂ Parameter.Respelled parameters parameters' → FunctionBody.Respelled body body' →
      Expr.Respelled (.closure parameters body span) (.closure parameters' body' span)
  | await {operand operand' span} : Expr.Respelled operand operand' →
      Expr.Respelled (.await operand span) (.await operand' span)
  | binary {left left' operator right right' span} : Expr.Respelled left left' →
      Expr.Respelled right right' →
      Expr.Respelled (.binary left operator right span) (.binary left' operator right' span)
  | assignment {target target' operator value value' span} : Expr.Respelled target target' →
      Expr.Respelled value value' →
      Expr.Respelled (.assignment target operator value span)
        (.assignment target' operator value' span)
  | conditional {condition condition' thenExpr thenExpr' elseExpr elseExpr' span} :
      Expr.Respelled condition condition' → Expr.Respelled thenExpr thenExpr' →
      Expr.Respelled elseExpr elseExpr' →
      Expr.Respelled (.conditional condition thenExpr elseExpr span)
        (.conditional condition' thenExpr' elseExpr' span)
  | cascade {target target' sections sections' span} : Expr.Respelled target target' →
      List.Forall₂ Expr.Respelled sections sections' →
      Expr.Respelled (.cascade target sections span) (.cascade target' sections' span)
  | list {elements elements' span} : List.Forall₂ Expr.Respelled elements elements' →
      Expr.Respelled (.list elements span) (.list elements' span)
  | other {text span} : Expr.Respelled (.other text span) (.other text span)

inductive Argument.Respelled : Argument → Argument → Prop
  | mk {name value value'} : Expr.Respelled value value' →
      Argument.Respelled ⟨name, value⟩ ⟨name, value'⟩

inductive Parameter.Respelled : Parameter → Parameter → Prop
  | mk {name type kind isRequired isFieldFormal defaultValue defaultValue'} :
      Option.Rel Expr.Respelled defaultValue defaultValue' →
      Parameter.Respelled ⟨name, type, kind, isRequired, isFieldFormal, defaultValue⟩
        ⟨name, type, kind, isRequired, isFieldFormal, defaultValue'⟩

inductive FunctionBody.Respelled : FunctionBody → FunctionBody → Prop
  | empty {modifier} : FunctionBody.Respelled ⟨modifier, .empty⟩ ⟨modifier, .empty⟩
  | expression {modifier expr expr'} : Expr.Respelled expr expr' →
      FunctionBody.Respelled ⟨modifier, .expression expr⟩ ⟨modifier, .expression expr'⟩
  | block {modifier statements statements'} :
      List.Forall₂ Statement.Respelled statements statements' →
      FunctionBody.Respelled ⟨modifier, .block statements⟩ ⟨modifier, .block statements'⟩

inductive Statement.Respelled : Statement → Statement → Prop
  | block {statements statements' span} :
      List.Forall₂ Statement.Respelled statements statements' →
      Statement.Respelled (.block statements span) (.block statements' span)
  | expression {expr expr'} : Expr.Respelled expr expr' →
      Statement.Respelled (.expression expr) (.expression expr')
  | returns {value value' span} : Option.Rel Expr.Respelled value value' →
      Statement.Respelled (.returns value span) (.returns value' span)
  | localVariable {name type initializer initializer' span} :
      Option.Rel Expr.Respelled initializer initializer' →
      Statement.Respelled (.localVariable name type initializer span)
        (.localVariable name type initializer' span)
  | branch {condition condition' thenBranch thenBranch' elseBranch elseBranch' span} :
      Expr.Respelled condition condition' → Statement.Respelled thenBranch thenBranch' →
      Option.Rel Statement.Respelled elseBranch elseBranch' →
      Statement.Respelled (.branch condition thenBranch elseBranch span)
        (.branch condition' thenBranch' elseBranch' span)
  | attempt {body body' catches catches' cleanup cleanup' span} :
      List.Forall₂ Statement.Respelled body body' →
      List.Forall₂ CatchClause.Respelled catches catches' →
      Option.Rel (List.Forall₂ Statement.Respelled) cleanup cleanup' →
      Statement.Respelled (.attempt body catches cleanup span) (.attempt body' catches' cleanup' span)
  | loop {condition condition' body body' span} : Option.Rel Expr.Respelled condition condition' →
      Statement.Respelled body body' →
      Statement.Respelled (.loop condition body span) (.loop condition' body' span)
  | other {span} : Statement.Respelled (.other span) (.other span)

inductive CatchClause.Respelled : CatchClause → CatchClause → Prop
  | mk {exceptionType body body'} : List.Forall₂ Statement.Respelled body body' →
      CatchClause.Respelled ⟨exceptionType, body⟩ ⟨exceptionType, body'⟩

end

inductive VariableDeclarator.Respelled (v : VariableDeclarator) : VariableDeclarator → Prop
  | mk {initializer} : Option.Rel Expr.Respelled v.initializer initializer →
      v.Respelled { v with initializer := initializer }

inductive FieldDecl.Respelled (f : FieldDecl) : FieldDecl → Prop
  | mk {declarators} : List.Forall₂ VariableDeclarator.Respelled f.declarators declarators →
      f.Respelled { f with declarators := declarators }

inductive ConstructorDecl.Respelled (k : ConstructorDecl) : ConstructorDecl → Prop
  | mk {parameters body} : List.Forall₂ Parameter.Respelled k.parameters parameters →
      k.body.Respelled body → k.Respelled { k with parameters := parameters, body := body }

inductive MethodDecl.Respelled (m : MethodDecl) : MethodDecl → Prop
  | mk {parameters body} : List.Forall₂ Parameter.Respelled m.parameters parameters →
      m.body.Respelled body → m.Respelled { m with parameters := parameters, body := body }

inductive FunctionDecl.Respelled (f : FunctionDecl) : FunctionDecl → Prop
  | mk {parameters body} : List.Forall₂ Parameter.Respelled f.parameters parameters →
      f.body.Respelled body → f.Respelled { f with parameters := parameters, body := body }

inductive ClassMember.Respelled : ClassMember → ClassMember → Prop
  | field {f f'} : f.Respelled f' → ClassMember.Respelled (.field f) (.field f')
  | constructor {k k'} : k.Respelled k' → ClassMember.Respelled (.constructor k) (.constructor k')
  | method {m m'} : m.Respelled m' → ClassMember.Respelled (.method m) (.method m')

inductive ClassDecl.Respelled (c : ClassDecl) : ClassDecl → Prop
  | mk {members} : List.Forall₂ ClassMember.Respelled c.members members →
      c.Respelled { c with members := members }

inductive Declaration.Respelled : Declaration → Declaration → Prop
  | classLike {c c'} : c.Respelled c' → Declaration.Respelled (.classLike c) (.classLike c')
  | function {f f'} : f.Respelled f' → Declaration.Respelled (.function f) (.function f')
  | variableList {f f'} : f.Respelled f' →
      Declaration.Respelled (.variableList f) (.variableList f')
  | other {span} : Declaration.Respelled (.other span) (.other span)

/-- Code of a file is respelled. -/
inductive CompilationUnit.Respelled (u : CompilationUnit) : CompilationUnit → Prop
  | mk {declarations} : List.Forall₂ Declaration.Respelled u.declarations declarations →
      u.Respelled { u with declarations := declarations }

/-! ## Texts and names -/

theorem TypeExpr.baseName_eq_name {t : TypeExpr} (h : '.' ∉ t.name.toList) : t.baseName = t.name := by
  rw [TypeExpr.baseName, Text.afterLast, List.takeWhile_eq_self_iff.2]
  · rw [List.reverse_reverse, String.ofList_toList]
  · intro c hc
    rw [bne_iff_ne]
    rintro rfl
    exact h (List.mem_reverse.1 hc)

theorem Expr.Respelled.span_eq {e e' : Expr} (h : e.Respelled e') : e.span = e'.span := by
  cases h <;> rfl

theorem Expr.Respelled.isBareIdentifier_eq {e e' : Expr} (h : e.Respelled e') :
    e.isBareIdentifier = e'.isBareIdentifier := by
  cases h <;> rfl

theorem Expr.Respelled.invokedName?_eq {e e' : Expr} (h : e.Respelled e') :
    e.invokedName? = e'.invokedName? := by
  cases h with
  | asInvocation _ noPrefix => exact congrArg some (TypeExpr.baseName_eq_name noPrefix)
  | _ => rfl

theorem renderParameters_respelled {ps ps' : List Parameter} (h : List.Forall₂ Parameter.Respelled ps ps') :
    renderParameters ps = renderParameters ps' := by
  have names : ps.map Parameter.name = ps'.map Parameter.name := by
    induction h with
    | nil => rfl
    | cons head _ ih =>
      cases head
      simp only [List.map_cons, ih]
  rw [renderParameters, renderParameters, names]

theorem TypeExpr.render_of_not_nullable (t : TypeExpr) (h : t.nullable = false) :
    t.render = t.name ++ renderTypeArguments t.arguments := by
  rw [TypeExpr.render_eq, h]
  simp

mutual

theorem Expr.Respelled.render_eq {e e' : Expr} (h : e.Respelled e') : e.render = e'.render := by
  cases h with
  | identifier | literal | this | other => rfl
  | propertyAccess target => rw [Expr.render, Expr.render, target.render_eq]
  | methodInvocation target arguments =>
    cases target with
    | none => rw [Expr.render, Expr.render, renderArguments_respelled arguments]
    | some target =>
      rw [Expr.render, Expr.render, target.render_eq, renderArguments_respelled arguments]
  | @instanceCreation _ constructorName _ _ _ _ arguments =>
    cases constructorName <;>
      rw [Expr.render, Expr.render, renderArguments_respelled arguments]
  | asInvocation nullable _ arguments =>
    -- The invocation renders the name and the arguments of the type apart, and has no question mark.
    rw [Expr.render, Expr.render, TypeExpr.render_of_not_nullable _ nullable,
      renderArguments_respelled arguments]
    simp
  | closure parameters body =>
    cases body with
    | empty => rw [Expr.render, Expr.render, renderParameters_respelled parameters]
    | expression body => rw [Expr.render, Expr.render, renderParameters_respelled parameters, body.render_eq]
    | block => rw [Expr.render, Expr.render, renderParameters_respelled parameters]
  | await operand => rw [Expr.render, Expr.render, operand.render_eq]
  | binary left right => rw [Expr.render, Expr.render, left.render_eq, right.render_eq]
  | assignment target value => rw [Expr.render, Expr.render, target.render_eq, value.render_eq]
  | conditional condition thenExpr elseExpr =>
    rw [Expr.render, Expr.render, condition.render_eq, thenExpr.render_eq, elseExpr.render_eq]
  | cascade target sections =>
    rw [Expr.render, Expr.render, target.render_eq, renderSections_respelled sections]
  | list elements => rw [Expr.render, Expr.render, renderExprs_respelled elements]
termination_by sizeOf e

theorem renderExprs_respelled {es es' : List Expr} (h : List.Forall₂ Expr.Respelled es es') :
    renderExprs es = renderExprs es' := by
  cases h with
  | nil => rfl
  | cons head tail =>
    rw [renderExprs, renderExprs, head.render_eq, renderExprs_respelled tail]
termination_by sizeOf es

theorem renderSections_respelled {es es' : List Expr} (h : List.Forall₂ Expr.Respelled es es') :
    renderSections es = renderSections es' := by
  cases h with
  | nil => rfl
  | cons head tail =>
    rw [renderSections, renderSections, head.render_eq, renderSections_respelled tail]
termination_by sizeOf es

theorem renderArguments_respelled {as as' : List Argument}
    (h : List.Forall₂ Argument.Respelled as as') : renderArguments as = renderArguments as' := by
  cases h with
  | nil => rfl
  | cons head tail =>
    obtain ⟨value⟩ := head
    rename_i name _ _
    cases name with
    | none => rw [renderArguments, renderArguments, value.render_eq, renderArguments_respelled tail]
    | some name =>
      rw [renderArguments, renderArguments, value.render_eq, renderArguments_respelled tail]
termination_by sizeOf as

end

/-! ## Walks -/

/-- Two nodes at the same place of both trees. -/
inductive SyntaxNode.Respelled : SyntaxNode → SyntaxNode → Prop
  | statement {s s'} : s.Respelled s' → SyntaxNode.Respelled (.statement s) (.statement s')
  | expr {e e'} : e.Respelled e' → SyntaxNode.Respelled (.expr e) (.expr e')

mutual

/-- Walks through respelled expressions go in step. -/
theorem Expr.Respelled.nodes {e e' : Expr} (h : e.Respelled e') :
    List.Forall₂ SyntaxNode.Respelled e.nodes e'.nodes := by
  have head : SyntaxNode.Respelled (.expr e) (.expr e') := .expr h
  cases h with
  | identifier | literal | this | other => exact .cons head .nil
  | propertyAccess target =>
    exact .cons head target.nodes
  | methodInvocation target arguments =>
    cases target with
    | none =>
      exact .cons head (argumentNodes_respelled arguments)
    | some target =>
      exact .cons head (List.rel_append target.nodes (argumentNodes_respelled arguments))
  | instanceCreation arguments =>
    exact .cons head (argumentNodes_respelled arguments)
  -- Neither spelling has a target, and the types that both carry are no nodes.
  | asInvocation _ _ arguments =>
    exact .cons head (argumentNodes_respelled arguments)
  | closure _ body =>
    exact .cons head body.nodes
  | await operand =>
    exact .cons head operand.nodes
  | binary left right =>
    exact .cons head (List.rel_append left.nodes right.nodes)
  | assignment target value =>
    exact .cons head (List.rel_append target.nodes value.nodes)
  | conditional condition thenExpr elseExpr =>
    exact .cons head
      (List.rel_append (List.rel_append condition.nodes thenExpr.nodes) elseExpr.nodes)
  | cascade target sections =>
    exact .cons head (List.rel_append target.nodes (exprNodes_respelled sections))
  | list elements =>
    exact .cons head (exprNodes_respelled elements)
termination_by sizeOf e

theorem exprNodes_respelled {es es' : List Expr} (h : List.Forall₂ Expr.Respelled es es') :
    List.Forall₂ SyntaxNode.Respelled (exprNodes es) (exprNodes es') := by
  cases h with
  | nil => exact .nil
  | cons head tail =>
    exact List.rel_append head.nodes (exprNodes_respelled tail)
termination_by sizeOf es

theorem argumentNodes_respelled {as as' : List Argument}
    (h : List.Forall₂ Argument.Respelled as as') :
    List.Forall₂ SyntaxNode.Respelled (argumentNodes as) (argumentNodes as') := by
  cases h with
  | nil => exact .nil
  | cons head tail =>
    obtain ⟨value⟩ := head
    exact List.rel_append value.nodes (argumentNodes_respelled tail)
termination_by sizeOf as

theorem FunctionBody.Respelled.nodes {b b' : FunctionBody} (h : b.Respelled b') :
    List.Forall₂ SyntaxNode.Respelled b.nodes b'.nodes := by
  cases h with
  | empty => exact .nil
  | expression expr =>
    exact expr.nodes
  | block statements =>
    exact statementNodes_respelled statements
termination_by sizeOf b

theorem Statement.Respelled.nodes {s s' : Statement} (h : s.Respelled s') :
    List.Forall₂ SyntaxNode.Respelled s.nodes s'.nodes := by
  have head : SyntaxNode.Respelled (.statement s) (.statement s') := .statement h
  cases h with
  | block statements =>
    exact .cons head (statementNodes_respelled statements)
  | expression expr =>
    exact .cons head expr.nodes
  | returns value =>
    cases value with
    | none => exact .cons head .nil
    | some value =>
      exact .cons head value.nodes
  | localVariable initializer =>
    cases initializer with
    | none => exact .cons head .nil
    | some initializer =>
      exact .cons head initializer.nodes
  | branch condition thenBranch elseBranch =>
    cases elseBranch with
    | none =>
      exact .cons head (List.rel_append condition.nodes thenBranch.nodes)
    | some elseBranch =>
      exact .cons head
        (List.rel_append (List.rel_append condition.nodes thenBranch.nodes) elseBranch.nodes)
  | attempt body catches cleanup =>
    cases cleanup with
    | none =>
      exact .cons head
        (List.rel_append (statementNodes_respelled body) (catchNodes_respelled catches))
    | some cleanup =>
      exact .cons head (List.rel_append
        (List.rel_append (statementNodes_respelled body) (catchNodes_respelled catches))
        (statementNodes_respelled cleanup))
  | loop condition body =>
    cases condition with
    | none =>
      exact .cons head body.nodes
    | some condition =>
      exact .cons head (List.rel_append condition.nodes body.nodes)
  | other => exact .cons head .nil
termination_by sizeOf s

theorem statementNodes_respelled {ss ss' : List Statement}
    (h : List.Forall₂ Statement.Respelled ss ss') :
    List.Forall₂ SyntaxNode.Respelled (statementNodes ss) (statementNodes ss') := by
  cases h with
  | nil => exact .nil
  | cons head tail =>
    exact List.rel_append head.nodes (statementNodes_respelled tail)
termination_by sizeOf ss

theorem catchNodes_respelled {cs cs' : List CatchClause}
    (h : List.Forall₂ CatchClause.Respelled cs cs') :
    List.Forall₂ SyntaxNode.Respelled (catchNodes cs) (catchNodes cs') := by
  cases h with
  | nil => exact .nil
  | cons head tail =>
    obtain ⟨body⟩ := head
    exact List.rel_append (statementNodes_respelled body) (catchNodes_respelled tail)
termination_by sizeOf cs

end

theorem exprs_respelled_of_nodes {ns ns' : List SyntaxNode}
    (h : List.Forall₂ SyntaxNode.Respelled ns ns') :
    List.Forall₂ Expr.Respelled (ns.filterMap SyntaxNode.expr?) (ns'.filterMap SyntaxNode.expr?) := by
  induction h with
  | nil => exact .nil
  | cons head _ ih =>
    cases head with
    | statement => exact ih
    | expr head => exact .cons head ih

theorem Expr.Respelled.exprs {e e' : Expr} (h : e.Respelled e') :
    List.Forall₂ Expr.Respelled e.exprs e'.exprs := by
  rw [← e.filterMap_nodes, ← e'.filterMap_nodes]
  exact exprs_respelled_of_nodes h.nodes

theorem FunctionBody.Respelled.exprs {b b' : FunctionBody} (h : b.Respelled b') :
    List.Forall₂ Expr.Respelled b.exprs b'.exprs := by
  rw [← b.filterMap_nodes, ← b'.filterMap_nodes]
  exact exprs_respelled_of_nodes h.nodes

theorem FieldDecl.Respelled.exprs {f f' : FieldDecl} (h : f.Respelled f') :
    List.Forall₂ Expr.Respelled f.exprs f'.exprs := by
  obtain ⟨declarators⟩ := h
  refine List.rel_flatMap declarators ?_
  rintro v v' ⟨initializer⟩
  cases hv : v.initializer with
  | none =>
    rw [hv] at initializer
    cases initializer
    simp [hv]
  | some e =>
    rw [hv] at initializer
    cases initializer with
    | some e => simpa [hv] using e.exprs

theorem Declaration.Respelled.exprs {d d' : Declaration} (h : d.Respelled d') :
    List.Forall₂ Expr.Respelled d.exprs d'.exprs := by
  cases h with
  | classLike c =>
    obtain ⟨members⟩ := c
    refine List.rel_flatMap members ?_
    intro m m' h
    cases h with
    | field f => exact f.exprs
    | constructor k =>
      obtain ⟨-, body⟩ := k
      exact body.exprs
    | method m =>
      obtain ⟨-, body⟩ := m
      exact body.exprs
  | function f =>
    obtain ⟨-, body⟩ := f
    exact body.exprs
  | variableList f => exact f.exprs
  | other => exact .nil

/-- The expressions of a file that are respelled stand in the same places. -/
theorem CompilationUnit.Respelled.exprs {u u' : CompilationUnit} (h : u.Respelled u') :
    List.Forall₂ Expr.Respelled u.exprs u'.exprs := by
  obtain ⟨declarations⟩ := h
  exact List.rel_flatMap declarations fun _ _ => Declaration.Respelled.exprs

/-! ## Returned expressions -/

mutual

/-- Respelled statements return the same up to spelling. -/
theorem Statement.Respelled.returned? {s s' : Statement} (h : s.Respelled s') :
    Option.Rel Expr.Respelled s.returned? s'.returned? := by
  cases h with
  | block statements => exact firstReturned?_respelled statements
  | returns value => exact value
  | expression | localVariable | branch | attempt | loop | other => exact .none
termination_by sizeOf s

theorem firstReturned?_respelled {ss ss' : List Statement}
    (h : List.Forall₂ Statement.Respelled ss ss') :
    Option.Rel Expr.Respelled (firstReturned? ss) (firstReturned? ss') := by
  cases h with
  | nil => exact .none
  | @cons s s' _ _ head tail =>
    -- The first statements return at the same place, so the search goes on in both lists or in none.
    have first := head.returned?
    rw [firstReturned?, firstReturned?]
    generalize s.returned? = value at first ⊢
    generalize s'.returned? = value' at first ⊢
    cases first with
    | none => exact firstReturned?_respelled tail
    | some e => exact .some e
termination_by sizeOf ss

end

theorem FunctionBody.Respelled.returned? {b b' : FunctionBody} (h : b.Respelled b') :
    Option.Rel Expr.Respelled b.returned? b'.returned? := by
  cases h with
  | empty => exact .none
  | expression expr => exact .some expr
  | block statements => exact firstReturned?_respelled statements

end ArchLint
