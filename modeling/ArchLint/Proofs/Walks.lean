import ArchLint.Syntax.Walk

/-! # Two walks through one tree

The expressions of a tree are listed by a traversal of their own. It finds what a walk through all nodes
finds, in the same order.

* `Expr.filterMap_nodes`, `Statement.filterMap_nodes`, `FunctionBody.filterMap_nodes` — the expressions
  among the nodes of a piece of code are its expressions.
* `CompilationUnit.filterMap_nodes` — and so they are for a file.
-/

namespace ArchLint

@[simp] theorem filterMap_expr_cons (e : Expr) (ns : List SyntaxNode) :
    (.expr e :: ns).filterMap SyntaxNode.expr? = e :: ns.filterMap SyntaxNode.expr? := rfl

@[simp] theorem filterMap_statement_cons (s : Statement) (ns : List SyntaxNode) :
    (.statement s :: ns).filterMap SyntaxNode.expr? = ns.filterMap SyntaxNode.expr? := rfl

mutual

theorem Expr.filterMap_nodes (e : Expr) : e.nodes.filterMap SyntaxNode.expr? = e.exprs := by
  cases e with
  | identifier | literal | this | other => rfl
  | propertyAccess target =>
    simp [Expr.nodes, Expr.exprs, target.filterMap_nodes]
  | methodInvocation target _ _ arguments =>
    cases target with
    | none => simp [Expr.nodes, Expr.exprs, filterMap_argumentNodes arguments]
    | some target =>
      simp [Expr.nodes, Expr.exprs, target.filterMap_nodes,
        filterMap_argumentNodes arguments]
  | instanceCreation _ _ _ arguments =>
    simp [Expr.nodes, Expr.exprs, filterMap_argumentNodes arguments]
  | closure _ body => simp [Expr.nodes, Expr.exprs, body.filterMap_nodes]
  | await operand => simp [Expr.nodes, Expr.exprs, operand.filterMap_nodes]
  | binary left _ right =>
    simp [Expr.nodes, Expr.exprs, left.filterMap_nodes, right.filterMap_nodes]
  | assignment target _ value =>
    simp [Expr.nodes, Expr.exprs, target.filterMap_nodes, value.filterMap_nodes]
  | conditional condition thenExpr elseExpr =>
    simp [Expr.nodes, Expr.exprs, condition.filterMap_nodes,
      thenExpr.filterMap_nodes, elseExpr.filterMap_nodes]
  | cascade target sections =>
    simp [Expr.nodes, Expr.exprs, target.filterMap_nodes,
      filterMap_exprNodes sections]
  | list elements => simp [Expr.nodes, Expr.exprs, filterMap_exprNodes elements]
termination_by sizeOf e

theorem filterMap_exprNodes (es : List Expr) :
    (exprNodes es).filterMap SyntaxNode.expr? = exprsOf es := by
  cases es with
  | nil => rfl
  | cons e es => simp [exprNodes, exprsOf, e.filterMap_nodes, filterMap_exprNodes es]
termination_by sizeOf es

theorem filterMap_argumentNodes (as : List Argument) :
    (argumentNodes as).filterMap SyntaxNode.expr? = argumentExprs as := by
  cases as with
  | nil => rfl
  | cons a as =>
    obtain ⟨name, value⟩ := a
    simp [argumentNodes, argumentExprs, value.filterMap_nodes, filterMap_argumentNodes as]
termination_by sizeOf as

theorem FunctionBody.filterMap_nodes (b : FunctionBody) :
    b.nodes.filterMap SyntaxNode.expr? = b.exprs := by
  obtain ⟨modifier, content⟩ := b
  cases content with
  | empty => rfl
  | expression e => simp [FunctionBody.nodes, FunctionBody.exprs, e.filterMap_nodes]
  | block statements =>
    simp [FunctionBody.nodes, FunctionBody.exprs, filterMap_statementNodes statements]
termination_by sizeOf b

theorem Statement.filterMap_nodes (s : Statement) :
    s.nodes.filterMap SyntaxNode.expr? = s.exprs := by
  cases s with
  | block statements =>
    simp [Statement.nodes, Statement.exprs, filterMap_statementNodes statements]
  | expression e => simp [Statement.nodes, Statement.exprs, e.filterMap_nodes]
  | returns value =>
    cases value with
    | none => rfl
    | some value =>
      simp [Statement.nodes, Statement.exprs, value.filterMap_nodes]
  | localVariable _ _ initializer =>
    cases initializer with
    | none => rfl
    | some initializer =>
      simp [Statement.nodes, Statement.exprs, initializer.filterMap_nodes]
  | branch condition thenBranch elseBranch =>
    cases elseBranch with
    | none =>
      simp [Statement.nodes, Statement.exprs, condition.filterMap_nodes,
        thenBranch.filterMap_nodes]
    | some elseBranch =>
      simp [Statement.nodes, Statement.exprs, condition.filterMap_nodes,
        thenBranch.filterMap_nodes, elseBranch.filterMap_nodes]
  | attempt body catches cleanup =>
    cases cleanup with
    | none =>
      simp [Statement.nodes, Statement.exprs, filterMap_statementNodes body,
        filterMap_catchNodes catches]
    | some cleanup =>
      simp [Statement.nodes, Statement.exprs, filterMap_statementNodes body,
        filterMap_catchNodes catches, filterMap_statementNodes cleanup]
  | loop condition body =>
    cases condition with
    | none => simp [Statement.nodes, Statement.exprs, body.filterMap_nodes]
    | some condition =>
      simp [Statement.nodes, Statement.exprs, condition.filterMap_nodes,
        body.filterMap_nodes]
  | other => rfl
termination_by sizeOf s

theorem filterMap_statementNodes (ss : List Statement) :
    (statementNodes ss).filterMap SyntaxNode.expr? = statementExprs ss := by
  cases ss with
  | nil => rfl
  | cons s ss =>
    simp [statementNodes, statementExprs, s.filterMap_nodes, filterMap_statementNodes ss]
termination_by sizeOf ss

theorem filterMap_catchNodes (cs : List CatchClause) :
    (catchNodes cs).filterMap SyntaxNode.expr? = catchExprs cs := by
  cases cs with
  | nil => rfl
  | cons c cs =>
    obtain ⟨exceptionType, body⟩ := c
    simp [catchNodes, catchExprs, filterMap_statementNodes body, filterMap_catchNodes cs]
termination_by sizeOf cs

end

/-! ## Declarations -/

theorem filterMap_initializerNodes (vs : List VariableDeclarator) :
    (initializerNodes vs).filterMap SyntaxNode.expr? =
      vs.flatMap fun v => (v.initializer.map Expr.exprs).getD [] := by
  rw [initializerNodes, List.filterMap_flatMap]
  refine congrArg (vs.flatMap ·) (funext fun v => ?_)
  cases v.initializer with
  | none => rfl
  | some initializer => exact initializer.filterMap_nodes

theorem FieldDecl.filterMap_nodes (f : FieldDecl) :
    f.nodes.filterMap SyntaxNode.expr? = f.exprs :=
  filterMap_initializerNodes f.declarators

theorem ClassMember.filterMap_nodes (m : ClassMember) :
    m.nodes.filterMap SyntaxNode.expr? = m.exprs := by
  cases m with
  | field f => exact f.filterMap_nodes
  | constructor k => exact k.body.filterMap_nodes
  | method m => exact m.body.filterMap_nodes

theorem Declaration.filterMap_nodes (d : Declaration) :
    d.nodes.filterMap SyntaxNode.expr? = d.exprs := by
  cases d with
  | classLike c =>
    have members : (c.members.flatMap ClassMember.nodes).filterMap SyntaxNode.expr? =
        c.members.flatMap ClassMember.exprs := by
      rw [List.filterMap_flatMap]
      simp only [ClassMember.filterMap_nodes]
    exact members
  | function f => exact f.body.filterMap_nodes
  | variableList f => exact f.filterMap_nodes
  | other => rfl

theorem CompilationUnit.filterMap_nodes (u : CompilationUnit) :
    u.nodes.filterMap SyntaxNode.expr? = u.exprs := by
  have directives : (u.directives.map SyntaxNode.directive).filterMap SyntaxNode.expr? = [] := by
    rw [List.filterMap_map]
    exact List.filterMap_eq_nil_iff.2 fun _ _ => rfl
  have declarations : (u.declarations.flatMap Declaration.nodes).filterMap SyntaxNode.expr? =
      u.exprs := by
    rw [List.filterMap_flatMap]
    simp only [Declaration.filterMap_nodes, CompilationUnit.exprs]
  rw [CompilationUnit.nodes, List.filterMap_cons_none rfl, List.filterMap_append, directives,
    declarations, List.nil_append]

end ArchLint
