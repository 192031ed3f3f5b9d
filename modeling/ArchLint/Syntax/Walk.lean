import ArchLint.Syntax.Basic

/-! # Walks through a tree

The nodes of a tree from the top down, each before what it contains and siblings in source order. The
default values of parameters are not part of a walk.

* `SyntaxNode` — a node of any sort.
* `CompilationUnit.nodes`, `Expr.nodes` and the like — everything at and below a node.
* `CompilationUnit.exprs`, `FunctionBody.exprs` and the like — the expressions among them, by a
  traversal of their own.
-/

namespace ArchLint

/-- A node of a tree. -/
inductive SyntaxNode where
  | unit (unit : CompilationUnit)
  | directive (directive : Directive)
  | declaration (declaration : Declaration)
  | classLike (decl : ClassDecl)
  | field (decl : FieldDecl)
  | constructor (decl : ConstructorDecl)
  | method (decl : MethodDecl)
  | function (decl : FunctionDecl)
  | statement (statement : Statement)
  | expr (expr : Expr)

/-- The node as an expression. -/
def SyntaxNode.expr? : SyntaxNode → Option Expr
  | .expr e => some e
  | _ => none

/-- The node as a statement. -/
def SyntaxNode.statement? : SyntaxNode → Option Statement
  | .statement s => some s
  | _ => none

/-! ## All nodes -/

mutual

/-- The expression and everything below it. -/
def Expr.nodes : Expr → List SyntaxNode
  | e@(.propertyAccess target _ _) => .expr e :: target.nodes
  | e@(.methodInvocation none _ _ arguments _) => .expr e :: argumentNodes arguments
  | e@(.methodInvocation (some target) _ _ arguments _) =>
    .expr e :: (target.nodes ++ argumentNodes arguments)
  | e@(.instanceCreation _ _ _ arguments _) => .expr e :: argumentNodes arguments
  | e@(.closure _ body _) => .expr e :: body.nodes
  | e@(.await operand _) => .expr e :: operand.nodes
  | e@(.binary left _ right _) => .expr e :: (left.nodes ++ right.nodes)
  | e@(.assignment target _ value _) => .expr e :: (target.nodes ++ value.nodes)
  | e@(.conditional condition thenExpr elseExpr _) =>
    .expr e :: (condition.nodes ++ thenExpr.nodes ++ elseExpr.nodes)
  | e@(.cascade target sections _) => .expr e :: (target.nodes ++ exprNodes sections)
  | e@(.list elements _) => .expr e :: exprNodes elements
  | e@(.identifier _ _) => [.expr e]
  | e@(.literal _ _) => [.expr e]
  | e@(.this _) => [.expr e]
  | e@(.other _ _) => [.expr e]

/-- The nodes of several expressions. -/
def exprNodes : List Expr → List SyntaxNode
  | [] => []
  | e :: es => e.nodes ++ exprNodes es

/-- The nodes of the values of several arguments. -/
def argumentNodes : List Argument → List SyntaxNode
  | [] => []
  | ⟨_, value⟩ :: rest => value.nodes ++ argumentNodes rest

/-- The nodes of a body. -/
def FunctionBody.nodes : FunctionBody → List SyntaxNode
  | ⟨_, .empty⟩ => []
  | ⟨_, .expression e⟩ => e.nodes
  | ⟨_, .block statements⟩ => statementNodes statements

/-- The statement and everything below it. -/
def Statement.nodes : Statement → List SyntaxNode
  | s@(.block statements _) => .statement s :: statementNodes statements
  | s@(.expression e) => .statement s :: e.nodes
  | s@(.returns none _) => [.statement s]
  | s@(.returns (some value) _) => .statement s :: value.nodes
  | s@(.localVariable _ _ none _) => [.statement s]
  | s@(.localVariable _ _ (some initializer) _) => .statement s :: initializer.nodes
  | s@(.branch condition thenBranch none _) => .statement s :: (condition.nodes ++ thenBranch.nodes)
  | s@(.branch condition thenBranch (some elseBranch) _) =>
    .statement s :: (condition.nodes ++ thenBranch.nodes ++ elseBranch.nodes)
  | s@(.attempt body catches none _) => .statement s :: (statementNodes body ++ catchNodes catches)
  | s@(.attempt body catches (some cleanup) _) =>
    .statement s :: (statementNodes body ++ catchNodes catches ++ statementNodes cleanup)
  | s@(.loop none body _) => .statement s :: body.nodes
  | s@(.loop (some condition) body _) => .statement s :: (condition.nodes ++ body.nodes)
  | s@(.other _) => [.statement s]

/-- The nodes of several statements. -/
def statementNodes : List Statement → List SyntaxNode
  | [] => []
  | s :: rest => s.nodes ++ statementNodes rest

/-- The nodes of the bodies of several handlers. -/
def catchNodes : List CatchClause → List SyntaxNode
  | [] => []
  | ⟨_, body⟩ :: rest => statementNodes body ++ catchNodes rest

end

/-- The nodes of the initializers of a declaration of variables. -/
def initializerNodes (declarators : List VariableDeclarator) : List SyntaxNode :=
  declarators.flatMap fun v => (v.initializer.map Expr.nodes).getD []

/-- The declaration of variables and everything below it. -/
def FieldDecl.nodes (f : FieldDecl) : List SyntaxNode :=
  .field f :: initializerNodes f.declarators

/-- The member and everything below it. -/
def ClassMember.nodes : ClassMember → List SyntaxNode
  | .field f => f.nodes
  | .constructor c => .constructor c :: c.body.nodes
  | .method m => .method m :: m.body.nodes

/-- The class and everything below it. -/
def ClassDecl.nodes (c : ClassDecl) : List SyntaxNode :=
  .classLike c :: c.members.flatMap ClassMember.nodes

/-- The declaration and everything below it. -/
def Declaration.nodes (d : Declaration) : List SyntaxNode :=
  .declaration d ::
    match d with
    | .classLike c => c.nodes
    | .function f => .function f :: f.body.nodes
    | .variableList f => f.nodes
    | .other _ => []

/-- The file and everything below it. -/
def CompilationUnit.nodes (u : CompilationUnit) : List SyntaxNode :=
  .unit u :: (u.directives.map .directive ++ u.declarations.flatMap Declaration.nodes)

/-! ## Expressions alone -/

mutual

/-- The expression and the expressions below it. -/
def Expr.exprs : Expr → List Expr
  | e@(.propertyAccess target _ _) => e :: target.exprs
  | e@(.methodInvocation none _ _ arguments _) => e :: argumentExprs arguments
  | e@(.methodInvocation (some target) _ _ arguments _) =>
    e :: (target.exprs ++ argumentExprs arguments)
  | e@(.instanceCreation _ _ _ arguments _) => e :: argumentExprs arguments
  | e@(.closure _ body _) => e :: body.exprs
  | e@(.await operand _) => e :: operand.exprs
  | e@(.binary left _ right _) => e :: (left.exprs ++ right.exprs)
  | e@(.assignment target _ value _) => e :: (target.exprs ++ value.exprs)
  | e@(.conditional condition thenExpr elseExpr _) =>
    e :: (condition.exprs ++ thenExpr.exprs ++ elseExpr.exprs)
  | e@(.cascade target sections _) => e :: (target.exprs ++ exprsOf sections)
  | e@(.list elements _) => e :: exprsOf elements
  | e@(.identifier _ _) => [e]
  | e@(.literal _ _) => [e]
  | e@(.this _) => [e]
  | e@(.other _ _) => [e]

/-- Several expressions and the expressions below them. -/
def exprsOf : List Expr → List Expr
  | [] => []
  | e :: es => e.exprs ++ exprsOf es

/-- The expressions in the values of several arguments. -/
def argumentExprs : List Argument → List Expr
  | [] => []
  | ⟨_, value⟩ :: rest => value.exprs ++ argumentExprs rest

/-- The expressions of a body. -/
def FunctionBody.exprs : FunctionBody → List Expr
  | ⟨_, .empty⟩ => []
  | ⟨_, .expression e⟩ => e.exprs
  | ⟨_, .block statements⟩ => statementExprs statements

/-- The expressions below a statement. -/
def Statement.exprs : Statement → List Expr
  | .block statements _ => statementExprs statements
  | .expression e => e.exprs
  | .returns none _ => []
  | .returns (some value) _ => value.exprs
  | .localVariable _ _ none _ => []
  | .localVariable _ _ (some initializer) _ => initializer.exprs
  | .branch condition thenBranch none _ => condition.exprs ++ thenBranch.exprs
  | .branch condition thenBranch (some elseBranch) _ =>
    condition.exprs ++ thenBranch.exprs ++ elseBranch.exprs
  | .attempt body catches none _ => statementExprs body ++ catchExprs catches
  | .attempt body catches (some cleanup) _ =>
    statementExprs body ++ catchExprs catches ++ statementExprs cleanup
  | .loop none body _ => body.exprs
  | .loop (some condition) body _ => condition.exprs ++ body.exprs
  | .other _ => []

/-- The expressions below several statements. -/
def statementExprs : List Statement → List Expr
  | [] => []
  | s :: rest => s.exprs ++ statementExprs rest

/-- The expressions below several handlers. -/
def catchExprs : List CatchClause → List Expr
  | [] => []
  | ⟨_, body⟩ :: rest => statementExprs body ++ catchExprs rest

end

/-- The expressions of the initializers of a declaration of variables. -/
def FieldDecl.exprs (f : FieldDecl) : List Expr :=
  f.declarators.flatMap fun v => (v.initializer.map Expr.exprs).getD []

/-- The expressions of a member. -/
def ClassMember.exprs : ClassMember → List Expr
  | .field f => f.exprs
  | .constructor c => c.body.exprs
  | .method m => m.body.exprs

/-- The expressions of a declaration. -/
def Declaration.exprs : Declaration → List Expr
  | .classLike c => c.members.flatMap ClassMember.exprs
  | .function f => f.body.exprs
  | .variableList f => f.exprs
  | .other _ => []

/-- The expressions of a file. -/
def CompilationUnit.exprs (u : CompilationUnit) : List Expr :=
  u.declarations.flatMap Declaration.exprs

end ArchLint
