import ArchLint.Syntax.Basic

/-! # Visitors

A visitor is asked at each node what it does there, and is given the walk through what lies below the node.
One that does nothing of its own there goes on with this walk, and any other leaves it out unless it goes on
itself.

* `Visitor` — what is done at each node; the default is to go on.
* `Visitor.visitUnit`, `Visitor.visitExpr` and the like — the walk.
-/

namespace ArchLint

/-- What is done at each sort of node, given the walk through what lies below the node. -/
structure Visitor (σ : Type) where
  unit : CompilationUnit → (σ → σ) → σ → σ := fun _ descend => descend
  directive : Directive → (σ → σ) → σ → σ := fun _ descend => descend
  declaration : Declaration → (σ → σ) → σ → σ := fun _ descend => descend
  classLike : ClassDecl → (σ → σ) → σ → σ := fun _ descend => descend
  field : FieldDecl → (σ → σ) → σ → σ := fun _ descend => descend
  constructor : ConstructorDecl → (σ → σ) → σ → σ := fun _ descend => descend
  method : MethodDecl → (σ → σ) → σ → σ := fun _ descend => descend
  function : FunctionDecl → (σ → σ) → σ → σ := fun _ descend => descend
  statement : Statement → (σ → σ) → σ → σ := fun _ descend => descend
  expr : Expr → (σ → σ) → σ → σ := fun _ descend => descend

namespace Visitor

variable {σ : Type} (v : Visitor σ)

/-! ## Code -/

mutual

/-- Visits an expression. Below it lie the expressions in it and the body of a closure, in source order. -/
def visitExpr : Expr → σ → σ
  | e@(.propertyAccess target _ _) => v.expr e (visitExpr target)
  | e@(.methodInvocation none _ _ arguments _) => v.expr e (visitArguments arguments)
  | e@(.methodInvocation (some target) _ _ arguments _) =>
    v.expr e fun s => visitArguments arguments (visitExpr target s)
  | e@(.instanceCreation _ _ _ arguments _) => v.expr e (visitArguments arguments)
  | e@(.closure _ body _) => v.expr e (visitBody body)
  | e@(.await operand _) => v.expr e (visitExpr operand)
  | e@(.binary left _ right _) => v.expr e fun s => visitExpr right (visitExpr left s)
  | e@(.assignment target _ value _) => v.expr e fun s => visitExpr value (visitExpr target s)
  | e@(.conditional condition thenExpr elseExpr _) =>
    v.expr e fun s => visitExpr elseExpr (visitExpr thenExpr (visitExpr condition s))
  | e@(.cascade target sections _) => v.expr e fun s => visitExprs sections (visitExpr target s)
  | e@(.list elements _) => v.expr e (visitExprs elements)
  | e@(.identifier _ _) => v.expr e id
  | e@(.literal _ _) => v.expr e id
  | e@(.this _) => v.expr e id
  | e@(.other _ _) => v.expr e id

/-- Visits expressions one after the other. -/
def visitExprs : List Expr → σ → σ
  | [], s => s
  | e :: es, s => visitExprs es (visitExpr e s)

/-- Visits the values of arguments. -/
def visitArguments : List Argument → σ → σ
  | [], s => s
  | ⟨_, value⟩ :: rest, s => visitArguments rest (visitExpr value s)

/-- Goes through a body, which is no node of its own. -/
def visitBody : FunctionBody → σ → σ
  | ⟨_, .empty⟩ => id
  | ⟨_, .expression e⟩ => visitExpr e
  | ⟨_, .block statements⟩ => visitStatements statements

/-- Visits a statement. Below it lie the expressions and statements in it, in source order. -/
def visitStatement : Statement → σ → σ
  | s@(.block statements _) => v.statement s (visitStatements statements)
  | s@(.expression e) => v.statement s (visitExpr e)
  | s@(.returns none _) => v.statement s id
  | s@(.returns (some value) _) => v.statement s (visitExpr value)
  | s@(.localVariable _ _ none _) => v.statement s id
  | s@(.localVariable _ _ (some initializer) _) => v.statement s (visitExpr initializer)
  | s@(.branch condition thenBranch none _) =>
    v.statement s fun t => visitStatement thenBranch (visitExpr condition t)
  | s@(.branch condition thenBranch (some elseBranch) _) =>
    v.statement s fun t =>
      visitStatement elseBranch (visitStatement thenBranch (visitExpr condition t))
  | s@(.attempt body catches none _) =>
    v.statement s fun t => visitCatches catches (visitStatements body t)
  | s@(.attempt body catches (some cleanup) _) =>
    v.statement s fun t => visitStatements cleanup (visitCatches catches (visitStatements body t))
  | s@(.loop none body _) => v.statement s (visitStatement body)
  | s@(.loop (some condition) body _) =>
    v.statement s fun t => visitStatement body (visitExpr condition t)
  | s@(.other _) => v.statement s id

/-- Visits statements one after the other. -/
def visitStatements : List Statement → σ → σ
  | [], t => t
  | s :: rest, t => visitStatements rest (visitStatement s t)

/-- Goes through the statements of catch clauses. -/
def visitCatches : List CatchClause → σ → σ
  | [], t => t
  | ⟨_, body⟩ :: rest, t => visitCatches rest (visitStatements body t)

end

/-! ## Declarations -/

/-- Visits the initial values of variables. -/
def visitInitializers : List VariableDeclarator → σ → σ
  | [], s => s
  | d :: ds, s =>
    visitInitializers ds <|
      match d.initializer with
      | none => s
      | some e => v.visitExpr e s

/-- Visits a declaration of fields or variables. -/
def visitField (f : FieldDecl) : σ → σ :=
  v.field f (v.visitInitializers f.declarators)

/-- Visits a member of a class. -/
def visitMember : ClassMember → σ → σ
  | .field f => v.visitField f
  | .constructor k => v.constructor k (v.visitBody k.body)
  | .method m => v.method m (v.visitBody m.body)

/-- Visits a class, with its members below it. -/
def visitClass (c : ClassDecl) : σ → σ :=
  v.classLike c fun s => c.members.foldl (fun s m => v.visitMember m s) s

/-- Visits a declaration, and below it what is declared. -/
def visitDeclaration (d : Declaration) : σ → σ :=
  v.declaration d <|
    match d with
    | .classLike c => v.visitClass c
    | .function f => v.function f (v.visitBody f.body)
    | .variableList f => v.visitField f
    | .other _ => id

/-- Visits the tree of a file: its directives, then its declarations. -/
def visitUnit (u : CompilationUnit) : σ → σ :=
  v.unit u fun s =>
    u.declarations.foldl (fun s d => v.visitDeclaration d s) <|
      u.directives.foldl (fun s d => v.directive d id s) s

end Visitor

end ArchLint
