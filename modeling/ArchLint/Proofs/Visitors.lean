import ArchLint.Proofs.Walks
import ArchLint.Syntax.Visitor

/-! # What visitors write down

A visitor that writes nodes down and lets the walk go on writes down nodes of the listing of the tree, in
their order, whichever sorts of nodes it writes down.

* `Visitor.recording` — writes down what a choice makes of a node, and goes on.
* `Visitor.visitUnit_recording` — what it has written down after a file.
-/

namespace ArchLint.Visitor

variable {α : Type}

/-! ## Visitors that write nodes down -/

/-- Writes down what is made of the node, if anything is, and goes on. -/
def record (entry : Option α) (descend : List α → List α) : List α → List α :=
  match entry with
  | none => descend
  | some a => fun log => descend (log ++ [a])

/-- The visitor that writes down what `choose` makes of each node. Where it makes nothing of any node of
a sort, nothing is done of its own at nodes of this sort. -/
def recording (choose : SyntaxNode → Option α) : Visitor (List α) where
  unit u := record (choose (.unit u))
  directive d := record (choose (.directive d))
  declaration d := record (choose (.declaration d))
  classLike c := record (choose (.classLike c))
  field f := record (choose (.field f))
  constructor k := record (choose (.constructor k))
  method m := record (choose (.method m))
  function f := record (choose (.function f))
  statement s := record (choose (.statement s))
  expr e := record (choose (.expr e))

/-- The walk adds to what is written down what is made of some nodes. -/
def Writes (choose : SyntaxNode → Option α) (ns : List SyntaxNode) (walk : List α → List α) : Prop :=
  ∀ log, walk log = log ++ ns.filterMap choose

section Recording

variable {choose : SyntaxNode → Option α}

namespace Writes

theorem nil : Writes choose [] id := fun log => (List.append_nil log).symm

theorem append {ns ms : List SyntaxNode} {first second : List α → List α}
    (h : Writes choose ns first) (k : Writes choose ms second) :
    Writes choose (ns ++ ms) fun log => second (first log) := by
  intro log
  show second (first log) = log ++ (ns ++ ms).filterMap choose
  rw [k, h, List.append_assoc, List.filterMap_append]

theorem node {n : SyntaxNode} {ns : List SyntaxNode} {descend : List α → List α}
    (h : Writes choose ns descend) : Writes choose (n :: ns) (record (choose n) descend) := by
  intro log
  cases entry : choose n with
  | none =>
    rw [List.filterMap_cons_none entry]
    exact h log
  | some a =>
    rw [List.filterMap_cons_some entry]
    exact (h (log ++ [a])).trans (List.append_assoc log [a] _)

theorem foldl {β : Type} {nodes : β → List SyntaxNode} {visit : β → List α → List α}
    (h : ∀ b, Writes choose (nodes b) (visit b)) (bs : List β) :
    Writes choose (bs.flatMap nodes) fun log => bs.foldl (fun log b => visit b log) log := by
  induction bs with
  | nil => exact nil
  | cons b bs ih => exact (h b).append ih

end Writes

-- A walk over a tree is put together from walks over its parts as the listing is from theirs.
mutual

theorem visitExpr_writes : ∀ e : Expr, Writes choose e.nodes ((recording choose).visitExpr e)
  | .propertyAccess target _ _ => (visitExpr_writes target).node
  | .methodInvocation none _ _ arguments _ => (visitArguments_writes arguments).node
  | .methodInvocation (some target) _ _ arguments _ =>
    ((visitExpr_writes target).append (visitArguments_writes arguments)).node
  | .instanceCreation _ _ _ arguments _ => (visitArguments_writes arguments).node
  | .closure _ body _ => (visitBody_writes body).node
  | .await operand _ => (visitExpr_writes operand).node
  | .binary left _ right _ => ((visitExpr_writes left).append (visitExpr_writes right)).node
  | .assignment target _ value _ => ((visitExpr_writes target).append (visitExpr_writes value)).node
  | .conditional condition thenExpr elseExpr _ =>
    (((visitExpr_writes condition).append (visitExpr_writes thenExpr)).append
      (visitExpr_writes elseExpr)).node
  | .cascade target sections _ => ((visitExpr_writes target).append (visitExprs_writes sections)).node
  | .list elements _ => (visitExprs_writes elements).node
  | .identifier _ _ => Writes.nil.node
  | .literal _ _ => Writes.nil.node
  | .this _ => Writes.nil.node
  | .other _ _ => Writes.nil.node

theorem visitExprs_writes :
    ∀ es : List Expr, Writes choose (exprNodes es) ((recording choose).visitExprs es)
  | [] => .nil
  | e :: es => (visitExpr_writes e).append (visitExprs_writes es)

theorem visitArguments_writes :
    ∀ as : List Argument, Writes choose (argumentNodes as) ((recording choose).visitArguments as)
  | [] => .nil
  | ⟨_, value⟩ :: rest => (visitExpr_writes value).append (visitArguments_writes rest)

theorem visitBody_writes :
    ∀ b : FunctionBody, Writes choose b.nodes ((recording choose).visitBody b)
  | ⟨_, .empty⟩ => .nil
  | ⟨_, .expression e⟩ => visitExpr_writes e
  | ⟨_, .block statements⟩ => visitStatements_writes statements

theorem visitStatement_writes :
    ∀ s : Statement, Writes choose s.nodes ((recording choose).visitStatement s)
  | .block statements _ => (visitStatements_writes statements).node
  | .expression e => (visitExpr_writes e).node
  | .returns none _ => Writes.nil.node
  | .returns (some value) _ => (visitExpr_writes value).node
  | .localVariable _ _ none _ => Writes.nil.node
  | .localVariable _ _ (some initializer) _ => (visitExpr_writes initializer).node
  | .branch condition thenBranch none _ =>
    ((visitExpr_writes condition).append (visitStatement_writes thenBranch)).node
  | .branch condition thenBranch (some elseBranch) _ =>
    (((visitExpr_writes condition).append (visitStatement_writes thenBranch)).append
      (visitStatement_writes elseBranch)).node
  | .attempt body catches none _ =>
    ((visitStatements_writes body).append (visitCatches_writes catches)).node
  | .attempt body catches (some cleanup) _ =>
    (((visitStatements_writes body).append (visitCatches_writes catches)).append
      (visitStatements_writes cleanup)).node
  | .loop none body _ => (visitStatement_writes body).node
  | .loop (some condition) body _ =>
    ((visitExpr_writes condition).append (visitStatement_writes body)).node
  | .other _ => Writes.nil.node

theorem visitStatements_writes :
    ∀ ss : List Statement, Writes choose (statementNodes ss) ((recording choose).visitStatements ss)
  | [] => .nil
  | s :: rest => (visitStatement_writes s).append (visitStatements_writes rest)

theorem visitCatches_writes :
    ∀ cs : List CatchClause, Writes choose (catchNodes cs) ((recording choose).visitCatches cs)
  | [] => .nil
  | ⟨_, body⟩ :: rest => (visitStatements_writes body).append (visitCatches_writes rest)

end

/-! ## Declarations -/

theorem visitInitializers_writes (ds : List VariableDeclarator) :
    Writes choose (initializerNodes ds) ((recording choose).visitInitializers ds) := by
  induction ds with
  | nil => exact .nil
  | cons d ds ih =>
    obtain ⟨_, initializer, _⟩ := d
    cases initializer with
    | none => exact ih
    | some e => exact (visitExpr_writes e).append ih

theorem visitField_writes (f : FieldDecl) :
    Writes choose f.nodes ((recording choose).visitField f) :=
  (visitInitializers_writes f.declarators).node

theorem visitMember_writes (m : ClassMember) :
    Writes choose m.nodes ((recording choose).visitMember m) := by
  cases m with
  | field f => exact visitField_writes f
  | constructor k => exact (visitBody_writes k.body).node
  | method m => exact (visitBody_writes m.body).node

theorem visitClass_writes (c : ClassDecl) :
    Writes choose c.nodes ((recording choose).visitClass c) :=
  (Writes.foldl visitMember_writes c.members).node

theorem visitDeclaration_writes (d : Declaration) :
    Writes choose d.nodes ((recording choose).visitDeclaration d) := by
  cases d with
  | classLike c => exact (visitClass_writes c).node
  | function f => exact (visitBody_writes f.body).node.node
  | variableList f => exact (visitField_writes f).node
  | other => exact Writes.nil.node

theorem visitUnit_writes (u : CompilationUnit) :
    Writes choose u.nodes ((recording choose).visitUnit u) := by
  have directive : ∀ d, Writes choose [.directive d] ((recording choose).directive d id) :=
    fun _ => Writes.nil.node
  have directives := Writes.foldl directive u.directives
  rw [← List.map_eq_flatMap] at directives
  exact (directives.append (Writes.foldl visitDeclaration_writes u.declarations)).node

/-- After a file, what is made of its nodes has been written down, in the order of the nodes. -/
theorem visitUnit_recording (choose : SyntaxNode → Option α) (u : CompilationUnit) :
    (recording choose).visitUnit u [] = u.nodes.filterMap choose :=
  visitUnit_writes u []

end Recording

/-- Does something of its own at expressions alone: it writes them down. -/
def exprRecorder : Visitor (List Expr) where
  expr e descend log := descend (log ++ [e])

/-- Writes down expressions, and of the other nodes those that `others` holds of. -/
def nodeRecorder (others : SyntaxNode → Bool) : Visitor (List SyntaxNode) :=
  recording fun n => if n.expr?.isSome || others n then some n else none

theorem visitUnit_exprRecorder (u : CompilationUnit) : exprRecorder.visitUnit u [] = u.exprs := by
  rw [show exprRecorder = recording SyntaxNode.expr? from rfl, visitUnit_recording, u.filterMap_nodes]

theorem filterMap_visitUnit_nodeRecorder (others : SyntaxNode → Bool) (u : CompilationUnit) :
    ((nodeRecorder others).visitUnit u []).filterMap SyntaxNode.expr? = u.exprs := by
  rw [nodeRecorder, visitUnit_recording, List.filterMap_filterMap, ← u.filterMap_nodes]
  refine congrArg (u.nodes.filterMap ·) (funext fun n => ?_)
  cases n with
  | expr e => rfl
  | _ => simp only [SyntaxNode.expr?, Option.isSome_none, Bool.false_or]; split <;> rfl

end ArchLint.Visitor
