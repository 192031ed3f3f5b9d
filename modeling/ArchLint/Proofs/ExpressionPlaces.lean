import ArchLint.Proofs.Visitors

/-! # Where expressions stand

A place in a tree is a path from the top: which part of the file, which part of that part, and so on. In
the order of places what lies at the top of a part comes before the rest of it, and an earlier part before
a later one. A walk meets the expressions of a file in this order, each place once, and passes over the
default values of parameters alone.

* `SyntaxNode.parts` — what lies directly below a node, in source order.
* `SyntaxNode.at?`, `SyntaxNode.inDefault` — the node at a place, and whether a default value is passed
  on the way.
* `Enumerated` — a list of nodes that goes through places in their order.
* `CompilationUnit.visited_exprs` — what visitors write down.
-/

namespace ArchLint

/-! ## Parts and places -/

/-- A part of a node: one that belongs to a walk, or the default value of a parameter. -/
inductive NodePart where
  | walked (node : SyntaxNode)
  | defaultValue (value : Expr)

namespace NodePart

def node : NodePart → SyntaxNode
  | .walked n => n
  | .defaultValue e => .expr e

def isDefault : NodePart → Bool
  | .walked _ => false
  | .defaultValue _ => true

end NodePart

def exprParts (es : List Expr) : List NodePart :=
  es.map fun e => .walked (.expr e)

def statementParts (ss : List Statement) : List NodePart :=
  ss.map fun s => .walked (.statement s)

def defaultParts (ps : List Parameter) : List NodePart :=
  ps.filterMap fun p => p.defaultValue.map .defaultValue

def FunctionBody.parts (b : FunctionBody) : List NodePart :=
  match b.content with
  | .empty => []
  | .expression e => exprParts [e]
  | .block statements => statementParts statements

def Expr.parts : Expr → List NodePart
  | .propertyAccess target _ _ => exprParts [target]
  | .methodInvocation target _ _ arguments _ =>
    exprParts target.toList ++ exprParts (arguments.map (·.value))
  | .instanceCreation _ _ _ arguments _ => exprParts (arguments.map (·.value))
  | .closure parameters body _ => defaultParts parameters ++ body.parts
  | .await operand _ => exprParts [operand]
  | .binary left _ right _ => exprParts [left, right]
  | .assignment target _ value _ => exprParts [target, value]
  | .conditional condition thenExpr elseExpr _ => exprParts [condition, thenExpr, elseExpr]
  | .cascade target sections _ => exprParts (target :: sections)
  | .list elements _ => exprParts elements
  | .identifier _ _ => []
  | .literal _ _ => []
  | .this _ => []
  | .other _ _ => []

def Statement.parts : Statement → List NodePart
  | .block statements _ => statementParts statements
  | .expression e => exprParts [e]
  | .returns value _ => exprParts value.toList
  | .localVariable _ _ initializer _ => exprParts initializer.toList
  | .branch condition thenBranch elseBranch _ =>
    exprParts [condition] ++ statementParts (thenBranch :: elseBranch.toList)
  | .attempt body catches cleanup _ =>
    statementParts body ++ catches.flatMap (fun c => statementParts c.body) ++
      statementParts (cleanup.getD [])
  | .loop condition body _ => exprParts condition.toList ++ statementParts [body]
  | .other _ => []

def ClassMember.node : ClassMember → SyntaxNode
  | .field f => .field f
  | .constructor k => .constructor k
  | .method m => .method m

def Declaration.parts : Declaration → List NodePart
  | .classLike c => [.walked (.classLike c)]
  | .function f => [.walked (.function f)]
  | .variableList f => [.walked (.field f)]
  | .other _ => []

/-- What lies directly below a node, in source order. -/
def SyntaxNode.parts : SyntaxNode → List NodePart
  | .unit u =>
    u.directives.map (fun d => .walked (.directive d)) ++
      u.declarations.map fun d => .walked (.declaration d)
  | .directive _ => []
  | .declaration d => d.parts
  | .classLike c => c.members.map fun m => .walked m.node
  | .field f => exprParts (f.declarators.filterMap (·.initializer))
  | .constructor k => defaultParts k.parameters ++ k.body.parts
  | .method m => defaultParts m.parameters ++ m.body.parts
  | .function f => defaultParts f.parameters ++ f.body.parts
  | .statement s => s.parts
  | .expr e => e.parts

namespace SyntaxNode

/-- The node at a place, which is given by the number of a part on each level. -/
def at? : SyntaxNode → List Nat → Option SyntaxNode
  | n, [] => some n
  | n, i :: place => n.parts[i]?.bind fun part => part.node.at? place

/-- The way to the place goes through the default value of a parameter. -/
def inDefault : SyntaxNode → List Nat → Bool
  | _, [] => false
  | n, i :: place => n.parts[i]?.any fun part => part.isDefault || part.node.inDefault place

end SyntaxNode

/-! ## Walked places -/

/-- The node at a place, unless the way goes through a default value. -/
def SyntaxNode.walked? : SyntaxNode → List Nat → Option SyntaxNode
  | n, [] => some n
  | n, i :: place =>
    match n.parts[i]? with
    | some (.walked m) => m.walked? place
    | _ => none

theorem SyntaxNode.walked?_eq_some_iff {n m : SyntaxNode} {place : List Nat} :
    n.walked? place = some m ↔ n.at? place = some m ∧ n.inDefault place = false := by
  induction place generalizing n with
  | nil => simp [walked?, at?, inDefault]
  | cons i place ih =>
    cases part : n.parts[i]? with
    | none => simp [walked?, at?, part]
    | some part' =>
      cases part' with
      | walked n' =>
        simpa [walked?, at?, inDefault, part, NodePart.node, NodePart.isDefault] using ih
      | defaultValue e => simp [walked?, inDefault, part, NodePart.isDefault]

/-- The node at a place below some parts, unless the way goes through a default value. -/
def below? (parts : List NodePart) : List Nat → Option SyntaxNode
  | [] => none
  | i :: place =>
    match parts[i]? with
    | some (.walked m) => m.walked? place
    | _ => none

theorem exists_cons_of_below? {parts : List NodePart} {place : List Nat} {m : SyntaxNode}
    (h : below? parts place = some m) : ∃ i rest, place = i :: rest ∧ i < parts.length := by
  cases place with
  | nil => cases h
  | cons i rest =>
    refine ⟨i, rest, rfl, ?_⟩
    rw [below?] at h
    split at h
    next found => exact (List.getElem?_eq_some_iff.1 found).1
    next => cases h

/-- The place in a longer list of parts, with `k` more parts in front. -/
def shifted (k : Nat) : List Nat → List Nat
  | [] => []
  | i :: place => (k + i) :: place

theorem shifted_lt (k : Nat) {p q : List Nat} (h : p < q) : shifted k p < shifted k q := by
  cases p with
  | nil =>
    cases q with
    | nil => exact absurd h (List.lt_irrefl [])
    | cons j q => exact List.nil_lt_cons _ _
  | cons i p =>
    cases q with
    | nil => exact absurd h (List.not_lt_nil _)
    | cons j q =>
      rw [shifted, shifted, List.cons_lt_cons_iff]
      rcases List.cons_lt_cons_iff.1 h with first | ⟨rfl, rest⟩
      · exact .inl (Nat.add_lt_add_left first k)
      · exact .inr ⟨rfl, rest⟩

theorem below?_append_of_lt {ps qs : List NodePart} {i : Nat} {rest : List Nat}
    (h : i < ps.length) : below? (ps ++ qs) (i :: rest) = below? ps (i :: rest) := by
  rw [below?, below?, List.getElem?_append_left h]

theorem below?_append_shifted (ps qs : List NodePart) (place : List Nat) :
    below? (ps ++ qs) (shifted ps.length place) = below? qs place := by
  cases place with
  | nil => rfl
  | cons i rest =>
    rw [shifted, below?, below?, List.getElem?_append_right (Nat.le_add_right _ _),
      Nat.add_sub_cancel_left]

theorem SyntaxNode.eq_of_expr?_eq_some {n : SyntaxNode} {e : Expr} (h : n.expr? = some e) :
    n = .expr e := by
  cases n with
  | expr => exact congrArg _ (Option.some_inj.1 h)
  | _ => cases h

/-! ## Enumerations of places -/

/-- The list goes through the places at which something is found, each once and in their order. -/
def Enumerates {α : Type} (found : List Nat → Option α) (as : List α) : Prop :=
  ∃ entries : List (List Nat × α),
    entries.Pairwise (fun a b => a.1 < b.1) ∧
    (∀ place a, (place, a) ∈ entries ↔ found place = some a) ∧
    entries.map Prod.snd = as

namespace Enumerates

variable {n : SyntaxNode} {ns ms : List SyntaxNode} {ps qs : List NodePart}

theorem nil : Enumerates (below? []) [] := by
  refine ⟨[], .nil, fun place m => ?_, rfl⟩
  cases place <;> simp [below?]

theorem defaultValue (e : Expr) : Enumerates (below? [.defaultValue e]) [] := by
  refine ⟨[], .nil, fun place m => ?_, rfl⟩
  rcases place with _ | ⟨_ | i, place⟩ <;> simp [below?]

/-- A node comes before all that lies below it. -/
theorem node (h : Enumerates (below? ps) ns) (parts : n.parts = ps := by rfl) :
    Enumerates n.walked? (n :: ns) := by
  subst parts
  obtain ⟨entries, ascending, mem, rfl⟩ := h
  refine ⟨([], n) :: entries, List.pairwise_cons.2 ⟨?_, ascending⟩, fun place m => ?_, rfl⟩
  · rintro ⟨place, m⟩ found
    obtain ⟨i, rest, rfl, -⟩ := exists_cons_of_below? ((mem _ _).1 found)
    exact List.nil_lt_cons i rest
  · rw [List.mem_cons, mem]
    cases place with
    | nil => simp [SyntaxNode.walked?, below?, eq_comm]
    | cons i rest => simp [SyntaxNode.walked?, below?]

theorem part (h : Enumerates n.walked? ns) : Enumerates (below? [.walked n]) ns := by
  obtain ⟨entries, ascending, mem, rfl⟩ := h
  refine ⟨entries.map fun e => (0 :: e.1, e.2), ?_, fun place m => ?_, ?_⟩
  · rw [List.pairwise_map]
    exact ascending.imp fun h => List.cons_lt_cons_iff.2 (.inr ⟨rfl, h⟩)
  · rcases place with _ | ⟨_ | i, place⟩ <;> simp [below?, mem]
  · rw [List.map_map]
    rfl

theorem append (h : Enumerates (below? ps) ns) (k : Enumerates (below? qs) ms) :
    Enumerates (below? (ps ++ qs)) (ns ++ ms) := by
  obtain ⟨first, firstAscends, memFirst, rfl⟩ := h
  obtain ⟨second, secondAscends, memSecond, rfl⟩ := k
  refine ⟨first ++ second.map fun e => (shifted ps.length e.1, e.2), ?_, fun place m => ?_, ?_⟩
  · rw [List.pairwise_append, List.pairwise_map]
    refine ⟨firstAscends, secondAscends.imp (shifted_lt _), ?_⟩
    rintro ⟨place, m⟩ hm _ later
    obtain ⟨⟨place', m'⟩, hm', rfl⟩ := List.mem_map.1 later
    obtain ⟨i, rest, rfl, hi⟩ := exists_cons_of_below? ((memFirst _ _).1 hm)
    obtain ⟨j, rest', rfl, -⟩ := exists_cons_of_below? ((memSecond _ _).1 hm')
    exact List.cons_lt_cons_iff.2 (.inl (Nat.lt_add_right j hi))
  · rw [List.mem_append, List.mem_map]
    constructor
    · rintro (hm | ⟨⟨place', m'⟩, hm', same⟩)
      · have found := (memFirst _ _).1 hm
        obtain ⟨i, rest, rfl, hi⟩ := exists_cons_of_below? found
        rwa [below?_append_of_lt hi]
      · obtain ⟨rfl, rfl⟩ := Prod.mk.inj same
        rw [below?_append_shifted]
        exact (memSecond _ _).1 hm'
    · intro found
      obtain ⟨i, rest, rfl, -⟩ := exists_cons_of_below? found
      by_cases hi : i < ps.length
      · rw [below?_append_of_lt hi] at found
        exact .inl ((memFirst _ _).2 found)
      · have place : shifted ps.length ((i - ps.length) :: rest) = i :: rest := by
          rw [shifted, Nat.add_sub_cancel' (Nat.le_of_not_lt hi)]
        rw [← place, below?_append_shifted] at found
        exact .inr ⟨_, (memSecond _ _).2 found, by rw [place]⟩
  · rw [List.map_append, List.map_map]
    rfl

theorem defaults (ps : List Parameter) : Enumerates (below? (defaultParts ps)) [] := by
  induction ps with
  | nil => exact nil
  | cons p ps ih =>
    rw [defaultParts, List.filterMap_cons]
    cases p.defaultValue with
    | none => exact ih
    | some e => exact (defaultValue e).append ih

theorem flatMap {β : Type} {parts : β → List NodePart} {nodes : β → List SyntaxNode}
    (h : ∀ b, Enumerates (below? (parts b)) (nodes b)) (bs : List β) :
    Enumerates (below? (bs.flatMap parts)) (bs.flatMap nodes) := by
  induction bs with
  | nil => exact nil
  | cons b bs ih => exact (h b).append ih

/-- What is made of the nodes at some places stands at those places. -/
theorem filterMap {α β : Type} {found : List Nat → Option α} {as : List α} (f : α → Option β)
    (h : Enumerates found as) : Enumerates (fun place => (found place).bind f) (as.filterMap f) := by
  obtain ⟨entries, ascending, mem, rfl⟩ := h
  refine ⟨entries.filterMap fun e => (f e.2).map (e.1, ·), ?_, fun place b => ?_, ?_⟩
  · refine List.Pairwise.filterMap _ ?_ ascending
    intro e e' earlier b hb b' hb'
    obtain ⟨-, -, rfl⟩ := Option.map_eq_some_iff.1 hb
    obtain ⟨-, -, rfl⟩ := Option.map_eq_some_iff.1 hb'
    exact earlier
  · simp only [List.mem_filterMap, Option.map_eq_some_iff, Option.bind_eq_some_iff, ← mem]
    constructor
    · rintro ⟨e, he, b', made, same⟩
      obtain ⟨rfl, rfl⟩ := Prod.mk.inj same
      exact ⟨e.2, he, made⟩
    · rintro ⟨a, ha, made⟩
      exact ⟨(place, a), ha, b, made, rfl⟩
  · rw [List.map_filterMap, List.filterMap_map]
    refine congrArg (entries.filterMap ·) (funext fun e => ?_)
    cases made : f e.2 <;> simp [made]

end Enumerates

/-! ## The nodes of a tree -/

-- The listing of a tree is put together along its parts, and default values add nothing to it.
mutual

theorem Expr.enumerates : ∀ e : Expr, Enumerates (SyntaxNode.expr e).walked? e.nodes
  | .propertyAccess target _ _ => target.enumerates.part.node
  | .methodInvocation none _ _ arguments _ => (enumerates_arguments arguments).node
  | .methodInvocation (some target) _ _ arguments _ =>
    (target.enumerates.part.append (enumerates_arguments arguments)).node
  | .instanceCreation _ _ _ arguments _ => (enumerates_arguments arguments).node
  | .closure parameters body _ => ((Enumerates.defaults parameters).append body.enumerates).node
  | .await operand _ => operand.enumerates.part.node
  | .binary left _ right _ => (left.enumerates.part.append right.enumerates.part).node
  | .assignment target _ value _ => (target.enumerates.part.append value.enumerates.part).node
  | .conditional condition thenExpr elseExpr _ =>
    ((condition.enumerates.part.append thenExpr.enumerates.part).append elseExpr.enumerates.part).node
  | .cascade target sections _ => (target.enumerates.part.append (enumerates_exprs sections)).node
  | .list elements _ => (enumerates_exprs elements).node
  | .identifier _ _ => Enumerates.nil.node
  | .literal _ _ => Enumerates.nil.node
  | .this _ => Enumerates.nil.node
  | .other _ _ => Enumerates.nil.node

theorem enumerates_exprs : ∀ es : List Expr, Enumerates (below? (exprParts es)) (exprNodes es)
  | [] => .nil
  | e :: es => e.enumerates.part.append (enumerates_exprs es)

theorem enumerates_arguments : ∀ as : List Argument,
    Enumerates (below? (exprParts (as.map (·.value)))) (argumentNodes as)
  | [] => .nil
  | ⟨_, value⟩ :: rest => value.enumerates.part.append (enumerates_arguments rest)

theorem FunctionBody.enumerates : ∀ b : FunctionBody, Enumerates (below? b.parts) b.nodes
  | ⟨_, .empty⟩ => .nil
  | ⟨_, .expression e⟩ => e.enumerates.part
  | ⟨_, .block statements⟩ => enumerates_statements statements

theorem Statement.enumerates :
    ∀ s : Statement, Enumerates (SyntaxNode.statement s).walked? s.nodes
  | .block statements _ => (enumerates_statements statements).node
  | .expression e => e.enumerates.part.node
  | .returns none _ => Enumerates.nil.node
  | .returns (some value) _ => value.enumerates.part.node
  | .localVariable _ _ none _ => Enumerates.nil.node
  | .localVariable _ _ (some initializer) _ => initializer.enumerates.part.node
  | .branch condition thenBranch none _ =>
    (condition.enumerates.part.append thenBranch.enumerates.part).node
  | .branch condition thenBranch (some elseBranch) _ =>
    ((condition.enumerates.part.append thenBranch.enumerates.part).append
      elseBranch.enumerates.part).node
  | .attempt body catches none _ =>
    ((enumerates_statements body).append (enumerates_catches catches)).node (List.append_nil _)
  | .attempt body catches (some cleanup) _ =>
    (((enumerates_statements body).append (enumerates_catches catches)).append
      (enumerates_statements cleanup)).node
  | .loop none body _ => body.enumerates.part.node
  | .loop (some condition) body _ => (condition.enumerates.part.append body.enumerates.part).node
  | .other _ => Enumerates.nil.node

theorem enumerates_statements :
    ∀ ss : List Statement, Enumerates (below? (statementParts ss)) (statementNodes ss)
  | [] => .nil
  | s :: rest => s.enumerates.part.append (enumerates_statements rest)

theorem enumerates_catches : ∀ cs : List CatchClause,
    Enumerates (below? (cs.flatMap fun c => statementParts c.body)) (catchNodes cs)
  | [] => .nil
  | ⟨_, body⟩ :: rest => (enumerates_statements body).append (enumerates_catches rest)

end

/-! ## The nodes of a file -/

theorem enumerates_initializers (vs : List VariableDeclarator) :
    Enumerates (below? (exprParts (vs.filterMap (·.initializer)))) (initializerNodes vs) := by
  induction vs with
  | nil => exact .nil
  | cons v vs ih =>
    rw [List.filterMap_cons, initializerNodes, List.flatMap_cons]
    cases v.initializer with
    | none => exact ih
    | some e => exact e.enumerates.part.append ih

theorem FieldDecl.enumerates (f : FieldDecl) : Enumerates (SyntaxNode.field f).walked? f.nodes :=
  (enumerates_initializers f.declarators).node

theorem ClassMember.enumerates (m : ClassMember) : Enumerates m.node.walked? m.nodes := by
  cases m with
  | field f => exact f.enumerates
  | constructor k => exact ((Enumerates.defaults k.parameters).append k.body.enumerates).node
  | method m => exact ((Enumerates.defaults m.parameters).append m.body.enumerates).node

theorem ClassDecl.enumerates (c : ClassDecl) :
    Enumerates (SyntaxNode.classLike c).walked? c.nodes :=
  (Enumerates.flatMap (fun m => m.enumerates.part) c.members).node List.map_eq_flatMap

theorem FunctionDecl.enumerates (f : FunctionDecl) :
    Enumerates (SyntaxNode.function f).walked? (.function f :: f.body.nodes) :=
  ((Enumerates.defaults f.parameters).append f.body.enumerates).node

theorem Declaration.enumerates (d : Declaration) :
    Enumerates (SyntaxNode.declaration d).walked? d.nodes := by
  cases d with
  | classLike c => exact c.enumerates.part.node
  | function f => exact f.enumerates.part.node
  | variableList f => exact f.enumerates.part.node
  | other => exact Enumerates.nil.node

theorem CompilationUnit.enumerates (u : CompilationUnit) :
    Enumerates (SyntaxNode.unit u).walked? u.nodes := by
  have directive : ∀ d, Enumerates (below? [.walked (.directive d)]) [.directive d] :=
    fun d => Enumerates.part (Enumerates.nil.node)
  have directives := Enumerates.flatMap directive u.directives
  have declarations := Enumerates.flatMap (fun d => d.enumerates.part) u.declarations
  rw [← List.map_eq_flatMap, ← List.map_eq_flatMap] at directives
  rw [← List.map_eq_flatMap] at declarations
  exact (directives.append declarations).node

/-- A visitor that writes down expressions and goes on writes down the expressions of a file that stand
outside of the default values of parameters, each place once and in the order of the places. They are the
expressions that rules go through. And a visitor that writes down other nodes as well writes down the
same expressions in the same order. -/
theorem CompilationUnit.visited_exprs (u : CompilationUnit) :
    (∃ entries : List (List Nat × Expr),
      entries.Pairwise (fun a b => a.1 < b.1) ∧
      (∀ place e, (place, e) ∈ entries ↔
        (SyntaxNode.unit u).at? place = some (.expr e) ∧
          (SyntaxNode.unit u).inDefault place = false) ∧
      entries.map Prod.snd = Visitor.exprRecorder.visitUnit u []) ∧
    Visitor.exprRecorder.visitUnit u [] = u.exprs ∧
    ∀ others, ((Visitor.nodeRecorder others).visitUnit u []).filterMap SyntaxNode.expr? =
      Visitor.exprRecorder.visitUnit u [] := by
  have written := Visitor.visitUnit_exprRecorder u
  rw [written]
  refine ⟨?_, rfl, fun others => Visitor.filterMap_visitUnit_nodeRecorder others u⟩
  obtain ⟨entries, ascending, mem, exprs⟩ := u.enumerates.filterMap SyntaxNode.expr?
  refine ⟨entries, ascending, fun place e => ?_, exprs.trans u.filterMap_nodes⟩
  rw [mem, ← SyntaxNode.walked?_eq_some_iff, Option.bind_eq_some_iff]
  constructor
  · rintro ⟨n, found, isExpr⟩
    rwa [SyntaxNode.eq_of_expr?_eq_some isExpr] at found
  · exact fun found => ⟨_, found, rfl⟩

end ArchLint
