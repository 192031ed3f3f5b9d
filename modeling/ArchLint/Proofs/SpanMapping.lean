import Mathlib.Data.List.Basic
import ArchLint.Proofs.ListReading
import ArchLint.Proofs.Walks
import ArchLint.Syntax.Render

/-! # Moving the spans of a tree

A function on spans is applied to every span of a tree, and nothing else is changed. The texts of types
and expressions show no spans, and a walk through the new tree meets the moved nodes in the old order.

* `CompilationUnit.mapSpans`, `Expr.mapSpans` and the like — the tree with moved spans.
* `TypeExpr.render_mapSpans`, `Expr.render_mapSpans` — texts stay.
* `CompilationUnit.nodes_mapSpans`, `CompilationUnit.exprs_mapSpans` — walks.
* `FunctionBody.returned?_mapSpans` — what a body returns.
-/

namespace ArchLint

/-! ## Lists of moved elements -/

section Lists

variable {α β : Type} {move : α → α} {move' : β → β} {l : List α}

theorem filter_of_invariant {p p' : α → Bool} (h : ∀ a, p' (move a) = p a) :
    (l.map move).filter p' = (l.filter p).map move := by
  rw [List.filter_map]
  exact congrArg _ (List.filter_congr fun a _ => h a)

theorem map_of_natural {g g' : α → β} (h : ∀ a, g' (move a) = move' (g a)) :
    (l.map move).map g' = (l.map g).map move' := by
  rw [List.map_map, List.map_map]
  exact List.map_congr_left fun a _ => h a

theorem filterMap_of_natural {g g' : α → Option β} (h : ∀ a, g' (move a) = (g a).map move') :
    (l.map move).filterMap g' = (l.filterMap g).map move' := by
  rw [List.filterMap_map, List.map_filterMap]
  exact List.filterMap_congr fun a _ => h a

theorem flatMap_of_natural {g g' : α → List β} (h : ∀ a, g' (move a) = (g a).map move') :
    (l.map move).flatMap g' = (l.flatMap g).map move' := by
  rw [List.flatMap_map, List.map_flatMap]
  exact List.flatMap_congr fun a _ => h a

end Lists

variable (f : Span → Span)

/-! ## Moved spans -/

mutual

def TypeExpr.mapSpans : TypeExpr → TypeExpr
  | ⟨name, arguments, nullable, span⟩ => ⟨name, mapTypeSpans arguments, nullable, f span⟩

def mapTypeSpans : List TypeExpr → List TypeExpr
  | [] => []
  | t :: ts => t.mapSpans :: mapTypeSpans ts

end

mutual

def Expr.mapSpans : Expr → Expr
  | .identifier name span => .identifier name (f span)
  | .literal value span => .literal value (f span)
  | .this span => .this (f span)
  | .propertyAccess target property span => .propertyAccess target.mapSpans property (f span)
  | .methodInvocation none method types arguments span =>
    .methodInvocation none method (mapTypeSpans f types) (mapArgumentSpans arguments) (f span)
  | .methodInvocation (some target) method types arguments span =>
    .methodInvocation (some target.mapSpans) method (mapTypeSpans f types)
      (mapArgumentSpans arguments) (f span)
  | .instanceCreation type constructorName isConst arguments span =>
    .instanceCreation (type.mapSpans f) constructorName isConst (mapArgumentSpans arguments) (f span)
  | .closure parameters body span =>
    .closure (mapParameterSpans parameters) body.mapSpans (f span)
  | .await operand span => .await operand.mapSpans (f span)
  | .binary left operator right span => .binary left.mapSpans operator right.mapSpans (f span)
  | .assignment target operator value span =>
    .assignment target.mapSpans operator value.mapSpans (f span)
  | .conditional condition thenExpr elseExpr span =>
    .conditional condition.mapSpans thenExpr.mapSpans elseExpr.mapSpans (f span)
  | .cascade target sections span => .cascade target.mapSpans (mapExprSpans sections) (f span)
  | .list elements span => .list (mapExprSpans elements) (f span)
  | .other text span => .other text (f span)

def mapExprSpans : List Expr → List Expr
  | [] => []
  | e :: es => e.mapSpans :: mapExprSpans es

def mapArgumentSpans : List Argument → List Argument
  | [] => []
  | ⟨name, value⟩ :: rest => ⟨name, value.mapSpans⟩ :: mapArgumentSpans rest

def mapParameterSpans : List Parameter → List Parameter
  | [] => []
  | ⟨name, type, kind, isRequired, isFieldFormal, none⟩ :: rest =>
    ⟨name, type.map (TypeExpr.mapSpans f), kind, isRequired, isFieldFormal, none⟩ ::
      mapParameterSpans rest
  | ⟨name, type, kind, isRequired, isFieldFormal, some value⟩ :: rest =>
    ⟨name, type.map (TypeExpr.mapSpans f), kind, isRequired, isFieldFormal, some value.mapSpans⟩ ::
      mapParameterSpans rest

def FunctionBody.mapSpans : FunctionBody → FunctionBody
  | ⟨modifier, .empty⟩ => ⟨modifier, .empty⟩
  | ⟨modifier, .expression e⟩ => ⟨modifier, .expression e.mapSpans⟩
  | ⟨modifier, .block statements⟩ => ⟨modifier, .block (mapStatementSpans statements)⟩

def Statement.mapSpans : Statement → Statement
  | .block statements span => .block (mapStatementSpans statements) (f span)
  | .expression e => .expression e.mapSpans
  | .returns none span => .returns none (f span)
  | .returns (some value) span => .returns (some value.mapSpans) (f span)
  | .localVariable name type none span =>
    .localVariable name (type.map (TypeExpr.mapSpans f)) none (f span)
  | .localVariable name type (some initializer) span =>
    .localVariable name (type.map (TypeExpr.mapSpans f)) (some initializer.mapSpans) (f span)
  | .branch condition thenBranch none span =>
    .branch condition.mapSpans thenBranch.mapSpans none (f span)
  | .branch condition thenBranch (some elseBranch) span =>
    .branch condition.mapSpans thenBranch.mapSpans (some elseBranch.mapSpans) (f span)
  | .attempt body catches none span =>
    .attempt (mapStatementSpans body) (mapCatchSpans catches) none (f span)
  | .attempt body catches (some cleanup) span =>
    .attempt (mapStatementSpans body) (mapCatchSpans catches) (some (mapStatementSpans cleanup))
      (f span)
  | .loop none body span => .loop none body.mapSpans (f span)
  | .loop (some condition) body span => .loop (some condition.mapSpans) body.mapSpans (f span)
  | .other span => .other (f span)

def mapStatementSpans : List Statement → List Statement
  | [] => []
  | s :: rest => s.mapSpans :: mapStatementSpans rest

def mapCatchSpans : List CatchClause → List CatchClause
  | [] => []
  | ⟨exceptionType, body⟩ :: rest =>
    ⟨exceptionType.map (TypeExpr.mapSpans f), mapStatementSpans body⟩ :: mapCatchSpans rest

end

/-! ## Moved spans of declarations -/

def VariableDeclarator.mapSpans (v : VariableDeclarator) : VariableDeclarator where
  name := v.name
  initializer := v.initializer.map (Expr.mapSpans f)
  span := f v.span

def FieldDecl.mapSpans (d : FieldDecl) : FieldDecl :=
  { d with
    type := d.type.map (TypeExpr.mapSpans f)
    declarators := d.declarators.map (VariableDeclarator.mapSpans f)
    span := f d.span }

def ConstructorDecl.mapSpans (k : ConstructorDecl) : ConstructorDecl :=
  { k with
    parameters := mapParameterSpans f k.parameters
    body := k.body.mapSpans f
    span := f k.span }

def MethodDecl.mapSpans (m : MethodDecl) : MethodDecl :=
  { m with
    returnType := m.returnType.map (TypeExpr.mapSpans f)
    parameters := mapParameterSpans f m.parameters
    body := m.body.mapSpans f
    nameSpan := f m.nameSpan
    span := f m.span }

def FunctionDecl.mapSpans (d : FunctionDecl) : FunctionDecl where
  name := d.name
  returnType := d.returnType.map (TypeExpr.mapSpans f)
  parameters := mapParameterSpans f d.parameters
  body := d.body.mapSpans f
  span := f d.span

def ClassMember.mapSpans : ClassMember → ClassMember
  | .field d => .field (d.mapSpans f)
  | .constructor k => .constructor (k.mapSpans f)
  | .method m => .method (m.mapSpans f)

def ClassDecl.mapSpans (c : ClassDecl) : ClassDecl :=
  { c with
    superclass := c.superclass.map (TypeExpr.mapSpans f)
    interfaces := c.interfaces.map (TypeExpr.mapSpans f)
    mixins := c.mixins.map (TypeExpr.mapSpans f)
    members := c.members.map (ClassMember.mapSpans f)
    nameSpan := f c.nameSpan
    span := f c.span }

def Reference.mapSpans (r : Reference) : Reference :=
  { r with span := f r.span }

def Directive.mapSpans : Directive → Directive
  | .reference kind target => .reference kind (target.mapSpans f)
  | .library name span => .library name (f span)

def Declaration.mapSpans : Declaration → Declaration
  | .classLike c => .classLike (c.mapSpans f)
  | .function d => .function (d.mapSpans f)
  | .variableList d => .variableList (d.mapSpans f)
  | .other span => .other (f span)

def CompilationUnit.mapSpans (u : CompilationUnit) : CompilationUnit where
  directives := u.directives.map (Directive.mapSpans f)
  declarations := u.declarations.map (Declaration.mapSpans f)

/-- The file with moved spans. Its path and text stay. -/
def SourceUnit.mapSpans (s : SourceUnit) : SourceUnit :=
  { s with unit := s.unit.mapSpans f }

def SyntaxNode.mapSpans : SyntaxNode → SyntaxNode
  | .unit u => .unit (u.mapSpans f)
  | .directive d => .directive (d.mapSpans f)
  | .declaration d => .declaration (d.mapSpans f)
  | .classLike c => .classLike (c.mapSpans f)
  | .field d => .field (d.mapSpans f)
  | .constructor k => .constructor (k.mapSpans f)
  | .method m => .method (m.mapSpans f)
  | .function d => .function (d.mapSpans f)
  | .statement s => .statement (s.mapSpans f)
  | .expr e => .expr (e.mapSpans f)

/-! ## Texts -/

@[simp] theorem TypeExpr.baseName_mapSpans (t : TypeExpr) :
    (t.mapSpans f).baseName = t.baseName := by
  obtain ⟨name, arguments, nullable, span⟩ := t
  rw [TypeExpr.mapSpans]
  rfl

theorem mapTypeSpans_eq_map : ∀ ts, mapTypeSpans f ts = ts.map (TypeExpr.mapSpans f) :=
  eq_map_of_cons rfl fun _ _ => rfl

mutual

@[simp] theorem TypeExpr.render_mapSpans (t : TypeExpr) : (t.mapSpans f).render = t.render := by
  obtain ⟨name, arguments, nullable, span⟩ := t
  cases arguments with
  | nil => simp only [TypeExpr.mapSpans, mapTypeSpans, TypeExpr.render]
  | cons t ts =>
    simp only [TypeExpr.mapSpans, mapTypeSpans, TypeExpr.render, t.render_mapSpans,
      renderTypes_mapTypeSpans ts]

@[simp] theorem renderTypes_mapTypeSpans (ts : List TypeExpr) :
    renderTypes (mapTypeSpans f ts) = renderTypes ts := by
  cases ts with
  | nil => rfl
  | cons t ts =>
    simp only [mapTypeSpans, renderTypes, t.render_mapSpans, renderTypes_mapTypeSpans ts]

end

@[simp] theorem renderTypeArguments_mapTypeSpans (ts : List TypeExpr) :
    renderTypeArguments (mapTypeSpans f ts) = renderTypeArguments ts := by
  cases ts with
  | nil => rfl
  | cons t ts =>
    have texts := renderTypes_mapTypeSpans f (t :: ts)
    rw [mapTypeSpans] at texts ⊢
    rw [renderTypeArguments, renderTypeArguments, texts]
    · exact List.cons_ne_nil _ _
    · exact List.cons_ne_nil _ _

@[simp] theorem renderParameters_mapParameterSpans (ps : List Parameter) :
    renderParameters (mapParameterSpans f ps) = renderParameters ps := by
  have names : (mapParameterSpans f ps).map Parameter.name = ps.map Parameter.name := by
    induction ps with
    | nil => rfl
    | cons p ps ih =>
      obtain ⟨name, type, kind, isRequired, isFieldFormal, value⟩ := p
      cases value <;> simp only [mapParameterSpans, List.map_cons, ih]
  rw [renderParameters, renderParameters, names]

mutual

@[simp] theorem Expr.render_mapSpans (e : Expr) : (e.mapSpans f).render = e.render := by
  cases e with
  | identifier | literal | this | other => rfl
  | propertyAccess target => simp [Expr.mapSpans, Expr.render, target.render_mapSpans]
  | methodInvocation target _ types arguments =>
    cases target with
    | none => simp [Expr.mapSpans, Expr.render, renderArguments_mapArgumentSpans arguments]
    | some target =>
      simp [Expr.mapSpans, Expr.render, target.render_mapSpans,
        renderArguments_mapArgumentSpans arguments]
  | instanceCreation type _ _ arguments =>
    simp [Expr.mapSpans, Expr.render, renderArguments_mapArgumentSpans arguments]
  | closure parameters body =>
    -- Of a block the text shows only that there is one, so no statement is looked at.
    obtain ⟨modifier, content⟩ := body
    cases content with
    | empty => simp [Expr.mapSpans, FunctionBody.mapSpans, Expr.render]
    | expression e => simp [Expr.mapSpans, FunctionBody.mapSpans, Expr.render, e.render_mapSpans]
    | block => simp [Expr.mapSpans, FunctionBody.mapSpans, Expr.render]
  | await operand => simp [Expr.mapSpans, Expr.render, operand.render_mapSpans]
  | binary left _ right =>
    simp [Expr.mapSpans, Expr.render, left.render_mapSpans, right.render_mapSpans]
  | assignment target _ value =>
    simp [Expr.mapSpans, Expr.render, target.render_mapSpans, value.render_mapSpans]
  | conditional condition thenExpr elseExpr =>
    simp [Expr.mapSpans, Expr.render, condition.render_mapSpans, thenExpr.render_mapSpans,
      elseExpr.render_mapSpans]
  | cascade target sections =>
    simp [Expr.mapSpans, Expr.render, target.render_mapSpans, renderSections_mapExprSpans sections]
  | list elements => simp [Expr.mapSpans, Expr.render, renderExprs_mapExprSpans elements]

theorem renderExprs_mapExprSpans (es : List Expr) :
    renderExprs (mapExprSpans f es) = renderExprs es := by
  cases es with
  | nil => rfl
  | cons e es =>
    simp only [mapExprSpans, renderExprs, e.render_mapSpans, renderExprs_mapExprSpans es]

theorem renderSections_mapExprSpans (es : List Expr) :
    renderSections (mapExprSpans f es) = renderSections es := by
  cases es with
  | nil => rfl
  | cons e es =>
    simp only [mapExprSpans, renderSections, e.render_mapSpans, renderSections_mapExprSpans es]

theorem renderArguments_mapArgumentSpans (as : List Argument) :
    renderArguments (mapArgumentSpans f as) = renderArguments as := by
  cases as with
  | nil => rfl
  | cons a as =>
    obtain ⟨name, value⟩ := a
    cases name <;>
      simp only [mapArgumentSpans, renderArguments, value.render_mapSpans,
        renderArguments_mapArgumentSpans as]

end

/-! ## Single expressions -/

namespace Expr

variable (e : Expr)

@[simp] theorem span_mapSpans : (e.mapSpans f).span = f e.span := by
  cases e with
  | methodInvocation target => cases target <;> rfl
  | _ => rfl

@[simp] theorem isBareIdentifier_mapSpans : (e.mapSpans f).isBareIdentifier = e.isBareIdentifier := by
  cases e with
  | methodInvocation target => cases target <;> rfl
  | _ => rfl

@[simp] theorem invokedName?_mapSpans : (e.mapSpans f).invokedName? = e.invokedName? := by
  cases e with
  | methodInvocation target => cases target <;> rfl
  | instanceCreation type => simp [mapSpans, invokedName?]
  | _ => rfl

end Expr

/-! ## Walks -/

mutual

theorem Expr.nodes_mapSpans (e : Expr) :
    (e.mapSpans f).nodes = e.nodes.map (SyntaxNode.mapSpans f) := by
  cases e with
  | identifier | literal | this | other => rfl
  | propertyAccess target =>
    simp [Expr.mapSpans, Expr.nodes, SyntaxNode.mapSpans, target.nodes_mapSpans]
  | methodInvocation target _ _ arguments =>
    cases target with
    | none =>
      simp [Expr.mapSpans, Expr.nodes, SyntaxNode.mapSpans, argumentNodes_mapSpans arguments]
    | some target =>
      simp [Expr.mapSpans, Expr.nodes, SyntaxNode.mapSpans, target.nodes_mapSpans,
        argumentNodes_mapSpans arguments]
  | instanceCreation _ _ _ arguments =>
    simp [Expr.mapSpans, Expr.nodes, SyntaxNode.mapSpans, argumentNodes_mapSpans arguments]
  | closure _ body =>
    simp [Expr.mapSpans, Expr.nodes, SyntaxNode.mapSpans, body.nodes_mapSpans]
  | await operand =>
    simp [Expr.mapSpans, Expr.nodes, SyntaxNode.mapSpans, operand.nodes_mapSpans]
  | binary left _ right =>
    simp [Expr.mapSpans, Expr.nodes, SyntaxNode.mapSpans, left.nodes_mapSpans,
      right.nodes_mapSpans]
  | assignment target _ value =>
    simp [Expr.mapSpans, Expr.nodes, SyntaxNode.mapSpans, target.nodes_mapSpans,
      value.nodes_mapSpans]
  | conditional condition thenExpr elseExpr =>
    simp [Expr.mapSpans, Expr.nodes, SyntaxNode.mapSpans, condition.nodes_mapSpans,
      thenExpr.nodes_mapSpans, elseExpr.nodes_mapSpans]
  | cascade target sections =>
    simp [Expr.mapSpans, Expr.nodes, SyntaxNode.mapSpans, target.nodes_mapSpans,
      exprNodes_mapSpans sections]
  | list elements =>
    simp [Expr.mapSpans, Expr.nodes, SyntaxNode.mapSpans, exprNodes_mapSpans elements]

theorem exprNodes_mapSpans (es : List Expr) :
    exprNodes (mapExprSpans f es) = (exprNodes es).map (SyntaxNode.mapSpans f) := by
  cases es with
  | nil => rfl
  | cons e es => simp [mapExprSpans, exprNodes, e.nodes_mapSpans, exprNodes_mapSpans es]

theorem argumentNodes_mapSpans (as : List Argument) :
    argumentNodes (mapArgumentSpans f as) = (argumentNodes as).map (SyntaxNode.mapSpans f) := by
  cases as with
  | nil => rfl
  | cons a as =>
    obtain ⟨name, value⟩ := a
    simp [mapArgumentSpans, argumentNodes, value.nodes_mapSpans, argumentNodes_mapSpans as]

theorem FunctionBody.nodes_mapSpans (b : FunctionBody) :
    (b.mapSpans f).nodes = b.nodes.map (SyntaxNode.mapSpans f) := by
  obtain ⟨modifier, content⟩ := b
  cases content with
  | empty => rfl
  | expression e => simp [FunctionBody.mapSpans, FunctionBody.nodes, e.nodes_mapSpans]
  | block statements =>
    simp [FunctionBody.mapSpans, FunctionBody.nodes, statementNodes_mapSpans statements]

theorem Statement.nodes_mapSpans (s : Statement) :
    (s.mapSpans f).nodes = s.nodes.map (SyntaxNode.mapSpans f) := by
  cases s with
  | block statements =>
    simp [Statement.mapSpans, Statement.nodes, SyntaxNode.mapSpans,
      statementNodes_mapSpans statements]
  | expression e =>
    simp [Statement.mapSpans, Statement.nodes, SyntaxNode.mapSpans, e.nodes_mapSpans]
  | returns value =>
    cases value with
    | none => rfl
    | some value =>
      simp [Statement.mapSpans, Statement.nodes, SyntaxNode.mapSpans, value.nodes_mapSpans]
  | localVariable _ _ initializer =>
    cases initializer with
    | none => rfl
    | some initializer =>
      simp [Statement.mapSpans, Statement.nodes, SyntaxNode.mapSpans, initializer.nodes_mapSpans]
  | branch condition thenBranch elseBranch =>
    cases elseBranch with
    | none =>
      simp [Statement.mapSpans, Statement.nodes, SyntaxNode.mapSpans, condition.nodes_mapSpans,
        thenBranch.nodes_mapSpans]
    | some elseBranch =>
      simp [Statement.mapSpans, Statement.nodes, SyntaxNode.mapSpans, condition.nodes_mapSpans,
        thenBranch.nodes_mapSpans, elseBranch.nodes_mapSpans]
  | attempt body catches cleanup =>
    cases cleanup with
    | none =>
      simp [Statement.mapSpans, Statement.nodes, SyntaxNode.mapSpans, statementNodes_mapSpans body,
        catchNodes_mapSpans catches]
    | some cleanup =>
      simp [Statement.mapSpans, Statement.nodes, SyntaxNode.mapSpans, statementNodes_mapSpans body,
        catchNodes_mapSpans catches, statementNodes_mapSpans cleanup]
  | loop condition body =>
    cases condition with
    | none => simp [Statement.mapSpans, Statement.nodes, SyntaxNode.mapSpans, body.nodes_mapSpans]
    | some condition =>
      simp [Statement.mapSpans, Statement.nodes, SyntaxNode.mapSpans, condition.nodes_mapSpans,
        body.nodes_mapSpans]
  | other => rfl

theorem statementNodes_mapSpans (ss : List Statement) :
    statementNodes (mapStatementSpans f ss) =
      (statementNodes ss).map (SyntaxNode.mapSpans f) := by
  cases ss with
  | nil => rfl
  | cons s ss =>
    simp [mapStatementSpans, statementNodes, s.nodes_mapSpans, statementNodes_mapSpans ss]

theorem catchNodes_mapSpans (cs : List CatchClause) :
    catchNodes (mapCatchSpans f cs) = (catchNodes cs).map (SyntaxNode.mapSpans f) := by
  cases cs with
  | nil => rfl
  | cons c cs =>
    obtain ⟨exceptionType, body⟩ := c
    simp [mapCatchSpans, catchNodes, statementNodes_mapSpans body, catchNodes_mapSpans cs]

end

theorem initializerNodes_mapSpans (vs : List VariableDeclarator) :
    initializerNodes (vs.map (VariableDeclarator.mapSpans f)) =
      (initializerNodes vs).map (SyntaxNode.mapSpans f) := by
  refine flatMap_of_natural fun v => ?_
  rw [VariableDeclarator.mapSpans]
  cases v.initializer with
  | none => rfl
  | some initializer => exact initializer.nodes_mapSpans f

theorem FieldDecl.nodes_mapSpans (d : FieldDecl) :
    (d.mapSpans f).nodes = d.nodes.map (SyntaxNode.mapSpans f) :=
  congrArg (List.cons _) (initializerNodes_mapSpans f d.declarators)

theorem ClassMember.nodes_mapSpans (m : ClassMember) :
    (m.mapSpans f).nodes = m.nodes.map (SyntaxNode.mapSpans f) := by
  cases m with
  | field d => exact d.nodes_mapSpans f
  | constructor k => exact congrArg (List.cons _) (k.body.nodes_mapSpans f)
  | method m => exact congrArg (List.cons _) (m.body.nodes_mapSpans f)

theorem ClassDecl.nodes_mapSpans (c : ClassDecl) :
    (c.mapSpans f).nodes = c.nodes.map (SyntaxNode.mapSpans f) :=
  congrArg (List.cons _) (flatMap_of_natural (ClassMember.nodes_mapSpans f))

theorem Declaration.nodes_mapSpans (d : Declaration) :
    (d.mapSpans f).nodes = d.nodes.map (SyntaxNode.mapSpans f) := by
  refine congrArg (List.cons _) ?_
  cases d with
  | classLike c => exact c.nodes_mapSpans f
  | function d => exact congrArg (List.cons _) (d.body.nodes_mapSpans f)
  | variableList d => exact d.nodes_mapSpans f
  | other => rfl

theorem CompilationUnit.nodes_mapSpans (u : CompilationUnit) :
    (u.mapSpans f).nodes = u.nodes.map (SyntaxNode.mapSpans f) := by
  have directives : (u.mapSpans f).directives.map SyntaxNode.directive =
      (u.directives.map SyntaxNode.directive).map (SyntaxNode.mapSpans f) :=
    map_of_natural fun _ => rfl
  have declarations : (u.mapSpans f).declarations.flatMap Declaration.nodes =
      (u.declarations.flatMap Declaration.nodes).map (SyntaxNode.mapSpans f) :=
    flatMap_of_natural (Declaration.nodes_mapSpans f)
  rw [CompilationUnit.nodes, CompilationUnit.nodes, List.map_cons, List.map_append, directives,
    declarations]
  rfl

/-! ## Expressions alone -/

theorem filterMap_expr?_mapSpans (ns : List SyntaxNode) :
    (ns.map (SyntaxNode.mapSpans f)).filterMap SyntaxNode.expr? =
      (ns.filterMap SyntaxNode.expr?).map (Expr.mapSpans f) := by
  refine filterMap_of_natural fun n => ?_
  cases n <;> rfl

theorem FunctionBody.exprs_mapSpans (b : FunctionBody) :
    (b.mapSpans f).exprs = b.exprs.map (Expr.mapSpans f) := by
  rw [← FunctionBody.filterMap_nodes, b.nodes_mapSpans, filterMap_expr?_mapSpans,
    FunctionBody.filterMap_nodes]

theorem CompilationUnit.exprs_mapSpans (u : CompilationUnit) :
    (u.mapSpans f).exprs = u.exprs.map (Expr.mapSpans f) := by
  rw [← CompilationUnit.filterMap_nodes, u.nodes_mapSpans, filterMap_expr?_mapSpans,
    CompilationUnit.filterMap_nodes]

/-! ## What a body returns -/

mutual

theorem Statement.returned?_mapSpans (s : Statement) :
    (s.mapSpans f).returned? = s.returned?.map (Expr.mapSpans f) := by
  cases s with
  | returns value => cases value <;> rfl
  | block statements =>
    simp only [Statement.mapSpans, Statement.returned?, firstReturned?_mapSpans statements]
  | localVariable _ _ initializer => cases initializer <;> rfl
  | branch _ _ elseBranch => cases elseBranch <;> rfl
  | attempt _ _ cleanup => cases cleanup <;> rfl
  | loop condition => cases condition <;> rfl
  | expression | other => rfl

theorem firstReturned?_mapSpans (ss : List Statement) :
    firstReturned? (mapStatementSpans f ss) = (firstReturned? ss).map (Expr.mapSpans f) := by
  cases ss with
  | nil => rfl
  | cons s ss =>
    simp only [mapStatementSpans, firstReturned?, s.returned?_mapSpans,
      firstReturned?_mapSpans ss]
    cases s.returned? <;> rfl

end

theorem FunctionBody.returned?_mapSpans (b : FunctionBody) :
    (b.mapSpans f).returned? = b.returned?.map (Expr.mapSpans f) := by
  obtain ⟨modifier, content⟩ := b
  cases content with
  | empty | expression => rfl
  | block statements => exact firstReturned?_mapSpans f statements

end ArchLint
