import ArchLint.Proofs.ConstructorSpelling
import ArchLint.Proofs.SpanMapping

/-! # Rules and the spans of a tree

Rules pick the classes, members and expressions that they report by names, modifiers, texts and walks,
and none of these depends on where a node stands. A span goes into a finding as it is. So a rule finds
the same in a tree with other spans, only at the other places.

* `FileContext.role_mapSpans`, `MethodDecl.fault?_mapSpans` and the like — what rules look at stays.
* `Finding.mapSpan` — a finding at a moved place.
* `Rule.Natural` — the findings in a moved tree are the moved findings.
* `ImportBoundary.natural_rule`, `Rule.natural_of_mem_catalog` — all rules are natural.
-/

namespace ArchLint

variable (f : Span → Span)

/-! ## Moved declarations -/

namespace CompilationUnit

variable (u : CompilationUnit)

theorem imports_mapSpans : (u.mapSpans f).imports = u.imports.map (Reference.mapSpans f) := by
  refine filterMap_of_natural fun d => ?_
  cases d with
  | reference kind => cases kind <;> rfl
  | library => rfl

theorem classes_mapSpans : (u.mapSpans f).classes = u.classes.map (ClassDecl.mapSpans f) := by
  refine filterMap_of_natural fun d => ?_
  cases d <;> rfl

end CompilationUnit

namespace ClassDecl

variable (c : ClassDecl)

theorem fields_mapSpans : (c.mapSpans f).fields = c.fields.map (FieldDecl.mapSpans f) := by
  refine filterMap_of_natural fun m => ?_
  cases m <;> rfl

theorem constructors_mapSpans :
    (c.mapSpans f).constructors = c.constructors.map (ConstructorDecl.mapSpans f) := by
  refine filterMap_of_natural fun m => ?_
  cases m <;> rfl

theorem methods_mapSpans : (c.mapSpans f).methods = c.methods.map (MethodDecl.mapSpans f) := by
  refine filterMap_of_natural fun m => ?_
  cases m <;> rfl

theorem superName?_mapSpans : (c.mapSpans f).superName? = c.superName? := by
  rw [superName?, superName?, mapSpans, Option.map_map]
  exact Option.map_congr fun t _ => t.baseName_mapSpans f

end ClassDecl

theorem FileContext.role_mapSpans (ctx : FileContext) (c : ClassDecl) :
    ctx.role (c.mapSpans f) = ctx.role c := by
  have flags : (c.mapSpans f).instanceFieldFlags = c.instanceFieldFlags := by
    rw [ClassDecl.instanceFieldFlags, ClassDecl.instanceFieldFlags, c.fields_mapSpans,
      filter_of_invariant fun _ => rfl, List.map_map]
    rfl
  have constConstructor :
      (c.mapSpans f).constructors.any (·.isConst) = c.constructors.any (·.isConst) := by
    rw [c.constructors_mapSpans, List.any_map]
    rfl
  exact ctx.role_congr rfl rfl (c.superName?_mapSpans f) flags constConstructor

/-! ## Registrations -/

section Registration

variable {suffixes : List String}

theorem Expr.isNamePath_mapSpans (e : Expr) : (e.mapSpans f).isNamePath = e.isNamePath := by
  cases e with
  | propertyAccess target => exact target.isNamePath_mapSpans
  | methodInvocation target => cases target <;> rfl
  | _ => rfl

theorem Expr.receiverPath?_mapSpans (e : Expr) : (e.mapSpans f).receiverPath? = e.receiverPath? := by
  cases e with
  | methodInvocation target =>
    cases target with
    | none => rfl
    | some target =>
      rw [mapSpans, receiverPath?, receiverPath?, target.isNamePath_mapSpans, target.render_mapSpans]
  | _ => rfl

theorem stateUnitNamed?_mapSpans (e : Expr) :
    stateUnitNamed? suffixes (e.mapSpans f) = stateUnitNamed? suffixes e := by
  rw [stateUnitNamed?, stateUnitNamed?, e.invokedName?_mapSpans, e.render_mapSpans,
    e.receiverPath?_mapSpans]

theorem producedExpr?_mapSpans (as : List Argument) :
    producedExpr? (mapArgumentSpans f as) = (producedExpr? as).map (Expr.mapSpans f) := by
  induction as with
  | nil => rfl
  | cons a as ih =>
    obtain ⟨name, value⟩ := a
    cases name with
    | some name => exact ih
    | none =>
      -- A closure gives what its body returns, anything else gives itself.
      cases value with
      | closure _ body => exact body.returned?_mapSpans f
      | methodInvocation target => cases target <;> rfl
      | _ => rfl

theorem registeredUnit?_mapSpans (types : List TypeExpr) (as : List Argument) :
    registeredUnit? suffixes (mapTypeSpans f types) (mapArgumentSpans f as) =
      registeredUnit? suffixes types as := by
  rw [registeredUnit?, registeredUnit?, renderTypes_mapTypeSpans, producedExpr?_mapSpans,
    Option.bind_map]
  simp only [Function.comp_def, stateUnitNamed?_mapSpans]

end Registration

/-! ## Members -/

theorem FunctionBody.isTrivial_mapSpans (b : FunctionBody) :
    (b.mapSpans f).isTrivial = b.isTrivial := by
  obtain ⟨modifier, content⟩ := b
  cases content with
  | expression e => exact e.isBareIdentifier_mapSpans f
  | empty | block => rfl

theorem MethodDecl.fault?_mapSpans (m : MethodDecl) : (m.mapSpans f).fault? = m.fault? := by
  have body : (m.mapSpans f).body.isTrivial = m.body.isTrivial := m.body.isTrivial_mapSpans f
  rw [MethodDecl.fault?, MethodDecl.fault?, MethodDecl.kindFault?, MethodDecl.kindFault?, body]
  rfl

theorem FieldDecl.names_mapSpans (d : FieldDecl) :
    (d.mapSpans f).declarators.map (·.name) = d.declarators.map (·.name) :=
  List.map_map

namespace ClassDecl

variable (c : ClassDecl) (fault : Fault)

theorem faultyFields_mapSpans :
    (c.mapSpans f).faultyFields fault = (c.faultyFields fault).map (FieldDecl.mapSpans f) := by
  rw [faultyFields, c.fields_mapSpans]
  exact filter_of_invariant fun _ => rfl

theorem faultyConstructors_mapSpans : (c.mapSpans f).faultyConstructors fault =
    (c.faultyConstructors fault).map (ConstructorDecl.mapSpans f) := by
  rw [faultyConstructors, c.constructors_mapSpans]
  exact filter_of_invariant fun _ => rfl

theorem faultyMethods_mapSpans :
    (c.mapSpans f).faultyMethods fault = (c.faultyMethods fault).map (MethodDecl.mapSpans f) := by
  rw [faultyMethods, c.methods_mapSpans]
  exact filter_of_invariant fun m => by rw [m.fault?_mapSpans]

end ClassDecl

theorem Expr.waits_mapSpans (e : Expr) : (e.mapSpans f).waits = e.waits := by
  cases e with
  | methodInvocation target => cases target <;> rfl
  | _ => rfl

theorem Statement.isAttempt_mapSpans (s : Statement) : (s.mapSpans f).isAttempt = s.isAttempt := by
  cases s with
  | returns value => cases value <;> rfl
  | localVariable _ _ initializer => cases initializer <;> rfl
  | branch _ _ elseBranch => cases elseBranch <;> rfl
  | attempt _ _ cleanup => cases cleanup <;> rfl
  | loop condition => cases condition <;> rfl
  | block | expression | other => rfl

theorem FunctionBody.runsAsyncLogic_mapSpans (b : FunctionBody) :
    (b.mapSpans f).runsAsyncLogic = b.runsAsyncLogic := by
  have statements : (b.nodes.map (SyntaxNode.mapSpans f)).filterMap SyntaxNode.statement? =
      (b.nodes.filterMap SyntaxNode.statement?).map (Statement.mapSpans f) := by
    refine filterMap_of_natural fun n => ?_
    cases n <;> rfl
  rw [runsAsyncLogic, runsAsyncLogic, b.nodes_mapSpans, filterMap_expr?_mapSpans, statements]
  simp only [List.any_map, Function.comp_def, Expr.waits_mapSpans, Statement.isAttempt_mapSpans]

/-! ## Moved findings -/

/-- The finding at the moved place. -/
def Finding.mapSpan (x : Finding) : Finding :=
  { x with span := f x.span }

namespace CompilationUnit

variable {f} {u : CompilationUnit} {p : ClassDecl → Bool}

theorem flatMap_filter_mapSpans {report : ClassDecl → List Finding}
    (hp : ∀ c, p (c.mapSpans f) = p c)
    (hr : ∀ c, report (c.mapSpans f) = (report c).map (Finding.mapSpan f)) :
    ((u.mapSpans f).classes.filter p).flatMap report =
      ((u.classes.filter p).flatMap report).map (Finding.mapSpan f) := by
  rw [u.classes_mapSpans, filter_of_invariant hp]
  exact flatMap_of_natural hr

theorem map_filter_mapSpans {report : ClassDecl → Finding} (hp : ∀ c, p (c.mapSpans f) = p c)
    (hr : ∀ c, report (c.mapSpans f) = (report c).mapSpan f) :
    ((u.mapSpans f).classes.filter p).map report =
      ((u.classes.filter p).map report).map (Finding.mapSpan f) := by
  rw [u.classes_mapSpans, filter_of_invariant hp]
  exact map_of_natural hr

end CompilationUnit

theorem discouraged?_mapSpans {suffixes : List String} (e : Expr) :
    discouraged? suffixes (e.mapSpans f) = (discouraged? suffixes e).map (Finding.mapSpan f) := by
  cases e with
  | methodInvocation target _ types as =>
    cases target <;>
      · simp only [Expr.mapSpans, discouraged?, registeredUnit?_mapSpans]
        split
        next => rw [Option.map_map]; rfl
        next => rfl
  | _ => rfl

theorem argumentFinding?_mapSpans (c : ClassDecl) (base : TypeExpr) (part : BlocPart) :
    argumentFinding? (c.mapSpans f) (base.mapSpans f) part =
      (argumentFinding? c base part).map (Finding.mapSpan f) := by
  obtain ⟨name, arguments, nullable, span⟩ := base
  simp only [argumentFinding?, TypeExpr.mapSpans, mapTypeSpans_eq_map, List.getElem?_map]
  cases arguments[part.position]? with
  | none => rfl
  | some argument =>
    simp only [Option.map_some, argument.baseName_mapSpans, argument.render_mapSpans]
    split <;> rfl

theorem blocFindings_mapSpans (suffix : String) (c : ClassDecl) (base : TypeExpr) :
    blocFindings suffix (c.mapSpans f) (base.mapSpans f) =
      (blocFindings suffix c base).map (Finding.mapSpan f) := by
  rw [blocFindings, blocFindings, List.map_append, List.map_filterMap]
  simp only [argumentFinding?_mapSpans]
  -- What is left is the finding about the name, which shows nothing of the base.
  congr 1
  rw [apply_ite (List.map (Finding.mapSpan f))]
  rfl

theorem partFinding?_mapSpans (c : ClassDecl) (part : BlocPart) :
    partFinding? (c.mapSpans f) part = (partFinding? c part).map (Finding.mapSpan f) := by
  have named : ((c.mapSpans f).superclass.toList ++ (c.mapSpans f).interfaces).any
      (Text.endsWith ·.baseName part.suffix) =
        (c.superclass.toList ++ c.interfaces).any (Text.endsWith ·.baseName part.suffix) := by
    simp [ClassDecl.mapSpans, Option.toList_map, Function.comp_def]
  rw [partFinding?, partFinding?, named]
  repeat' rw [apply_ite (Option.map (Finding.mapSpan f))]
  rfl

theorem blocFileFindings_mapSpans (ctx : FileContext) (c : ClassDecl) :
    blocFileFindings ctx (c.mapSpans f) = (blocFileFindings ctx c).map (Finding.mapSpan f) := by
  have base : (c.mapSpans f).blocBase? = c.blocBase?.map (TypeExpr.mapSpans f) := by
    rw [ClassDecl.blocBase?, ClassDecl.blocBase?, ClassDecl.mapSpans, Option.filter_map]
    simp only [Function.comp_def, TypeExpr.baseName_mapSpans]
  rw [blocFileFindings, blocFileFindings, base]
  cases c.blocBase? with
  | some base => exact blocFindings_mapSpans f ctx.naming.blocSuffix c base
  | none =>
    simp only [Option.map_none]
    split
    next => rw [partFinding?_mapSpans, Option.toList_map]
    next => rfl

theorem dependencyFinding?_mapSpans (c : ClassDecl) (d : FieldDecl) :
    dependencyFinding? (c.mapSpans f) (d.mapSpans f) =
      (dependencyFinding? c d).map (Finding.mapSpan f) := by
  simp only [dependencyFinding?, FieldDecl.mapSpans]
  cases d.type with
  | none => rfl
  | some type =>
    simp only [Option.map_some, type.render_mapSpans]
    split <;> rfl

theorem asyncFinding?_mapSpans (c : ClassDecl) (m : MethodDecl) :
    asyncFinding? (c.mapSpans f) (m.mapSpans f) = (asyncFinding? c m).map (Finding.mapSpan f) := by
  have body : (m.mapSpans f).body.runsAsyncLogic = m.body.runsAsyncLogic :=
    m.body.runsAsyncLogic_mapSpans f
  rw [asyncFinding?, asyncFinding?, body]
  split <;> rfl

/-! ## Natural rules -/

/-- Whatever the function on spans: the findings in a moved tree are the moved findings. -/
def Rule.Natural (r : Rule) : Prop :=
  ∀ f ctx u, r.findings ctx (u.mapSpans f) = (r.findings ctx u).map (List.map (Finding.mapSpan f))

theorem ImportBoundary.natural_rule (b : ImportBoundary) : b.rule.Natural := by
  intro f ctx u
  simp only [rule, Option.map_some, Option.some.injEq, u.imports_mapSpans]
  split
  next =>
    refine filterMap_of_natural fun r => ?_
    rw [finding?, finding?, Option.map_map]
    rfl
  next => rfl

namespace Rule

theorem modelReturned?_mapSpans (suffix : String) (c : ClassDecl) (m : MethodDecl) :
    modelReturned? suffix (c.mapSpans f) (m.mapSpans f) =
      (modelReturned? suffix c m).map (Finding.mapSpan f) := by
  simp only [modelReturned?, MethodDecl.mapSpans]
  cases m.returnType with
  | none => rfl
  | some type =>
    simp only [Option.map_some, type.render_mapSpans]
    split <;> rfl

theorem natural_ofEntities {name code description : String} {severity : Severity}
    {correction : String} {report : ClassDecl → List Finding}
    (natural : ∀ f c, report (c.mapSpans f) = (report c).map (Finding.mapSpan f)) :
    (ofEntities name code description severity correction report).Natural := by
  intro f ctx u
  refine congrArg some (CompilationUnit.flatMap_filter_mapSpans ?_ (natural f))
  intro c
  rw [ctx.role_mapSpans]

theorem natural_ofFaultyMethods {name code description : String} {severity : Severity}
    {correction : String} {fault : Fault} {message : ClassDecl → MethodDecl → String}
    (same : ∀ f c m, message (c.mapSpans f) (m.mapSpans f) = message c m) :
    (ofEntities name code description severity correction fun c =>
      (c.faultyMethods fault).map fun m => ⟨m.nameSpan, message c m⟩).Natural := by
  refine natural_ofEntities fun f c => ?_
  rw [c.faultyMethods_mapSpans]
  refine map_of_natural fun m => ?_
  rw [same]
  rfl

theorem natural_entityNoStatic : entityNoStatic.Natural := by
  refine natural_ofEntities fun f c => ?_
  rw [List.map_append, c.faultyFields_mapSpans, c.faultyMethods_mapSpans]
  congr 1
  · refine map_of_natural fun d => ?_
    rw [d.names_mapSpans]
    rfl
  · exact map_of_natural fun _ => rfl

theorem natural_entityNoSerialization : entityNoSerialization.Natural := by
  refine natural_ofEntities fun f c => ?_
  rw [List.map_append, c.faultyConstructors_mapSpans, c.faultyMethods_mapSpans]
  congr 1
  · exact map_of_natural fun _ => rfl
  · exact map_of_natural fun _ => rfl

theorem natural_modelExtendsEntity : modelExtendsEntity.Natural := by
  intro f ctx u
  refine congrArg some (CompilationUnit.map_filter_mapSpans ?_ fun _ => rfl)
  intro c
  rw [ctx.role_mapSpans, standsAlone, c.superName?_mapSpans]
  rfl

theorem natural_modelNamingConvention : modelNamingConvention.Natural := by
  intro f ctx u
  simp only [modelNamingConvention, Option.map_some, Option.some.injEq]
  split
  next => rfl
  next => exact CompilationUnit.map_filter_mapSpans (fun _ => rfl) fun _ => rfl

theorem natural_repositoryReturnsEntity : repositoryReturnsEntity.Natural := by
  intro f ctx u
  simp only [repositoryReturnsEntity, Option.map_some, Option.some.injEq]
  split
  next =>
    refine CompilationUnit.flatMap_filter_mapSpans (fun _ => rfl) fun c => ?_
    rw [c.methods_mapSpans]
    exact filterMap_of_natural (modelReturned?_mapSpans f _ c)
  next => rfl

theorem natural_repositoryAbstractInterface : repositoryAbstractInterface.Natural := by
  intro f ctx u
  simp only [repositoryAbstractInterface, Option.map_some, Option.some.injEq]
  split
  next => rfl
  next => exact CompilationUnit.map_filter_mapSpans (fun _ => rfl) fun _ => rfl

theorem natural_lazySingletonForBloc : lazySingletonForBloc.Natural := by
  intro f ctx u
  simp only [lazySingletonForBloc, Option.map_some, Option.some.injEq, u.exprs_mapSpans]
  exact filterMap_of_natural (discouraged?_mapSpans f)

theorem natural_blocInMultiProvider : blocInMultiProvider.Natural := by
  intro f ctx u
  refine congrArg some (CompilationUnit.flatMap_filter_mapSpans ?_ ?_)
  · intro c
    rw [ClassDecl.isWidgetLike, ClassDecl.isWidgetLike, c.superName?_mapSpans]
  · intro c
    rw [ClassDecl.buildMethods, c.methods_mapSpans, filter_of_invariant fun _ => rfl]
    refine flatMap_of_natural fun m => ?_
    have exprs : (m.mapSpans f).body.exprs = m.body.exprs.map (Expr.mapSpans f) :=
      m.body.exprs_mapSpans f
    rw [exprs, filter_of_invariant fun e => ?_]
    · refine map_of_natural fun e => ?_
      rw [e.span_mapSpans]
      rfl
    · rw [Expr.createsMultiProvider, Expr.createsMultiProvider, e.invokedName?_mapSpans]

theorem natural_blocNamingConvention : blocNamingConvention.Natural := by
  intro f ctx u
  simp only [blocNamingConvention, Option.map_some, Option.some.injEq]
  split
  next =>
    exact CompilationUnit.flatMap_filter_mapSpans (fun _ => rfl) (blocFileFindings_mapSpans f ctx)
  next => rfl

theorem natural_cubitSimpleState : cubitSimpleState.Natural := by
  intro f ctx u
  simp only [cubitSimpleState, Option.map_some, Option.some.injEq]
  split
  next =>
    refine CompilationUnit.flatMap_filter_mapSpans ?_ ?_
    · intro c
      simp only [FileContext.isCubitLike, ClassDecl.extendsBase, c.superName?_mapSpans,
        ctx.role_mapSpans]
    · intro c
      rw [List.map_append, c.fields_mapSpans, c.methods_mapSpans, filter_of_invariant fun _ => rfl]
      congr 1
      · exact filterMap_of_natural (dependencyFinding?_mapSpans f c)
      · exact filterMap_of_natural (asyncFinding?_mapSpans f c)
  next => rfl

theorem natural_of_mem_catalog {r : Rule} (builtin : r ∈ catalog) : r.Natural := by
  refine forall_mem_catalog ?entities ?models ?repositories ?boundaries ?stateUnits r builtin
  case entities =>
    exact ⟨natural_ofFaultyMethods fun _ _ _ => rfl, natural_ofFaultyMethods fun _ _ _ => rfl,
      natural_entityNoStatic, natural_entityNoSerialization,
      natural_ofFaultyMethods fun _ _ _ => rfl⟩
  case models => exact ⟨natural_modelExtendsEntity, natural_modelNamingConvention⟩
  case repositories => exact ⟨natural_repositoryReturnsEntity, natural_repositoryAbstractInterface⟩
  case boundaries =>
    exact ⟨ImportBoundary.natural_rule _, ImportBoundary.natural_rule _,
      ImportBoundary.natural_rule _⟩
  case stateUnits =>
    exact ⟨natural_lazySingletonForBloc, natural_blocInMultiProvider, natural_blocNamingConvention,
      natural_cubitSimpleState⟩

end Rule

end ArchLint
