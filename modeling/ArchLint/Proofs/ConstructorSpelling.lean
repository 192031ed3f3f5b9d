import ArchLint.Proofs.Respelling
import ArchLint.Proofs.RoleEvidence
import ArchLint.Rule.Catalog

/-! # Rules and the spelling of constructor calls

Rules look at an expression through its text, through what it calls or through a walk, and none of these
tells two spellings of a constructor call apart. The one exception is a registration of a state unit
that a host gives as the creation of an instance of a type `registerFactory` or `registerSingleton`: the
rule about registrations looks for invocations only and passes it over.

* `Expr.isHiddenRegistration` — a registration that is passed over.
* `Rule.findings_respelled` — all other rules find the same in both trees.
* `catalog_respelled_iff` — when all rules do.
-/

namespace ArchLint

variable {u u' : CompilationUnit} {c c' : ClassDecl} {ctx : FileContext}

/-! ## Lists in step -/

section Lists

variable {α γ : Type} {R : α → α → Prop} {l l' : List α}

theorem flatMap_eq_of_forall₂ {g g' : α → List γ} (h : List.Forall₂ R l l')
    (hg : ∀ a a', R a a' → g a = g' a') : l.flatMap g = l'.flatMap g' := by
  induction h with
  | nil => rfl
  | cons head _ ih => rw [List.flatMap_cons, List.flatMap_cons, hg _ _ head, ih]

theorem map_eq_of_forall₂ {g g' : α → γ} (h : List.Forall₂ R l l')
    (hg : ∀ a a', R a a' → g a = g' a') : l.map g = l'.map g' := by
  rw [List.map_eq_flatMap, List.map_eq_flatMap]
  exact flatMap_eq_of_forall₂ h fun a a' r => by rw [hg a a' r]

theorem filterMap_eq_of_forall₂ {g g' : α → Option γ} (h : List.Forall₂ R l l')
    (hg : ∀ a a', R a a' → g a = g' a') : l.filterMap g = l'.filterMap g' := by
  rw [List.filterMap_eq_flatMap_toList, List.filterMap_eq_flatMap_toList]
  exact flatMap_eq_of_forall₂ h fun a a' r => by rw [hg a a' r]

theorem forall₂_filter {p : α → Bool} (h : List.Forall₂ R l l')
    (hp : ∀ a a', R a a' → p a = p a') : List.Forall₂ R (l.filter p) (l'.filter p) := by
  refine List.rel_filter (fun a a' r => ?_) h
  simp [hp a a' r]

variable {f : α → Option γ}

theorem length_filterMap_le_of_gain (h : List.Forall₂ (fun a b => f a = f b ∨ f a = none) l l') :
    (l.filterMap f).length ≤ (l'.filterMap f).length := by
  induction h with
  | nil => rfl
  | @cons a b _ _ head _ ih =>
    rcases head with same | none
    · rw [List.filterMap_cons, List.filterMap_cons, same]
      cases f b with
      | none => exact ih
      | some y => simpa using ih
    · rw [List.filterMap_cons_none none, List.filterMap_cons]
      cases f b with
      | none => exact ih
      | some y => exact Nat.le_succ_of_le ih

/-- If the second list gains values at some places and keeps all others, both lists give the same values
exactly when nothing is gained. -/
theorem filterMap_eq_iff_of_gain {P : α → α → Prop}
    (h : List.Forall₂ (fun a b => (f a = f b ∧ P a b) ∨ (f a = none ∧ (f b).isSome ∧ ¬ P a b)) l l') :
    l.filterMap f = l'.filterMap f ↔ List.Forall₂ P l l' := by
  induction h with
  | nil => simp
  | @cons a b l l' head tail ih =>
    rw [List.forall₂_cons, ← ih]
    rcases head with ⟨same, kept⟩ | ⟨none, gained, new⟩
    · rw [List.filterMap_cons, List.filterMap_cons, same]
      cases f b <;> simp [kept]
    · obtain ⟨y, hy⟩ := Option.isSome_iff_exists.1 gained
      rw [List.filterMap_cons_none none, List.filterMap_cons_some hy]
      refine ⟨fun equal => ?_, fun both => absurd both.1 new⟩
      -- No place loses its value, so with one gained the second list would be longer.
      have shorter := length_filterMap_le_of_gain (f := f) (tail.imp fun _ _ h => h.imp And.left And.left)
      rw [equal] at shorter
      exact absurd shorter (Nat.not_succ_le_self _)

end Lists

/-! ## Classes -/

theorem CompilationUnit.Respelled.classes (h : u.Respelled u') :
    List.Forall₂ ClassDecl.Respelled u.classes u'.classes := by
  obtain ⟨declarations⟩ := h
  refine List.rel_filterMap ?_ declarations
  intro d d' hd
  cases hd with
  | classLike c => exact .some c
  | function | variableList | other => exact .none

theorem CompilationUnit.Respelled.imports_eq (h : u.Respelled u') : u.imports = u'.imports := by
  cases h
  rfl

theorem CompilationUnit.Respelled.flatMap_filter_eq {γ : Type} {p : ClassDecl → Bool}
    {g : ClassDecl → List γ} (h : u.Respelled u') (hp : ∀ c c', c.Respelled c' → p c = p c')
    (hg : ∀ c c', c.Respelled c' → g c = g c') :
    (u.classes.filter p).flatMap g = (u'.classes.filter p).flatMap g :=
  flatMap_eq_of_forall₂ (forall₂_filter h.classes hp) hg

theorem CompilationUnit.Respelled.map_filter_eq {γ : Type} {p : ClassDecl → Bool}
    {g : ClassDecl → γ} (h : u.Respelled u') (hp : ∀ c c', c.Respelled c' → p c = p c')
    (hg : ∀ c c', c.Respelled c' → g c = g c') :
    (u.classes.filter p).map g = (u'.classes.filter p).map g :=
  map_eq_of_forall₂ (forall₂_filter h.classes hp) hg

namespace ClassDecl.Respelled

theorem fields (h : c.Respelled c') : List.Forall₂ FieldDecl.Respelled c.fields c'.fields := by
  obtain ⟨members⟩ := h
  refine List.rel_filterMap ?_ members
  intro m m' hm
  cases hm with
  | field f => exact .some f
  | constructor | method => exact .none

theorem constructors (h : c.Respelled c') :
    List.Forall₂ ConstructorDecl.Respelled c.constructors c'.constructors := by
  obtain ⟨members⟩ := h
  refine List.rel_filterMap ?_ members
  intro m m' hm
  cases hm with
  | constructor k => exact .some k
  | field | method => exact .none

theorem methods (h : c.Respelled c') : List.Forall₂ MethodDecl.Respelled c.methods c'.methods := by
  obtain ⟨members⟩ := h
  refine List.rel_filterMap ?_ members
  intro m m' hm
  cases hm with
  | method m => exact .some m
  | field | constructor => exact .none

theorem eq_with (h : c.Respelled c') : c' = { c with members := c'.members } := by
  cases h
  rfl

end ClassDecl.Respelled

theorem ClassDecl.Respelled.role_eq (h : c.Respelled c') : ctx.role c = ctx.role c' := by
  have flags : c.instanceFieldFlags = c'.instanceFieldFlags := by
    refine map_eq_of_forall₂ (forall₂_filter h.fields ?_) ?_ <;>
      · rintro f f' ⟨⟩
        rfl
  have constConstructor : c.constructors.any (·.isConst) = c'.constructors.any (·.isConst) := by
    have consts : c.constructors.map (·.isConst) = c'.constructors.map (·.isConst) := by
      refine map_eq_of_forall₂ h.constructors ?_
      rintro k k' ⟨⟩
      rfl
    simpa [List.any_map] using congrArg (List.any · id) consts
  -- The remaining parts of a class that its role depends on are not members.
  have members := h.eq_with
  apply FileContext.role_congr _ _ _ flags constConstructor <;> rw [members] <;> rfl

/-! ## Registrations -/

section Registration

variable {e e' : Expr} {as as' : List Argument} {suffixes : List String}

theorem Expr.Respelled.isNamePath_eq {e e' : Expr} (h : e.Respelled e') :
    e.isNamePath = e'.isNamePath := by
  cases h with
  | propertyAccess target =>
    rw [Expr.isNamePath, Expr.isNamePath]
    exact target.isNamePath_eq
  | _ => rfl
termination_by sizeOf e

theorem Expr.Respelled.receiverPath?_eq (h : e.Respelled e') : e.receiverPath? = e'.receiverPath? := by
  cases h with
  | methodInvocation target =>
    cases target with
    | none => rfl
    | some target =>
      rw [Expr.receiverPath?, Expr.receiverPath?, target.isNamePath_eq, target.render_eq]
  | _ => rfl

theorem Expr.Respelled.stateUnitNamed?_eq (h : e.Respelled e') :
    stateUnitNamed? suffixes e = stateUnitNamed? suffixes e' := by
  rw [stateUnitNamed?, stateUnitNamed?, h.invokedName?_eq, h.render_eq, h.receiverPath?_eq]

theorem producedExpr?_respelled (h : List.Forall₂ Argument.Respelled as as') :
    Option.Rel Expr.Respelled (producedExpr? as) (producedExpr? as') := by
  induction h with
  | nil => exact .none
  | cons head _ ih =>
    obtain @⟨name, _, _, value⟩ := head
    cases name with
    | some name => exact ih
    | none =>
      -- A closure gives what its body returns, anything else gives itself.
      have whole := value
      cases value with
      | closure _ body => exact body.returned?
      | _ => exact .some whole

theorem registeredUnit?_respelled (types : List TypeExpr)
    (h : List.Forall₂ Argument.Respelled as as') :
    registeredUnit? suffixes types as = registeredUnit? suffixes types as' := by
  have produced := producedExpr?_respelled h
  rw [registeredUnit?, registeredUnit?]
  generalize producedExpr? as = value at produced ⊢
  generalize producedExpr? as' = value' at produced ⊢
  cases produced with
  | none => rfl
  | some produced => simp only [Option.bind_some, produced.stateUnitNamed?_eq]

/-- The expression creates an instance, and would be reported as a registration if it were spelled as an
invocation. -/
def Expr.isHiddenRegistration (suffixes : List String) : Expr → Bool
  | .instanceCreation type _ _ arguments _ =>
    discouragedRegistrations.contains type.name &&
      (registeredUnit? suffixes type.arguments arguments).isSome
  | _ => false

/-- A respelled expression is reported like the first one, unless the first one was a hidden registration
and the second one is not. -/
theorem Expr.Respelled.discouraged? (h : e.Respelled e') :
    (discouraged? suffixes e = discouraged? suffixes e' ∧
        (e.isHiddenRegistration suffixes → e'.isHiddenRegistration suffixes)) ∨
      (discouraged? suffixes e = none ∧ (discouraged? suffixes e').isSome ∧
        ¬(e.isHiddenRegistration suffixes → e'.isHiddenRegistration suffixes)) := by
  cases h with
  | methodInvocation _ arguments =>
    left
    simp [ArchLint.discouraged?, registeredUnit?_respelled _ arguments, isHiddenRegistration]
  | instanceCreation arguments =>
    left
    simp [ArchLint.discouraged?, registeredUnit?_respelled _ arguments, isHiddenRegistration]
  | @asInvocation type as _ _ _ _ arguments =>
    -- The creation is never reported; the invocation is exactly when it was a hidden registration.
    simp only [ArchLint.discouraged?, isHiddenRegistration, ← registeredUnit?_respelled _ arguments]
    cases discouragedRegistrations.contains type.name <;>
      cases registeredUnit? suffixes type.arguments as <;> simp
  | _ =>
    left
    simp [ArchLint.discouraged?, isHiddenRegistration]

end Registration

/-! ## Members -/

theorem FieldDecl.Respelled.names_eq {f f' : FieldDecl} (h : f.Respelled f') :
    f.declarators.map (·.name) = f'.declarators.map (·.name) := by
  obtain ⟨declarators⟩ := h
  refine map_eq_of_forall₂ declarators ?_
  rintro v v' ⟨⟩
  rfl

theorem FunctionBody.Respelled.isTrivial_eq {b b' : FunctionBody} (h : b.Respelled b') :
    b.isTrivial = b'.isTrivial := by
  cases h with
  | expression expr => exact expr.isBareIdentifier_eq
  | empty | block => rfl

theorem MethodDecl.Respelled.fault?_eq {m m' : MethodDecl} (h : m.Respelled m') :
    m.fault? = m'.fault? := by
  obtain ⟨-, body⟩ := h
  rw [MethodDecl.fault?, MethodDecl.fault?, MethodDecl.kindFault?, MethodDecl.kindFault?,
    body.isTrivial_eq]

namespace ClassDecl.Respelled

theorem faultyFields (h : c.Respelled c') (fault : Fault) :
    List.Forall₂ FieldDecl.Respelled (c.faultyFields fault) (c'.faultyFields fault) := by
  refine forall₂_filter h.fields ?_
  rintro f f' ⟨⟩
  rfl

theorem faultyConstructors (h : c.Respelled c') (fault : Fault) :
    List.Forall₂ ConstructorDecl.Respelled (c.faultyConstructors fault)
      (c'.faultyConstructors fault) := by
  refine forall₂_filter h.constructors ?_
  rintro k k' ⟨⟩
  rfl

theorem faultyMethods (h : c.Respelled c') (fault : Fault) :
    List.Forall₂ MethodDecl.Respelled (c.faultyMethods fault) (c'.faultyMethods fault) :=
  forall₂_filter h.methods fun _ _ hm => by rw [hm.fault?_eq]

end ClassDecl.Respelled

theorem Expr.Respelled.waits_eq {e e' : Expr} (h : e.Respelled e') : e.waits = e'.waits := by
  cases h with
  | methodInvocation target => cases target <;> rfl
  | _ => rfl

theorem Statement.Respelled.isAttempt_eq {s s' : Statement} (h : s.Respelled s') :
    s.isAttempt = s'.isAttempt := by
  cases h <;> rfl

theorem FunctionBody.Respelled.runsAsyncLogic_eq {b b' : FunctionBody} (h : b.Respelled b') :
    b.runsAsyncLogic = b'.runsAsyncLogic := by
  have waiting : (b.nodes.filterMap SyntaxNode.expr?).map Expr.waits =
      (b'.nodes.filterMap SyntaxNode.expr?).map Expr.waits :=
    map_eq_of_forall₂ (exprs_respelled_of_nodes h.nodes) fun _ _ he => he.waits_eq
  have guarded : (b.nodes.filterMap SyntaxNode.statement?).map Statement.isAttempt =
      (b'.nodes.filterMap SyntaxNode.statement?).map Statement.isAttempt := by
    rw [List.map_filterMap, List.map_filterMap]
    refine filterMap_eq_of_forall₂ h.nodes ?_
    intro n n' hn
    cases hn with
    | statement hs => exact congrArg some hs.isAttempt_eq
    | expr => rfl
  have anyWaits := congrArg (List.any · id) waiting
  have anyGuards := congrArg (List.any · id) guarded
  simp only [List.any_map, Function.id_comp] at anyWaits anyGuards
  rw [FunctionBody.runsAsyncLogic, FunctionBody.runsAsyncLogic, anyWaits, anyGuards]

/-! ## Rules -/

namespace Rule

theorem ofEntities_respelled {name code description : String} {severity : Severity}
    {correction : String} {report : ClassDecl → List Finding} (h : u.Respelled u')
    (hr : ∀ c c', c.Respelled c' → report c = report c') :
    (ofEntities name code description severity correction report).findings ctx u =
      (ofEntities name code description severity correction report).findings ctx u' :=
  congrArg some (h.flatMap_filter_eq (fun _ _ hc => by rw [hc.role_eq]) hr)

theorem ofFaultyMethods_respelled {name code description : String} {severity : Severity}
    {correction : String} {fault : Fault} {message : ClassDecl → MethodDecl → String}
    (h : u.Respelled u') (same : ∀ c c' m m', c.Respelled c' → m.Respelled m' →
      message c m = message c' m') :
    (ofEntities name code description severity correction fun c =>
        (c.faultyMethods fault).map fun m => ⟨m.nameSpan, message c m⟩).findings ctx u =
      (ofEntities name code description severity correction fun c =>
        (c.faultyMethods fault).map fun m => ⟨m.nameSpan, message c m⟩).findings ctx u' := by
  refine ofEntities_respelled h fun c c' hc => map_eq_of_forall₂ (hc.faultyMethods fault) ?_
  intro m m' hm
  rw [same c c' m m' hc hm]
  cases hm
  rfl

theorem entityNoStatic_respelled (h : u.Respelled u') :
    entityNoStatic.findings ctx u = entityNoStatic.findings ctx u' := by
  refine ofEntities_respelled h fun c c' hc => congr (congrArg _ ?_) ?_
  · refine map_eq_of_forall₂ (hc.faultyFields _) ?_
    intro f f' hf
    rw [hf.names_eq]
    cases hc
    cases hf
    rfl
  · refine map_eq_of_forall₂ (hc.faultyMethods _) ?_
    cases hc
    rintro m m' ⟨⟩
    rfl

theorem entityNoSerialization_respelled (h : u.Respelled u') :
    entityNoSerialization.findings ctx u = entityNoSerialization.findings ctx u' := by
  refine ofEntities_respelled h fun c c' hc => congr (congrArg _ ?_) ?_
  · refine map_eq_of_forall₂ (hc.faultyConstructors _) ?_
    cases hc
    rintro k k' ⟨⟩
    rfl
  · refine map_eq_of_forall₂ (hc.faultyMethods _) ?_
    cases hc
    rintro m m' ⟨⟩
    rfl

theorem boundary_respelled (b : ImportBoundary) (h : u.Respelled u') :
    b.rule.findings ctx u = b.rule.findings ctx u' := by
  simp only [ImportBoundary.rule, h.imports_eq]

theorem modelExtendsEntity_respelled (h : u.Respelled u') :
    modelExtendsEntity.findings ctx u = modelExtendsEntity.findings ctx u' := by
  refine congrArg some (h.map_filter_eq ?_ ?_)
  · intro c c' hc
    rw [hc.role_eq]
    cases hc
    rfl
  · rintro c c' ⟨⟩
    rfl

theorem modelNamingConvention_respelled (h : u.Respelled u') :
    modelNamingConvention.findings ctx u = modelNamingConvention.findings ctx u' := by
  simp only [modelNamingConvention]
  split
  · rfl
  · refine congrArg some (h.map_filter_eq ?_ ?_) <;>
      · rintro c c' ⟨⟩
        rfl

theorem repositoryReturnsEntity_respelled (h : u.Respelled u') :
    repositoryReturnsEntity.findings ctx u = repositoryReturnsEntity.findings ctx u' := by
  simp only [repositoryReturnsEntity]
  split
  · refine congrArg some (h.flatMap_filter_eq ?_ ?_)
    · rintro c c' ⟨⟩
      rfl
    · intro c c' hc
      refine filterMap_eq_of_forall₂ hc.methods ?_
      cases hc
      rintro m m' ⟨⟩
      rfl
  · rfl

theorem repositoryAbstractInterface_respelled (h : u.Respelled u') :
    repositoryAbstractInterface.findings ctx u = repositoryAbstractInterface.findings ctx u' := by
  simp only [repositoryAbstractInterface]
  split
  · rfl
  · refine congrArg some (h.map_filter_eq ?_ ?_) <;>
      · rintro c c' ⟨⟩
        rfl

theorem blocInMultiProvider_respelled (h : u.Respelled u') :
    blocInMultiProvider.findings ctx u = blocInMultiProvider.findings ctx u' := by
  refine congrArg some (h.flatMap_filter_eq ?_ ?_)
  · rintro c c' ⟨⟩
    rfl
  · intro c c' hc
    refine flatMap_eq_of_forall₂ (forall₂_filter hc.methods ?_) ?_
    · rintro m m' ⟨⟩
      rfl
    · rintro m m' ⟨-, body⟩
      refine map_eq_of_forall₂ (forall₂_filter body.exprs ?_) ?_
      · intro e e' he
        rw [Expr.createsMultiProvider, Expr.createsMultiProvider, he.invokedName?_eq]
      · intro e e' he
        cases hc
        rw [he.span_eq]

theorem blocNamingConvention_respelled (h : u.Respelled u') :
    blocNamingConvention.findings ctx u = blocNamingConvention.findings ctx u' := by
  simp only [blocNamingConvention]
  split
  · refine congrArg some (h.flatMap_filter_eq ?_ ?_)
    · rintro c c' ⟨⟩
      rfl
    · rintro c c' ⟨⟩
      simp only [blocFileFindings, ClassDecl.blocBase?, blocFindings, partFinding?]
      rfl
  · rfl

theorem cubitSimpleState_respelled (h : u.Respelled u') :
    cubitSimpleState.findings ctx u = cubitSimpleState.findings ctx u' := by
  simp only [cubitSimpleState]
  split
  · refine congrArg some (h.flatMap_filter_eq ?_ ?_)
    · intro c c' hc
      rw [FileContext.isCubitLike, FileContext.isCubitLike, hc.role_eq]
      cases hc
      rfl
    · intro c c' hc
      have fields : List.Forall₂ FieldDecl.Respelled (c.fields.filter fun f => !f.isStatic)
          (c'.fields.filter fun f => !f.isStatic) := by
        refine forall₂_filter hc.fields ?_
        rintro f f' ⟨⟩
        rfl
      congr 1
      · refine filterMap_eq_of_forall₂ fields ?_
        cases hc
        rintro f f' ⟨⟩
        rfl
      · refine filterMap_eq_of_forall₂ hc.methods ?_
        cases hc
        rintro m m' ⟨-, body⟩
        rw [asyncFinding?, asyncFinding?, body.runsAsyncLogic_eq]
  · rfl

theorem findings_respelled {r : Rule} (builtIn : r ∈ catalog) (h : u.Respelled u') :
    r = lazySingletonForBloc ∨ r.findings ctx u = r.findings ctx u' := by
  refine forall_mem_catalog (P := fun r => r = lazySingletonForBloc ∨
    r.findings ctx u = r.findings ctx u') ?entities ?models ?repositories ?boundaries ?stateUnits
      r builtIn
  case entities =>
    exact ⟨.inr (ofFaultyMethods_respelled h (by rintro _ _ _ _ ⟨⟩ ⟨⟩; rfl)),
      .inr (ofFaultyMethods_respelled h (by rintro _ _ _ _ ⟨⟩ ⟨⟩; rfl)),
      .inr (entityNoStatic_respelled h), .inr (entityNoSerialization_respelled h),
      .inr (ofFaultyMethods_respelled h (by rintro _ _ _ _ ⟨⟩ ⟨⟩; rfl))⟩
  case models => exact ⟨.inr (modelExtendsEntity_respelled h), .inr (modelNamingConvention_respelled h)⟩
  case repositories =>
    exact ⟨.inr (repositoryReturnsEntity_respelled h), .inr (repositoryAbstractInterface_respelled h)⟩
  case boundaries =>
    exact ⟨.inr (boundary_respelled _ h), .inr (boundary_respelled _ h), .inr (boundary_respelled _ h)⟩
  case stateUnits =>
    exact ⟨.inl rfl, .inr (blocInMultiProvider_respelled h), .inr (blocNamingConvention_respelled h),
      .inr (cubitSimpleState_respelled h)⟩

/-- The rule about registrations finds the same in both trees exactly when no hidden registration is
respelled. -/
theorem lazySingletonForBloc_respelled_iff (h : u.Respelled u') :
    lazySingletonForBloc.findings ctx u = lazySingletonForBloc.findings ctx u' ↔
      List.Forall₂ (fun e e' => e.isHiddenRegistration [ctx.naming.blocSuffix, ctx.naming.cubitSuffix] →
        e'.isHiddenRegistration [ctx.naming.blocSuffix, ctx.naming.cubitSuffix]) u.exprs u'.exprs := by
  rw [lazySingletonForBloc, Option.some.injEq]
  exact filterMap_eq_iff_of_gain (h.exprs.imp fun _ _ he => he.discouraged?)

theorem diagnose_inj (r : Rule) (file : String) (severity : Severity) (f g : Finding)
    (h : r.diagnose file severity f = r.diagnose file severity g) : f = g := by
  obtain ⟨⟨_, _, _, _⟩, _⟩ := f
  obtain ⟨⟨_, _, _, _⟩, _⟩ := g
  simp only [diagnose, Location.ofSpan, Diagnostic.mk.injEq, Location.mk.injEq] at h
  simp_all

theorem check?_eq_iff {r : Rule} {config : Config} {file : String} :
    r.check? config file u = r.check? config file u' ↔
      r.findings (config.contextOf file) u = r.findings (config.contextOf file) u' := by
  rw [check?, check?]
  exact Option.map_inj_right fun _ _ => (List.map_inj_right (r.diagnose_inj file r.severity)).1

end Rule

/-! ## The catalog -/

/-- All rules but the one about registrations say the same of both trees. That one does too exactly when
no hidden registration is respelled, at any place that a walk reaches. -/
theorem catalog_respelled_iff (h : u.Respelled u') (config : Config) (path : String) :
    (∀ r ∈ Rule.catalog, r.name ≠ Rule.lazySingletonForBloc.name →
      r.check? config path u = r.check? config path u') ∧
    ((∀ r ∈ Rule.catalog, r.check? config path u = r.check? config path u') ↔
      List.Forall₂ (fun e e' =>
        e.isHiddenRegistration [config.naming.blocSuffix, config.naming.cubitSuffix] →
          e'.isHiddenRegistration [config.naming.blocSuffix, config.naming.cubitSuffix])
        u.exprs u'.exprs) := by
  have others : ∀ r ∈ Rule.catalog, r ≠ Rule.lazySingletonForBloc →
      r.check? config path u = r.check? config path u' := by
    intro r builtIn other
    rw [Rule.check?_eq_iff]
    exact (Rule.findings_respelled builtIn h).resolve_left other
  have registrations : Rule.lazySingletonForBloc.check? config path u =
      Rule.lazySingletonForBloc.check? config path u' ↔ _ :=
    Rule.check?_eq_iff.trans (Rule.lazySingletonForBloc_respelled_iff h)
  refine ⟨fun r builtIn other => others r builtIn fun equal => other (congrArg _ equal),
    fun all => registrations.1 (all _ (by simp [Rule.catalog])), fun kept r builtIn => ?_⟩
  -- The other rules agree in any case, so this one decides.
  by_cases registration : r = Rule.lazySingletonForBloc
  · rw [registration]
    exact registrations.2 kept
  · exact others r builtIn registration

/-! ## Both sides of the exception -/

def initUnit (call : Expr) : CompilationUnit where
  declarations := [.function { name := "init", body := ⟨.sync, .block [.expression call]⟩ }]

def producing (produced : Expr) : List Argument :=
  [⟨none, .closure [] ⟨.sync, .expression produced⟩ {}⟩]

/-- A registration of what `produced` builds, on a service locator. -/
def locatorUnit (produced : Expr) : CompilationUnit :=
  initUnit (.methodInvocation (some (.identifier "sl" {})) "registerFactory" [] (producing produced) {})

theorem locatorUnit_respelled :
    (locatorUnit (.instanceCreation { name := "AuthBloc" } none false [] {})).Respelled
      (locatorUnit (.methodInvocation none "AuthBloc" [] [] {})) ∧
    ∀ r ∈ Rule.catalog, r.check? {} "lib/injection_container.dart"
        (locatorUnit (.instanceCreation { name := "AuthBloc" } none false [] {})) =
      r.check? {} "lib/injection_container.dart"
        (locatorUnit (.methodInvocation none "AuthBloc" [] [] {})) := by
  have respelled : (locatorUnit (.instanceCreation { name := "AuthBloc" } none false [] {})).Respelled
      (locatorUnit (.methodInvocation none "AuthBloc" [] [] {})) := by
    refine .mk (.cons (.function (.mk .nil (.block (.cons (.expression ?_) .nil)))) .nil)
    refine .methodInvocation (.some .identifier) (.cons (.mk (.closure .nil (.expression ?_))) .nil)
    exact .asInvocation rfl (by decide) .nil
  refine ⟨respelled, ((catalog_respelled_iff respelled {} _).2).2 ?_⟩
  exact .cons (by simp [Expr.isHiddenRegistration]) (.cons (by simp [Expr.isHiddenRegistration])
    (.cons (by simp [Expr.isHiddenRegistration]) (.cons (by decide) .nil)))

/-- A registration that is spelled as the creation of an instance is passed over. -/
theorem registration_spelling_counts :
    ∃ u u' : CompilationUnit, u.Respelled u' ∧ Rule.lazySingletonForBloc ∈ Rule.catalog ∧
      Rule.lazySingletonForBloc.check? {} "lib/injection_container.dart" u ≠
        Rule.lazySingletonForBloc.check? {} "lib/injection_container.dart" u' := by
  let produced := producing (.methodInvocation none "AuthBloc" [] [] {})
  refine ⟨initUnit (.instanceCreation { name := "registerFactory" } none false produced {}),
    initUnit (.methodInvocation none "registerFactory" [] produced {}), ?_, by simp [Rule.catalog],
    by decide +kernel⟩
  refine .mk (.cons (.function (.mk .nil (.block (.cons (.expression ?_) .nil)))) .nil)
  refine .asInvocation rfl (by decide) (.cons (.mk (.closure .nil (.expression ?_))) .nil)
  exact .methodInvocation .none .nil

end ArchLint
