import ArchLint.Rule.Catalog

/-! # Rules look at the pieces of a file one by one

A rule keeps no state from one import, class, function or variable to the next. So what it says of a
file falls apart into what it says of the pieces, and no piece changes what it says of another.

* `CompilationUnit.append` — the pieces of two files in one.
* `Rule.Additive` — the rule never breaks down, and its findings in two files put together are those
  in the first followed by those in the second.
* `ImportBoundary.additive_rule`, `Rule.additive_of_mem_catalog` — all rules are additive.
* `Rule.check?_append` — the same for diagnostics, and piece by piece.
-/

namespace ArchLint

namespace CompilationUnit

/-- The pieces of `u`, then those of `v`. -/
protected def append (u v : CompilationUnit) : CompilationUnit :=
  ⟨u.directives ++ v.directives, u.declarations ++ v.declarations⟩

instance : Append CompilationUnit := ⟨CompilationUnit.append⟩

@[simp] theorem append_mk (ds ds' : List Directive) (es es' : List Declaration) :
    (⟨ds, es⟩ ++ ⟨ds', es'⟩ : CompilationUnit) = ⟨ds ++ ds', es ++ es'⟩ := rfl

variable (u v : CompilationUnit)

@[simp] theorem imports_append : (u ++ v).imports = u.imports ++ v.imports :=
  List.filterMap_append

@[simp] theorem classes_append : (u ++ v).classes = u.classes ++ v.classes :=
  List.filterMap_append

@[simp] theorem exprs_append : (u ++ v).exprs = u.exprs ++ v.exprs :=
  List.flatMap_append

end CompilationUnit

@[simp] theorem FileContext.entities_append (ctx : FileContext) (u v : CompilationUnit) :
    ctx.entities (u ++ v) = ctx.entities u ++ ctx.entities v := by
  simp [entities]

/-! ## Additive rules -/

/-- What the rule finds in a file is put together from what it finds in its pieces. -/
def Rule.Additive (r : Rule) : Prop :=
  ∀ ctx, ∃ found : CompilationUnit → List Finding,
    (∀ u, r.findings ctx u = some (found u)) ∧ ∀ u v, found (u ++ v) = found u ++ found v

theorem ImportBoundary.additive_rule (b : ImportBoundary) : b.rule.Additive := by
  intro ctx
  refine ⟨_, fun _ => rfl, fun u v => ?_⟩
  split
  next => rw [CompilationUnit.imports_append, List.filterMap_append]
  next => rfl

namespace Rule

theorem additive_ofEntities {name code description : String} {severity : Severity}
    {correction : String} {report : ClassDecl → List Finding} :
    (ofEntities name code description severity correction report).Additive := by
  intro ctx
  refine ⟨_, fun _ => rfl, fun u v => ?_⟩
  rw [FileContext.entities_append, List.flatMap_append]

theorem additive_modelExtendsEntity : modelExtendsEntity.Additive := by
  intro ctx
  refine ⟨_, fun _ => rfl, fun u v => ?_⟩
  rw [CompilationUnit.classes_append, List.filter_append, List.map_append]

theorem additive_modelNamingConvention : modelNamingConvention.Additive := by
  intro ctx
  refine ⟨_, fun _ => rfl, fun u v => ?_⟩
  split
  next => rfl
  next => rw [CompilationUnit.classes_append, List.filter_append, List.map_append]

theorem additive_repositoryReturnsEntity : repositoryReturnsEntity.Additive := by
  intro ctx
  refine ⟨_, fun _ => rfl, fun u v => ?_⟩
  split
  next => rw [CompilationUnit.classes_append, List.filter_append, List.flatMap_append]
  next => rfl

theorem additive_repositoryAbstractInterface : repositoryAbstractInterface.Additive := by
  intro ctx
  refine ⟨_, fun _ => rfl, fun u v => ?_⟩
  split
  next => rfl
  next => rw [CompilationUnit.classes_append, List.filter_append, List.map_append]

theorem additive_lazySingletonForBloc : lazySingletonForBloc.Additive := by
  intro ctx
  refine ⟨_, fun _ => rfl, fun u v => ?_⟩
  rw [CompilationUnit.exprs_append, List.filterMap_append]

theorem additive_blocInMultiProvider : blocInMultiProvider.Additive := by
  intro ctx
  refine ⟨_, fun _ => rfl, fun u v => ?_⟩
  rw [CompilationUnit.classes_append, List.filter_append, List.flatMap_append]

theorem additive_blocNamingConvention : blocNamingConvention.Additive := by
  intro ctx
  refine ⟨_, fun _ => rfl, fun u v => ?_⟩
  split
  next => rw [CompilationUnit.classes_append, List.filter_append, List.flatMap_append]
  next => rfl

theorem additive_cubitSimpleState : cubitSimpleState.Additive := by
  intro ctx
  refine ⟨_, fun _ => rfl, fun u v => ?_⟩
  split
  next => rw [CompilationUnit.classes_append, List.filter_append, List.flatMap_append]
  next => rfl

theorem additive_of_mem_catalog {r : Rule} (builtin : r ∈ catalog) : r.Additive := by
  refine forall_mem_catalog ?entities ?models ?repositories ?boundaries ?stateUnits r builtin
  case entities =>
    exact ⟨additive_ofEntities, additive_ofEntities, additive_ofEntities, additive_ofEntities,
      additive_ofEntities⟩
  case models => exact ⟨additive_modelExtendsEntity, additive_modelNamingConvention⟩
  case repositories => exact ⟨additive_repositoryReturnsEntity, additive_repositoryAbstractInterface⟩
  case boundaries =>
    exact ⟨ImportBoundary.additive_rule _, ImportBoundary.additive_rule _,
      ImportBoundary.additive_rule _⟩
  case stateUnits =>
    exact ⟨additive_lazySingletonForBloc, additive_blocInMultiProvider,
      additive_blocNamingConvention, additive_cubitSimpleState⟩

end Rule

/-! ## Piece by piece -/

section Pieces

variable {α : Type} {report : CompilationUnit → List α}

theorem report_empty (additive : ∀ u v, report (u ++ v) = report u ++ report v) :
    report ⟨[], []⟩ = [] := by
  have twice := additive ⟨[], []⟩ ⟨[], []⟩
  simpa using twice

theorem report_eq_flatMap (additive : ∀ u v, report (u ++ v) = report u ++ report v)
    (ds : List Directive) (es : List Declaration) :
    report ⟨ds, es⟩ =
      (ds.flatMap fun d => report ⟨[d], []⟩) ++ es.flatMap fun e => report ⟨[], [e]⟩ := by
  -- The directives are split off one by one from the front, then the declarations.
  induction ds with
  | cons d ds ih =>
    rw [List.flatMap_cons, List.append_assoc, ← ih, ← additive]
    rfl
  | nil =>
    rw [List.flatMap_nil, List.nil_append]
    induction es with
    | nil => exact report_empty additive
    | cons e es ih =>
      rw [List.flatMap_cons, ← ih, ← additive]
      rfl

end Pieces

/-- For a built-in rule or a boundary: what it reports of two files put together is what it reports
of the first, followed by what it reports of the second. So its report on any file consists of what
it reports of every directive and of every declaration on its own. -/
theorem Rule.check?_append {r : Rule} (known : r ∈ catalog ∨ ∃ b : ImportBoundary, b.rule = r)
    (config : Config) (path : String) : ∃ report : CompilationUnit → List Diagnostic,
      (∀ u, r.check? config path u = some (report u)) ∧
      (∀ u v, report (u ++ v) = report u ++ report v) ∧
      ∀ u, report u = (u.directives.flatMap fun d => report ⟨[d], []⟩) ++
        u.declarations.flatMap fun e => report ⟨[], [e]⟩ := by
  have additive : r.Additive := by
    rcases known with builtin | ⟨b, rfl⟩
    · exact additive_of_mem_catalog builtin
    · exact b.additive_rule
  obtain ⟨found, finds, split⟩ := additive (config.contextOf path)
  let report (u : CompilationUnit) := (found u).map (r.diagnose path r.severity)
  have append : ∀ u v, report (u ++ v) = report u ++ report v := by
    intro u v
    simp only [report, split, List.map_append]
  refine ⟨report, fun u => ?_, append, fun u => ?_⟩
  · rw [check?, finds]
    rfl
  · exact report_eq_flatMap append u.directives u.declarations

/-- A file with one import. -/
def importing (uri : String) : CompilationUnit where
  directives := [.reference .imported { uri := uri }]

theorem domainNoDataImports_append :
    Rule.domainNoDataImports ∈ Rule.catalog ∧ ∃ report : CompilationUnit → List Diagnostic,
      (∀ u, Rule.domainNoDataImports.check? {} "domain/a.dart" u = some (report u)) ∧
      (report (importing "package:dio/dio.dart")).length = 1 ∧
      (report (importing "../data/b.dart")).length = 1 ∧
      report (importing "package:dio/dio.dart" ++ importing "../data/b.dart") =
        report (importing "package:dio/dio.dart") ++ report (importing "../data/b.dart") := by
  have builtin : Rule.domainNoDataImports ∈ Rule.catalog := by simp [Rule.catalog]
  obtain ⟨report, reports, append, -⟩ :=
    Rule.check?_append (.inl builtin) {} "domain/a.dart"
  have client : (Rule.domainNoDataImports.check? {} "domain/a.dart"
      (importing "package:dio/dio.dart")).map List.length = some 1 := by decide +kernel
  have directory : (Rule.domainNoDataImports.check? {} "domain/a.dart"
      (importing "../data/b.dart")).map List.length = some 1 := by decide +kernel
  rw [reports, Option.map_some, Option.some_inj] at client directory
  exact ⟨builtin, report, reports, client, directory, append _ _⟩

end ArchLint
