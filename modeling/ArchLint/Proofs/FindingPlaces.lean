import ArchLint.Analyzer
import ArchLint.Proofs.SpanNaturality

/-! # Places come from the tree

A finding stands at a node that a walk through the file meets: at the name of a class or method, or at
the whole of an import, field, constructor or expression. Rules pass the span of the node on and never
look at it, so a file whose nodes stand elsewhere has the same diagnostics at the moved places.

* `SyntaxNode.reportSpan?` — where reports about a node stand.
* `Rule.Placed`, `Rule.placed_of_mem_catalog` — all findings of a rule stand at nodes of the file.
* `Analyzer.check_mapSpans` — the diagnostics of a moved file, and the places of all diagnostics.
-/

namespace ArchLint

/-! ## Nodes of a file -/

theorem expr_mem_of_mem_filterMap {ns : List SyntaxNode} {e : Expr}
    (h : e ∈ ns.filterMap SyntaxNode.expr?) : .expr e ∈ ns := by
  obtain ⟨n, hn, shown⟩ := List.mem_filterMap.1 h
  cases n with
  | expr e' =>
    cases shown
    exact hn
  | _ => cases shown

theorem FunctionBody.mem_nodes_of_mem_exprs {b : FunctionBody} {e : Expr} (h : e ∈ b.exprs) :
    .expr e ∈ b.nodes := by
  rw [← b.filterMap_nodes] at h
  exact expr_mem_of_mem_filterMap h

namespace ClassDecl

variable {c : ClassDecl} {m : ClassMember}

theorem nodes_subset_of_mem_members (h : m ∈ c.members) : m.nodes ⊆ c.nodes := fun _ hn =>
  List.mem_cons_of_mem _ (List.mem_flatMap_of_mem h hn)

theorem mem_nodes_of_mem_fields {d : FieldDecl} (h : d ∈ c.fields) : .field d ∈ c.nodes :=
  nodes_subset_of_mem_members (mem_members_of_mem_fields h) List.mem_cons_self

theorem mem_nodes_of_mem_constructors {k : ConstructorDecl} (h : k ∈ c.constructors) :
    .constructor k ∈ c.nodes :=
  nodes_subset_of_mem_members (mem_members_of_mem_constructors h) List.mem_cons_self

theorem nodes_subset_of_mem_methods {m : MethodDecl} (h : m ∈ c.methods) :
    .method m :: m.body.nodes ⊆ c.nodes :=
  nodes_subset_of_mem_members (mem_members_of_mem_methods h)

end ClassDecl

namespace CompilationUnit

variable {u : CompilationUnit}

theorem exists_directive_of_mem_imports {r : Reference} (h : r ∈ u.imports) :
    ∃ d, d.import? = some r ∧ .directive d ∈ u.nodes := by
  obtain ⟨d, hd, imported⟩ := List.mem_filterMap.1 h
  exact ⟨d, imported, List.mem_cons_of_mem _ (List.mem_append_left _ (List.mem_map_of_mem hd))⟩

theorem mem_nodes_of_mem_exprs {e : Expr} (h : e ∈ u.exprs) : .expr e ∈ u.nodes := by
  rw [← u.filterMap_nodes] at h
  exact expr_mem_of_mem_filterMap h

theorem nodes_subset_of_mem_classes {c : ClassDecl} (h : c ∈ u.classes) : c.nodes ⊆ u.nodes := by
  obtain ⟨d, hd, declared⟩ := List.mem_filterMap.1 h
  cases d with
  | classLike c' =>
    cases declared
    intro n hn
    exact List.mem_cons_of_mem _
      (List.mem_append_right _ (List.mem_flatMap_of_mem hd (List.mem_cons_of_mem _ hn)))
  | _ => cases declared

end CompilationUnit

/-! ## Findings at nodes -/

/-- Where reports about a node stand: at the name of a class or method, otherwise at the whole node. There
are none about statements, functions and directives that import nothing. -/
def SyntaxNode.reportSpan? : SyntaxNode → Option Span
  | .directive d => d.import?.map Reference.span
  | .classLike c => some c.nameSpan
  | .field d => some d.span
  | .constructor k => some k.span
  | .method m => some m.nameSpan
  | .expr e => some e.span
  | _ => none

/-- The finding stands at one of the nodes. -/
def Finding.StandsAmong (x : Finding) (ns : List SyntaxNode) : Prop :=
  ∃ n ∈ ns, n.reportSpan? = some x.span

theorem Finding.StandsAmong.mono {x : Finding} {ns ns' : List SyntaxNode} (h : x.StandsAmong ns)
    (sub : ns ⊆ ns') : x.StandsAmong ns' := by
  obtain ⟨n, hn, place⟩ := h
  exact ⟨n, sub hn, place⟩

/-- If whatever is found about a thing stands at its place, findings stand in the order of the things. -/
theorem map_span_filterMap {α : Type} {find : α → Option Finding} {place : α → Span}
    (h : ∀ a x, find a = some x → x.span = place a) (as : List α) :
    (as.filterMap find).map (·.span) = (as.filter fun a => (find a).isSome).map place := by
  induction as with
  | nil => rfl
  | cons a as ih =>
    cases found : find a with
    | none => simpa [found] using ih
    | some x => simpa [found, h a x found] using ih

theorem Rule.map_diagnose (r : Rule) (path : String) (severity : Severity) (xs : List Finding) :
    (xs.map (r.diagnose path severity)).map (fun d => (d.code, d.rule, d.location)) =
      (xs.map (·.span)).map fun s => (r.code, r.name, .ofSpan path s) := by
  rw [List.map_map, List.map_map]
  rfl

namespace ClassDecl

variable {c : ClassDecl} {x : Finding}

theorem standsAmong_of_nameSpan (h : x.span = c.nameSpan) : x.StandsAmong c.nodes :=
  ⟨.classLike c, List.mem_cons_self, congrArg some h.symm⟩

theorem standsAmong_of_mem_fields {d : FieldDecl} (hd : d ∈ c.fields) (h : x.span = d.span) :
    x.StandsAmong c.nodes :=
  ⟨.field d, mem_nodes_of_mem_fields hd, congrArg some h.symm⟩

theorem standsAmong_of_mem_constructors {k : ConstructorDecl} (hk : k ∈ c.constructors)
    (h : x.span = k.span) : x.StandsAmong c.nodes :=
  ⟨.constructor k, mem_nodes_of_mem_constructors hk, congrArg some h.symm⟩

theorem standsAmong_of_mem_methods {m : MethodDecl} (hm : m ∈ c.methods) (h : x.span = m.nameSpan) :
    x.StandsAmong c.nodes :=
  ⟨.method m, nodes_subset_of_mem_methods hm List.mem_cons_self, congrArg some h.symm⟩

theorem standsAmong_of_mem_faultyMethods {fault : Fault} {message : MethodDecl → String}
    (hx : x ∈ (c.faultyMethods fault).map fun m => ⟨m.nameSpan, message m⟩) :
    x.StandsAmong c.nodes := by
  obtain ⟨m, hm, rfl⟩ := List.mem_map.1 hx
  exact standsAmong_of_mem_methods (List.mem_filter.1 hm).1 rfl

end ClassDecl

namespace CompilationUnit

variable {u : CompilationUnit} {p : ClassDecl → Bool} {x : Finding}

theorem standsAmong_of_mem_flatMap {report : ClassDecl → List Finding}
    (placed : ∀ c, ∀ x ∈ report c, x.StandsAmong c.nodes)
    (hx : x ∈ (u.classes.filter p).flatMap report) : x.StandsAmong u.nodes := by
  obtain ⟨c, hc, reported⟩ := List.mem_flatMap.1 hx
  exact (placed c x reported).mono (nodes_subset_of_mem_classes (List.mem_filter.1 hc).1)

theorem standsAmong_of_mem_map {message : ClassDecl → String}
    (hx : x ∈ (u.classes.filter p).map fun c => ⟨c.nameSpan, message c⟩) :
    x.StandsAmong u.nodes := by
  rw [List.map_eq_flatMap] at hx
  refine standsAmong_of_mem_flatMap (fun c x reported => ?_) hx
  rw [List.mem_singleton.1 reported]
  exact ClassDecl.standsAmong_of_nameSpan rfl

end CompilationUnit

/-! ## Single findings -/

section Spans

variable {c : ClassDecl} {x : Finding}

theorem span_of_modelReturned? {suffix : String} {m : MethodDecl}
    (h : Rule.modelReturned? suffix c m = some x) : x.span = m.nameSpan := by
  rw [Rule.modelReturned?] at h
  split at h
  next => cases h
  next =>
    obtain ⟨-, ⟨⟩⟩ := Option.ite_none_right_eq_some.1 h
    rfl

theorem span_of_dependencyFinding? {d : FieldDecl} (h : dependencyFinding? c d = some x) :
    x.span = d.span := by
  rw [dependencyFinding?] at h
  split at h
  next => cases h
  next =>
    obtain ⟨-, ⟨⟩⟩ := Option.ite_none_right_eq_some.1 h
    rfl

theorem span_of_asyncFinding? {m : MethodDecl} (h : asyncFinding? c m = some x) :
    x.span = m.nameSpan := by
  obtain ⟨-, ⟨⟩⟩ := Option.ite_none_right_eq_some.1 h
  rfl

theorem span_of_discouraged? {suffixes : List String} {e : Expr}
    (h : discouraged? suffixes e = some x) : x.span = e.span := by
  cases e with
  | methodInvocation =>
    obtain ⟨-, registered⟩ := Option.ite_none_right_eq_some.1 h
    obtain ⟨unit, -, rfl⟩ := Option.map_eq_some_iff.1 registered
    rfl
  | _ => cases h

theorem span_of_argumentFinding? {base : TypeExpr} {part : BlocPart}
    (h : argumentFinding? c base part = some x) : x.span = c.nameSpan := by
  rw [argumentFinding?] at h
  split at h
  next => cases h
  next =>
    obtain ⟨-, ⟨⟩⟩ := Option.ite_none_left_eq_some.1 h
    rfl

theorem span_of_partFinding? {part : BlocPart} (h : partFinding? c part = some x) :
    x.span = c.nameSpan := by
  obtain ⟨-, unrelated⟩ := Option.ite_none_left_eq_some.1 h
  obtain ⟨-, ⟨⟩⟩ := Option.ite_none_left_eq_some.1 unrelated
  rfl

theorem span_of_mem_blocFindings {suffix : String} {base : TypeExpr}
    (h : x ∈ blocFindings suffix c base) : x.span = c.nameSpan := by
  rcases List.mem_append.1 h with name | argument
  · split at name
    next => cases name
    next => rw [List.mem_singleton.1 name]
  · obtain ⟨part, -, found⟩ := List.mem_filterMap.1 argument
    exact span_of_argumentFinding? found

theorem span_of_mem_blocFileFindings {ctx : FileContext} (h : x ∈ blocFileFindings ctx c) :
    x.span = c.nameSpan := by
  rw [blocFileFindings] at h
  split at h
  next => exact span_of_mem_blocFindings h
  next =>
    split at h
    next => exact span_of_partFinding? (Option.mem_toList.1 h)
    next => cases h

end Spans

/-! ## Rules whose findings stand at nodes -/

/-- All findings of the rule stand at nodes of the file. -/
def Rule.Placed (r : Rule) : Prop :=
  ∀ ctx u found, r.findings ctx u = some found → ∀ x ∈ found, x.StandsAmong u.nodes

theorem ImportBoundary.placed_rule (b : ImportBoundary) : b.rule.Placed := by
  rintro ctx u _ ⟨⟩ x hx
  split at hx
  next =>
    obtain ⟨r, hr, crossed⟩ := List.mem_filterMap.1 hx
    obtain ⟨reason, -, rfl⟩ := Option.map_eq_some_iff.1 crossed
    obtain ⟨d, imported, hd⟩ := CompilationUnit.exists_directive_of_mem_imports hr
    exact ⟨.directive d, hd, by rw [SyntaxNode.reportSpan?, imported]; rfl⟩
  next => cases hx

namespace Rule

theorem placed_ofEntities {name code description : String} {severity : Severity}
    {correction : String} {report : ClassDecl → List Finding}
    (placed : ∀ c, ∀ x ∈ report c, x.StandsAmong c.nodes) :
    (ofEntities name code description severity correction report).Placed := by
  rintro ctx u _ ⟨⟩ x hx
  exact CompilationUnit.standsAmong_of_mem_flatMap placed hx

theorem placed_entityNoStatic : entityNoStatic.Placed := by
  refine placed_ofEntities fun c x hx => ?_
  rcases List.mem_append.1 hx with field | method
  · obtain ⟨d, hd, rfl⟩ := List.mem_map.1 field
    exact ClassDecl.standsAmong_of_mem_fields (List.mem_filter.1 hd).1 rfl
  · exact ClassDecl.standsAmong_of_mem_faultyMethods method

theorem placed_entityNoSerialization : entityNoSerialization.Placed := by
  refine placed_ofEntities fun c x hx => ?_
  rcases List.mem_append.1 hx with constructor | method
  · obtain ⟨k, hk, rfl⟩ := List.mem_map.1 constructor
    exact ClassDecl.standsAmong_of_mem_constructors (List.mem_filter.1 hk).1 rfl
  · exact ClassDecl.standsAmong_of_mem_faultyMethods method

theorem placed_modelExtendsEntity : modelExtendsEntity.Placed := by
  rintro ctx u _ ⟨⟩ x hx
  exact CompilationUnit.standsAmong_of_mem_map hx

theorem placed_modelNamingConvention : modelNamingConvention.Placed := by
  rintro ctx u _ ⟨⟩ x hx
  split at hx
  next => cases hx
  next => exact CompilationUnit.standsAmong_of_mem_map hx

theorem placed_repositoryReturnsEntity : repositoryReturnsEntity.Placed := by
  rintro ctx u _ ⟨⟩ x hx
  split at hx
  next =>
    refine CompilationUnit.standsAmong_of_mem_flatMap (fun c x reported => ?_) hx
    obtain ⟨m, hm, returned⟩ := List.mem_filterMap.1 reported
    exact ClassDecl.standsAmong_of_mem_methods hm (span_of_modelReturned? returned)
  next => cases hx

theorem placed_repositoryAbstractInterface : repositoryAbstractInterface.Placed := by
  rintro ctx u _ ⟨⟩ x hx
  split at hx
  next => cases hx
  next => exact CompilationUnit.standsAmong_of_mem_map hx

theorem placed_lazySingletonForBloc : lazySingletonForBloc.Placed := by
  rintro ctx u _ ⟨⟩ x hx
  obtain ⟨e, he, discouraged⟩ := List.mem_filterMap.1 hx
  exact ⟨.expr e, CompilationUnit.mem_nodes_of_mem_exprs he,
    congrArg some (span_of_discouraged? discouraged).symm⟩

theorem placed_blocInMultiProvider : blocInMultiProvider.Placed := by
  rintro ctx u _ ⟨⟩ x hx
  refine CompilationUnit.standsAmong_of_mem_flatMap (fun c x reported => ?_) hx
  obtain ⟨m, hm, built⟩ := List.mem_flatMap.1 reported
  obtain ⟨e, he, rfl⟩ := List.mem_map.1 built
  have expr : .expr e ∈ m.body.nodes :=
    FunctionBody.mem_nodes_of_mem_exprs (List.mem_filter.1 he).1
  have method : .method m :: m.body.nodes ⊆ c.nodes :=
    ClassDecl.nodes_subset_of_mem_methods (List.mem_filter.1 hm).1
  exact ⟨.expr e, method (List.mem_cons_of_mem _ expr), rfl⟩

theorem placed_blocNamingConvention : blocNamingConvention.Placed := by
  rintro ctx u _ ⟨⟩ x hx
  split at hx
  next =>
    refine CompilationUnit.standsAmong_of_mem_flatMap (fun c x reported => ?_) hx
    exact ClassDecl.standsAmong_of_nameSpan (span_of_mem_blocFileFindings reported)
  next => cases hx

theorem placed_cubitSimpleState : cubitSimpleState.Placed := by
  rintro ctx u _ ⟨⟩ x hx
  split at hx
  next =>
    refine CompilationUnit.standsAmong_of_mem_flatMap (fun c x reported => ?_) hx
    rcases List.mem_append.1 reported with field | method
    · obtain ⟨d, hd, dependency⟩ := List.mem_filterMap.1 field
      exact ClassDecl.standsAmong_of_mem_fields (List.mem_filter.1 hd).1
        (span_of_dependencyFinding? dependency)
    · obtain ⟨m, hm, async⟩ := List.mem_filterMap.1 method
      exact ClassDecl.standsAmong_of_mem_methods hm (span_of_asyncFinding? async)
  next => cases hx

theorem placed_of_mem_catalog {r : Rule} (builtin : r ∈ catalog) : r.Placed := by
  refine forall_mem_catalog ?entities ?models ?repositories ?boundaries ?stateUnits r builtin
  case entities =>
    exact ⟨placed_ofEntities fun _ _ => ClassDecl.standsAmong_of_mem_faultyMethods,
      placed_ofEntities fun _ _ => ClassDecl.standsAmong_of_mem_faultyMethods,
      placed_entityNoStatic, placed_entityNoSerialization,
      placed_ofEntities fun _ _ => ClassDecl.standsAmong_of_mem_faultyMethods⟩
  case models => exact ⟨placed_modelExtendsEntity, placed_modelNamingConvention⟩
  case repositories => exact ⟨placed_repositoryReturnsEntity, placed_repositoryAbstractInterface⟩
  case boundaries =>
    exact ⟨ImportBoundary.placed_rule _, ImportBoundary.placed_rule _, ImportBoundary.placed_rule _⟩
  case stateUnits =>
    exact ⟨placed_lazySingletonForBloc, placed_blocInMultiProvider, placed_blocNamingConvention,
      placed_cubitSimpleState⟩

end Rule

/-! ## Diagnostics -/

/-- Where the place is in its file. -/
def Location.span (l : Location) : Span :=
  ⟨l.offset, l.length, l.line, l.column⟩

/-- The diagnostic at the moved place. -/
def Diagnostic.mapSpan (f : Span → Span) (d : Diagnostic) : Diagnostic :=
  { d with location := .ofSpan d.location.file (f d.location.span) }

namespace Analyzer

variable {a : Analyzer} {r : Rule}

theorem checkRule_mapSpans (natural : r.Natural) (f : Span → Span) (unit : SourceUnit) :
    a.checkRule (unit.mapSpans f) r = (a.checkRule unit r).map (Diagnostic.mapSpan f) := by
  simp only [checkRule, SourceUnit.mapSpans, natural f]
  split
  next => rfl
  next =>
    cases r.findings (a.config.contextOf unit.path) unit.unit with
    | none => rfl
    | some found => exact map_of_natural fun _ => rfl

theorem place_of_mem_checkRule (placed : r.Placed) {unit : SourceUnit} {d : Diagnostic}
    (h : d ∈ a.checkRule unit r) : ∃ n ∈ unit.unit.nodes, ∃ span,
      n.reportSpan? = some span ∧ d.location = .ofSpan unit.path span := by
  obtain ⟨-, found, finds, x, hx, rfl⟩ := mem_checkRule.1 h
  obtain ⟨n, hn, place⟩ := placed _ _ found finds x hx
  exact ⟨n, hn, x.span, place, rfl⟩

/-- For built-in rules and boundaries: whatever the spans of a tree are changed to, the diagnostics are
the same, in the same order, and only their places change in the same way. And each stands at the span of
a node of the tree: the name of a class or method, or the whole of an import, field, constructor or
expression. -/
theorem check_mapSpans (known : ∀ r ∈ a.rules, r ∈ Rule.catalog ∨ ∃ b : ImportBoundary, b.rule = r)
    (unit : SourceUnit) :
    (∀ f : Span → Span, a.check (unit.mapSpans f) = (a.check unit).map (Diagnostic.mapSpan f)) ∧
    ∀ d ∈ a.check unit, ∃ n ∈ unit.unit.nodes, ∃ span,
      n.reportSpan? = some span ∧ d.location = .ofSpan unit.path span := by
  constructor
  · intro f
    -- Files are passed over for their paths, so both are or none is.
    have skips : a.skips (unit.mapSpans f) = a.skips unit := rfl
    refine check_eq_map skips fun r hr => ?_
    rcases known r hr with builtin | ⟨b, rfl⟩
    · exact checkRule_mapSpans (Rule.natural_of_mem_catalog builtin) f unit
    · exact checkRule_mapSpans b.natural_rule f unit
  · intro d hd
    obtain ⟨-, r, hr, reported⟩ := mem_check.1 hd
    rcases known r hr with builtin | ⟨b, rfl⟩
    · exact place_of_mem_checkRule (Rule.placed_of_mem_catalog builtin) reported
    · exact place_of_mem_checkRule b.placed_rule reported

/-- A file with an import on its first line and an entity with a method below. -/
def entityFile : SourceUnit where
  path := "lib/domain/entities/user.dart"
  unit :=
    { directives := [.reference .imported { uri := "package:dio/dio.dart", span := .at 1 1 }]
      declarations := [.classLike
        { name := "User", nameSpan := .at 3 7, span := .at 3 1
          members := [.method { name := "greet", nameSpan := .at 4 8, span := .at 4 3 }] }] }

/-- The span one line below. -/
def lineBelow (s : Span) : Span :=
  { s with line := s.line + 1 }

theorem check_mapSpans_entityFile :
    let clients : ImportBoundary :=
      { code := "TEAM1", name := "no_clients", packages := ["package:dio/"] }
    let a : Analyzer := { rules := Rule.catalog ++ [clients.rule] }
    (∀ r ∈ a.rules, r ∈ Rule.catalog ∨ ∃ b : ImportBoundary, b.rule = r) ∧
      (a.check entityFile).map (fun d => (d.code, d.location.line)) =
        [("CMA001", 4), ("CMA010", 1), ("TEAM1", 1)] ∧
      a.check (entityFile.mapSpans lineBelow) =
        (a.check entityFile).map (Diagnostic.mapSpan lineBelow) ∧
      ∀ d ∈ a.check entityFile, ∃ n ∈ entityFile.unit.nodes, ∃ span,
        n.reportSpan? = some span ∧ d.location = .ofSpan entityFile.path span := by
  intro clients a
  have known : ∀ r ∈ a.rules, r ∈ Rule.catalog ∨ ∃ b : ImportBoundary, b.rule = r := by
    intro r hr
    rcases List.mem_append.1 hr with builtin | boundary
    · exact .inl builtin
    · exact .inr ⟨clients, (List.mem_singleton.1 boundary).symm⟩
  have moved := check_mapSpans known entityFile
  exact ⟨known, by decide +kernel, moved.1 lineBelow, moved.2⟩

end Analyzer

end ArchLint
