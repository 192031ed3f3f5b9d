import ArchLint.Proofs.ExpressionPlaces
import ArchLint.Proofs.FindingPlaces

/-! # Providers in build methods

The rule about providers goes through the expressions of a build method as a walk lists them. Places say
what that comes to: an expression that creates a provider is reported for the place at which it stands,
however deep, so a provider in an argument of another one counts as well, and none counts twice.

* `Expr.Invokes` — the expressions that call a name or create an instance of a type of that name.
* `MethodDecl.Invocations` — a list of the places in a method that invoke a name.
* `ClassDecl.ExtendsScreen` — the classes that the rule looks at.
* `Rule.blocInMultiProvider_reports` — the report of the rule.
-/

namespace ArchLint

/-! ## Invocations -/

/-- A call of a function or method by its name, or a new instance of a type by its base name. -/
inductive Expr.Invokes (name : String) : Expr → Prop
  | call (target : Option Expr) (types : List TypeExpr) (arguments : List Argument) (span : Span) :
    Invokes name (.methodInvocation target name types arguments span)
  | creation {type : TypeExpr} (base : type.baseName = name) (constructor : Option String)
      (isConst : Bool) (arguments : List Argument) (span : Span) :
    Invokes name (.instanceCreation type constructor isConst arguments span)

theorem Expr.invokedName?_eq_some_iff {e : Expr} {name : String} :
    e.invokedName? = some name ↔ e.Invokes name := by
  constructor
  · intro h
    cases e with
    | methodInvocation =>
      cases h
      exact .call ..
    | instanceCreation => exact .creation (Option.some_inj.1 h) ..
    | _ => cases h
  · rintro (_ | ⟨base⟩)
    · rfl
    · exact congrArg some base

theorem Enumerates.filter {α : Type} {found : List Nat → Option α} {as : List α} (p : α → Bool)
    (h : Enumerates found as) : Enumerates (fun place => (found place).filter p) (as.filter p) := by
  have kept := h.filterMap (Option.guard p)
  rw [List.filterMap_eq_filter] at kept
  simpa only [Option.bind_guard] using kept

/-- The entries are the places in a method at which an expression invokes the name, each once and in
their order. The default values of parameters belong to no place that counts. -/
structure MethodDecl.Invocations (m : MethodDecl) (name : String)
    (entries : List (List Nat × Expr)) : Prop where
  ascending : entries.Pairwise fun a b => a.1 < b.1
  mem_iff : ∀ place e, (place, e) ∈ entries ↔
    (SyntaxNode.method m).at? place = some (.expr e) ∧
      (SyntaxNode.method m).inDefault place = false ∧ e.Invokes name

/-- The expressions of a body that invoke a name are those at the places of the method. -/
theorem MethodDecl.exists_invocations (m : MethodDecl) (name : String) :
    ∃ entries, m.Invocations name entries ∧
      entries.map Prod.snd = m.body.exprs.filter fun e => e.invokedName? == some name := by
  have nodes := (ClassMember.method m).enumerates
  have listed : (ClassMember.method m).nodes.filterMap SyntaxNode.expr? = m.body.exprs :=
    m.body.filterMap_nodes
  obtain ⟨entries, ascending, mem, exprs⟩ :=
    (nodes.filterMap SyntaxNode.expr?).filter fun e => e.invokedName? == some name
  refine ⟨entries, ⟨ascending, fun place e => ?_⟩, by rw [exprs, listed]⟩
  rw [mem, Option.filter_eq_some_iff, Option.bind_eq_some_iff, beq_iff_eq,
    Expr.invokedName?_eq_some_iff, ← and_assoc, ← SyntaxNode.walked?_eq_some_iff]
  refine and_congr_left fun _ => ⟨?_, fun found => ⟨_, found, rfl⟩⟩
  rintro ⟨n, found, shown⟩
  rwa [SyntaxNode.eq_of_expr?_eq_some shown] at found

/-! ## The rule -/

/-- The class extends the state of a widget, or something that is named as a widget or screen is. -/
def ClassDecl.ExtendsScreen (c : ClassDecl) : Prop :=
  ∃ base, c.superclass = some base ∧
    (base.baseName = "State" ∨ ∃ suffix ∈ screenSuffixes, Text.endsWith base.baseName suffix = true)

theorem ClassDecl.isWidgetLike_iff (c : ClassDecl) : c.isWidgetLike = true ↔ c.ExtendsScreen := by
  rw [isWidgetLike, superName?, ExtendsScreen]
  cases c.superclass with
  | none => simp
  | some base => simp

instance (c : ClassDecl) : Decidable c.ExtendsScreen :=
  decidable_of_iff _ c.isWidgetLike_iff

/-- For each class that extends a screen, in source order, and each of its instance methods named
`build`, there is one diagnostic for each place in the body at which `MultiBlocProvider` is invoked, in
the order of the places and at the span of the expression; and there is no other. -/
theorem Rule.blocInMultiProvider_reports (config : Config) (path : String) (u : CompilationUnit) :
    ∃ report, Rule.blocInMultiProvider.check? config path u = some report ∧
      ∃ providers : MethodDecl → List (List Nat × Expr),
        (∀ m : MethodDecl, m.Invocations "MultiBlocProvider" (providers m)) ∧
        report.map (fun d => (d.code, d.rule, d.location)) =
          ((u.classes.filter fun c => c.ExtendsScreen).flatMap fun c =>
            (c.methods.filter fun m => m.name = "build" ∧ m.isStatic = false).flatMap fun m =>
              (providers m).map fun entry => entry.2.span).map
            fun s => ("CMA014", "bloc_in_multiprovider", .ofSpan path s) := by
  choose providers places created using fun m : MethodDecl =>
    m.exists_invocations "MultiBlocProvider"
  refine ⟨_, rfl, providers, places, ?_⟩
  rw [Rule.map_diagnose]
  refine congrArg (List.map _) ?_
  have looked : (fun c : ClassDecl => decide c.ExtendsScreen) = ClassDecl.isWidgetLike := by
    funext c
    rw [← Bool.coe_iff_coe, c.isWidgetLike_iff, decide_eq_true_iff]
  have built : (fun m : MethodDecl => decide (m.name = "build" ∧ m.isStatic = false)) =
      fun m => m.name == "build" && !m.isStatic := by
    funext m
    rw [← Bool.coe_iff_coe, decide_eq_true_iff, Bool.and_eq_true, beq_iff_eq, Bool.not_eq_true']
  rw [looked, built, List.map_flatMap]
  refine List.flatMap_congr fun c _ => ?_
  rw [List.map_flatMap]
  refine List.flatMap_congr fun m _ => ?_
  calc _ = (m.body.exprs.filter (·.createsMultiProvider)).map Expr.span := List.map_map
    _ = ((providers m).map Prod.snd).map Expr.span := by rw [created]; rfl
    _ = (providers m).map fun entry => entry.2.span := List.map_map

end ArchLint
