import ArchLint.Proofs.RenderedNames
import ArchLint.Rule.Registration
import ArchLint.Syntax.Construct

/-! # Arguments inside of a registration

A registration without type arguments is about what it produces. If that is a call, what the call is
given does not count. If it is anything else, it is judged by its whole text, and a state unit that a call
within it is given is taken for the registered one.

* `Expr.withoutArguments` — every call in an expression with an empty list of arguments.
* `Expr.texts_withoutArguments` — the texts that are left.
* `emptyProduced` — a registration with that done to what it produces.
* `registration_without_arguments` — when such a registration is reported as before.
-/

namespace ArchLint

/-! ## Calls without arguments -/

mutual

/-- The expression with the arguments of every call in it left out. -/
def Expr.withoutArguments : Expr → Expr
  | .identifier name span => .identifier name span
  | .literal value span => .literal value span
  | .this span => .this span
  | .propertyAccess target property span => .propertyAccess target.withoutArguments property span
  | .methodInvocation none method types _ span => .methodInvocation none method types [] span
  | .methodInvocation (some target) method types _ span =>
    .methodInvocation (some target.withoutArguments) method types [] span
  | .instanceCreation type constructorName isConst _ span =>
    .instanceCreation type constructorName isConst [] span
  | .closure parameters body span =>
    .closure (parametersWithoutArguments parameters) body.withoutArguments span
  | .await operand span => .await operand.withoutArguments span
  | .binary left operator right span =>
    .binary left.withoutArguments operator right.withoutArguments span
  | .assignment target operator value span =>
    .assignment target.withoutArguments operator value.withoutArguments span
  | .conditional condition thenExpr elseExpr span =>
    .conditional condition.withoutArguments thenExpr.withoutArguments elseExpr.withoutArguments span
  | .cascade target sections span =>
    .cascade target.withoutArguments (exprsWithoutArguments sections) span
  | .list elements span => .list (exprsWithoutArguments elements) span
  | .other text span => .other text span

def exprsWithoutArguments : List Expr → List Expr
  | [] => []
  | e :: es => e.withoutArguments :: exprsWithoutArguments es

def parametersWithoutArguments : List Parameter → List Parameter
  | [] => []
  | ⟨name, type, kind, isRequired, isFieldFormal, none⟩ :: rest =>
    ⟨name, type, kind, isRequired, isFieldFormal, none⟩ :: parametersWithoutArguments rest
  | ⟨name, type, kind, isRequired, isFieldFormal, some value⟩ :: rest =>
    ⟨name, type, kind, isRequired, isFieldFormal, some value.withoutArguments⟩ ::
      parametersWithoutArguments rest

def FunctionBody.withoutArguments : FunctionBody → FunctionBody
  | ⟨modifier, .empty⟩ => ⟨modifier, .empty⟩
  | ⟨modifier, .expression e⟩ => ⟨modifier, .expression e.withoutArguments⟩
  | ⟨modifier, .block statements⟩ => ⟨modifier, .block (statementsWithoutArguments statements)⟩

def Statement.withoutArguments : Statement → Statement
  | .block statements span => .block (statementsWithoutArguments statements) span
  | .expression e => .expression e.withoutArguments
  | .returns none span => .returns none span
  | .returns (some value) span => .returns (some value.withoutArguments) span
  | .localVariable name type none span => .localVariable name type none span
  | .localVariable name type (some initializer) span =>
    .localVariable name type (some initializer.withoutArguments) span
  | .branch condition thenBranch none span =>
    .branch condition.withoutArguments thenBranch.withoutArguments none span
  | .branch condition thenBranch (some elseBranch) span =>
    .branch condition.withoutArguments thenBranch.withoutArguments
      (some elseBranch.withoutArguments) span
  | .attempt body catches none span =>
    .attempt (statementsWithoutArguments body) (catchesWithoutArguments catches) none span
  | .attempt body catches (some cleanup) span =>
    .attempt (statementsWithoutArguments body) (catchesWithoutArguments catches)
      (some (statementsWithoutArguments cleanup)) span
  | .loop none body span => .loop none body.withoutArguments span
  | .loop (some condition) body span =>
    .loop (some condition.withoutArguments) body.withoutArguments span
  | .other span => .other span

def statementsWithoutArguments : List Statement → List Statement
  | [] => []
  | s :: rest => s.withoutArguments :: statementsWithoutArguments rest

def catchesWithoutArguments : List CatchClause → List CatchClause
  | [] => []
  | ⟨exceptionType, body⟩ :: rest =>
    ⟨exceptionType, statementsWithoutArguments body⟩ :: catchesWithoutArguments rest

end

theorem map_name_parametersWithoutArguments (ps : List Parameter) :
    (parametersWithoutArguments ps).map Parameter.name = ps.map Parameter.name := by
  induction ps with
  | nil => rfl
  | cons p ps ih =>
    obtain ⟨name, type, kind, isRequired, isFieldFormal, defaultValue⟩ := p
    cases defaultValue <;> rw [parametersWithoutArguments, List.map_cons, ih, List.map_cons]

/-! ## Texts that are left -/

mutual

/-- Texts are lost, and the others keep their order. -/
theorem Expr.texts_withoutArguments (e : Expr) : e.withoutArguments.texts.Sublist e.texts := by
  -- An expression keeps the texts of its own; those of its parts are left as the parts leave them.
  cases e with
  | identifier | literal | this | other => exact .refl _
  | propertyAccess target =>
    rw [Expr.withoutArguments, Expr.texts, Expr.texts]
    exact target.texts_withoutArguments.append (.refl _)
  | methodInvocation target method types arguments =>
    have typesLeft : (typeNames types ++ argumentTexts []).Sublist
        (typeNames types ++ argumentTexts arguments) :=
      (List.Sublist.refl _).append (List.nil_sublist _)
    cases target with
    | none =>
      rw [Expr.withoutArguments, Expr.texts, Expr.texts]
      exact typesLeft.cons_cons method
    | some target =>
      rw [Expr.withoutArguments, Expr.texts, Expr.texts]
      exact target.texts_withoutArguments.append (typesLeft.cons_cons method)
  | instanceCreation =>
    rw [Expr.withoutArguments, Expr.texts, Expr.texts]
    exact (List.Sublist.refl _).append (List.nil_sublist _)
  | closure parameters body =>
    obtain ⟨modifier, content⟩ := body
    cases content with
    | empty | block =>
      simp only [Expr.withoutArguments, FunctionBody.withoutArguments, Expr.texts,
        map_name_parametersWithoutArguments, List.Sublist.refl]
    | expression e =>
      rw [Expr.withoutArguments, FunctionBody.withoutArguments, Expr.texts, Expr.texts,
        map_name_parametersWithoutArguments]
      exact (List.Sublist.refl _).append e.texts_withoutArguments
  | await operand =>
    rw [Expr.withoutArguments, Expr.texts, Expr.texts]
    exact operand.texts_withoutArguments.cons_cons _
  | binary left operator right =>
    rw [Expr.withoutArguments, Expr.texts, Expr.texts]
    exact left.texts_withoutArguments.append (right.texts_withoutArguments.cons_cons operator)
  | assignment target operator value =>
    rw [Expr.withoutArguments, Expr.texts, Expr.texts]
    exact target.texts_withoutArguments.append (value.texts_withoutArguments.cons_cons operator)
  | conditional condition thenExpr elseExpr =>
    rw [Expr.withoutArguments, Expr.texts, Expr.texts]
    exact (condition.texts_withoutArguments.append thenExpr.texts_withoutArguments).append
      elseExpr.texts_withoutArguments
  | cascade target sections =>
    rw [Expr.withoutArguments, Expr.texts, Expr.texts]
    exact target.texts_withoutArguments.append (exprTexts_withoutArguments sections)
  | list elements =>
    rw [Expr.withoutArguments, Expr.texts, Expr.texts]
    exact exprTexts_withoutArguments elements

theorem exprTexts_withoutArguments (es : List Expr) :
    (exprTexts (exprsWithoutArguments es)).Sublist (exprTexts es) := by
  cases es with
  | nil => exact .refl _
  | cons e es =>
    rw [exprsWithoutArguments, exprTexts, exprTexts]
    exact e.texts_withoutArguments.append (exprTexts_withoutArguments es)

end

/-! ## State units without arguments -/

theorem Expr.withoutArguments_of_isNamePath {e : Expr} (path : e.isNamePath = true) :
    e.withoutArguments = e := by
  cases e with
  | identifier => rfl
  | propertyAccess target =>
    have inner : target.isNamePath = true := path
    rw [Expr.withoutArguments, withoutArguments_of_isNamePath inner]
  | _ => cases path

theorem Expr.isNamePath_withoutArguments (e : Expr) :
    e.withoutArguments.isNamePath = e.isNamePath := by
  cases e with
  | propertyAccess target => exact target.isNamePath_withoutArguments
  | methodInvocation target => cases target <;> rfl
  | _ => rfl

theorem Expr.invokedName?_withoutArguments (e : Expr) :
    e.withoutArguments.invokedName? = e.invokedName? := by
  cases e with
  | methodInvocation target => cases target <;> rfl
  | _ => rfl

theorem Expr.receiverPath?_withoutArguments (e : Expr) :
    e.withoutArguments.receiverPath? = e.receiverPath? := by
  cases e with
  | methodInvocation target =>
    cases target with
    | none => rfl
    | some target =>
      rw [Expr.withoutArguments, Expr.receiverPath?, Expr.receiverPath?,
        target.isNamePath_withoutArguments]
      split
      next path => rw [withoutArguments_of_isNamePath path]
      next => rfl
  | _ => rfl

section StateUnits

variable {suffixes : List String} {e : Expr}

/-- A call names its state unit by what it calls and what it calls that on, whatever it is given. -/
theorem stateUnitNamed?_withoutArguments (call : e.invokedName?.isSome = true) :
    stateUnitNamed? suffixes e.withoutArguments = stateUnitNamed? suffixes e := by
  obtain ⟨name, invoked⟩ := Option.isSome_iff_exists.1 call
  rw [stateUnitNamed?, stateUnitNamed?, e.invokedName?_withoutArguments, invoked,
    e.receiverPath?_withoutArguments]

/-- What calls nothing names a state unit if one of its texts does. -/
theorem isSome_stateUnitNamed?_iff (noCall : e.invokedName? = none) :
    (stateUnitNamed? suffixes e).isSome = true ↔
      ∃ text ∈ e.texts, Text.mentionsAny text suffixes = true := by
  rw [stateUnitNamed?, noCall, ← Text.mentionsAny_iff_of_parts e.identifiers_render]
  simp [ifMentions]

theorem isSome_stateUnitNamed?_of_withoutArguments
    (found : (stateUnitNamed? suffixes e.withoutArguments).isSome = true) :
    (stateUnitNamed? suffixes e).isSome = true := by
  cases invoked : e.invokedName? with
  | some name => rwa [stateUnitNamed?_withoutArguments (Option.isSome_of_eq_some invoked)] at found
  | none =>
    rw [isSome_stateUnitNamed?_iff (e.invokedName?_withoutArguments.trans invoked)] at found
    obtain ⟨text, left, mentioned⟩ := found
    apply (isSome_stateUnitNamed?_iff invoked).2
    exact ⟨text, e.texts_withoutArguments.subset left, mentioned⟩

/-- The expression calls nothing, and of its texts only those among the arguments of calls in it name a
state unit. -/
def Expr.NamesUnitInArgumentsOnly (suffixes : List String) (e : Expr) : Prop :=
  e.invokedName? = none ∧ (∃ text ∈ e.texts, Text.mentionsAny text suffixes = true) ∧
    ∀ text ∈ e.withoutArguments.texts, Text.mentionsAny text suffixes = false

theorem stateUnitNamed?_lost_iff : ((stateUnitNamed? suffixes e).isSome = true ∧
    (stateUnitNamed? suffixes e.withoutArguments).isSome = false) ↔
      e.NamesUnitInArgumentsOnly suffixes := by
  rw [Expr.NamesUnitInArgumentsOnly]
  cases invoked : e.invokedName? with
  | some name =>
    rw [stateUnitNamed?_withoutArguments (Option.isSome_of_eq_some invoked)]
    cases stateUnitNamed? suffixes e <;> simp
  | none =>
    have noCall := e.invokedName?_withoutArguments.trans invoked
    rw [← Bool.not_eq_true, isSome_stateUnitNamed?_iff invoked, isSome_stateUnitNamed?_iff noCall]
    simp

end StateUnits

/-! ## What a registration produces -/

section Returned

variable (f : Expr → Expr)

mutual

/-- The statement with `f` applied to the expression that it returns. -/
def Statement.mapReturned : Statement → Statement
  | .returns value span => .returns (value.map f) span
  | .block statements span => .block (mapFirstReturned statements) span
  | .expression e => .expression e
  | .localVariable name type initializer span => .localVariable name type initializer span
  | .branch condition thenBranch elseBranch span => .branch condition thenBranch elseBranch span
  | .attempt body catches cleanup span => .attempt body catches cleanup span
  | .loop condition body span => .loop condition body span
  | .other span => .other span

def mapFirstReturned : List Statement → List Statement
  | [] => []
  | s :: rest =>
    if s.returned?.isSome then s.mapReturned :: rest else s :: mapFirstReturned rest

end

/-- The body with `f` applied to the expression that it returns. -/
def FunctionBody.mapReturned : FunctionBody → FunctionBody
  | ⟨modifier, .empty⟩ => ⟨modifier, .empty⟩
  | ⟨modifier, .expression e⟩ => ⟨modifier, .expression (f e)⟩
  | ⟨modifier, .block statements⟩ => ⟨modifier, .block (mapFirstReturned f statements)⟩

mutual

theorem Statement.returned?_mapReturned (s : Statement) :
    (s.mapReturned f).returned? = s.returned?.map f := by
  cases s with
  | block statements =>
    rw [Statement.mapReturned, Statement.returned?, Statement.returned?]
    exact firstReturned?_mapFirstReturned statements
  | _ => rfl
termination_by sizeOf s

theorem firstReturned?_mapFirstReturned (ss : List Statement) :
    firstReturned? (mapFirstReturned f ss) = (firstReturned? ss).map f := by
  cases ss with
  | nil => rfl
  | cons s rest =>
    rw [mapFirstReturned, firstReturned?]
    cases value : s.returned? with
    | none =>
      rw [if_neg (by simp), firstReturned?, value]
      exact firstReturned?_mapFirstReturned rest
    | some e =>
      rw [if_pos (by simp), firstReturned?, s.returned?_mapReturned, value]
      rfl
termination_by sizeOf ss

end

theorem FunctionBody.returned?_mapReturned (b : FunctionBody) :
    (b.mapReturned f).returned? = b.returned?.map f := by
  obtain ⟨modifier, content⟩ := b
  cases content with
  | empty | expression => rfl
  | block statements => exact firstReturned?_mapFirstReturned f statements

end Returned

/-- The expression, or what it returns if it is a closure, without the arguments of its calls. -/
def Expr.emptyProduced : Expr → Expr
  | .closure parameters body span => .closure parameters (body.mapReturned .withoutArguments) span
  | e => e.withoutArguments

/-- The arguments of a registration, with every call in what it produces left without arguments. -/
def emptyProduced : List Argument → List Argument
  | [] => []
  | ⟨some name, value⟩ :: rest => ⟨some name, value⟩ :: emptyProduced rest
  | ⟨none, value⟩ :: rest => ⟨none, value.emptyProduced⟩ :: rest

theorem producedExpr?_emptyProduced (arguments : List Argument) :
    producedExpr? (emptyProduced arguments) = (producedExpr? arguments).map Expr.withoutArguments := by
  induction arguments with
  | nil => rfl
  | cons a rest ih =>
    obtain ⟨name, value⟩ := a
    cases name with
    | some name => exact ih
    | none =>
      cases value with
      | closure parameters body => exact body.returned?_mapReturned Expr.withoutArguments
      | methodInvocation target => cases target <;> rfl
      | _ => rfl

/-! ## Reports -/

/-- The endings of state units. -/
def Naming.stateUnitSuffixes (n : Naming) : List String :=
  [n.blocSuffix, n.cubitSuffix]

/-- The expression is reported as a registration of a state unit. -/
def Naming.reports (n : Naming) (e : Expr) : Prop :=
  (discouraged? n.stateUnitSuffixes e).isSome = true

section Reports

variable {n : Naming} {target : Option Expr} {method : String} {arguments : List Argument} {span : Span}

theorem discouraged?_untyped (suffixes : List String) :
    discouraged? suffixes (.methodInvocation target method [] arguments span) =
      if discouragedRegistrations.contains method then
        ((producedExpr? arguments).bind (stateUnitNamed? suffixes)).map fun unit =>
          ⟨span, "`" ++ unit ++ "` is registered with `" ++ method ++ "`; use `registerLazySingleton`"⟩
      else none :=
  rfl

theorem reports_untyped_iff : n.reports (.methodInvocation target method [] arguments span) ↔
    method ∈ discouragedRegistrations ∧ ∃ e, producedExpr? arguments = some e ∧
      (stateUnitNamed? n.stateUnitSuffixes e).isSome = true := by
  rw [Naming.reports, discouraged?_untyped]
  split
  next known =>
    rw [List.contains_iff_mem] at known
    simp [known, Option.isSome_bind, Option.any_eq_true]
  next other =>
    rw [List.contains_iff_mem] at other
    simp [other]

end Reports

/-- The rule about registrations looks at each expression of a file by itself. Leaving out the arguments of
the calls in what a registration produces adds no report. If a call is produced, the finding is the same
one. A report is lost only where something else is produced: exactly where of its texts only those among
the arguments of its calls name a state unit. -/
theorem registration_without_arguments (config : Config) (target : Option Expr) (method : String)
    (arguments : List Argument) (span : Span) :
    (∀ path u, Rule.lazySingletonForBloc.findings (config.contextOf path) u =
      some (u.exprs.filterMap (discouraged? config.naming.stateUnitSuffixes))) ∧
    (∀ e, producedExpr? arguments = some e → e.invokedName?.isSome = true →
      discouraged? config.naming.stateUnitSuffixes
          (.methodInvocation target method [] (emptyProduced arguments) span) =
        discouraged? config.naming.stateUnitSuffixes (.methodInvocation target method [] arguments span)) ∧
    (config.naming.reports (.methodInvocation target method [] (emptyProduced arguments) span) →
      config.naming.reports (.methodInvocation target method [] arguments span)) ∧
    ((config.naming.reports (.methodInvocation target method [] arguments span) ↔
        config.naming.reports (.methodInvocation target method [] (emptyProduced arguments) span)) ↔
      ¬∃ e, method ∈ discouragedRegistrations ∧ producedExpr? arguments = some e ∧
        e.NamesUnitInArgumentsOnly config.naming.stateUnitSuffixes) := by
  have emptied := producedExpr?_emptyProduced arguments
  refine ⟨fun path u => rfl, fun e produced call => ?_, ?_, ?_⟩
  · rw [discouraged?_untyped, discouraged?_untyped, emptied, produced, Option.map_some, Option.bind_some,
      Option.bind_some, stateUnitNamed?_withoutArguments call]
  · rw [reports_untyped_iff, reports_untyped_iff, emptied]
    rintro ⟨known, e', produced', found⟩
    obtain ⟨e, produced, rfl⟩ := Option.map_eq_some_iff.1 produced'
    exact ⟨known, e, produced, isSome_stateUnitNamed?_of_withoutArguments found⟩
  · rw [reports_untyped_iff, reports_untyped_iff, emptied]
    cases produced : producedExpr? arguments with
    | none => simp
    | some e =>
      simp only [Option.map_some, Option.some.injEq, exists_and_left, exists_eq_left',
        ← stateUnitNamed?_lost_iff, ← Bool.not_eq_true]
      -- No report is added, so the two agree unless one is lost.
      have kept : (stateUnitNamed? config.naming.stateUnitSuffixes e.withoutArguments).isSome = true →
          (stateUnitNamed? config.naming.stateUnitSuffixes e).isSome = true :=
        isSome_stateUnitNamed?_of_withoutArguments
      constructor
      · rintro same ⟨known, found, lost⟩
        exact lost (same.1 ⟨known, found⟩).2
      · intro noneLost
        constructor
        · rintro ⟨known, found⟩
          by_cases left : (stateUnitNamed? config.naming.stateUnitSuffixes e.withoutArguments).isSome = true
          · exact ⟨known, left⟩
          · exact absurd ⟨known, found, left⟩ noneLost
        · rintro ⟨known, left⟩
          exact ⟨known, kept left⟩

/-- A registration of a use case that is waited for and given a Bloc. -/
def awaitedUseCase : List Argument :=
  Argument.positional [.thunk (.awaiting (.call "LoginUseCase" [.call "AuthBloc" []]))]

theorem argument_of_awaited_call_reported :
    ({} : Naming).reports (.methodInvocation none "registerFactory" [] awaitedUseCase {}) ∧
      ¬({} : Naming).reports
        (.methodInvocation none "registerFactory" [] (emptyProduced awaitedUseCase) {}) := by
  rw [Naming.reports, Naming.reports]
  decide +kernel

end ArchLint
