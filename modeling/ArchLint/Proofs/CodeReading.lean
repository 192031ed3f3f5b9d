import ArchLint.Dump.Reader
import ArchLint.Proofs.RecordReading

/-! # Written code is read back

* `TypeExpr.ofJson?_toJson`, `Expr.ofJson?_toJson`, `Statement.ofJson?_toJson` and the like — the document
  that a piece of code is written as gives it back, as far as the levels that may be opened allow.
* `Expr.plain_toJson` and the like — such a document is plain.
-/

namespace ArchLint

open Json (keep? listOf? orNull Restores RestoresAll)

/-! ## Types -/

@[simp] theorem Span.ofJson?_toJson (s : Span) : Restores Span.ofJson? s.toJson s := by
  intro n
  cases n with
  | zero => simp [Span.ofJson?, Span.toJson]
  | succ n => simp [Span.ofJson?, Span.toJson]

@[simp] theorem Span.plain_toJson (s : Span) : s.toJson.Plain := by
  simp [Span.toJson]

@[simp] theorem typesOfJson?_eq_listOf? : typesOfJson? = listOf? TypeExpr.ofJson? := by
  funext n j
  cases n <;> cases j <;> rfl

mutual

theorem TypeExpr.ofJson?_toJson : ∀ t : TypeExpr, Restores TypeExpr.ofJson? t.toJson t
  | ⟨_, _, _, _⟩, 0 => by simp [TypeExpr.ofJson?, TypeExpr.toJson]
  | ⟨name, arguments, nullable, span⟩, n + 1 => by
      simp [TypeExpr.ofJson?, TypeExpr.toJson,
        (typesOfJson?_typesToJson arguments).listOf? n, ite_and]

theorem typesOfJson?_typesToJson : ∀ ts : List TypeExpr,
    RestoresAll TypeExpr.ofJson? (typesToJson ts) ts
  | [] => .nil
  | t :: ts => .cons t.ofJson?_toJson (typesOfJson?_typesToJson ts)

end

mutual

@[simp] theorem TypeExpr.plain_toJson : ∀ t : TypeExpr, t.toJson.Plain
  | ⟨_, arguments, _, span⟩ => by simp [TypeExpr.toJson, plain_typesToJson arguments]

@[simp] theorem plain_typesToJson : ∀ ts : List TypeExpr, Json.PlainItems (typesToJson ts)
  | [] => by simp [typesToJson]
  | t :: ts => by simp [typesToJson, t.plain_toJson, plain_typesToJson ts]

end

@[simp] theorem optional_orNull_typeExpr (t : Option TypeExpr) (n : Nat) :
    Json.optional (TypeExpr.ofJson? n) (some (orNull TypeExpr.toJson t)) =
      if (orNull TypeExpr.toJson t).depth ≤ n then some t else none :=
  Json.optional_orNull TypeExpr.ofJson?_toJson (fun t => by cases t; simp [TypeExpr.toJson]) t n

@[simp] theorem plain_orNull_typeExpr (t : Option TypeExpr) :
    (orNull TypeExpr.toJson t).Plain :=
  Json.plain_orNull TypeExpr.plain_toJson t

/-! ## Code -/

@[simp] theorem ParameterKind.lookup_token (k : ParameterKind) :
    ParameterKind.words.lookup k.token = some k := by
  cases k <;> rfl

@[simp] theorem BodyModifier.lookup_token (m : BodyModifier) :
    BodyModifier.words.lookup m.token = some m := by
  cases m <;> rfl

@[simp] theorem exprsOfJson?_eq_listOf? : exprsOfJson? = listOf? Expr.ofJson? := by
  funext n j
  cases n <;> cases j <;> rfl

@[simp] theorem argumentsOfJson?_eq_listOf? : argumentsOfJson? = listOf? Argument.ofJson? := by
  funext n j
  cases n <;> cases j <;> rfl

@[simp] theorem parametersOfJson?_eq_listOf? : parametersOfJson? = listOf? Parameter.ofJson? := by
  funext n j
  cases n <;> cases j <;> rfl

@[simp] theorem statementsOfJson?_eq_listOf? : statementsOfJson? = listOf? Statement.ofJson? := by
  funext n j
  cases n <;> cases j <;> rfl

@[simp] theorem catchesOfJson?_eq_listOf? : catchesOfJson? = listOf? CatchClause.ofJson? := by
  funext n j
  cases n <;> cases j <;> rfl

@[simp] theorem Expr.toJson_ne_null (e : Expr) : e.toJson ≠ .null := by
  cases e <;> simp [Expr.toJson]

@[simp] theorem Statement.toJson_ne_null (s : Statement) : s.toJson ≠ .null := by
  cases s <;> simp [Statement.toJson]

mutual

theorem Expr.ofJson?_toJson : ∀ e : Expr, Restores Expr.ofJson? e.toJson e
  -- Every record opens a level, so nothing is read where none is left.
  | e, 0 => by cases e <;> simp [Expr.ofJson?, Expr.toJson]
  | .identifier name span, n + 1 => by
      simp [Expr.ofJson?, Expr.toJson, Expr.kinds]
  | .literal value span, n + 1 => by
      simp [Expr.ofJson?, Expr.toJson, Expr.kinds]
  | .this span, n + 1 => by
      simp [Expr.ofJson?, Expr.toJson, Expr.kinds]
  | .propertyAccess target property span, n + 1 => by
      simp [Expr.ofJson?, Expr.toJson, Expr.kinds, target.ofJson?_toJson n, ite_and]
  | .methodInvocation target method typeArguments arguments span, n + 1 => by
      simp [Expr.ofJson?, Expr.toJson, Expr.kinds,
        optional_optionalExprToJson target n, (typesOfJson?_typesToJson typeArguments).listOf? n,
        (argumentsOfJson?_argumentsToJson arguments).listOf? n, ite_and]
  | .instanceCreation type constructorName isConst arguments span, n + 1 => by
      simp [Expr.ofJson?, Expr.toJson, Expr.kinds, type.ofJson?_toJson n,
        (argumentsOfJson?_argumentsToJson arguments).listOf? n, ite_and]
  | .closure parameters body span, n + 1 => by
      simp [Expr.ofJson?, Expr.toJson, Expr.kinds, body.ofJson?_toJson n,
        (parametersOfJson?_parametersToJson parameters).listOf? n, ite_and]
  | .await operand span, n + 1 => by
      simp [Expr.ofJson?, Expr.toJson, Expr.kinds, operand.ofJson?_toJson n, ite_and]
  | .binary left operator right span, n + 1 => by
      simp [Expr.ofJson?, Expr.toJson, Expr.kinds, left.ofJson?_toJson n,
        right.ofJson?_toJson n, ite_and]
  | .assignment target operator value span, n + 1 => by
      simp [Expr.ofJson?, Expr.toJson, Expr.kinds, target.ofJson?_toJson n,
        value.ofJson?_toJson n, ite_and]
  | .conditional condition thenExpr elseExpr span, n + 1 => by
      simp [Expr.ofJson?, Expr.toJson, Expr.kinds,
        condition.ofJson?_toJson n, thenExpr.ofJson?_toJson n, elseExpr.ofJson?_toJson n, ite_and]
  | .cascade target sections span, n + 1 => by
      simp [Expr.ofJson?, Expr.toJson, Expr.kinds, target.ofJson?_toJson n,
        (exprsOfJson?_exprsToJson sections).listOf? n, ite_and]
  | .list elements span, n + 1 => by
      simp [Expr.ofJson?, Expr.toJson, Expr.kinds,
        (exprsOfJson?_exprsToJson elements).listOf? n, ite_and]
  | .other text span, n + 1 => by
      simp [Expr.ofJson?, Expr.toJson, Expr.kinds]

theorem optional_optionalExprToJson : ∀ (e : Option Expr) (n : Nat),
    Json.optional (Expr.ofJson? n) (some (optionalExprToJson e)) =
      if (optionalExprToJson e).depth ≤ n then some e else none
  | none, _ => by simp [optionalExprToJson, Json.optional]
  | some e, n => Json.optional_of_restores e.ofJson?_toJson e.toJson_ne_null n

theorem exprsOfJson?_exprsToJson : ∀ es : List Expr, RestoresAll Expr.ofJson? (exprsToJson es) es
  | [] => .nil
  | e :: es => .cons e.ofJson?_toJson (exprsOfJson?_exprsToJson es)

theorem argumentsOfJson?_argumentsToJson : ∀ as : List Argument,
    RestoresAll Argument.ofJson? (argumentsToJson as) as
  | [] => .nil
  | ⟨name, value⟩ :: rest => by
      refine .cons ?_ (argumentsOfJson?_argumentsToJson rest)
      intro n
      cases n with
      | zero => simp [Argument.ofJson?]
      | succ n => simp [Argument.ofJson?, value.ofJson?_toJson n]

theorem parametersOfJson?_parametersToJson : ∀ ps : List Parameter,
    RestoresAll Parameter.ofJson? (parametersToJson ps) ps
  | [] => .nil
  | ⟨name, type, kind, isRequired, isFieldFormal, defaultValue⟩ :: rest => by
      refine .cons ?_ (parametersOfJson?_parametersToJson rest)
      intro n
      cases n with
      | zero => simp [Parameter.ofJson?]
      | succ n =>
          simp [Parameter.ofJson?, optional_optionalExprToJson defaultValue n, ite_and]

theorem FunctionBody.ofJson?_toJson : ∀ b : FunctionBody,
    Restores (FunctionBody.ofJson? true) b.toJson b
  | ⟨_, _⟩, 0 => by simp [FunctionBody.ofJson?, FunctionBody.toJson]
  | ⟨modifier, content⟩, n + 1 => by
      -- Within a record that is kept whole, the content is not checked again.
      simp [FunctionBody.ofJson?, FunctionBody.toJson, keep?, content.ofJson?_toJson n]

theorem BodyContent.ofJson?_toJson : ∀ c : BodyContent, Restores BodyContent.ofJson? c.toJson c
  | c, 0 => by cases c <;> simp [BodyContent.ofJson?, BodyContent.toJson]
  | .empty, n + 1 => by simp [BodyContent.ofJson?, BodyContent.toJson, BodyContent.kinds]
  | .expression e, n + 1 => by
      simp [BodyContent.ofJson?, BodyContent.toJson, BodyContent.kinds, e.ofJson?_toJson n]
  | .block statements, n + 1 => by
      simp [BodyContent.ofJson?, BodyContent.toJson, BodyContent.kinds,
        (statementsOfJson?_statementsToJson statements).listOf? n]

theorem Statement.ofJson?_toJson : ∀ s : Statement, Restores Statement.ofJson? s.toJson s
  | s, 0 => by cases s <;> simp [Statement.ofJson?, Statement.toJson]
  | .block statements span, n + 1 => by
      simp [Statement.ofJson?, Statement.toJson, Statement.kinds,
        (statementsOfJson?_statementsToJson statements).listOf? n, ite_and]
  | .expression e, n + 1 => by
      simp [Statement.ofJson?, Statement.toJson, Statement.kinds, e.ofJson?_toJson n]
  | .returns value span, n + 1 => by
      simp [Statement.ofJson?, Statement.toJson, Statement.kinds,
        optional_optionalExprToJson value n, ite_and]
  | .localVariable name type initializer span, n + 1 => by
      simp [Statement.ofJson?, Statement.toJson, Statement.kinds,
        optional_optionalExprToJson initializer n, ite_and]
  | .branch condition thenBranch elseBranch span, n + 1 => by
      simp [Statement.ofJson?, Statement.toJson, Statement.kinds,
        condition.ofJson?_toJson n, thenBranch.ofJson?_toJson n,
        optional_optionalStatementToJson elseBranch n, ite_and]
  | .attempt body catches cleanup span, n + 1 => by
      simp [Statement.ofJson?, Statement.toJson, Statement.kinds,
        (statementsOfJson?_statementsToJson body).listOf? n,
        (catchesOfJson?_catchesToJson catches).listOf? n, optional_cleanupToJson cleanup n, ite_and]
  | .loop condition body span, n + 1 => by
      simp [Statement.ofJson?, Statement.toJson, Statement.kinds,
        optional_optionalExprToJson condition n, body.ofJson?_toJson n, ite_and]
  | .other span, n + 1 => by
      simp [Statement.ofJson?, Statement.toJson, Statement.kinds]

theorem optional_optionalStatementToJson : ∀ (s : Option Statement) (n : Nat),
    Json.optional (Statement.ofJson? n) (some (optionalStatementToJson s)) =
      if (optionalStatementToJson s).depth ≤ n then some s else none
  | none, _ => by simp [optionalStatementToJson, Json.optional]
  | some s, n => Json.optional_of_restores s.ofJson?_toJson s.toJson_ne_null n

theorem optional_cleanupToJson : ∀ (c : Option (List Statement)) (n : Nat),
    Json.optional (listOf? Statement.ofJson? n) (some (cleanupToJson c)) =
      if (cleanupToJson c).depth ≤ n then some c else none
  -- No statements at all are not the same as an empty list of them.
  | none, _ => by simp [cleanupToJson, Json.optional]
  | some statements, n => by
      have read := (statementsOfJson?_statementsToJson statements).listOf? n
      simp [cleanupToJson, Json.optional, read]

theorem statementsOfJson?_statementsToJson : ∀ ss : List Statement,
    RestoresAll Statement.ofJson? (statementsToJson ss) ss
  | [] => .nil
  | s :: rest => .cons s.ofJson?_toJson (statementsOfJson?_statementsToJson rest)

theorem catchesOfJson?_catchesToJson : ∀ cs : List CatchClause,
    RestoresAll CatchClause.ofJson? (catchesToJson cs) cs
  | [] => .nil
  | ⟨exceptionType, body⟩ :: rest => by
      refine .cons ?_ (catchesOfJson?_catchesToJson rest)
      intro n
      cases n with
      | zero => simp [CatchClause.ofJson?]
      | succ n =>
          simp [CatchClause.ofJson?, (statementsOfJson?_statementsToJson body).listOf? n, ite_and]

end

mutual

@[simp] theorem Expr.plain_toJson : ∀ e : Expr, e.toJson.Plain
  | .identifier _ _ | .literal _ _ | .this _ | .other _ _ => by simp [Expr.toJson]
  | .propertyAccess target _ _ => by simp [Expr.toJson, target.plain_toJson]
  | .methodInvocation target _ _ arguments _ => by
      simp [Expr.toJson, plain_optionalExprToJson target, plain_argumentsToJson arguments]
  | .instanceCreation _ _ _ arguments _ => by
      simp [Expr.toJson, plain_argumentsToJson arguments]
  | .closure parameters body _ => by
      simp [Expr.toJson, plain_parametersToJson parameters, body.plain_toJson]
  | .await operand _ => by simp [Expr.toJson, operand.plain_toJson]
  | .binary left _ right _ => by simp [Expr.toJson, left.plain_toJson, right.plain_toJson]
  | .assignment target _ value _ => by simp [Expr.toJson, target.plain_toJson, value.plain_toJson]
  | .conditional condition thenExpr elseExpr _ => by
      simp [Expr.toJson, condition.plain_toJson, thenExpr.plain_toJson, elseExpr.plain_toJson]
  | .cascade target sections _ => by
      simp [Expr.toJson, target.plain_toJson, plain_exprsToJson sections]
  | .list elements _ => by simp [Expr.toJson, plain_exprsToJson elements]

@[simp] theorem plain_optionalExprToJson : ∀ e : Option Expr, (optionalExprToJson e).Plain
  | none => trivial
  | some e => e.plain_toJson

theorem plain_exprsToJson : ∀ es : List Expr, Json.PlainItems (exprsToJson es)
  | [] => trivial
  | e :: es => ⟨e.plain_toJson, plain_exprsToJson es⟩

theorem plain_argumentsToJson : ∀ as : List Argument, Json.PlainItems (argumentsToJson as)
  | [] => trivial
  | ⟨_, value⟩ :: rest => by
      simp [argumentsToJson, value.plain_toJson, plain_argumentsToJson rest]

@[simp] theorem plain_parametersToJson : ∀ ps : List Parameter,
    Json.PlainItems (parametersToJson ps)
  | [] => trivial
  | ⟨_, _, _, _, _, defaultValue⟩ :: rest => by
      simp [parametersToJson, plain_optionalExprToJson defaultValue, plain_parametersToJson rest]

@[simp] theorem FunctionBody.plain_toJson : ∀ b : FunctionBody, b.toJson.Plain
  | ⟨_, content⟩ => by simp [FunctionBody.toJson, content.plain_toJson]

theorem BodyContent.plain_toJson : ∀ c : BodyContent, c.toJson.Plain
  | .empty => by simp [BodyContent.toJson]
  | .expression e => by simp [BodyContent.toJson, e.plain_toJson]
  | .block statements => by simp [BodyContent.toJson, plain_statementsToJson statements]

theorem Statement.plain_toJson : ∀ s : Statement, s.toJson.Plain
  | .block statements _ => by simp [Statement.toJson, plain_statementsToJson statements]
  | .expression e => by simp [Statement.toJson, e.plain_toJson]
  | .returns value _ => by simp [Statement.toJson, plain_optionalExprToJson value]
  | .localVariable _ _ initializer _ => by
      simp [Statement.toJson, plain_optionalExprToJson initializer]
  | .branch condition thenBranch elseBranch _ => by
      simp [Statement.toJson, condition.plain_toJson, thenBranch.plain_toJson,
        plain_optionalStatementToJson elseBranch]
  | .attempt body catches cleanup _ => by
      simp [Statement.toJson, plain_statementsToJson body, plain_catchesToJson catches,
        plain_cleanupToJson cleanup]
  | .loop condition body _ => by
      simp [Statement.toJson, plain_optionalExprToJson condition, body.plain_toJson]
  | .other _ => by simp [Statement.toJson]

theorem plain_optionalStatementToJson : ∀ s : Option Statement,
    (optionalStatementToJson s).Plain
  | none => trivial
  | some s => s.plain_toJson

theorem plain_cleanupToJson : ∀ c : Option (List Statement), (cleanupToJson c).Plain
  | none => trivial
  | some statements => plain_statementsToJson statements

theorem plain_statementsToJson : ∀ ss : List Statement, Json.PlainItems (statementsToJson ss)
  | [] => trivial
  | s :: rest => ⟨s.plain_toJson, plain_statementsToJson rest⟩

theorem plain_catchesToJson : ∀ cs : List CatchClause, Json.PlainItems (catchesToJson cs)
  | [] => trivial
  | ⟨_, body⟩ :: rest => by
      simp [catchesToJson, plain_statementsToJson body, plain_catchesToJson rest]

end

end ArchLint
