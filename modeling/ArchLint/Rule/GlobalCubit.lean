import ArchLint.Rule.Basic
import ArchLint.Syntax.Render
import ArchLint.Syntax.Walk
import ArchLint.Text.Identifier

/-! # Cubits of the whole application

They hold simple state. A dependency on a repository or use case, or waiting inside a guarded block,
means that logic of a feature has leaked into them.

* `FileContext.isCubitLike` — the classes that the rule looks at.
* `FunctionBody.runsAsyncLogic` — the sign of leaked logic in a body.
* `Rule.cubitSimpleState` — the rule.
-/

namespace ArchLint

/-- The endings of types that stand for business logic. -/
def logicSuffixes : List String :=
  ["Repository", "UseCase", "Usecase", "Service", "DataSource", "Datasource"]

/-- The class is a Cubit by what it extends or by its role. -/
def FileContext.isCubitLike (ctx : FileContext) (c : ClassDecl) : Bool :=
  c.extendsBase "Cubit" || ctx.role c == .globalCubit || ctx.role c == .cubit

/-- The statement is guarded by handlers. -/
def Statement.isAttempt : Statement → Bool
  | .attempt _ _ _ _ => true
  | _ => false

/-- The expression waits for a result. -/
def Expr.waits : Expr → Bool
  | .await _ _ => true
  | .methodInvocation (some _) method _ _ _ => method == "then"
  | _ => false

/-- Somewhere in the body a statement is guarded, and somewhere an expression waits. -/
def FunctionBody.runsAsyncLogic (b : FunctionBody) : Bool :=
  (b.nodes.filterMap SyntaxNode.statement?).any (·.isAttempt) &&
    (b.nodes.filterMap SyntaxNode.expr?).any (·.waits)

/-- What is wrong with a field of a global Cubit. -/
def dependencyFinding? (c : ClassDecl) (f : FieldDecl) : Option Finding :=
  match f.type with
  | none => none
  | some type =>
    if Text.mentionsAny type.render logicSuffixes then
      some ⟨f.span, "Global cubit `" ++ c.name ++ "` depends on `" ++ type.render ++
        "`; keep global state simple"⟩
    else none

/-- What is wrong with a method of a global Cubit. -/
def asyncFinding? (c : ClassDecl) (m : MethodDecl) : Option Finding :=
  if m.body.runsAsyncLogic then
    some ⟨m.nameSpan, "Global cubit `" ++ c.name ++ "` runs async logic in `" ++ m.name ++
      "`; move it to a use case"⟩
  else none

/-- Cubits of the whole application hold no business logic. -/
def Rule.cubitSimpleState : Rule where
  name := "cubit_simple_state"
  code := "CMA016"
  description := "Global Cubits should hold simple state without business logic"
  severity := .warning
  correction := some "Move the logic into a feature Bloc or a use case"
  findings := fun ctx u =>
    some <| if ctx.isGlobalCubitPath then
      (u.classes.filter ctx.isCubitLike).flatMap fun c =>
        (c.fields.filter fun f => !f.isStatic).filterMap (dependencyFinding? c) ++
          c.methods.filterMap (asyncFinding? c)
    else []

end ArchLint
