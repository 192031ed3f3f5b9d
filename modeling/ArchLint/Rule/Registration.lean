import ArchLint.Rule.Basic
import ArchLint.Syntax.Render
import ArchLint.Syntax.Walk
import ArchLint.Text.Identifier

/-! # Registration of state units

A service locator that builds a Bloc anew on every look-up gives two widgets different states, and one
that builds it at startup builds it too early.

* `producedExpr?` — what a registration produces.
* `stateUnitNamed?` — the state unit that an expression builds.
* `Rule.lazySingletonForBloc` — the rule.
-/

namespace ArchLint

/-- The expression that a registration produces: its first positional argument or what that closure
returns. -/
def producedExpr? (arguments : List Argument) : Option Expr :=
  match arguments.find? (·.name.isNone) with
  | none => none
  | some ⟨_, .closure _ body _⟩ => body.returned?
  | some ⟨_, value⟩ => some value

/-- The expression is a name or a chain of properties of a name. -/
def Expr.isNamePath : Expr → Bool
  | .identifier _ _ => true
  | .propertyAccess target _ _ => target.isNamePath
  | _ => false

/-- The receiver of a call, when it is a chain of names. -/
def Expr.receiverPath? : Expr → Option String
  | .methodInvocation (some target) _ _ _ _ =>
    if target.isNamePath then some target.render else none
  | _ => none

/-- The text, if it speaks of a type with one of the suffixes. -/
def ifMentions (suffixes : List String) (text : String) : Option String :=
  if Text.mentionsAny text suffixes then some text else none

/-- The state unit that an expression builds: by the name it calls, then by the type it calls a
constructor or factory on. What calls nothing is judged by its text. -/
def stateUnitNamed? (suffixes : List String) (e : Expr) : Option String :=
  match e.invokedName? with
  | none => ifMentions suffixes e.render
  | some name =>
    match ifMentions suffixes name with
    | some found => some found
    | none => e.receiverPath?.bind (ifMentions suffixes)

/-- The state unit that a registration is about: by its type arguments, then by what it produces. -/
def registeredUnit? (suffixes : List String) (types : List TypeExpr)
    (arguments : List Argument) : Option String :=
  match (renderTypes types).find? (Text.mentionsAny · suffixes) with
  | some type => some type
  | none => (producedExpr? arguments).bind (stateUnitNamed? suffixes)

/-- The registrations that build too often or too early. -/
def discouragedRegistrations : List String :=
  ["registerFactory", "registerSingleton"]

/-- What is wrong with an expression as a registration of a state unit. -/
def discouraged? (suffixes : List String) : Expr → Option Finding
  | .methodInvocation _ method types arguments span =>
    if discouragedRegistrations.contains method then
      (registeredUnit? suffixes types arguments).map fun unit =>
        ⟨span, "`" ++ unit ++ "` is registered with `" ++ method ++
          "`; use `registerLazySingleton`"⟩
    else none
  | _ => none

/-- Blocs and Cubits are registered as lazy singletons. -/
def Rule.lazySingletonForBloc : Rule where
  name := "use_lazy_singleton_for_bloc"
  code := "CMA013"
  description := "Blocs and Cubits should be registered with registerLazySingleton"
  severity := .warning
  correction := some "Use `registerLazySingleton` for Blocs and Cubits"
  findings := fun ctx u =>
    some (u.exprs.filterMap (discouraged? [ctx.naming.blocSuffix, ctx.naming.cubitSuffix]))

end ArchLint
