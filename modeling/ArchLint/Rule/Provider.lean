import ArchLint.Rule.Basic
import ArchLint.Syntax.Walk

/-! # Providers in build methods

A provider that is created while a widget builds is created again on every rebuild, and the state of
its Blocs is lost.

* `ClassDecl.isWidgetLike` — the classes whose build methods count.
* `Rule.blocInMultiProvider` — the rule.
-/

namespace ArchLint

/-- The endings of names of widgets and screens. -/
def screenSuffixes : List String :=
  ["Widget", "View", "Page", "Screen"]

/-- The class extends a widget, a screen or the state of one. -/
def ClassDecl.isWidgetLike (c : ClassDecl) : Bool :=
  match c.superName? with
  | some base => base == "State" || screenSuffixes.any (Text.endsWith base)
  | none => false

/-- The build methods of a class. -/
def ClassDecl.buildMethods (c : ClassDecl) : List MethodDecl :=
  c.methods.filter fun m => m.name == "build" && !m.isStatic

/-- The expression creates a provider of several Blocs. -/
def Expr.createsMultiProvider (e : Expr) : Bool :=
  e.invokedName? == some "MultiBlocProvider"

/-- Build methods create no provider of several Blocs. -/
def Rule.blocInMultiProvider : Rule where
  name := "bloc_in_multiprovider"
  code := "CMA014"
  description := "MultiBlocProvider should not be created inside a widget build method"
  severity := .warning
  correction := some
    "Provide global Blocs at the app root or resolve them from the service locator"
  findings := fun _ u =>
    some <| (u.classes.filter (·.isWidgetLike)).flatMap fun c =>
      c.buildMethods.flatMap fun m =>
        (m.body.exprs.filter (·.createsMultiProvider)).map fun e =>
          ⟨e.span, "`" ++ c.name ++
            ".build` creates a MultiBlocProvider; Blocs are recreated on every rebuild"⟩

end ArchLint
