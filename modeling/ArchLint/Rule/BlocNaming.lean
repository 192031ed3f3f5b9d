import ArchLint.Rule.Basic
import ArchLint.Syntax.Render

/-! # Names of Blocs, events and states

The rule applies in directories of Blocs and to files that are named for a Bloc, its events or its
states.

* `FileContext.isBlocFile` — the files that the rule applies to.
* `blocFindings`, `partFinding?` — what it says of a Bloc, and of an event or state.
* `Rule.blocNamingConvention` — the rule.
-/

namespace ArchLint

/-- The file lies in a directory of Blocs or is named for a part of one. -/
def FileContext.isBlocFile (ctx : FileContext) : Bool :=
  ["bloc", "blocs"].any ctx.path.contains ||
    ["_bloc.dart", "_event.dart", "_state.dart"].any (Text.endsWith ctx.path.fileName)

/-- A sort of type that belongs to a Bloc. -/
inductive BlocPart where
  | event
  | state
deriving DecidableEq, Repr

namespace BlocPart

/-- How the names of such types end. -/
def suffix : BlocPart → String
  | .event => "Event"
  | .state => "State"

/-- Such a type within a message. -/
def noun : BlocPart → String
  | .event => "event"
  | .state => "state"

/-- How the names of files of such types end. -/
def fileSuffix : BlocPart → String
  | .event => "_event.dart"
  | .state => "_state.dart"

/-- The place of such a type among the type arguments of a Bloc. -/
def position : BlocPart → Nat
  | .event => 0
  | .state => 1

/-- Both sorts in order. -/
def all : List BlocPart :=
  [.event, .state]

end BlocPart

/-- What is wrong with a type argument of a Bloc. -/
def argumentFinding? (c : ClassDecl) (base : TypeExpr) (part : BlocPart) : Option Finding :=
  match base.arguments[part.position]? with
  | none => none
  | some argument =>
    if Text.endsWith argument.baseName part.suffix then none
    else
      some ⟨c.nameSpan, "Bloc `" ++ c.name ++ "` uses " ++ part.noun ++ " type `" ++
        argument.render ++ "`; " ++ part.noun ++ " types should end with `" ++ part.suffix ++ "`"⟩

/-- What is wrong with a Bloc: its name and its type arguments. -/
def blocFindings (suffix : String) (c : ClassDecl) (base : TypeExpr) : List Finding :=
  (if Text.endsWith c.name suffix then []
    else [⟨c.nameSpan, "Bloc class `" ++ c.name ++ "` should end with `" ++ suffix ++ "`"⟩]) ++
    BlocPart.all.filterMap (argumentFinding? c base)

/-- What is wrong with a class in a file of events or states. A class below an event or state keeps a
name of its own. -/
def partFinding? (c : ClassDecl) (part : BlocPart) : Option Finding :=
  if Text.endsWith c.name part.suffix then none
  else if (c.superclass.toList ++ c.interfaces).any (Text.endsWith ·.baseName part.suffix) then none
  else
    some ⟨c.nameSpan, part.suffix ++ " class `" ++ c.name ++ "` should end with `" ++ part.suffix ++
      "` or extend a `*" ++ part.suffix ++ "` type"⟩

/-- The type that a class extends, if that is a Bloc. -/
def ClassDecl.blocBase? (c : ClassDecl) : Option TypeExpr :=
  c.superclass.filter (·.baseName == "Bloc")

/-- What is wrong with a class of a Bloc file. -/
def blocFileFindings (ctx : FileContext) (c : ClassDecl) : List Finding :=
  match c.blocBase? with
  | some base => blocFindings ctx.naming.blocSuffix c base
  | none =>
    match BlocPart.all.find? fun part => Text.endsWith ctx.path.fileName part.fileSuffix with
    | some part => (partFinding? c part).toList
    | none => []

/-- Blocs, events and states end as the convention says. -/
def Rule.blocNamingConvention : Rule where
  name := "bloc_naming_convention"
  code := "CMA015"
  description := "Blocs, events, and states must follow the naming convention"
  severity := .warning
  correction := some "Rename to `<Feature>Bloc`, `<Feature>Event`, and `<Feature>State`"
  findings := fun ctx u =>
    some <| if ctx.isBlocFile then
      (u.classes.filter fun c => c.kind == .plain).flatMap (blocFileFindings ctx)
    else []

end ArchLint
