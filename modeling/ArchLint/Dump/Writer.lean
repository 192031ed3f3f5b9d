import ArchLint.Json.Basic
import ArchLint.Syntax.Basic

/-! # Writing trees

A tree as a JSON document. Every field is written, also where it has its default value; only the text
of a file is left out when it is absent.

* `Expr.toJson`, `ClassDecl.toJson`, `SourceUnit.toJson` and the like — one function per type.
* `Expr.kind`, `Statement.kind` and the like — the words for the kinds of node.
-/

namespace ArchLint

namespace Json

/-- A 64-bit number. -/
def word (n : UInt64) : Json :=
  .nat n.toNat

/-- A value that may be absent. -/
def orNull {α : Type} (write : α → Json) : Option α → Json
  | some a => write a
  | none => .null

/-- A list of texts. -/
def texts (l : List String) : Json :=
  .arr (l.map .str)

/-- A record with a kind. -/
def tagged (kind : String) (members : List (String × Json)) : Json :=
  .obj (("kind", .str kind) :: members)

end Json

open Json (word orNull texts tagged)

def Span.toJson (s : Span) : Json :=
  .obj [("offset", word s.offset), ("length", word s.length), ("line", word s.line),
    ("column", word s.column)]

mutual

def TypeExpr.toJson : TypeExpr → Json
  | ⟨name, arguments, nullable, span⟩ =>
    .obj [("name", .str name), ("arguments", .arr (typesToJson arguments)),
      ("nullable", .bool nullable), ("span", span.toJson)]

def typesToJson : List TypeExpr → List Json
  | [] => []
  | t :: ts => t.toJson :: typesToJson ts

end

def ParameterKind.token : ParameterKind → String
  | .positional => "positional"
  | .optionalPositional => "optional_positional"
  | .named => "named"

def BodyModifier.token : BodyModifier → String
  | .sync => "sync"
  | .async => "async"
  | .syncStar => "sync_star"
  | .asyncStar => "async_star"

def Expr.kind : Expr → String
  | .identifier _ _ => "identifier"
  | .literal _ _ => "literal"
  | .this _ => "this"
  | .propertyAccess _ _ _ => "property_access"
  | .methodInvocation _ _ _ _ _ => "method_invocation"
  | .instanceCreation _ _ _ _ _ => "instance_creation"
  | .closure _ _ _ => "closure"
  | .await _ _ => "await"
  | .binary _ _ _ _ => "binary"
  | .assignment _ _ _ _ => "assignment"
  | .conditional _ _ _ _ => "conditional"
  | .cascade _ _ _ => "cascade"
  | .list _ _ => "list"
  | .other _ _ => "other"

def Statement.kind : Statement → String
  | .block _ _ => "block"
  | .expression _ => "expression"
  | .returns _ _ => "return"
  | .localVariable _ _ _ _ => "variable"
  | .branch _ _ _ _ => "if"
  | .attempt _ _ _ _ => "try"
  | .loop _ _ _ => "loop"
  | .other _ => "other"

mutual

def Expr.toJson : Expr → Json
  | .identifier name span => tagged "identifier" [("name", .str name), ("span", span.toJson)]
  | .literal value span => tagged "literal" [("value", .str value), ("span", span.toJson)]
  | .this span => tagged "this" [("span", span.toJson)]
  | .propertyAccess target property span =>
    tagged "property_access" [("target", target.toJson), ("property", .str property),
      ("span", span.toJson)]
  | .methodInvocation target method typeArguments arguments span =>
    tagged "method_invocation" [("target", optionalExprToJson target), ("method", .str method),
      ("type_arguments", .arr (typesToJson typeArguments)),
      ("arguments", .arr (argumentsToJson arguments)), ("span", span.toJson)]
  | .instanceCreation type constructorName isConst arguments span =>
    tagged "instance_creation" [("type", type.toJson), ("constructor", orNull .str constructorName),
      ("is_const", .bool isConst), ("arguments", .arr (argumentsToJson arguments)),
      ("span", span.toJson)]
  | .closure parameters body span =>
    tagged "closure" [("parameters", .arr (parametersToJson parameters)), ("body", body.toJson),
      ("span", span.toJson)]
  | .await operand span => tagged "await" [("expr", operand.toJson), ("span", span.toJson)]
  | .binary left operator right span =>
    tagged "binary" [("left", left.toJson), ("operator", .str operator), ("right", right.toJson),
      ("span", span.toJson)]
  | .assignment target operator value span =>
    tagged "assignment" [("target", target.toJson), ("operator", .str operator),
      ("value", value.toJson), ("span", span.toJson)]
  | .conditional condition thenExpr elseExpr span =>
    tagged "conditional" [("condition", condition.toJson), ("then_expr", thenExpr.toJson),
      ("else_expr", elseExpr.toJson), ("span", span.toJson)]
  | .cascade target sections span =>
    tagged "cascade" [("target", target.toJson), ("sections", .arr (exprsToJson sections)),
      ("span", span.toJson)]
  | .list elements span =>
    tagged "list" [("elements", .arr (exprsToJson elements)), ("span", span.toJson)]
  | .other text span => tagged "other" [("text", .str text), ("span", span.toJson)]

def optionalExprToJson : Option Expr → Json
  | none => .null
  | some e => e.toJson

def exprsToJson : List Expr → List Json
  | [] => []
  | e :: es => e.toJson :: exprsToJson es

def argumentsToJson : List Argument → List Json
  | [] => []
  | ⟨name, value⟩ :: rest =>
    .obj [("name", orNull .str name), ("value", value.toJson)] :: argumentsToJson rest

def parametersToJson : List Parameter → List Json
  | [] => []
  | ⟨name, type, kind, isRequired, isFieldFormal, defaultValue⟩ :: rest =>
    .obj [("name", .str name), ("type", orNull TypeExpr.toJson type),
      ("parameter_kind", .str kind.token), ("is_required", .bool isRequired),
      ("is_field_formal", .bool isFieldFormal),
      ("default_value", optionalExprToJson defaultValue)] :: parametersToJson rest

def FunctionBody.toJson : FunctionBody → Json
  | ⟨modifier, content⟩ => .obj [("modifier", .str modifier.token), ("content", content.toJson)]

def BodyContent.toJson : BodyContent → Json
  | .empty => tagged "empty" []
  | .expression e => tagged "expression" [("expr", e.toJson)]
  | .block statements => tagged "block" [("statements", .arr (statementsToJson statements))]

def Statement.toJson : Statement → Json
  | .block statements span =>
    tagged "block" [("statements", .arr (statementsToJson statements)), ("span", span.toJson)]
  | .expression e => tagged "expression" [("expr", e.toJson)]
  | .returns value span =>
    tagged "return" [("value", optionalExprToJson value), ("span", span.toJson)]
  | .localVariable name type initializer span =>
    tagged "variable" [("name", .str name), ("type", orNull TypeExpr.toJson type),
      ("initializer", optionalExprToJson initializer), ("span", span.toJson)]
  | .branch condition thenBranch elseBranch span =>
    tagged "if" [("condition", condition.toJson), ("then_branch", thenBranch.toJson),
      ("else_branch", optionalStatementToJson elseBranch), ("span", span.toJson)]
  | .attempt body catches cleanup span =>
    tagged "try" [("body", .arr (statementsToJson body)), ("catches", .arr (catchesToJson catches)),
      ("finally", cleanupToJson cleanup), ("span", span.toJson)]
  | .loop condition body span =>
    tagged "loop" [("condition", optionalExprToJson condition), ("body", body.toJson),
      ("span", span.toJson)]
  | .other span => tagged "other" [("span", span.toJson)]

def optionalStatementToJson : Option Statement → Json
  | none => .null
  | some s => s.toJson

def cleanupToJson : Option (List Statement) → Json
  | none => .null
  | some statements => .arr (statementsToJson statements)

def statementsToJson : List Statement → List Json
  | [] => []
  | s :: rest => s.toJson :: statementsToJson rest

def catchesToJson : List CatchClause → List Json
  | [] => []
  | ⟨exceptionType, body⟩ :: rest =>
    .obj [("exception_type", orNull TypeExpr.toJson exceptionType),
      ("body", .arr (statementsToJson body))] :: catchesToJson rest

end

/-! ## Declarations -/

def VariableDeclarator.toJson (v : VariableDeclarator) : Json :=
  .obj [("name", .str v.name), ("initializer", optionalExprToJson v.initializer),
    ("span", v.span.toJson)]

def FieldDecl.members (f : FieldDecl) : List (String × Json) :=
  [("is_static", .bool f.isStatic), ("is_final", .bool f.isFinal), ("is_const", .bool f.isConst),
    ("is_late", .bool f.isLate), ("type", orNull TypeExpr.toJson f.type),
    ("variables", .arr (f.declarators.map VariableDeclarator.toJson)), ("span", f.span.toJson)]

def ConstructorDecl.members (c : ConstructorDecl) : List (String × Json) :=
  [("name", orNull .str c.name), ("is_const", .bool c.isConst), ("is_factory", .bool c.isFactory),
    ("parameters", .arr (parametersToJson c.parameters)), ("body", c.body.toJson),
    ("span", c.span.toJson)]

def MethodKind.token : MethodKind → String
  | .method => "method"
  | .getter => "getter"
  | .setter => "setter"
  | .operator => "operator"

def MethodDecl.members (m : MethodDecl) : List (String × Json) :=
  [("name", .str m.name), ("method_kind", .str m.kind.token), ("is_static", .bool m.isStatic),
    ("return_type", orNull TypeExpr.toJson m.returnType),
    ("parameters", .arr (parametersToJson m.parameters)), ("body", m.body.toJson),
    ("name_span", m.nameSpan.toJson), ("span", m.span.toJson)]

def FunctionDecl.members (f : FunctionDecl) : List (String × Json) :=
  [("name", .str f.name), ("return_type", orNull TypeExpr.toJson f.returnType),
    ("parameters", .arr (parametersToJson f.parameters)), ("body", f.body.toJson),
    ("span", f.span.toJson)]

def ClassMember.toJson : ClassMember → Json
  | .field f => tagged "field" f.members
  | .constructor c => tagged "constructor" c.members
  | .method m => tagged "method" m.members

def ClassKind.token : ClassKind → String
  | .plain => "class"
  | .mixin => "mixin"
  | .enumeration => "enum"

/-- Class modifiers as a document. -/
def ClassModifiers.toJson (m : ClassModifiers) : Json :=
  .obj [("is_abstract", .bool m.isAbstract), ("is_interface", .bool m.isInterface),
    ("is_base", .bool m.isBase), ("is_final", .bool m.isFinal), ("is_sealed", .bool m.isSealed)]

def ClassDecl.jsonMembers (c : ClassDecl) : List (String × Json) :=
  [("name", .str c.name), ("class_kind", .str c.kind.token), ("modifiers", c.modifiers.toJson),
    ("type_parameters", texts c.typeParameters),
    ("extends", orNull TypeExpr.toJson c.superclass),
    ("implements", .arr (typesToJson c.interfaces)), ("mixins", .arr (typesToJson c.mixins)),
    ("members", .arr (c.members.map ClassMember.toJson)), ("name_span", c.nameSpan.toJson),
    ("span", c.span.toJson)]

def ReferenceKind.token : ReferenceKind → String
  | .imported => "import"
  | .exported => "export"
  | .part => "part"

def Directive.toJson : Directive → Json
  | .reference kind target =>
    tagged kind.token [("uri", .str target.uri), ("prefix", orNull .str target.importPrefix),
      ("span", target.span.toJson)]
  | .library name span => tagged "library" [("name", .str name), ("span", span.toJson)]

def Directive.kind : Directive → String
  | .reference kind _ => kind.token
  | .library _ _ => "library"

def Declaration.kind : Declaration → String
  | .classLike _ => "class"
  | .function _ => "function"
  | .variableList _ => "variable"
  | .other _ => "other"

def Declaration.toJson : Declaration → Json
  | .classLike c => tagged "class" c.jsonMembers
  | .function f => tagged "function" f.members
  | .variableList f => tagged "variable" f.members
  | .other span => tagged "other" [("span", span.toJson)]

def CompilationUnit.toJson (u : CompilationUnit) : Json :=
  .obj [("directives", .arr (u.directives.map Directive.toJson)),
    ("declarations", .arr (u.declarations.map Declaration.toJson))]

def SourceUnit.toJson (u : SourceUnit) : Json :=
  .obj ([("path", .str u.path), ("unit", u.unit.toJson)] ++
    match u.content with
    | some text => [("content", .str text)]
    | none => [])

end ArchLint
