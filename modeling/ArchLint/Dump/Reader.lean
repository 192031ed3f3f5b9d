import ArchLint.Json.Reader
import ArchLint.Json.Record
import ArchLint.Syntax.Basic

/-! # Reading trees

A tree from a JSON document. The first argument of each function is the number of levels of nesting
that the document may still open; every record and every list opens one.

* `Expr.ofJson?`, `ClassDecl.ofJson?`, `SourceUnit.ofJson?` and the like — one function per type.
* `nestingLimit` — the levels that a document may open.
* `SourceUnit.ofText?` — a file under analysis from the text of its dump.
-/

namespace ArchLint

open Json (required defaulted optional text? flag? word? keyword? listOf?)

def Span.ofJson? : Nat → Json → Option Span
  | 0, _ => none
  | _ + 1, j =>
    match j.fields? ["offset", "length", "line", "column"] with
    | some [offset, length, line, column] => do
      return ⟨← defaulted 0 word? offset, ← defaulted 0 word? length, ← defaulted 0 word? line,
        ← defaulted 0 word? column⟩
    | _ => none

mutual

def TypeExpr.ofJson? : Nat → Json → Option TypeExpr
  | 0, _ => none
  | n + 1, j =>
    match j.fields? ["name", "arguments", "nullable", "span"] with
    | some [name, arguments, nullable, span] => do
      return ⟨← required text? name, ← defaulted [] (typesOfJson? n) arguments,
        ← defaulted false flag? nullable, ← defaulted {} (Span.ofJson? n) span⟩
    | _ => none

def typesOfJson? : Nat → Json → Option (List TypeExpr)
  | n + 1, .arr items => items.mapM (TypeExpr.ofJson? n)
  | _, _ => none

end

def ParameterKind.words : List (String × ParameterKind) :=
  [("positional", .positional), ("optional_positional", .optionalPositional), ("named", .named)]

def BodyModifier.words : List (String × BodyModifier) :=
  [("sync", .sync), ("async", .async), ("sync_star", .syncStar), ("async_star", .asyncStar)]

/-- The kinds of expression in order. -/
def Expr.kinds : List String :=
  ["identifier", "literal", "this", "property_access", "method_invocation", "instance_creation",
    "closure", "await", "binary", "assignment", "conditional", "cascade", "list", "other"]

/-- The kinds of statement in order. -/
def Statement.kinds : List String :=
  ["block", "expression", "return", "variable", "if", "try", "loop", "other"]

/-- The kinds of body in order. -/
def BodyContent.kinds : List String :=
  ["empty", "expression", "block"]

mutual

/-- An expression from a document that is kept whole. -/
def Expr.ofJson? : Nat → Json → Option Expr
  | 0, _ => none
  | n + 1, j =>
    match j.variant? Expr.kinds with
    | some ("identifier", record) =>
      match record.fields? ["name", "span"] with
      | some [name, span] => do
        return .identifier (← required text? name) (← defaulted {} (Span.ofJson? n) span)
      | _ => none
    | some ("literal", record) =>
      match record.fields? ["value", "span"] with
      | some [value, span] => do
        return .literal (← required text? value) (← defaulted {} (Span.ofJson? n) span)
      | _ => none
    | some ("this", record) =>
      match record.fields? ["span"] with
      | some [span] => do return .this (← defaulted {} (Span.ofJson? n) span)
      | _ => none
    | some ("property_access", record) =>
      match record.fields? ["target", "property", "span"] with
      | some [target, property, span] => do
        return .propertyAccess (← required (Expr.ofJson? n) target) (← required text? property)
          (← defaulted {} (Span.ofJson? n) span)
      | _ => none
    | some ("method_invocation", record) =>
      match record.fields? ["target", "method", "type_arguments", "arguments", "span"] with
      | some [target, method, typeArguments, arguments, span] => do
        return .methodInvocation (← optional (Expr.ofJson? n) target) (← required text? method)
          (← defaulted [] (typesOfJson? n) typeArguments)
          (← defaulted [] (argumentsOfJson? n) arguments) (← defaulted {} (Span.ofJson? n) span)
      | _ => none
    | some ("instance_creation", record) =>
      match record.fields? ["type", "constructor", "is_const", "arguments", "span"] with
      | some [type, constructorName, isConst, arguments, span] => do
        return .instanceCreation (← required (TypeExpr.ofJson? n) type)
          (← optional text? constructorName) (← defaulted false flag? isConst)
          (← defaulted [] (argumentsOfJson? n) arguments) (← defaulted {} (Span.ofJson? n) span)
      | _ => none
    | some ("closure", record) =>
      match record.fields? ["parameters", "body", "span"] with
      | some [parameters, body, span] => do
        return .closure (← defaulted [] (parametersOfJson? n) parameters)
          (← required (FunctionBody.ofJson? true n) body) (← defaulted {} (Span.ofJson? n) span)
      | _ => none
    | some ("await", record) =>
      match record.fields? ["expr", "span"] with
      | some [operand, span] => do
        return .await (← required (Expr.ofJson? n) operand) (← defaulted {} (Span.ofJson? n) span)
      | _ => none
    | some ("binary", record) =>
      match record.fields? ["left", "operator", "right", "span"] with
      | some [left, operator, right, span] => do
        return .binary (← required (Expr.ofJson? n) left) (← required text? operator)
          (← required (Expr.ofJson? n) right) (← defaulted {} (Span.ofJson? n) span)
      | _ => none
    | some ("assignment", record) =>
      match record.fields? ["target", "operator", "value", "span"] with
      | some [target, operator, value, span] => do
        return .assignment (← required (Expr.ofJson? n) target) (← required text? operator)
          (← required (Expr.ofJson? n) value) (← defaulted {} (Span.ofJson? n) span)
      | _ => none
    | some ("conditional", record) =>
      match record.fields? ["condition", "then_expr", "else_expr", "span"] with
      | some [condition, thenExpr, elseExpr, span] => do
        return .conditional (← required (Expr.ofJson? n) condition)
          (← required (Expr.ofJson? n) thenExpr) (← required (Expr.ofJson? n) elseExpr)
          (← defaulted {} (Span.ofJson? n) span)
      | _ => none
    | some ("cascade", record) =>
      match record.fields? ["target", "sections", "span"] with
      | some [target, sections, span] => do
        return .cascade (← required (Expr.ofJson? n) target)
          (← defaulted [] (exprsOfJson? n) sections) (← defaulted {} (Span.ofJson? n) span)
      | _ => none
    | some ("list", record) =>
      match record.fields? ["elements", "span"] with
      | some [elements, span] => do
        return .list (← defaulted [] (exprsOfJson? n) elements)
          (← defaulted {} (Span.ofJson? n) span)
      | _ => none
    | some ("other", record) =>
      match record.fields? ["text", "span"] with
      | some [text, span] => do
        return .other (← defaulted "" text? text) (← defaulted {} (Span.ofJson? n) span)
      | _ => none
    | _ => none

def exprsOfJson? : Nat → Json → Option (List Expr)
  | n + 1, .arr items => items.mapM (Expr.ofJson? n)
  | _, _ => none

def Argument.ofJson? : Nat → Json → Option Argument
  | 0, _ => none
  | n + 1, j =>
    match j.fields? ["name", "value"] with
    | some [name, value] => do
      return ⟨← optional text? name, ← required (Expr.ofJson? n) value⟩
    | _ => none

def argumentsOfJson? : Nat → Json → Option (List Argument)
  | n + 1, .arr items => items.mapM (Argument.ofJson? n)
  | _, _ => none

def Parameter.ofJson? : Nat → Json → Option Parameter
  | 0, _ => none
  | n + 1, j =>
    match j.fields?
        ["name", "type", "parameter_kind", "is_required", "is_field_formal", "default_value"] with
    | some [name, type, kind, isRequired, isFieldFormal, defaultValue] => do
      return ⟨← required text? name, ← optional (TypeExpr.ofJson? n) type,
        ← defaulted .positional (keyword? true ParameterKind.words) kind,
        ← defaulted false flag? isRequired, ← defaulted false flag? isFieldFormal,
        ← optional (Expr.ofJson? n) defaultValue⟩
    | _ => none

def parametersOfJson? : Nat → Json → Option (List Parameter)
  | n + 1, .arr items => items.mapM (Parameter.ofJson? n)
  | _, _ => none

/-- A body from a document, which may lie within a record that is kept whole. -/
def FunctionBody.ofJson? (held : Bool) : Nat → Json → Option FunctionBody
  | 0, _ => none
  | n + 1, j =>
    match j.fields? ["modifier", "content"] with
    | some [modifier, content] => do
      return ⟨← defaulted .sync (keyword? held BodyModifier.words) modifier,
        ← defaulted .empty (fun c => (c.keep? held n).bind (BodyContent.ofJson? n)) content⟩
    | _ => none

/-- The shape of a body from a document that is kept whole. An empty body has no fields, so whatever
its object holds is passed over. -/
def BodyContent.ofJson? : Nat → Json → Option BodyContent
  | 0, _ => none
  | n + 1, j =>
    match j.variant? BodyContent.kinds with
    | some ("empty", .arr (_ :: _)) => none
    | some ("empty", _) => some .empty
    | some ("expression", record) =>
      match record.fields? ["expr"] with
      | some [expr] => do return .expression (← required (Expr.ofJson? n) expr)
      | _ => none
    | some ("block", record) =>
      match record.fields? ["statements"] with
      | some [statements] => do return .block (← defaulted [] (statementsOfJson? n) statements)
      | _ => none
    | _ => none

/-- A statement from a document that is kept whole. -/
def Statement.ofJson? : Nat → Json → Option Statement
  | 0, _ => none
  | n + 1, j =>
    match j.variant? Statement.kinds with
    | some ("block", record) =>
      match record.fields? ["statements", "span"] with
      | some [statements, span] => do
        return .block (← defaulted [] (statementsOfJson? n) statements)
          (← defaulted {} (Span.ofJson? n) span)
      | _ => none
    | some ("expression", record) =>
      match record.fields? ["expr"] with
      | some [expr] => do return .expression (← required (Expr.ofJson? n) expr)
      | _ => none
    | some ("return", record) =>
      match record.fields? ["value", "span"] with
      | some [value, span] => do
        return .returns (← optional (Expr.ofJson? n) value) (← defaulted {} (Span.ofJson? n) span)
      | _ => none
    | some ("variable", record) =>
      match record.fields? ["name", "type", "initializer", "span"] with
      | some [name, type, initializer, span] => do
        return .localVariable (← required text? name) (← optional (TypeExpr.ofJson? n) type)
          (← optional (Expr.ofJson? n) initializer) (← defaulted {} (Span.ofJson? n) span)
      | _ => none
    | some ("if", record) =>
      match record.fields? ["condition", "then_branch", "else_branch", "span"] with
      | some [condition, thenBranch, elseBranch, span] => do
        return .branch (← required (Expr.ofJson? n) condition)
          (← required (Statement.ofJson? n) thenBranch)
          (← optional (Statement.ofJson? n) elseBranch) (← defaulted {} (Span.ofJson? n) span)
      | _ => none
    | some ("try", record) =>
      match record.fields? ["body", "catches", "finally", "span"] with
      | some [body, catches, cleanup, span] => do
        return .attempt (← defaulted [] (statementsOfJson? n) body)
          (← defaulted [] (catchesOfJson? n) catches) (← optional (statementsOfJson? n) cleanup)
          (← defaulted {} (Span.ofJson? n) span)
      | _ => none
    | some ("loop", record) =>
      match record.fields? ["condition", "body", "span"] with
      | some [condition, body, span] => do
        return .loop (← optional (Expr.ofJson? n) condition) (← required (Statement.ofJson? n) body)
          (← defaulted {} (Span.ofJson? n) span)
      | _ => none
    | some ("other", record) =>
      match record.fields? ["span"] with
      | some [span] => do return .other (← defaulted {} (Span.ofJson? n) span)
      | _ => none
    | _ => none

def statementsOfJson? : Nat → Json → Option (List Statement)
  | n + 1, .arr items => items.mapM (Statement.ofJson? n)
  | _, _ => none

def CatchClause.ofJson? : Nat → Json → Option CatchClause
  | 0, _ => none
  | n + 1, j =>
    match j.fields? ["exception_type", "body"] with
    | some [exceptionType, body] => do
      return ⟨← optional (TypeExpr.ofJson? n) exceptionType,
        ← defaulted [] (statementsOfJson? n) body⟩
    | _ => none

def catchesOfJson? : Nat → Json → Option (List CatchClause)
  | n + 1, .arr items => items.mapM (CatchClause.ofJson? n)
  | _, _ => none

end

/-! ## Declarations -/

def VariableDeclarator.ofJson? : Nat → Json → Option VariableDeclarator
  | 0, _ => none
  | n + 1, j =>
    match j.fields? ["name", "initializer", "span"] with
    | some [name, initializer, span] => do
      return ⟨← required text? name, ← optional (Expr.ofJson? n) initializer,
        ← defaulted {} (Span.ofJson? n) span⟩
    | _ => none

def FieldDecl.ofJson? : Nat → Json → Option FieldDecl
  | 0, _ => none
  | n + 1, j =>
    match j.fields?
        ["is_static", "is_final", "is_const", "is_late", "type", "variables", "span"] with
    | some [isStatic, isFinal, isConst, isLate, type, declarators, span] => do
      return ⟨← defaulted false flag? isStatic, ← defaulted false flag? isFinal,
        ← defaulted false flag? isConst, ← defaulted false flag? isLate,
        ← optional (TypeExpr.ofJson? n) type,
        ← defaulted [] (listOf? VariableDeclarator.ofJson? n) declarators,
        ← defaulted {} (Span.ofJson? n) span⟩
    | _ => none

def ConstructorDecl.ofJson? : Nat → Json → Option ConstructorDecl
  | 0, _ => none
  | n + 1, j =>
    match j.fields? ["name", "is_const", "is_factory", "parameters", "body", "span"] with
    | some [name, isConst, isFactory, parameters, body, span] => do
      return ⟨← optional text? name, ← defaulted false flag? isConst,
        ← defaulted false flag? isFactory, ← defaulted [] (parametersOfJson? n) parameters,
        ← defaulted default (FunctionBody.ofJson? true n) body, ← defaulted {} (Span.ofJson? n) span⟩
    | _ => none

def MethodKind.words : List (String × MethodKind) :=
  [("method", .method), ("getter", .getter), ("setter", .setter), ("operator", .operator)]

def MethodDecl.ofJson? : Nat → Json → Option MethodDecl
  | 0, _ => none
  | n + 1, j =>
    match j.fields? ["name", "method_kind", "is_static", "return_type", "parameters", "body",
        "name_span", "span"] with
    | some [name, kind, isStatic, returnType, parameters, body, nameSpan, span] => do
      return ⟨← required text? name, ← defaulted .method (keyword? true MethodKind.words) kind,
        ← defaulted false flag? isStatic, ← optional (TypeExpr.ofJson? n) returnType,
        ← defaulted [] (parametersOfJson? n) parameters,
        ← defaulted default (FunctionBody.ofJson? true n) body,
        ← defaulted {} (Span.ofJson? n) nameSpan, ← defaulted {} (Span.ofJson? n) span⟩
    | _ => none

def FunctionDecl.ofJson? : Nat → Json → Option FunctionDecl
  | 0, _ => none
  | n + 1, j =>
    match j.fields? ["name", "return_type", "parameters", "body", "span"] with
    | some [name, returnType, parameters, body, span] => do
      return ⟨← required text? name, ← optional (TypeExpr.ofJson? n) returnType,
        ← defaulted [] (parametersOfJson? n) parameters,
        ← defaulted default (FunctionBody.ofJson? true n) body, ← defaulted {} (Span.ofJson? n) span⟩
    | _ => none

/-- A member of a class from a document that is kept whole. -/
def ClassMember.ofJson? (levels : Nat) (j : Json) : Option ClassMember :=
  match j.variant? ["field", "constructor", "method"] with
  | some ("field", record) => (FieldDecl.ofJson? levels record).map .field
  | some ("constructor", record) => (ConstructorDecl.ofJson? levels record).map .constructor
  | some ("method", record) => (MethodDecl.ofJson? levels record).map .method
  | _ => none

def ClassKind.words : List (String × ClassKind) :=
  [("class", .plain), ("mixin", .mixin), ("enum", .enumeration)]

/-- Class modifiers from a document. -/
def ClassModifiers.ofJson? : Nat → Json → Option ClassModifiers
  | 0, _ => none
  | _ + 1, j =>
    match j.fields? ["is_abstract", "is_interface", "is_base", "is_final", "is_sealed"] with
    | some [isAbstract, isInterface, isBase, isFinal, isSealed] => do
      return ⟨← defaulted false flag? isAbstract, ← defaulted false flag? isInterface,
        ← defaulted false flag? isBase, ← defaulted false flag? isFinal,
        ← defaulted false flag? isSealed⟩
    | _ => none

/-- A class from a document, which may be kept whole or not. -/
def ClassDecl.ofJson? (held : Bool) : Nat → Json → Option ClassDecl
  | 0, _ => none
  | n + 1, j =>
    match j.fields? ["name", "class_kind", "modifiers", "type_parameters", "extends", "implements",
        "mixins", "members", "name_span", "span"] with
    | some [name, kind, modifiers, typeParameters, superclass, interfaces, mixins, members, nameSpan,
        span] => do
      return ⟨← required text? name, ← defaulted .plain (keyword? held ClassKind.words) kind,
        ← defaulted {} (ClassModifiers.ofJson? n) modifiers,
        ← defaulted [] (listOf? (fun _ => text?) n) typeParameters,
        ← optional (TypeExpr.ofJson? n) superclass,
        ← defaulted [] (typesOfJson? n) interfaces, ← defaulted [] (typesOfJson? n) mixins,
        ← defaulted [] (listOf? (fun m k => (k.keep? held m).bind (ClassMember.ofJson? m)) n)
          members,
        ← defaulted {} (Span.ofJson? n) nameSpan, ← defaulted {} (Span.ofJson? n) span⟩
    | _ => none

/-- The file that a directive names, from a document. -/
def Reference.ofJson? : Nat → Json → Option Reference
  | 0, _ => none
  | n + 1, j =>
    match j.fields? ["uri", "prefix", "span"] with
    | some [uri, importPrefix, span] => do
      return ⟨← required text? uri, ← optional text? importPrefix,
        ← defaulted {} (Span.ofJson? n) span⟩
    | _ => none

/-- A directive from a document that is kept whole. -/
def Directive.ofJson? : Nat → Json → Option Directive
  | 0, _ => none
  | n + 1, j =>
    match j.variant? ["import", "export", "part", "library"] with
    | some ("import", record) => (Reference.ofJson? (n + 1) record).map (.reference .imported)
    | some ("export", record) => (Reference.ofJson? (n + 1) record).map (.reference .exported)
    | some ("part", record) => (Reference.ofJson? (n + 1) record).map (.reference .part)
    | some ("library", record) =>
      match record.fields? ["name", "span"] with
      | some [name, span] => do
        return .library (← defaulted "" text? name) (← defaulted {} (Span.ofJson? n) span)
      | _ => none
    | _ => none

/-- A declaration from a document that is kept whole. -/
def Declaration.ofJson? : Nat → Json → Option Declaration
  | 0, _ => none
  | n + 1, j =>
    match j.variant? ["class", "function", "variable", "other"] with
    | some ("class", record) => (ClassDecl.ofJson? true (n + 1) record).map .classLike
    | some ("function", record) => (FunctionDecl.ofJson? (n + 1) record).map .function
    | some ("variable", record) => (FieldDecl.ofJson? (n + 1) record).map .variableList
    | some ("other", record) =>
      match record.fields? ["span"] with
      | some [span] => do return .other (← defaulted {} (Span.ofJson? n) span)
      | _ => none
    | _ => none

def CompilationUnit.ofJson? : Nat → Json → Option CompilationUnit
  | 0, _ => none
  | n + 1, j =>
    match j.fields? ["directives", "declarations"] with
    | some [directives, declarations] => do
      return ⟨← defaulted []
          (listOf? (fun m k => (k.keep? false m).bind (Directive.ofJson? m)) n) directives,
        ← defaulted []
          (listOf? (fun m k => (k.keep? false m).bind (Declaration.ofJson? m)) n) declarations⟩
    | _ => none

def SourceUnit.ofJson? : Nat → Json → Option SourceUnit
  | 0, _ => none
  | n + 1, j =>
    match j.fields? ["path", "unit", "content"] with
    | some [path, unit, content] => do
      return ⟨← required text? path, ← required (CompilationUnit.ofJson? n) unit,
        ← optional text? content⟩
    | _ => none

/-- The levels of arrays and objects that a document may open. -/
def nestingLimit : Nat :=
  127

/-- A value of any type from the text of a document. -/
def readDocument {α : Type} (ofJson? : Nat → Json → Option α) (text : String) : Option α :=
  (Json.read text).bind (ofJson? nestingLimit)

/-- A file under analysis from the text of its dump. -/
def SourceUnit.ofText? (text : String) : Option SourceUnit :=
  readDocument SourceUnit.ofJson? text

end ArchLint
