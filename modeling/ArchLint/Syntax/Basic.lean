import ArchLint.Text.Segment

/-! # Syntax trees

The parsed form of one source file, as a host supplies it. Only the shapes that rules look at are told
apart; everything else is `other`, and no rule says anything of it.

* `Span` — where a node stands.
* `TypeExpr` — a type with its arguments.
* `Expr`, `Statement`, `FunctionBody` and their parts — code.
* `ClassDecl`, `CompilationUnit` and their parts — declarations and files.
-/

namespace ArchLint

/-- Where a node stands in its file. Lines and columns count from one; zero is unknown. -/
structure Span where
  offset : UInt64 := 0
  length : UInt64 := 0
  line : UInt64 := 0
  column : UInt64 := 0
deriving DecidableEq, Repr, Inhabited

/-- A position without an extent. -/
def Span.at (line column : UInt64) : Span :=
  ⟨0, 0, line, column⟩

/-! ## Types -/

/-- A type annotation. The name may carry an import prefix. -/
structure TypeExpr where
  name : String
  arguments : List TypeExpr := []
  nullable : Bool := false
  span : Span := {}
deriving Repr, Inhabited

/-- The name without its import prefix. -/
def TypeExpr.baseName (t : TypeExpr) : String :=
  Text.afterLast '.' t.name

/-! ## Code -/

/-- How a parameter is passed. -/
inductive ParameterKind where
  | positional
  | optionalPositional
  | named
deriving DecidableEq, Repr

/-- How a function runs. -/
inductive BodyModifier where
  | sync
  | async
  | syncStar
  | asyncStar
deriving DecidableEq, Repr

mutual

/-- An expression. A call of a constructor may appear as an instance creation or as an invocation
without a target, since an unresolved tree cannot tell the two apart. -/
inductive Expr where
  | identifier (name : String) (span : Span)
  /-- A literal as it stands in the source. -/
  | literal (value : String) (span : Span)
  | this (span : Span)
  | propertyAccess (target : Expr) (property : String) (span : Span)
  | methodInvocation (target : Option Expr) (method : String)
      (typeArguments : List TypeExpr) (arguments : List Argument) (span : Span)
  | instanceCreation (type : TypeExpr) (constructorName : Option String) (isConst : Bool)
      (arguments : List Argument) (span : Span)
  | closure (parameters : List Parameter) (body : FunctionBody) (span : Span)
  | await (operand : Expr) (span : Span)
  | binary (left : Expr) (operator : String) (right : Expr) (span : Span)
  | assignment (target : Expr) (operator : String) (value : Expr) (span : Span)
  | conditional (condition thenExpr elseExpr : Expr) (span : Span)
  | cascade (target : Expr) (sections : List Expr) (span : Span)
  | list (elements : List Expr) (span : Span)
  | other (text : String) (span : Span)

/-- An argument of a call. -/
structure Argument where
  name : Option String
  value : Expr

/-- A formal parameter. -/
structure Parameter where
  name : String
  type : Option TypeExpr
  kind : ParameterKind
  isRequired : Bool
  isFieldFormal : Bool
  defaultValue : Option Expr

/-- The body of a function, method, constructor or closure. -/
structure FunctionBody where
  modifier : BodyModifier
  content : BodyContent

/-- The shape of a body. -/
inductive BodyContent where
  | empty
  | expression (expr : Expr)
  | block (statements : List Statement)

/-- A statement. -/
inductive Statement where
  | block (statements : List Statement) (span : Span)
  | expression (expr : Expr)
  | returns (value : Option Expr) (span : Span)
  | localVariable (name : String) (type : Option TypeExpr) (initializer : Option Expr)
      (span : Span)
  | branch (condition : Expr) (thenBranch : Statement) (elseBranch : Option Statement) (span : Span)
  | attempt (body : List Statement) (catches : List CatchClause)
      (cleanup : Option (List Statement)) (span : Span)
  | loop (condition : Option Expr) (body : Statement) (span : Span)
  | other (span : Span)

/-- A clause that handles an exception. -/
structure CatchClause where
  exceptionType : Option TypeExpr
  body : List Statement

end

instance : Inhabited Expr := ⟨.this {}⟩

instance : Inhabited BodyContent := ⟨.empty⟩

instance : Inhabited FunctionBody := ⟨⟨.sync, .empty⟩⟩

instance : Inhabited Statement := ⟨.other {}⟩

namespace Expr

/-- Where the expression stands. -/
def span : Expr → Span
  | .identifier _ s => s
  | .literal _ s => s
  | .this s => s
  | .propertyAccess _ _ s => s
  | .methodInvocation _ _ _ _ s => s
  | .instanceCreation _ _ _ _ s => s
  | .closure _ _ s => s
  | .await _ s => s
  | .binary _ _ _ s => s
  | .assignment _ _ _ s => s
  | .conditional _ _ _ s => s
  | .cascade _ _ s => s
  | .list _ s => s
  | .other _ s => s

/-- The expression is a name and nothing else. -/
def isBareIdentifier : Expr → Bool
  | .identifier _ _ => true
  | _ => false

/-- The name of what is called: a method, a function or the type of a new instance. -/
def invokedName? : Expr → Option String
  | .methodInvocation _ method _ _ _ => some method
  | .instanceCreation type _ _ _ _ => some type.baseName
  | _ => none

end Expr

mutual

/-- What a statement returns, looking into blocks but not into branches, loops and handlers. A return
without a value is passed over. -/
def Statement.returned? : Statement → Option Expr
  | .returns value _ => value
  | .block statements _ => firstReturned? statements
  | .expression _ => none
  | .localVariable _ _ _ _ => none
  | .branch _ _ _ _ => none
  | .attempt _ _ _ _ => none
  | .loop _ _ _ => none
  | .other _ => none

/-- What the first returning statement of a sequence returns. -/
def firstReturned? : List Statement → Option Expr
  | [] => none
  | s :: rest =>
    match s.returned? with
    | some e => some e
    | none => firstReturned? rest

end

namespace FunctionBody

/-- The expression of an arrow body. -/
def expression? (b : FunctionBody) : Option Expr :=
  match b.content with
  | .expression e => some e
  | _ => none

/-- The body is absent. -/
def isEmpty (b : FunctionBody) : Bool :=
  match b.content with
  | .empty => true
  | _ => false

/-- The expression that a call of the function gives. -/
def returned? (b : FunctionBody) : Option Expr :=
  match b.content with
  | .empty => none
  | .expression e => some e
  | .block statements => firstReturned? statements

end FunctionBody

/-! ## Declarations -/

/-- One variable of a field declaration. -/
structure VariableDeclarator where
  name : String
  initializer : Option Expr := none
  span : Span := {}

/-- A declaration of fields or of top-level variables. -/
structure FieldDecl where
  isStatic : Bool := false
  isFinal : Bool := false
  isConst : Bool := false
  isLate : Bool := false
  type : Option TypeExpr := none
  declarators : List VariableDeclarator := []
  span : Span := {}

/-- A constructor; a named one carries its name. -/
structure ConstructorDecl where
  name : Option String := none
  isConst : Bool := false
  isFactory : Bool := false
  parameters : List Parameter := []
  body : FunctionBody := default
  span : Span := {}

/-- What a method-like member is. -/
inductive MethodKind where
  | method
  | getter
  | setter
  | operator
deriving DecidableEq, Repr

/-- A method, getter, setter or operator. -/
structure MethodDecl where
  name : String
  kind : MethodKind := .method
  isStatic : Bool := false
  returnType : Option TypeExpr := none
  parameters : List Parameter := []
  body : FunctionBody := default
  nameSpan : Span := {}
  span : Span := {}

/-- A top-level function. -/
structure FunctionDecl where
  name : String
  returnType : Option TypeExpr := none
  parameters : List Parameter := []
  body : FunctionBody := default
  span : Span := {}

/-- A member of a class. -/
inductive ClassMember where
  | field (decl : FieldDecl)
  | constructor (decl : ConstructorDecl)
  | method (decl : MethodDecl)

/-- What a class-like declaration is. -/
inductive ClassKind where
  | plain
  | mixin
  | enumeration
deriving DecidableEq, Repr

/-- The modifiers in front of a class. -/
structure ClassModifiers where
  isAbstract : Bool := false
  isInterface : Bool := false
  isBase : Bool := false
  isFinal : Bool := false
  isSealed : Bool := false
deriving DecidableEq, Repr

/-- A class, mixin or enumeration. -/
structure ClassDecl where
  name : String
  kind : ClassKind := .plain
  modifiers : ClassModifiers := {}
  typeParameters : List String := []
  superclass : Option TypeExpr := none
  interfaces : List TypeExpr := []
  mixins : List TypeExpr := []
  members : List ClassMember := []
  nameSpan : Span := {}
  span : Span := {}

namespace ClassDecl

/-- The field declarations in source order. -/
def fields (c : ClassDecl) : List FieldDecl :=
  c.members.filterMap fun
    | .field f => some f
    | _ => none

/-- The constructors in source order. -/
def constructors (c : ClassDecl) : List ConstructorDecl :=
  c.members.filterMap fun
    | .constructor k => some k
    | _ => none

/-- The methods, getters, setters and operators in source order. -/
def methods (c : ClassDecl) : List MethodDecl :=
  c.members.filterMap fun
    | .method m => some m
    | _ => none

section

variable {c : ClassDecl}

theorem mem_members_of_mem_fields {f : FieldDecl} (h : f ∈ c.fields) : .field f ∈ c.members := by
  obtain ⟨m, hm, field⟩ := List.mem_filterMap.1 h
  cases m with
  | field =>
    cases field
    exact hm
  | _ => cases field

theorem mem_members_of_mem_constructors {k : ConstructorDecl} (h : k ∈ c.constructors) :
    .constructor k ∈ c.members := by
  obtain ⟨m, hm, constructor⟩ := List.mem_filterMap.1 h
  cases m with
  | constructor =>
    cases constructor
    exact hm
  | _ => cases constructor

theorem mem_members_of_mem_methods {m : MethodDecl} (h : m ∈ c.methods) : .method m ∈ c.members := by
  obtain ⟨member, mem, method⟩ := List.mem_filterMap.1 h
  cases member with
  | method =>
    cases method
    exact mem
  | _ => cases method

end

/-- The class is abstract or an interface. -/
def isAbstractLike (c : ClassDecl) : Bool :=
  c.modifiers.isAbstract || c.modifiers.isInterface

/-- The base name of what the class extends. -/
def superName? (c : ClassDecl) : Option String :=
  c.superclass.map TypeExpr.baseName

/-- The class extends a type whose base name ends with `base`. -/
def extendsBase (c : ClassDecl) (base : String) : Bool :=
  (c.superName?.map (Text.endsWith · base)).getD false

end ClassDecl

/-- What a directive does with the file it names. -/
inductive ReferenceKind where
  | imported
  | exported
  | part
deriving DecidableEq, Repr

/-- The file that a directive names. -/
structure Reference where
  uri : String
  importPrefix : Option String := none
  span : Span := {}
deriving DecidableEq, Repr

/-- A directive at the top of a file. -/
inductive Directive where
  | reference (kind : ReferenceKind) (target : Reference)
  | library (name : String) (span : Span)
deriving DecidableEq, Repr

/-- A top-level declaration. -/
inductive Declaration where
  | classLike (decl : ClassDecl)
  | function (decl : FunctionDecl)
  | variableList (decl : FieldDecl)
  | other (span : Span)

/-- The tree of one file. -/
structure CompilationUnit where
  directives : List Directive := []
  declarations : List Declaration := []
deriving Inhabited

/-- The reference of an import directive. -/
def Directive.import? : Directive → Option Reference
  | .reference .imported target => some target
  | _ => none

/-- The class that a declaration declares. -/
def Declaration.class? : Declaration → Option ClassDecl
  | .classLike c => some c
  | _ => none

namespace CompilationUnit

/-- The imports in source order. -/
def imports (u : CompilationUnit) : List Reference :=
  u.directives.filterMap Directive.import?

/-- The classes, mixins and enumerations in source order. -/
def classes (u : CompilationUnit) : List ClassDecl :=
  u.declarations.filterMap Declaration.class?

end CompilationUnit

/-- A file under analysis: its path as it was reported, its tree and perhaps its text. -/
structure SourceUnit where
  path : String
  unit : CompilationUnit
  content : Option String := none

end ArchLint
