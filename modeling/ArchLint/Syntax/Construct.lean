import ArchLint.Syntax.Basic

/-! # Building trees

Short constructors for hosts that lower a tree of their own. What is not given has its default value,
and positions are given by their line.

* `TypeExpr.named`, `Expr.ident`, `Statement.ofExpr`, `FunctionBody.arrow` and the like — code.
* `FieldDecl.mutableField`, `ConstructorDecl.ofFields`, `MethodDecl.named` and the like — members.
* `ClassDecl.named`, `CompilationUnit.importing` and the like — a class or a file step by step.
-/

namespace ArchLint

/-! ## Types and expressions -/

/-- A type without arguments. -/
def TypeExpr.named (name : String) : TypeExpr :=
  { name := name }

/-- A type with arguments. -/
def TypeExpr.generic (name : String) (arguments : List TypeExpr) : TypeExpr :=
  { name := name, arguments := arguments }

/-- Positional arguments. -/
def Argument.positional (values : List Expr) : List Argument :=
  values.map fun v => ⟨none, v⟩

namespace FunctionBody

/-- An arrow body. -/
def arrow (e : Expr) : FunctionBody :=
  ⟨.sync, .expression e⟩

/-- A block body. -/
def block (statements : List Statement) : FunctionBody :=
  ⟨.sync, .block statements⟩

/-- An asynchronous block body. -/
def asyncBlock (statements : List Statement) : FunctionBody :=
  ⟨.async, .block statements⟩

end FunctionBody

namespace Expr

/-- A name. -/
def ident (name : String) : Expr :=
  .identifier name {}

/-- A literal as it stands in the source. -/
def lit (value : String) : Expr :=
  .literal value {}

/-- A property of a value. -/
def property (target : Expr) (name : String) : Expr :=
  .propertyAccess target name {}

/-- A call without a target. -/
def call (name : String) (arguments : List Expr) : Expr :=
  .methodInvocation none name [] (Argument.positional arguments) {}

/-- A call of a method with type arguments. -/
def invokeOn (target : Expr) (method : String) (types : List TypeExpr)
    (arguments : List Expr) : Expr :=
  .methodInvocation (some target) method types (Argument.positional arguments) {}

/-- A new instance from positional arguments. -/
def newInstance (name : String) (arguments : List Expr) : Expr :=
  .instanceCreation (.named name) none false (Argument.positional arguments) {}

/-- A new instance from named arguments. -/
def newInstanceNamed (name : String) (arguments : List (String × Expr)) : Expr :=
  .instanceCreation (.named name) none false (arguments.map fun (n, v) => ⟨some n, v⟩) {}

/-- A closure without parameters around an expression. -/
def thunk (e : Expr) : Expr :=
  .closure [] (.arrow e) {}

/-- A closure without parameters around statements. -/
def thunkBlock (statements : List Statement) : Expr :=
  .closure [] (.block statements) {}

/-- The result of a future. -/
def awaiting (e : Expr) : Expr :=
  .await e {}

end Expr

namespace Statement

/-- An expression as a statement. -/
def ofExpr (e : Expr) : Statement :=
  .expression e

/-- A return of a value. -/
def returning (e : Expr) : Statement :=
  .returns (some e) {}

/-- Statements with one handler for every exception. -/
def guarded (body handler : List Statement) : Statement :=
  .attempt body [⟨none, handler⟩] none {}

end Statement

/-! ## Members -/

/-- A positional parameter with a type. -/
def Parameter.typed (name : String) (type : TypeExpr) : Parameter :=
  ⟨name, some type, .positional, false, false, none⟩

/-- A required named parameter that initializes the field of its name. -/
def Parameter.ofField (name : String) : Parameter :=
  ⟨name, none, .named, true, true, none⟩

namespace FieldDecl

/-- A field that may change. -/
def mutableField (typeName name : String) : FieldDecl :=
  { type := some (.named typeName), declarators := [{ name := name }] }

/-- A final field. -/
def finalField (typeName name : String) : FieldDecl :=
  { mutableField typeName name with isFinal := true }

/-- A static constant. -/
def staticField (typeName name : String) : FieldDecl :=
  { mutableField typeName name with isStatic := true, isConst := true }

end FieldDecl

namespace ConstructorDecl

/-- A constructor with a field formal for every name. -/
def ofFields (names : List String) : ConstructorDecl :=
  { parameters := names.map Parameter.ofField }

/-- A constant constructor with a field formal for every name. -/
def constOfFields (names : List String) : ConstructorDecl :=
  { ofFields names with isConst := true }

/-- A named factory that takes a decoded document. -/
def factory (name : String) : ConstructorDecl :=
  { name := some name, isFactory := true,
    parameters := [.typed "json" (.generic "Map" [.named "String", .named "dynamic"])] }

end ConstructorDecl

namespace MethodDecl

/-- A method without a body. -/
def named (name : String) : MethodDecl :=
  { name := name }

/-- A getter without a body. -/
def getterNamed (name : String) : MethodDecl :=
  { name := name, kind := .getter }

/-- An operator that gives a truth value. -/
def operatorNamed (symbol : String) : MethodDecl :=
  { name := symbol, kind := .operator, returnType := some (.named "bool") }

/-- The member on a line of its own. -/
def onLine (m : MethodDecl) (line : UInt64) : MethodDecl :=
  { m with span := .at line 3, nameSpan := .at line 3 }

end MethodDecl

/-! ## Classes and files -/

namespace ClassDecl

/-- A class without members. -/
def named (name : String) : ClassDecl :=
  { name := name, nameSpan := .at 1 7, span := .at 1 1 }

/-- The class on a line of its own. -/
def onLine (c : ClassDecl) (line : UInt64) : ClassDecl :=
  { c with span := .at line 1, nameSpan := .at line 7 }

/-- The class with one more interface. -/
def implementing (c : ClassDecl) (type : TypeExpr) : ClassDecl :=
  { c with interfaces := c.interfaces ++ [type] }

/-- The class with one more member at its end. -/
def withMember (c : ClassDecl) (m : ClassMember) : ClassDecl :=
  { c with members := c.members ++ [m] }

end ClassDecl

namespace CompilationUnit

/-- The line after the directives, when each has a line of its own. -/
def nextLine (u : CompilationUnit) : UInt64 :=
  UInt64.ofNat (u.directives.length + 1)

/-- The file with one more directive. -/
def withReference (u : CompilationUnit) (kind : ReferenceKind) (uri : String) (line : UInt64) :
    CompilationUnit :=
  { u with directives := u.directives ++ [.reference kind ⟨uri, none, .at line 1⟩] }

/-- The file with one more import on the next line. -/
def importing (u : CompilationUnit) (uri : String) : CompilationUnit :=
  u.withReference .imported uri u.nextLine

/-- The file with one more export on the next line. -/
def exporting (u : CompilationUnit) (uri : String) : CompilationUnit :=
  u.withReference .exported uri u.nextLine

/-- The file with one more declaration. -/
def declaring (u : CompilationUnit) (d : Declaration) : CompilationUnit :=
  { u with declarations := u.declarations ++ [d] }

end CompilationUnit

end ArchLint
