import ArchLint.Syntax.Basic

/-! # Rendered code

Types and expressions as one line of text. A closure shows its parameter names, and of a block body
only that there is one.

* `TypeExpr.render`, `Expr.render` — the text of a type and of an expression; `TypeExpr.render_eq` says
  what a type consists of.
-/

namespace ArchLint

mutual

/-- The text of a type. -/
def TypeExpr.render : TypeExpr → String
  | ⟨name, [], nullable, _⟩ => name ++ if nullable then "?" else ""
  | ⟨name, t :: ts, nullable, _⟩ =>
    name ++ "<" ++ Text.joined ", " (t.render :: renderTypes ts) ++ ">" ++
      if nullable then "?" else ""

/-- The texts of several types. -/
def renderTypes : List TypeExpr → List String
  | [] => []
  | t :: ts => t.render :: renderTypes ts

end

/-- Type arguments in angle brackets, if there are any. -/
def renderTypeArguments : List TypeExpr → String
  | [] => ""
  | ts => "<" ++ Text.joined ", " (renderTypes ts) ++ ">"

theorem TypeExpr.render_eq (t : TypeExpr) :
    t.render = t.name ++ renderTypeArguments t.arguments ++ if t.nullable then "?" else "" := by
  obtain ⟨name, arguments, nullable, span⟩ := t
  cases arguments with
  | nil => simp [TypeExpr.render, renderTypeArguments]
  | cons t ts => simp [TypeExpr.render, renderTypeArguments, renderTypes, String.append_assoc]

/-- The parameter list of a closure. -/
def renderParameters (parameters : List Parameter) : String :=
  "(" ++ Text.joined ", " (parameters.map Parameter.name) ++ ")"

mutual

/-- The text of an expression. -/
def Expr.render : Expr → String
  | .identifier name _ => name
  | .literal value _ => value
  | .this _ => "this"
  | .propertyAccess target property _ => target.render ++ "." ++ property
  | .methodInvocation none method types arguments _ =>
    method ++ renderTypeArguments types ++ "(" ++ Text.joined ", " (renderArguments arguments) ++ ")"
  | .methodInvocation (some target) method types arguments _ =>
    target.render ++ "." ++ method ++ renderTypeArguments types ++
      "(" ++ Text.joined ", " (renderArguments arguments) ++ ")"
  | .instanceCreation type constructorName isConst arguments _ =>
    (if isConst then "const " else "") ++ type.render ++
      (match constructorName with
        | some name => "." ++ name
        | none => "") ++
      "(" ++ Text.joined ", " (renderArguments arguments) ++ ")"
  | .closure parameters ⟨_, .expression e⟩ _ => renderParameters parameters ++ " => " ++ e.render
  | .closure parameters ⟨_, .block _⟩ _ => renderParameters parameters ++ " \x7b...\x7d"
  | .closure parameters ⟨_, .empty⟩ _ => renderParameters parameters
  | .await operand _ => "await " ++ operand.render
  | .binary left operator right _ => left.render ++ " " ++ operator ++ " " ++ right.render
  | .assignment target operator value _ => target.render ++ " " ++ operator ++ " " ++ value.render
  | .conditional condition thenExpr elseExpr _ =>
    condition.render ++ " ? " ++ thenExpr.render ++ " : " ++ elseExpr.render
  | .cascade target sections _ => target.render ++ renderSections sections
  | .list elements _ => "[" ++ Text.joined ", " (renderExprs elements) ++ "]"
  | .other text _ => text

/-- The texts of several expressions. -/
def renderExprs : List Expr → List String
  | [] => []
  | e :: es => e.render :: renderExprs es

/-- The sections of a cascade, one after the other. -/
def renderSections : List Expr → String
  | [] => ""
  | e :: es => ".." ++ e.render ++ renderSections es

/-- The texts of several arguments. -/
def renderArguments : List Argument → List String
  | [] => []
  | ⟨some name, value⟩ :: rest => (name ++ ": " ++ value.render) :: renderArguments rest
  | ⟨none, value⟩ :: rest => value.render :: renderArguments rest

end

end ArchLint
