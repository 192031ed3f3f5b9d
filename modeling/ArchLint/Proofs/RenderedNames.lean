import ArchLint.Syntax.Render
import ArchLint.Text.Identifier

/-! # Names in rendered code

Rules that look for a type by its ending read it off the rendered text of a type or an expression. In
that text something that cannot stand in an identifier parts any two texts taken from the tree, so the
identifiers of the whole are those of the single texts, one after the other: none is made at a joint,
and none is lost.

* `TypeExpr.names`, `Expr.texts` — the texts of a tree, in the order in which they are rendered.
* `Text.identifiers_between` — punctuation parts identifiers.
* `TypeExpr.identifiers_render`, `Expr.identifiers_render` — rendering keeps the identifiers.
* `identifiers_rendered` — both, and what they say about types mentioned by their ending.
-/

namespace ArchLint

/-! ## Punctuation -/

namespace Text

/-- There is a character in the text, and none that may stand in an identifier. -/
def isPunctuation (s : String) : Bool :=
  !s.isEmpty && s.toList.all (!isIdentifierChar ·)

/-- Punctuation in front of a text adds empty pieces only. -/
theorem filter_segmentsBy_append {mark : List Char} (h : mark.all (!isIdentifierChar ·) = true)
    (cs : List Char) : (segmentsBy (!isIdentifierChar ·) (mark ++ cs)).filter isIdentifier =
      (segmentsBy (!isIdentifierChar ·) cs).filter isIdentifier := by
  induction mark with
  | nil => rfl
  | cons c mark ih =>
    rw [List.all_cons, Bool.and_eq_true] at h
    rw [List.cons_append, segmentsBy, if_pos h.1, List.filter_cons_of_neg (by decide), ih h.2]

theorem identifiers_between {mark : String} (h : isPunctuation mark = true) (s t : String) :
    identifiers (s ++ mark ++ t) = identifiers s ++ identifiers t := by
  rw [isPunctuation, Bool.and_eq_true] at h
  obtain ⟨nonempty, foreign⟩ := h
  cases chars : mark.toList with
  | nil => simp [String.toList_eq_nil_iff.1 chars] at nonempty
  | cons c mark =>
    rw [chars, List.all_cons, Bool.and_eq_true] at foreign
    have cut := segmentsBy_append_cons (p := (!isIdentifierChar ·)) foreign.1 s.toList
      (mark ++ t.toList)
    simp only [identifiers, String.toList_append, chars, List.append_assoc, List.cons_append]
    rw [cut, List.filter_append, filter_segmentsBy_append foreign.2, List.map_append]

theorem identifiers_empty : identifiers "" = [] :=
  rfl

theorem identifiers_append_mark {mark : String} (h : isPunctuation mark = true) (s : String) :
    identifiers (s ++ mark) = identifiers s := by
  have parted := identifiers_between h s ""
  rwa [String.append_empty, identifiers_empty, List.append_nil] at parted

theorem identifiers_mark_append {mark : String} (h : isPunctuation mark = true) (t : String) :
    identifiers (mark ++ t) = identifiers t := by
  have parted := identifiers_between h "" t
  rwa [String.empty_append, identifiers_empty, List.nil_append] at parted

theorem identifiers_joined (texts : List String) :
    identifiers (joined ", " texts) = texts.flatMap identifiers := by
  induction texts with
  | nil => rfl
  | cons s texts ih =>
    rw [List.flatMap_cons]
    cases texts with
    | nil => simp [joined]
    | cons t texts => rw [joined, identifiers_between (by decide), ih]

/-- Where no identifier crosses a joint, a text mentions the types that its parts name. -/
theorem mentions_iff_of_parts {text : String} {parts : List String}
    (whole : identifiers text = parts.flatMap identifiers) (suffix : String) :
    mentions text suffix = true ↔ suffix ≠ "" ∧ ∃ part ∈ parts, ∃ name ∈ identifiers part,
      isTypeName name = true ∧ endsWith name suffix = true := by
  rw [mentions, whole, List.any_flatMap]
  simp

/-- And it mentions a type with one of several endings exactly if one of its parts does. -/
theorem mentionsAny_iff_of_parts {text : String} {parts : List String}
    (whole : identifiers text = parts.flatMap identifiers) (suffixes : List String) :
    mentionsAny text suffixes = true ↔ ∃ part ∈ parts, mentionsAny part suffixes = true := by
  have single : ∀ suffix, mentions text suffix = true ↔ ∃ part ∈ parts, mentions part suffix = true := by
    intro suffix
    simp [mentions, whole, List.any_flatMap, and_left_comm]
  simp only [mentionsAny, List.any_eq_true, single]
  constructor
  · rintro ⟨suffix, known, part, mem, found⟩
    exact ⟨part, mem, suffix, known, found⟩
  · rintro ⟨part, mem, suffix, known, found⟩
    exact ⟨suffix, known, part, mem, found⟩

end Text

open Text (identifiers identifiers_between identifiers_append_mark identifiers_mark_append
  identifiers_joined)

/-! ## Types -/

mutual

/-- The names in a type, its own before those of its arguments. -/
def TypeExpr.names : TypeExpr → List String
  | ⟨name, arguments, _, _⟩ => name :: typeNames arguments

def typeNames : List TypeExpr → List String
  | [] => []
  | t :: ts => t.names ++ typeNames ts

end

theorem TypeExpr.names_eq (t : TypeExpr) : t.names = t.name :: typeNames t.arguments := by
  cases t
  rfl

theorem identifiers_append_typeArguments (s : String) (ts : List TypeExpr) :
    identifiers (s ++ renderTypeArguments ts) =
      identifiers s ++ (renderTypes ts).flatMap identifiers := by
  cases ts with
  | nil => simp [renderTypeArguments, renderTypes]
  | cons t ts =>
    rw [renderTypeArguments, ← String.append_assoc, ← String.append_assoc,
      identifiers_append_mark (by decide), identifiers_between (by decide), identifiers_joined]
    simp

mutual

theorem TypeExpr.identifiers_render (t : TypeExpr) :
    identifiers t.render = t.names.flatMap identifiers := by
  obtain ⟨name, arguments, nullable, span⟩ := t
  have ending : ∀ s, identifiers (s ++ if nullable then "?" else "") = identifiers s := by
    intro s
    cases nullable with
    | false => simp
    | true => exact identifiers_append_mark (by decide) s
  rw [TypeExpr.render_eq, ending, identifiers_append_typeArguments, identifiers_renderTypes arguments,
    TypeExpr.names, List.flatMap_cons]

theorem identifiers_renderTypes (ts : List TypeExpr) :
    (renderTypes ts).flatMap identifiers = (typeNames ts).flatMap identifiers := by
  cases ts with
  | nil => rfl
  | cons t ts =>
    rw [renderTypes, typeNames, List.flatMap_cons, List.flatMap_append, t.identifiers_render,
      identifiers_renderTypes ts]

end

/-! ## Expressions -/

mutual

/-- The texts in an expression, in the order in which they are rendered: names, literals, operators,
the words of the language, and the names in its types. A closure with a block body shows no more than
the names of its parameters. -/
def Expr.texts : Expr → List String
  | .identifier name _ => [name]
  | .literal value _ => [value]
  | .this _ => ["this"]
  | .propertyAccess target property _ => target.texts ++ [property]
  | .methodInvocation none method types arguments _ =>
    method :: (typeNames types ++ argumentTexts arguments)
  | .methodInvocation (some target) method types arguments _ =>
    target.texts ++ method :: (typeNames types ++ argumentTexts arguments)
  | .instanceCreation type constructorName isConst arguments _ =>
    (if isConst then ["const"] else []) ++ type.names ++ constructorName.toList ++
      argumentTexts arguments
  | .closure parameters ⟨_, .expression e⟩ _ => parameters.map Parameter.name ++ e.texts
  | .closure parameters ⟨_, .block _⟩ _ => parameters.map Parameter.name
  | .closure parameters ⟨_, .empty⟩ _ => parameters.map Parameter.name
  | .await operand _ => "await" :: operand.texts
  | .binary left operator right _ => left.texts ++ operator :: right.texts
  | .assignment target operator value _ => target.texts ++ operator :: value.texts
  | .conditional condition thenExpr elseExpr _ =>
    condition.texts ++ thenExpr.texts ++ elseExpr.texts
  | .cascade target sections _ => target.texts ++ exprTexts sections
  | .list elements _ => exprTexts elements
  | .other text _ => [text]

def exprTexts : List Expr → List String
  | [] => []
  | e :: es => e.texts ++ exprTexts es

def argumentTexts : List Argument → List String
  | [] => []
  | ⟨some name, value⟩ :: rest => name :: value.texts ++ argumentTexts rest
  | ⟨none, value⟩ :: rest => value.texts ++ argumentTexts rest

end

theorem identifiers_append_parentheses (s : String) (texts : List String) :
    identifiers (s ++ "(" ++ Text.joined ", " texts ++ ")") =
      identifiers s ++ texts.flatMap identifiers := by
  rw [identifiers_append_mark (by decide), identifiers_between (by decide), identifiers_joined]

theorem identifiers_renderParameters (parameters : List Parameter) :
    identifiers (renderParameters parameters) = (parameters.map Parameter.name).flatMap identifiers := by
  rw [renderParameters, identifiers_append_mark (by decide), identifiers_mark_append (by decide),
    identifiers_joined]

mutual

theorem Expr.identifiers_render (e : Expr) : identifiers e.render = e.texts.flatMap identifiers := by
  cases e with
  | identifier | literal | this | other => simp [Expr.render, Expr.texts]
  | propertyAccess target property =>
    rw [Expr.render, Expr.texts, identifiers_between (by decide), target.identifiers_render]
    simp
  | methodInvocation target method types arguments =>
    cases target with
    | none =>
      rw [Expr.render, Expr.texts, identifiers_append_parentheses, identifiers_append_typeArguments,
        identifiers_renderTypes types, identifiers_renderArguments arguments]
      simp
    | some target =>
      rw [Expr.render, Expr.texts, identifiers_append_parentheses, identifiers_append_typeArguments,
        identifiers_between (by decide), target.identifiers_render, identifiers_renderTypes types,
        identifiers_renderArguments arguments]
      simp
  | instanceCreation type constructorName isConst arguments =>
    have word : ∀ s, identifiers ((if isConst then "const " else "") ++ s) =
        (if isConst then ["const"] else []).flatMap identifiers ++ identifiers s := by
      intro s
      cases isConst with
      | false => simp
      | true =>
        have blank : Text.isPunctuation " " = true := by decide
        exact identifiers_between blank "const" s
    cases constructorName with
    | none =>
      rw [Expr.render, Expr.texts, identifiers_append_parentheses, String.append_empty, word,
        type.identifiers_render, identifiers_renderArguments arguments]
      simp
    | some name =>
      rw [Expr.render, Expr.texts, identifiers_append_parentheses, ← String.append_assoc,
        identifiers_between (by decide), word, type.identifiers_render,
        identifiers_renderArguments arguments]
      simp
  | closure parameters body =>
    obtain ⟨modifier, content⟩ := body
    cases content with
    | empty => rw [Expr.render, Expr.texts, identifiers_renderParameters]
    | expression e =>
      rw [Expr.render, Expr.texts, identifiers_between (by decide), identifiers_renderParameters,
        e.identifiers_render, List.flatMap_append]
    | block =>
      rw [Expr.render, Expr.texts, identifiers_append_mark (by decide), identifiers_renderParameters]
  | await operand =>
    have blank : Text.isPunctuation " " = true := by decide
    have parted := identifiers_between blank "await" operand.render
    rw [Expr.render, Expr.texts, List.flatMap_cons, ← operand.identifiers_render, ← parted]
    rfl
  | binary left operator right =>
    rw [Expr.render, Expr.texts, identifiers_between (by decide), identifiers_between (by decide),
      left.identifiers_render, right.identifiers_render]
    simp
  | assignment target operator value =>
    rw [Expr.render, Expr.texts, identifiers_between (by decide), identifiers_between (by decide),
      target.identifiers_render, value.identifiers_render]
    simp
  | conditional condition thenExpr elseExpr =>
    rw [Expr.render, Expr.texts, identifiers_between (by decide), identifiers_between (by decide),
      condition.identifiers_render, thenExpr.identifiers_render, elseExpr.identifiers_render]
    simp
  | cascade target sections =>
    rw [Expr.render, Expr.texts, identifiers_append_sections sections, target.identifiers_render,
      List.flatMap_append]
  | list elements =>
    rw [Expr.render, Expr.texts, identifiers_append_mark (by decide),
      identifiers_mark_append (by decide), identifiers_joined, identifiers_renderExprs elements]

theorem identifiers_renderExprs (es : List Expr) :
    (renderExprs es).flatMap identifiers = (exprTexts es).flatMap identifiers := by
  cases es with
  | nil => rfl
  | cons e es =>
    rw [renderExprs, exprTexts, List.flatMap_cons, List.flatMap_append, e.identifiers_render,
      identifiers_renderExprs es]

theorem identifiers_append_sections (es : List Expr) (s : String) :
    identifiers (s ++ renderSections es) = identifiers s ++ (exprTexts es).flatMap identifiers := by
  cases es with
  | nil => simp [renderSections, exprTexts]
  | cons e es =>
    rw [renderSections, exprTexts, ← String.append_assoc, ← String.append_assoc,
      identifiers_append_sections es, identifiers_between (by decide), e.identifiers_render]
    simp

theorem identifiers_renderArguments (as : List Argument) :
    (renderArguments as).flatMap identifiers = (argumentTexts as).flatMap identifiers := by
  cases as with
  | nil => rfl
  | cons a as =>
    obtain ⟨name, value⟩ := a
    cases name with
    | none =>
      rw [renderArguments, argumentTexts, List.flatMap_cons, List.flatMap_append,
        value.identifiers_render, identifiers_renderArguments as]
    | some name =>
      rw [renderArguments, argumentTexts, List.flatMap_cons, identifiers_between (by decide),
        value.identifiers_render, identifiers_renderArguments as]
      simp

end

/-- The identifiers of a rendered type are those of its names, and the identifiers of a rendered
expression are those of its texts, in the same order and as often. So rendered code mentions a type by
its ending exactly if a single text of the tree names such a type. -/
theorem identifiers_rendered :
    (∀ t : TypeExpr, identifiers t.render = t.names.flatMap identifiers) ∧
    (∀ e : Expr, identifiers e.render = e.texts.flatMap identifiers) ∧
    (∀ (t : TypeExpr) (suffix : String), Text.mentions t.render suffix = true ↔
      suffix ≠ "" ∧ ∃ name ∈ t.names, ∃ i ∈ identifiers name,
        Text.isTypeName i = true ∧ Text.endsWith i suffix = true) ∧
    ∀ (e : Expr) (suffix : String), Text.mentions e.render suffix = true ↔
      suffix ≠ "" ∧ ∃ text ∈ e.texts, ∃ i ∈ identifiers text,
        Text.isTypeName i = true ∧ Text.endsWith i suffix = true :=
  ⟨TypeExpr.identifiers_render, Expr.identifiers_render,
    fun t => Text.mentions_iff_of_parts t.identifiers_render,
    fun e => Text.mentions_iff_of_parts e.identifiers_render⟩

end ArchLint
