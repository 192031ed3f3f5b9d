import ArchLint.Proofs.DumpRoundTrip
import ArchLint.Proofs.ListReading
import ArchLint.Proofs.SchemaReading

/-! # The readers of trees follow the schema

* `Expr.agrees`, `Statement.agrees`, `ClassDecl.agrees` and the like — one theorem per reader.
* `SourceUnit.agrees` — the reader of dumps, whose full form says also that there is no text.
-/

namespace ArchLint

open Json (keep? listOf? orNull keyword?)

/-! ## Lists and absent values as such -/

theorem typesToJson_eq_map : ∀ ts, typesToJson ts = ts.map TypeExpr.toJson :=
  eq_map_of_cons rfl fun _ _ => rfl

theorem exprsToJson_eq_map : ∀ es, exprsToJson es = es.map Expr.toJson :=
  eq_map_of_cons rfl fun _ _ => rfl

theorem statementsToJson_eq_map : ∀ ss, statementsToJson ss = ss.map Statement.toJson :=
  eq_map_of_cons rfl fun _ _ => rfl

def Argument.toJson (a : Argument) : Json :=
  .obj [("name", orNull .str a.name), ("value", a.value.toJson)]

theorem argumentsToJson_eq_map : ∀ as, argumentsToJson as = as.map Argument.toJson :=
  eq_map_of_cons rfl fun a _ => by
    cases a
    rfl

theorem optionalExprToJson_eq_orNull : optionalExprToJson = orNull Expr.toJson := by
  funext e
  cases e <;> rfl

theorem optionalStatementToJson_eq_orNull : optionalStatementToJson = orNull Statement.toJson := by
  funext s
  cases s <;> rfl

theorem cleanupToJson_eq_orNull :
    cleanupToJson = orNull fun ss => .arr (ss.map Statement.toJson) := by
  funext c
  cases c with
  | none => rfl
  | some ss => rw [cleanupToJson, statementsToJson_eq_map, orNull]

def Parameter.toJson (p : Parameter) : Json :=
  .obj [("name", .str p.name), ("type", orNull TypeExpr.toJson p.type),
    ("parameter_kind", .str p.kind.token), ("is_required", .bool p.isRequired),
    ("is_field_formal", .bool p.isFieldFormal),
    ("default_value", orNull Expr.toJson p.defaultValue)]

theorem parametersToJson_eq_map : ∀ ps, parametersToJson ps = ps.map Parameter.toJson :=
  eq_map_of_cons rfl fun p _ => by
    rw [Parameter.toJson, ← optionalExprToJson_eq_orNull]
    cases p
    rfl

def CatchClause.toJson (c : CatchClause) : Json :=
  .obj [("exception_type", orNull TypeExpr.toJson c.exceptionType),
    ("body", .arr (c.body.map Statement.toJson))]

theorem catchesToJson_eq_map : ∀ cs, catchesToJson cs = cs.map CatchClause.toJson :=
  eq_map_of_cons rfl fun c _ => by
    rw [CatchClause.toJson, ← statementsToJson_eq_map]
    cases c
    rfl

/-! ## Types -/

theorem Span.agrees : ∀ n, Agrees n (.plain .span) (Span.ofJson? n) Span.toJson
  | 0, _ => rfl
  | n + 1, j => by
      rw [normalize?, Span.ofJson?]
      refine normalizeFields?_cases (normalize? n) PlainSort.span.fields j rfl fun get => ?_
      rw [takeFields_map]
      refine (takes_word "offset").bind fun offset => ?_
      refine (takes_word "length").bind fun length => ?_
      refine (takes_word "line").bind fun line => ?_
      refine (takes_word "column").bind fun column => ?_
      rfl

theorem takes_place (n : Nat) (name : String) :
    Takes n (.place name) (Json.defaulted {} (Span.ofJson? n)) Span.toJson :=
  (Span.agrees n).defaulted name {}

theorem TypeExpr.agrees : ∀ n, Agrees n (.plain .type) (TypeExpr.ofJson? n) TypeExpr.toJson
  | 0, _ => rfl
  | n + 1, j => by
      have types := Agrees.items fun m (_ : m + 1 = n) => TypeExpr.agrees m
      rw [normalize?, TypeExpr.ofJson?, typesOfJson?_eq_listOf?]
      refine normalizeFields?_cases (normalize? n) PlainSort.type.fields j rfl fun get => ?_
      rw [takeFields_map]
      refine (takes_requiredText "name").bind fun name => ?_
      refine (types "arguments").bind fun arguments => ?_
      refine (takes_flag "nullable").bind fun nullable => ?_
      refine (takes_place n "span").bind fun span => ?_
      simp [TypeExpr.toJson, typesToJson_eq_map]
termination_by n => n

/-! ## Code -/

theorem ParameterKind.takes_keyword (n : Nat) (name : String) :
    Takes n (.keyword name "positional" (ParameterKind.words.map (·.1)))
      (Json.defaulted .positional (keyword? true ParameterKind.words)) fun k => .str k.token :=
  (agrees_keyword n ParameterKind.words ParameterKind.token (by decide)).defaulted name .positional

theorem BodyModifier.takes_keyword (n : Nat) (name : String) :
    Takes n (.keyword name "sync" (BodyModifier.words.map (·.1)))
      (Json.defaulted .sync (keyword? true BodyModifier.words)) fun m => .str m.token :=
  (agrees_keyword n BodyModifier.words BodyModifier.token (by decide)).defaulted name .sync

mutual

theorem Expr.agrees :
    ∀ n, Agrees n (.tagged true .expression) (Expr.ofJson? n) Expr.toJson
  | 0, _ => rfl
  | n + 1, j => by
      suffices kept : AgreesKept n .expression (Expr.ofJson? (n + 1)) Expr.toJson from
        kept.kept true j
      intro j
      have value := Expr.agrees n
      have type := TypeExpr.agrees n
      have body := FunctionBody.agrees n
      have types := Agrees.items fun m (_ : m + 1 = n) => TypeExpr.agrees m
      have values := Agrees.items fun m (_ : m + 1 = n) => Expr.agrees m
      have arguments := Agrees.items fun m (_ : m + 1 = n) => Argument.agrees m
      have parameters := Agrees.items fun m (_ : m + 1 = n) => Parameter.agrees m
      rw [Expr.ofJson?, typesOfJson?_eq_listOf?, exprsOfJson?_eq_listOf?,
        argumentsOfJson?_eq_listOf?, parametersOfJson?_eq_listOf?]
      refine TaggedSort.variant?_cases (normalize? n) .expression j rfl ?_
      simp only [TaggedSort.variants, List.forall_mem_cons]
      refine ⟨?_, ?_, ?_, ?_, ?_, ?_, ?_, ?_, ?_, ?_, ?_, ?_, ?_, ?_, nofun⟩ <;> intro record _
      all_goals
        refine normalizeFields?_cases (normalize? n) _ record rfl fun get => ?_
        rw [takeFields_map]
      · refine (takes_requiredText "name").bind fun name => ?_
        refine (takes_place n "span").bind fun span => ?_
        simp [Expr.toJson]
      · refine (takes_requiredText "value").bind fun text => ?_
        refine (takes_place n "span").bind fun span => ?_
        simp [Expr.toJson]
      · refine (takes_place n "span").bind fun span => ?_
        simp [Expr.toJson]
      · refine (value.required "target").bind fun target => ?_
        refine (takes_requiredText "property").bind fun property => ?_
        refine (takes_place n "span").bind fun span => ?_
        simp [Expr.toJson]
      · refine (value.optional "target").bind fun target => ?_
        refine (takes_requiredText "method").bind fun method => ?_
        refine (types "type_arguments").bind fun typeArguments => ?_
        refine (arguments "arguments").bind fun arguments => ?_
        refine (takes_place n "span").bind fun span => ?_
        simp [Expr.toJson, optionalExprToJson_eq_orNull, typesToJson_eq_map,
          argumentsToJson_eq_map]
      · refine (type.required "type").bind fun type => ?_
        refine (takes_optionalText "constructor").bind fun constructorName => ?_
        refine (takes_flag "is_const").bind fun isConst => ?_
        refine (arguments "arguments").bind fun arguments => ?_
        refine (takes_place n "span").bind fun span => ?_
        simp [Expr.toJson, argumentsToJson_eq_map]
      · refine (parameters "parameters").bind fun parameters => ?_
        refine (body.required "body").bind fun body => ?_
        refine (takes_place n "span").bind fun span => ?_
        simp [Expr.toJson, parametersToJson_eq_map]
      · refine (value.required "expr").bind fun operand => ?_
        refine (takes_place n "span").bind fun span => ?_
        simp [Expr.toJson]
      · refine (value.required "left").bind fun left => ?_
        refine (takes_requiredText "operator").bind fun operator => ?_
        refine (value.required "right").bind fun right => ?_
        refine (takes_place n "span").bind fun span => ?_
        simp [Expr.toJson]
      · refine (value.required "target").bind fun target => ?_
        refine (takes_requiredText "operator").bind fun operator => ?_
        refine (value.required "value").bind fun value => ?_
        refine (takes_place n "span").bind fun span => ?_
        simp [Expr.toJson]
      · refine (value.required "condition").bind fun condition => ?_
        refine (value.required "then_expr").bind fun thenExpr => ?_
        refine (value.required "else_expr").bind fun elseExpr => ?_
        refine (takes_place n "span").bind fun span => ?_
        simp [Expr.toJson]
      · refine (value.required "target").bind fun target => ?_
        refine (values "sections").bind fun sections => ?_
        refine (takes_place n "span").bind fun span => ?_
        simp [Expr.toJson, exprsToJson_eq_map]
      · refine (values "elements").bind fun elements => ?_
        refine (takes_place n "span").bind fun span => ?_
        simp [Expr.toJson, exprsToJson_eq_map]
      · refine (takes_text "text").bind fun text => ?_
        refine (takes_place n "span").bind fun span => ?_
        simp [Expr.toJson]
termination_by n => n

theorem Argument.agrees : ∀ n, Agrees n (.plain .argument) (Argument.ofJson? n) Argument.toJson
  | 0, _ => rfl
  | n + 1, j => by
      have value := Expr.agrees n
      rw [normalize?, Argument.ofJson?]
      refine normalizeFields?_cases (normalize? n) PlainSort.argument.fields j rfl fun get => ?_
      rw [takeFields_map]
      refine (takes_optionalText "name").bind fun name => ?_
      refine (value.required "value").bind fun value => ?_
      rfl
termination_by n => n

theorem Parameter.agrees : ∀ n, Agrees n (.plain .parameter) (Parameter.ofJson? n) Parameter.toJson
  | 0, _ => rfl
  | n + 1, j => by
      have value := Expr.agrees n
      have type := TypeExpr.agrees n
      rw [normalize?, Parameter.ofJson?]
      refine normalizeFields?_cases (normalize? n) PlainSort.parameter.fields j rfl fun get => ?_
      rw [takeFields_map]
      refine (takes_requiredText "name").bind fun name => ?_
      refine (type.optional "type").bind fun type => ?_
      refine (ParameterKind.takes_keyword n "parameter_kind").bind fun kind => ?_
      refine (takes_flag "is_required").bind fun isRequired => ?_
      refine (takes_flag "is_field_formal").bind fun isFieldFormal => ?_
      refine (value.optional "default_value").bind fun defaultValue => ?_
      rfl
termination_by n => n

theorem FunctionBody.agrees :
    ∀ n, Agrees n (.plain .body) (FunctionBody.ofJson? true n) FunctionBody.toJson
  | 0, _ => rfl
  | n + 1, j => by
      have content := BodyContent.agrees n
      rw [normalize?, FunctionBody.ofJson?]
      refine normalizeFields?_cases (normalize? n) PlainSort.body.fields j rfl fun get => ?_
      rw [takeFields_map]
      refine (BodyModifier.takes_keyword n "modifier").bind fun modifier => ?_
      refine (content.defaulted "content" .empty).bind fun content => ?_
      simp [FunctionBody.toJson]
termination_by n => n

theorem BodyContent.agrees :
    ∀ n, Agrees n (.tagged true .content) (BodyContent.ofJson? n) BodyContent.toJson
  | 0, _ => rfl
  | n + 1, j => by
      suffices kept : AgreesKept n .content (BodyContent.ofJson? (n + 1)) BodyContent.toJson from
        kept.kept true j
      intro j
      have value := Expr.agrees n
      have statements := Agrees.items fun m (_ : m + 1 = n) => Statement.agrees m
      rw [BodyContent.ofJson?, statementsOfJson?_eq_listOf?]
      refine TaggedSort.variant?_cases (normalize? n) .content j rfl ?_
      simp only [TaggedSort.variants, List.forall_mem_cons]
      refine ⟨?_, ?_, ?_, nofun⟩ <;> intro record form
      -- An empty body has no fields, and an array must not hold any.
      case refine_1 =>
        obtain ⟨members, rfl⟩ | ⟨items, rfl⟩ := form
        · rfl
        · cases items <;> rfl
      all_goals
        refine normalizeFields?_cases (normalize? n) _ record rfl fun get => ?_
        rw [takeFields_map]
      · refine (value.required "expr").bind fun expr => ?_
        simp [BodyContent.toJson]
      · refine (statements "statements").bind fun statements => ?_
        simp [BodyContent.toJson, statementsToJson_eq_map]
termination_by n => n

theorem Statement.agrees :
    ∀ n, Agrees n (.tagged true .statement) (Statement.ofJson? n) Statement.toJson
  | 0, _ => rfl
  | n + 1, j => by
      suffices kept : AgreesKept n .statement (Statement.ofJson? (n + 1)) Statement.toJson from
        kept.kept true j
      intro j
      have value := Expr.agrees n
      have type := TypeExpr.agrees n
      have statement := Statement.agrees n
      have statements := Agrees.items fun m (_ : m + 1 = n) => Statement.agrees m
      have catches := Agrees.items fun m (_ : m + 1 = n) => CatchClause.agrees m
      have cleanup := (Agrees.listOf? fun m (_ : m + 1 = n) => Statement.agrees m).optional
      rw [Statement.ofJson?, statementsOfJson?_eq_listOf?, catchesOfJson?_eq_listOf?]
      refine TaggedSort.variant?_cases (normalize? n) .statement j rfl ?_
      simp only [TaggedSort.variants, List.forall_mem_cons]
      refine ⟨?_, ?_, ?_, ?_, ?_, ?_, ?_, ?_, nofun⟩ <;> intro record _
      all_goals
        refine normalizeFields?_cases (normalize? n) _ record rfl fun get => ?_
        rw [takeFields_map]
      · refine (statements "statements").bind fun statements => ?_
        refine (takes_place n "span").bind fun span => ?_
        simp [Statement.toJson, statementsToJson_eq_map]
      · refine (value.required "expr").bind fun expr => ?_
        simp [Statement.toJson]
      · refine (value.optional "value").bind fun value => ?_
        refine (takes_place n "span").bind fun span => ?_
        simp [Statement.toJson, optionalExprToJson_eq_orNull]
      · refine (takes_requiredText "name").bind fun name => ?_
        refine (type.optional "type").bind fun type => ?_
        refine (value.optional "initializer").bind fun initializer => ?_
        refine (takes_place n "span").bind fun span => ?_
        simp [Statement.toJson, optionalExprToJson_eq_orNull]
      · refine (value.required "condition").bind fun condition => ?_
        refine (statement.required "then_branch").bind fun thenBranch => ?_
        refine (statement.optional "else_branch").bind fun elseBranch => ?_
        refine (takes_place n "span").bind fun span => ?_
        simp [Statement.toJson, optionalStatementToJson_eq_orNull]
      · refine (statements "body").bind fun body => ?_
        refine (catches "catches").bind fun catches => ?_
        refine (cleanup "finally").bind fun cleanup => ?_
        refine (takes_place n "span").bind fun span => ?_
        simp [Statement.toJson, statementsToJson_eq_map, catchesToJson_eq_map,
          cleanupToJson_eq_orNull]
      · refine (value.optional "condition").bind fun condition => ?_
        refine (statement.required "body").bind fun body => ?_
        refine (takes_place n "span").bind fun span => ?_
        simp [Statement.toJson, optionalExprToJson_eq_orNull]
      · refine (takes_place n "span").bind fun span => ?_
        simp [Statement.toJson]
termination_by n => n

theorem CatchClause.agrees :
    ∀ n, Agrees n (.plain .clause) (CatchClause.ofJson? n) CatchClause.toJson
  | 0, _ => rfl
  | n + 1, j => by
      have type := TypeExpr.agrees n
      have statements := Agrees.items fun m (_ : m + 1 = n) => Statement.agrees m
      rw [normalize?, CatchClause.ofJson?, statementsOfJson?_eq_listOf?]
      refine normalizeFields?_cases (normalize? n) PlainSort.clause.fields j rfl fun get => ?_
      rw [takeFields_map]
      refine (type.optional "exception_type").bind fun exceptionType => ?_
      refine (statements "body").bind fun body => ?_
      rfl
termination_by n => n

end

/-! ## Declarations -/

theorem MethodKind.takes_keyword (n : Nat) (name : String) :
    Takes n (.keyword name "method" (MethodKind.words.map (·.1)))
      (Json.defaulted .method (keyword? true MethodKind.words)) fun k => .str k.token :=
  (agrees_keyword n MethodKind.words MethodKind.token (by decide)).defaulted name .method

theorem ClassKind.takes_keyword (n : Nat) (name : String) :
    Takes n (.keyword name "class" (ClassKind.words.map (·.1)))
      (Json.defaulted .plain (keyword? true ClassKind.words)) fun k => .str k.token :=
  (agrees_keyword n ClassKind.words ClassKind.token (by decide)).defaulted name .plain

theorem takes_body (n : Nat) :
    Takes n .body (Json.defaulted default (FunctionBody.ofJson? true n)) FunctionBody.toJson :=
  (FunctionBody.agrees n).defaulted "body" default

theorem VariableDeclarator.agrees :
    ∀ n, Agrees n (.plain .declarator) (VariableDeclarator.ofJson? n) VariableDeclarator.toJson
  | 0, _ => rfl
  | n + 1, j => by
      have value := Expr.agrees n
      rw [normalize?, VariableDeclarator.ofJson?]
      refine normalizeFields?_cases (normalize? n) PlainSort.declarator.fields j rfl fun get => ?_
      rw [takeFields_map]
      refine (takes_requiredText "name").bind fun name => ?_
      refine (value.optional "initializer").bind fun initializer => ?_
      refine (takes_place n "span").bind fun span => ?_
      simp [VariableDeclarator.toJson, optionalExprToJson_eq_orNull]

theorem FieldDecl.agrees (n : Nat) (record : Json) :
    normalizeFields? (normalize? n) variableFields record =
      (FieldDecl.ofJson? (n + 1) record).map FieldDecl.members := by
  have type := TypeExpr.agrees n
  have declarators := Agrees.items fun m (_ : m + 1 = n) => VariableDeclarator.agrees m
  rw [FieldDecl.ofJson?]
  refine normalizeFields?_cases (normalize? n) variableFields record rfl fun get => ?_
  refine (takes_flag "is_static").bind fun isStatic => ?_
  refine (takes_flag "is_final").bind fun isFinal => ?_
  refine (takes_flag "is_const").bind fun isConst => ?_
  refine (takes_flag "is_late").bind fun isLate => ?_
  refine (type.optional "type").bind fun type => ?_
  refine (declarators "variables").bind fun declarators => ?_
  refine (takes_place n "span").bind fun span => ?_
  rfl

theorem ConstructorDecl.agrees (n : Nat) (record : Json) :
    normalizeFields? (normalize? n) constructorFields record =
      (ConstructorDecl.ofJson? (n + 1) record).map ConstructorDecl.members := by
  have parameters := Agrees.items fun m (_ : m + 1 = n) => Parameter.agrees m
  rw [ConstructorDecl.ofJson?, parametersOfJson?_eq_listOf?]
  refine normalizeFields?_cases (normalize? n) constructorFields record rfl fun get => ?_
  refine (takes_optionalText "name").bind fun name => ?_
  refine (takes_flag "is_const").bind fun isConst => ?_
  refine (takes_flag "is_factory").bind fun isFactory => ?_
  refine (parameters "parameters").bind fun parameters => ?_
  refine (takes_body n).bind fun body => ?_
  refine (takes_place n "span").bind fun span => ?_
  simp [ConstructorDecl.members, parametersToJson_eq_map]

theorem MethodDecl.agrees (n : Nat) (record : Json) :
    normalizeFields? (normalize? n) methodFields record =
      (MethodDecl.ofJson? (n + 1) record).map MethodDecl.members := by
  have type := TypeExpr.agrees n
  have parameters := Agrees.items fun m (_ : m + 1 = n) => Parameter.agrees m
  rw [MethodDecl.ofJson?, parametersOfJson?_eq_listOf?]
  refine normalizeFields?_cases (normalize? n) methodFields record rfl fun get => ?_
  refine (takes_requiredText "name").bind fun name => ?_
  refine (MethodKind.takes_keyword n "method_kind").bind fun kind => ?_
  refine (takes_flag "is_static").bind fun isStatic => ?_
  refine (type.optional "return_type").bind fun returnType => ?_
  refine (parameters "parameters").bind fun parameters => ?_
  refine (takes_body n).bind fun body => ?_
  refine (takes_place n "name_span").bind fun nameSpan => ?_
  refine (takes_place n "span").bind fun span => ?_
  simp [MethodDecl.members, parametersToJson_eq_map]

theorem FunctionDecl.agrees (n : Nat) (record : Json) :
    normalizeFields? (normalize? n) functionFields record =
      (FunctionDecl.ofJson? (n + 1) record).map FunctionDecl.members := by
  have type := TypeExpr.agrees n
  have parameters := Agrees.items fun m (_ : m + 1 = n) => Parameter.agrees m
  rw [FunctionDecl.ofJson?, parametersOfJson?_eq_listOf?]
  refine normalizeFields?_cases (normalize? n) functionFields record rfl fun get => ?_
  refine (takes_requiredText "name").bind fun name => ?_
  refine (type.optional "return_type").bind fun returnType => ?_
  refine (parameters "parameters").bind fun parameters => ?_
  refine (takes_body n).bind fun body => ?_
  refine (takes_place n "span").bind fun span => ?_
  simp [FunctionDecl.members, parametersToJson_eq_map]

/-- The members of a directive that names a file. -/
def Reference.members (r : Reference) : List (String × Json) :=
  [("uri", .str r.uri), ("prefix", orNull .str r.importPrefix), ("span", r.span.toJson)]

theorem Reference.agrees (n : Nat) (record : Json) :
    normalizeFields? (normalize? n) referenceFields record =
      (Reference.ofJson? (n + 1) record).map Reference.members := by
  rw [Reference.ofJson?]
  refine normalizeFields?_cases (normalize? n) referenceFields record rfl fun get => ?_
  refine (takes_requiredText "uri").bind fun uri => ?_
  refine (takes_optionalText "prefix").bind fun importPrefix => ?_
  refine (takes_place n "span").bind fun span => ?_
  rfl

theorem ClassModifiers.agrees :
    ∀ n, Agrees n (.plain .modifiers) (ClassModifiers.ofJson? n) ClassModifiers.toJson
  | 0, _ => rfl
  | n + 1, j => by
      rw [normalize?, ClassModifiers.ofJson?]
      refine normalizeFields?_cases (normalize? n) PlainSort.modifiers.fields j rfl fun get => ?_
      rw [takeFields_map]
      refine (takes_flag "is_abstract").bind fun isAbstract => ?_
      refine (takes_flag "is_interface").bind fun isInterface => ?_
      refine (takes_flag "is_base").bind fun isBase => ?_
      refine (takes_flag "is_final").bind fun isFinal => ?_
      refine (takes_flag "is_sealed").bind fun isSealed => ?_
      rfl

theorem ClassMember.agrees :
    ∀ n, Agrees n (.tagged true .member) (ClassMember.ofJson? n) ClassMember.toJson
  | 0, j => by
      rw [normalize?, ClassMember.ofJson?]
      split <;> simp [FieldDecl.ofJson?, ConstructorDecl.ofJson?, MethodDecl.ofJson?]
      all_goals simp
  | n + 1, j => by
      suffices kept : AgreesKept n .member (ClassMember.ofJson? (n + 1)) ClassMember.toJson from
        kept.kept true j
      intro j
      rw [ClassMember.ofJson?]
      refine TaggedSort.variant?_cases (normalize? n) .member j rfl ?_
      simp only [TaggedSort.variants, List.forall_mem_cons]
      refine ⟨?_, ?_, ?_, nofun⟩ <;> intro record _
      · rw [FieldDecl.agrees, Option.map_map, Option.map_map]
        rfl
      · rw [ConstructorDecl.agrees, Option.map_map, Option.map_map]
        rfl
      · rw [MethodDecl.agrees, Option.map_map, Option.map_map]
        rfl

theorem ClassDecl.agrees (n : Nat) (record : Json) :
    normalizeFields? (normalize? n) classFields record =
      (ClassDecl.ofJson? true (n + 1) record).map ClassDecl.jsonMembers := by
  have type := TypeExpr.agrees n
  have types := Agrees.items fun m (_ : m + 1 = n) => TypeExpr.agrees m
  have members := Agrees.items fun m (_ : m + 1 = n) => ClassMember.agrees m
  have modifiers := ClassModifiers.agrees n
  have texts := Agrees.items fun m (_ : m + 1 = n) => agrees_text (n := m)
  rw [ClassDecl.ofJson?, typesOfJson?_eq_listOf?]
  refine normalizeFields?_cases (normalize? n) classFields record rfl fun get => ?_
  refine (takes_requiredText "name").bind fun name => ?_
  refine (ClassKind.takes_keyword n "class_kind").bind fun kind => ?_
  refine (modifiers.defaulted "modifiers" {}).bind fun modifiers => ?_
  refine (texts "type_parameters").bind fun typeParameters => ?_
  refine (type.optional "extends").bind fun superclass => ?_
  refine (types "implements").bind fun interfaces => ?_
  refine (types "mixins").bind fun mixins => ?_
  refine (members "members").bind fun members => ?_
  refine (takes_place n "name_span").bind fun nameSpan => ?_
  refine (takes_place n "span").bind fun span => ?_
  simp [ClassDecl.jsonMembers, typesToJson_eq_map, Json.texts]

theorem Directive.agrees : ∀ n, Agrees n (.tagged false .directive)
    (fun j => (keep? false n j).bind (Directive.ofJson? n)) Directive.toJson
  | 0, j => by
      show none = ((keep? false 0 j).bind (Directive.ofJson? 0)).map Directive.toJson
      cases keep? false 0 j <;> rfl
  | n + 1, j => by
      suffices kept : AgreesKept n .directive (Directive.ofJson? (n + 1)) Directive.toJson from
        kept.kept false j
      intro j
      rw [Directive.ofJson?]
      refine TaggedSort.variant?_cases (normalize? n) .directive j rfl ?_
      simp only [TaggedSort.variants, List.forall_mem_cons]
      refine ⟨?_, ?_, ?_, ?_, nofun⟩ <;> intro record _
      case refine_4 =>
        refine normalizeFields?_cases (normalize? n) _ record rfl fun get => ?_
        rw [takeFields_map]
        refine (takes_text "name").bind fun name => ?_
        refine (takes_place n "span").bind fun span => ?_
        rfl
      -- The other three name a file, each in its own way.
      all_goals
        rw [Reference.agrees, Option.map_map, Option.map_map]
        rfl

theorem Declaration.agrees : ∀ n, Agrees n (.tagged false .declaration)
    (fun j => (keep? false n j).bind (Declaration.ofJson? n)) Declaration.toJson
  | 0, j => by
      show none = ((keep? false 0 j).bind (Declaration.ofJson? 0)).map Declaration.toJson
      cases keep? false 0 j <;> rfl
  | n + 1, j => by
      suffices kept : AgreesKept n .declaration (Declaration.ofJson? (n + 1)) Declaration.toJson
        from kept.kept false j
      intro j
      rw [Declaration.ofJson?]
      refine TaggedSort.variant?_cases (normalize? n) .declaration j rfl ?_
      simp only [TaggedSort.variants, List.forall_mem_cons]
      refine ⟨?_, ?_, ?_, ?_, nofun⟩ <;> intro record _
      · rw [ClassDecl.agrees, Option.map_map, Option.map_map]
        rfl
      · rw [FunctionDecl.agrees, Option.map_map, Option.map_map]
        rfl
      · rw [FieldDecl.agrees, Option.map_map, Option.map_map]
        rfl
      · refine normalizeFields?_cases (normalize? n) _ record rfl fun get => ?_
        rw [takeFields_map]
        refine (takes_place n "span").bind fun span => ?_
        rfl

theorem CompilationUnit.agrees :
    ∀ n, Agrees n (.plain .unit) (CompilationUnit.ofJson? n) CompilationUnit.toJson
  | 0, _ => rfl
  | n + 1, j => by
      have directives := Agrees.items fun m (_ : m + 1 = n) => Directive.agrees m
      have declarations := Agrees.items fun m (_ : m + 1 = n) => Declaration.agrees m
      rw [normalize?, CompilationUnit.ofJson?]
      refine normalizeFields?_cases (normalize? n) PlainSort.unit.fields j rfl fun get => ?_
      rw [takeFields_map]
      refine (directives "directives").bind fun directives => ?_
      refine (declarations "declarations").bind fun declarations => ?_
      rfl

/-- A dump with the text of the file written as null when it is absent. -/
def SourceUnit.full (u : SourceUnit) : Json :=
  .obj [("path", .str u.path), ("unit", u.unit.toJson), ("content", orNull .str u.content)]

theorem SourceUnit.agrees : ∀ n, Agrees n (.plain .file) (SourceUnit.ofJson? n) SourceUnit.full
  | 0, _ => rfl
  | n + 1, j => by
      have unit := CompilationUnit.agrees n
      rw [normalize?, SourceUnit.ofJson?]
      refine normalizeFields?_cases (normalize? n) PlainSort.file.fields j rfl fun get => ?_
      rw [takeFields_map]
      refine (takes_requiredText "path").bind fun path => ?_
      refine (unit.required "unit").bind fun unit => ?_
      refine (takes_optionalText "content").bind fun content => ?_
      rfl

end ArchLint
