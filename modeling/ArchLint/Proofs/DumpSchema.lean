import ArchLint.Dump.Reader
import ArchLint.Proofs.RecordReading

/-! # The schema of dumps

Which fields each sort of record has, what they hold and what stands for them when they are left
out. The readers of trees are many; the schema is one table, over which properties of all of them
can be proved at once.

* `Shape`, `RecordField` — what a value of a document is, and what a record holds.
* `PlainSort.fields`, `TaggedSort.variants` — the table.
* `normalize?` — a document with just that written out which it leaves to defaults.
-/

namespace ArchLint

/-- The sorts of record that carry no kind. -/
inductive PlainSort where
  | span
  | type
  | argument
  | parameter
  | body
  | clause
  | declarator
  | modifiers
  | unit
  | file

/-- The sorts of record that carry a kind. -/
inductive TaggedSort where
  | content
  | expression
  | statement
  | member
  | directive
  | declaration

/-- What a value is. A record with a kind is kept whole unless it lies within one that is. -/
inductive Shape where
  | text
  | flag
  | word
  | keyword (words : List String)
  | list (item : Shape)
  | plain (sort : PlainSort)
  | tagged (held : Bool) (sort : TaggedSort)

/-- Whether a field may be left out. -/
inductive Presence where
  | required
  | defaulted (value : Json)
  /-- A value that may be absent or null. -/
  | optional

/-- A field of a record. -/
structure RecordField where
  name : String
  shape : Shape
  presence : Presence := .required

/-- The document that a field is written as when its value is what an absent field stands for. -/
def RecordField.fallback? (f : RecordField) : Option Json :=
  match f.presence with
  | .required => none
  | .defaulted value => some value
  | .optional => some .null

namespace RecordField

def optional (name : String) (shape : Shape) : RecordField :=
  ⟨name, shape, .optional⟩

def flag (name : String) : RecordField :=
  ⟨name, .flag, .defaulted (.bool false)⟩

def word (name : String) : RecordField :=
  ⟨name, .word, .defaulted (Json.word 0)⟩

def text (name : String) : RecordField :=
  ⟨name, .text, .defaulted (.str "")⟩

/-- One of several words, `first` unless another is given. -/
def keyword (name first : String) (words : List String) : RecordField :=
  ⟨name, .keyword words, .defaulted (.str first)⟩

def list (name : String) (item : Shape) : RecordField :=
  ⟨name, .list item, .defaulted (.arr [])⟩

def place (name : String) : RecordField :=
  ⟨name, .plain .span, .defaulted (Span.toJson {})⟩

/-- The body of a declaration. -/
def body : RecordField :=
  ⟨"body", .plain .body, .defaulted (FunctionBody.toJson default)⟩

end RecordField

/-! ## The table -/

namespace Shape

abbrev type : Shape := .plain .type

abbrev expression : Shape := .tagged true .expression

abbrev statement : Shape := .tagged true .statement

end Shape

open RecordField (optional flag word text keyword list place)

def PlainSort.fields : PlainSort → List RecordField
  | .span => [word "offset", word "length", word "line", word "column"]
  | .type => [⟨"name", .text, .required⟩, list "arguments" .type, flag "nullable", place "span"]
  | .argument => [optional "name" .text, ⟨"value", .expression, .required⟩]
  | .parameter =>
    [⟨"name", .text, .required⟩, optional "type" .type,
      keyword "parameter_kind" "positional" (ParameterKind.words.map (·.1)), flag "is_required",
      flag "is_field_formal", optional "default_value" .expression]
  | .body =>
    [keyword "modifier" "sync" (BodyModifier.words.map (·.1)),
      ⟨"content", .tagged true .content, .defaulted BodyContent.empty.toJson⟩]
  | .clause => [optional "exception_type" .type, list "body" .statement]
  | .declarator => [⟨"name", .text, .required⟩, optional "initializer" .expression, place "span"]
  | .modifiers =>
    [flag "is_abstract", flag "is_interface", flag "is_base", flag "is_final", flag "is_sealed"]
  | .unit =>
    [list "directives" (.tagged false .directive), list "declarations" (.tagged false .declaration)]
  | .file =>
    [⟨"path", .text, .required⟩, ⟨"unit", .plain .unit, .required⟩, optional "content" .text]

/-- The fields of a declaration of variables, in a class or outside. -/
def variableFields : List RecordField :=
  [flag "is_static", flag "is_final", flag "is_const", flag "is_late", optional "type" .type,
    list "variables" (.plain .declarator), place "span"]

def constructorFields : List RecordField :=
  [optional "name" .text, flag "is_const", flag "is_factory", list "parameters" (.plain .parameter),
    RecordField.body, place "span"]

def methodFields : List RecordField :=
  [⟨"name", .text, .required⟩, keyword "method_kind" "method" (MethodKind.words.map (·.1)),
    flag "is_static", optional "return_type" .type, list "parameters" (.plain .parameter),
    RecordField.body, place "name_span", place "span"]

def functionFields : List RecordField :=
  [⟨"name", .text, .required⟩, optional "return_type" .type, list "parameters" (.plain .parameter),
    RecordField.body, place "span"]

def classFields : List RecordField :=
  [⟨"name", .text, .required⟩, keyword "class_kind" "class" (ClassKind.words.map (·.1)),
    ⟨"modifiers", .plain .modifiers, .defaulted (ClassModifiers.toJson {})⟩,
    list "type_parameters" .text, optional "extends" .type, list "implements" .type,
    list "mixins" .type, list "members" (.tagged true .member), place "name_span", place "span"]

/-- The fields of a directive that names a file. -/
def referenceFields : List RecordField :=
  [⟨"uri", .text, .required⟩, optional "prefix" .text, place "span"]

def TaggedSort.variants : TaggedSort → List (String × List RecordField)
  | .content =>
    [("empty", []), ("expression", [⟨"expr", .expression, .required⟩]),
      ("block", [list "statements" .statement])]
  | .expression =>
    [("identifier", [⟨"name", .text, .required⟩, place "span"]),
      ("literal", [⟨"value", .text, .required⟩, place "span"]),
      ("this", [place "span"]),
      ("property_access",
        [⟨"target", .expression, .required⟩, ⟨"property", .text, .required⟩, place "span"]),
      ("method_invocation",
        [optional "target" .expression, ⟨"method", .text, .required⟩, list "type_arguments" .type,
          list "arguments" (.plain .argument), place "span"]),
      ("instance_creation",
        [⟨"type", .type, .required⟩, optional "constructor" .text, flag "is_const",
          list "arguments" (.plain .argument), place "span"]),
      ("closure",
        [list "parameters" (.plain .parameter), ⟨"body", .plain .body, .required⟩, place "span"]),
      ("await", [⟨"expr", .expression, .required⟩, place "span"]),
      ("binary",
        [⟨"left", .expression, .required⟩, ⟨"operator", .text, .required⟩,
          ⟨"right", .expression, .required⟩, place "span"]),
      ("assignment",
        [⟨"target", .expression, .required⟩, ⟨"operator", .text, .required⟩,
          ⟨"value", .expression, .required⟩, place "span"]),
      ("conditional",
        [⟨"condition", .expression, .required⟩, ⟨"then_expr", .expression, .required⟩,
          ⟨"else_expr", .expression, .required⟩, place "span"]),
      ("cascade",
        [⟨"target", .expression, .required⟩, list "sections" .expression, place "span"]),
      ("list", [list "elements" .expression, place "span"]),
      ("other", [text "text", place "span"])]
  | .statement =>
    [("block", [list "statements" .statement, place "span"]),
      ("expression", [⟨"expr", .expression, .required⟩]),
      ("return", [optional "value" .expression, place "span"]),
      ("variable",
        [⟨"name", .text, .required⟩, optional "type" .type, optional "initializer" .expression,
          place "span"]),
      ("if",
        [⟨"condition", .expression, .required⟩, ⟨"then_branch", .statement, .required⟩,
          optional "else_branch" .statement, place "span"]),
      ("try",
        [list "body" .statement, list "catches" (.plain .clause),
          optional "finally" (.list .statement), place "span"]),
      ("loop",
        [optional "condition" .expression, ⟨"body", .statement, .required⟩, place "span"]),
      ("other", [place "span"])]
  | .member =>
    [("field", variableFields), ("constructor", constructorFields), ("method", methodFields)]
  | .directive =>
    [("import", referenceFields), ("export", referenceFields), ("part", referenceFields),
      ("library", [text "name", place "span"])]
  | .declaration =>
    [("class", classFields), ("function", functionFields), ("variable", variableFields),
      ("other", [place "span"])]

/-- The kinds of a sort of record, in order. -/
def TaggedSort.kinds (sort : TaggedSort) : List String :=
  sort.variants.map (·.1)

/-- The fields of a record of a kind. -/
def TaggedSort.fields (sort : TaggedSort) (kind : String) : List RecordField :=
  (sort.variants.lookup kind).getD []

/-! ## Documents in full -/

/-- The value of a field in full. -/
def RecordField.normalize? (norm : Shape → Json → Option Json) (f : RecordField)
    (value : Option Json) : Option Json :=
  match f.presence with
  | .required => Json.required (norm f.shape) value
  | .defaulted fallback => Json.defaulted fallback (norm f.shape) value
  | .optional => (Json.optional (norm f.shape) value).map (·.getD .null)

/-- The members of a record in full, in the order of the fields. -/
def normalizeFields? (norm : Shape → Json → Option Json) (fields : List RecordField)
    (record : Json) : Option (List (String × Json)) :=
  (record.fields? (fields.map (·.name))).bind fun values =>
    (fields.zip values).mapM fun (f, value) => (f.normalize? norm value).map (f.name, ·)

/-- The document in full, if it is what the shape says and opens no more than the given levels. -/
def normalize? : Nat → Shape → Json → Option Json
  | _, .text, j => (Json.text? j).map .str
  | _, .flag, j => (Json.flag? j).map .bool
  | _, .word, j => (Json.word? j).map Json.word
  | _, .keyword words, j => (Json.keyword? true (words.map fun w => (w, w)) j).map .str
  | n + 1, .list item, .arr items => (items.mapM (normalize? n item)).map .arr
  | n + 1, .plain sort, j => (normalizeFields? (normalize? n) sort.fields j).map .obj
  | n + 1, .tagged held sort, j => do
    let (kind, record) ← (← j.keep? held (n + 1)).variant? sort.kinds
    (normalizeFields? (normalize? n) (sort.fields kind) record).map (Json.tagged kind)
  | _, _, _ => none

end ArchLint
