import ArchLint.Json.Basic

/-! # Records in JSON

A record is written as an object, or as an array of its fields in order. A record with a kind carries
it under `kind`, anywhere in the object, or in front of the other items. Keys that a record does not
know are passed over.

A record with a kind is kept whole until its kind is known. So everything in it must have a value and
lie within the levels that may still be opened, and inside it a number may stand for a kind. What is
passed over elsewhere need only be grammatical.

* `Json.fields?`, `Json.variant?` — the fields of a record, and its kind.
* `Json.keep?` — the check on what is kept whole.
* `Json.required`, `Json.defaulted`, `Json.optional` — one field.
* `Json.text?`, `Json.flag?`, `Json.word?`, `Json.keyword?`, `Json.listOf?` — the leaves and lists.
-/

namespace ArchLint.Json

/-! ## Fields -/

/-- The value under a key, absent when the object lacks the key. A key that is given twice is
refused. -/
def once? (name : String) (members : List (String × Json)) : Option (Option Json) :=
  match members.filter (·.1 == name) with
  | [] => some none
  | [(_, value)] => some (some value)
  | _ => none

/-- The values of the named fields, absent where the record omits them. An array may omit fields at
its end and must not go on after the last one. -/
def fields? (names : List String) : Json → Option (List (Option Json))
  | .obj members => names.mapM fun name => once? name members
  | .arr items =>
    if items.length ≤ names.length then
      some (items.map some ++ List.replicate (names.length - items.length) none)
    else none
  | _ => none

/-- A field that must be present. -/
def required {α : Type} (read : Json → Option α) (field : Option Json) : Option α :=
  field.bind read

/-- A field with a value to fall back on. -/
def defaulted {α : Type} (fallback : α) (read : Json → Option α) : Option Json → Option α
  | none => some fallback
  | some j => read j

/-- A field that may be absent or null. -/
def optional {α : Type} (read : Json → Option α) : Option Json → Option (Option α)
  | none => some none
  | some .null => some none
  | some j => (read j).map some

/-! ## Kinds -/

/-- The kind that a tag names: by its text, or by its position among the kinds. -/
def kindOf? (kinds : List String) : Json → Option String
  | .str s => if kinds.contains s then some s else none
  | .nat n => kinds[n]?
  | _ => none

/-- The kind of a record and the record without it. -/
def variant? (kinds : List String) : Json → Option (String × Json)
  | .obj members =>
    match once? "kind" members with
    | some (some tag) =>
      (kindOf? kinds tag).map fun kind => (kind, .obj (members.filter (·.1 != "kind")))
    | _ => none
  | .arr (tag :: items) => (kindOf? kinds tag).map fun kind => (kind, .arr items)
  | _ => none

/-- The value is a number. -/
def isNat : Json → Bool
  | .nat _ => true
  | _ => false

/-- The record carries a number for its kind. -/
def hasNumberedKind : Json → Bool
  | .obj members => members.any fun (key, value) => key == "kind" && value.isNat
  | .arr (tag :: _) => tag.isNat
  | _ => false

/-- A record with a kind as it is kept whole: unless it lies within another one that is kept, it must
have a value in all its parts, open no more than `levels` levels and spell its kind out. -/
def keep? (held : Bool) (levels : Nat) (j : Json) : Option Json :=
  if held || (j.denotes && j.depth ≤ levels && !j.hasNumberedKind) then some j else none

/-! ## Leaves and lists -/

/-- A text. -/
def text? : Json → Option String
  | .str s => some s
  | _ => none

/-- A truth value. -/
def flag? : Json → Option Bool
  | .bool b => some b
  | _ => none

/-- A natural number of at most 64 bits. -/
def word? : Json → Option UInt64
  | .nat n => if n < UInt64.size then some (UInt64.ofNat n) else none
  | _ => none

/-- The value is null, or an empty object where those count. -/
def isNothing (held : Bool) : Json → Bool
  | .null => true
  | .obj [] => held
  | _ => false

/-- One of several words, also as the only key of an object that holds nothing. -/
def keyword? {α : Type} (held : Bool) (words : List (String × α)) : Json → Option α
  | .str s => words.lookup s
  | .obj [(key, value)] => if value.isNothing held then words.lookup key else none
  | _ => none

/-- The items of an array, which opens a level. -/
def listOf? {α : Type} (read : Nat → Json → Option α) : Nat → Json → Option (List α)
  | n + 1, .arr items => items.mapM (read n)
  | _, _ => none

end ArchLint.Json
