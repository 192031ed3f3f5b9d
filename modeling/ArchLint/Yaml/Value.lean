import ArchLint.Yaml.Node

/-! # Values of YAML nodes

What a node says when a certain type of value is wanted. A scalar that is left out counts as an empty
list and as a mapping without entries.

* `Document.text?`, `Document.flag?`, `Document.texts?` — texts, truth values, lists of texts.
* `Document.entries?` — the entries of a mapping under the texts of their keys.
* `Document.optional?` — a value that may be null.
* `once?` — the value of a key that may be given only once.
-/

namespace ArchLint.Yaml

/-- The words for null. -/
def nullWords : List (List Char) :=
  ["null".toList, "Null".toList, "NULL".toList, "~".toList]

/-- The words for true. -/
def trueWords : List (List Char) :=
  ["true".toList, "True".toList, "TRUE".toList]

/-- The words for false. -/
def falseWords : List (List Char) :=
  ["false".toList, "False".toList, "FALSE".toList]

/-- The tag of null. -/
def nullTag : List Char :=
  "tag:yaml.org,2002:null".toList

/-- The tag of truth values. -/
def flagTag : List Char :=
  "tag:yaml.org,2002:bool".toList

/-- The truth value that a word says. -/
def flagOfWord? (text : List Char) : Option Bool :=
  if trueWords.contains text then some true
  else if falseWords.contains text then some false
  else none

/-- A scalar says a truth value if it is plain, or if it is a literal block with the tag of truth
values. -/
def mayBeFlag (tag : Option (List Char)) : Style → Bool
  | .plain => true
  | .literal => tag == some flagTag
  | _ => false

/-- Whether a node is null: a plain scalar that is left out or is a word for null. It cannot be told of a
plain scalar that has the tag of null and is no such word. -/
def isNull? : Node → Option Bool
  | .scalar _ none .plain text => some (text.isEmpty || nullWords.contains text)
  | .scalar _ (some tag) .plain text =>
    if tag == nullTag then (if nullWords.contains text then some true else none) else some false
  | _ => some false

namespace Document

/-- The text of a scalar, whatever its style. -/
def text? (d : Document) (n : Node) : Option String :=
  match d.target n with
  | .scalar _ _ _ text => some (String.ofList text)
  | _ => none

/-- A truth value. -/
def flag? (d : Document) (n : Node) : Option Bool :=
  match d.target n with
  | .scalar _ tag style text => if mayBeFlag tag style then flagOfWord? text else none
  | _ => none

/-- The items of a sequence. -/
def items? (d : Document) (n : Node) : Option (List Node) :=
  match d.target n with
  | .sequence _ items => some items
  | .scalar _ _ .plain [] => some []
  | _ => none

/-- A list of texts. -/
def texts? (d : Document) (n : Node) : Option (List String) :=
  (d.items? n).bind fun items => items.mapM d.text?

/-- The entries of a mapping, whose keys must be scalars. -/
def entries? (d : Document) (n : Node) : Option (List (String × Node)) :=
  match d.target n with
  | .mapping _ entries => entries.mapM fun (key, value) => (d.text? key).map (·, value)
  | .scalar _ _ .plain [] => some []
  | _ => none

/-- A value that may be null. -/
def optional? {α : Type} (d : Document) (read : Node → Option α) (n : Node) : Option (Option α) :=
  match isNull? (d.target n) with
  | none => none
  | some true => some none
  | some false => (read n).map some

end Document

/-- The value of a key, absent when there is no such key. A key that is given twice is refused. -/
def once? (name : String) (entries : List (String × Node)) : Option (Option Node) :=
  match entries.filter (·.1 == name) with
  | [] => some none
  | [(_, value)] => some (some value)
  | _ => none

/-- The value of a key, or what holds without it. -/
def defaulted? {α : Type} (entries : List (String × Node)) (name : String) (fallback : α)
    (read : Node → Option α) : Option α :=
  match once? name entries with
  | none => none
  | some none => some fallback
  | some (some n) => read n

end ArchLint.Yaml
