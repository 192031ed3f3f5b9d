import ArchLint.Text.Alphanumeric
import ArchLint.Text.Uppercase
import ArchLint.Text.Segment

/-! # Identifiers in rendered text

Names are never resolved: whether a text speaks of a Bloc or a model is read off its identifiers.
An aliased import hides a type from this test, and an unrelated type with the same ending passes it.

* `identifiers` — the identifiers of a text, in order.
* `isTypeName` — the spelling of a type: a capital after any leading underscores.
* `mentions`, `mentionsAny` — a type name with a given ending occurs.
-/

namespace ArchLint.Text

/-- The character may stand in an identifier. -/
def isIdentifierChar (c : Char) : Bool :=
  isAlphanumeric c || c == '_' || c == '$'

/-- A piece of text between other characters is an identifier unless it is empty or begins with an
ASCII digit. -/
def isIdentifier : List Char → Bool
  | [] => false
  | c :: _ => !c.isDigit

/-- The identifiers of a text in order of occurrence. -/
def identifiers (text : String) : List String :=
  ((segmentsBy (!isIdentifierChar ·) text.toList).filter isIdentifier).map String.ofList

/-- The name begins, after any underscores, with an uppercase letter. -/
def isTypeName (name : String) : Bool :=
  ((name.toList.dropWhile (· == '_')).head?.map isUppercase).getD false

/-- A type name that ends in `suffix` occurs in the text. The empty suffix is that of no type. -/
def mentions (text suffix : String) : Bool :=
  !suffix.isEmpty && (identifiers text).any fun name => isTypeName name && endsWith name suffix

/-- A type name that ends in one of the suffixes occurs in the text. -/
def mentionsAny (text : String) (suffixes : List String) : Bool :=
  suffixes.any (mentions text)

end ArchLint.Text
