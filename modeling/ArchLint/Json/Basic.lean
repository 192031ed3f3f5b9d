/-! # JSON values

A document as it is written: members keep their order and may repeat a key, and natural numbers are
told from all others.

* `Json` — the values.
* `Json.depth` — how deep arrays and objects nest.
* `Json.denotes` — every part of the document has a value.
-/

namespace ArchLint

/-- A JSON document. -/
inductive Json where
  | null
  | bool (value : Bool)
  /-- A number written with digits alone. -/
  | nat (value : Nat)
  /-- A number with a sign, a fraction or an exponent, kept as it is written. -/
  | decimal (lexeme : List Char)
  | str (text : String)
  | arr (items : List Json)
  | obj (members : List (String × Json))
  /-- Grammatical text without a value: a number beyond the range of double precision, a text with
  half of a surrogate pair, an object with such a text for a key. -/
  | void
deriving Repr, Inhabited

namespace Json

mutual

/-- The greatest number of arrays and objects around any part of the document. -/
def depth : Json → Nat
  | .arr items => depthOfItems items + 1
  | .obj members => depthOfMembers members + 1
  | .null => 0
  | .bool _ => 0
  | .nat _ => 0
  | .decimal _ => 0
  | .str _ => 0
  | .void => 0

/-- The greatest depth among the items. -/
def depthOfItems : List Json → Nat
  | [] => 0
  | j :: js => max j.depth (depthOfItems js)

/-- The greatest depth among the values of the members. -/
def depthOfMembers : List (String × Json) → Nat
  | [] => 0
  | (_, j) :: ms => max j.depth (depthOfMembers ms)

end

mutual

/-- Every part of the document has a value. -/
def denotes : Json → Bool
  | .arr items => itemsDenote items
  | .obj members => membersDenote members
  | .void => false
  | .null => true
  | .bool _ => true
  | .nat _ => true
  | .decimal _ => true
  | .str _ => true

/-- Every item has a value. -/
def itemsDenote : List Json → Bool
  | [] => true
  | j :: js => j.denotes && itemsDenote js

/-- Every member has a value. -/
def membersDenote : List (String × Json) → Bool
  | [] => true
  | (_, j) :: ms => j.denotes && membersDenote ms

end

end Json

end ArchLint
