import ArchLint.Json.Basic
import ArchLint.Text.Decimal
import ArchLint.Text.Segment

/-! # Writing JSON

* `Json.quote` — a text in quotes.
* `Json.compact` — a document without white space.
* `Json.pretty` — a document with a line for every item and member, indented by two spaces.
-/

namespace ArchLint.Json

/-- How a character stands between quotes: the quote, the backslash and the control characters are
escaped, by a letter where there is one. -/
def escapeChar (c : Char) : List Char :=
  if c == '"' then ['\\', '"']
  else if c == '\\' then ['\\', '\\']
  else if c == '\x08' then ['\\', 'b']
  else if c == '\x0C' then ['\\', 'f']
  else if c == '\n' then ['\\', 'n']
  else if c == '\r' then ['\\', 'r']
  else if c == '\t' then ['\\', 't']
  else if c.toNat < 0x20 then
    ['\\', 'u', '0', '0', Text.hexDigit (c.toNat / 16), Text.hexDigit (c.toNat % 16)]
  else [c]

/-- The text in quotes. -/
def quote (text : String) : String :=
  String.ofList ('"' :: text.toList.flatMap escapeChar ++ ['"'])

mutual

/-- The document in one line without white space. -/
def compact : Json → String
  | .null => "null"
  | .bool true => "true"
  | .bool false => "false"
  | .nat n => Text.decimal n
  | .decimal lexeme => String.ofList lexeme
  | .str text => quote text
  | .arr items => "[" ++ compactItems items ++ "]"
  | .obj members => "\x7b" ++ compactMembers members ++ "\x7d"
  | .void => "null"

/-- The items with commas between them. -/
def compactItems : List Json → String
  | [] => ""
  | [j] => j.compact
  | j :: k :: js => j.compact ++ "," ++ compactItems (k :: js)

/-- The members with commas between them. -/
def compactMembers : List (String × Json) → String
  | [] => ""
  | [(key, j)] => quote key ++ ":" ++ j.compact
  | (key, j) :: m :: ms => quote key ++ ":" ++ j.compact ++ "," ++ compactMembers (m :: ms)

end

/-- The start of a line at the given depth. -/
def indent (level : Nat) : String :=
  String.ofList ('\n' :: List.replicate (2 * level) ' ')

mutual

/-- The document over several lines, at the given depth. -/
def prettyAt (level : Nat) : Json → String
  | .arr (j :: js) => "[" ++ prettyItems (level + 1) (j :: js) ++ indent level ++ "]"
  | .obj (m :: ms) => "\x7b" ++ prettyMembers (level + 1) (m :: ms) ++ indent level ++ "\x7d"
  | .arr [] => "[]"
  | .obj [] => "\x7b\x7d"
  | .null => "null"
  | .bool true => "true"
  | .bool false => "false"
  | .nat n => Text.decimal n
  | .decimal lexeme => String.ofList lexeme
  | .str text => quote text
  | .void => "null"

/-- The items, each on a line of its own. -/
def prettyItems (level : Nat) : List Json → String
  | [] => ""
  | [j] => indent level ++ prettyAt level j
  | j :: k :: js => indent level ++ prettyAt level j ++ "," ++ prettyItems level (k :: js)

/-- The members, each on a line of its own. -/
def prettyMembers (level : Nat) : List (String × Json) → String
  | [] => ""
  | [(key, j)] => indent level ++ quote key ++ ": " ++ prettyAt level j
  | (key, j) :: m :: ms =>
    indent level ++ quote key ++ ": " ++ prettyAt level j ++ "," ++ prettyMembers level (m :: ms)

end

/-- The document over several lines. -/
def pretty (j : Json) : String :=
  prettyAt 0 j

end ArchLint.Json
