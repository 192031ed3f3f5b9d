import ArchLint.Json.Basic
import ArchLint.Text.Decimal

/-! # Reading JSON

The reader takes exactly the texts of the JSON grammar, to any depth. What is grammatical but has no
value is read as `Json.void`; whoever needs that value refuses it.

* `Json.readString`, `Json.readNumber`, `Json.readValue` — the parts of the grammar; each gives the
  value and the rest of the text.
* `Json.read` — a whole document.
-/

namespace ArchLint.Json

/-! ## White space and names -/

/-- The four characters of JSON white space. -/
def isSpace (c : Char) : Bool :=
  c == ' ' || c == '\n' || c == '\r' || c == '\t'

/-- The text from its first other character on. -/
def skipSpace (cs : List Char) : List Char :=
  cs.dropWhile isSpace

/-- The text after `word`, if it begins so. -/
def afterWord (word cs : List Char) : Option (List Char) :=
  if word.isPrefixOf cs then some (cs.drop word.length) else none

/-! ## Strings -/

/-- The first half of a surrogate pair. -/
def isHighSurrogate (n : Nat) : Bool :=
  0xD800 ≤ n && n < 0xDC00

/-- The second half of a surrogate pair. -/
def isLowSurrogate (n : Nat) : Bool :=
  0xDC00 ≤ n && n < 0xE000

/-- The character that a surrogate pair stands for. -/
def ofSurrogates (high low : Nat) : Char :=
  Char.ofNat (0x10000 + (high - 0xD800) * 0x400 + (low - 0xDC00))

/-- The character that a backslash and a letter stand for. -/
def shortEscape? (c : Char) : Option Char :=
  if c == '"' || c == '\\' || c == '/' then some c
  else if c == 'b' then some '\x08'
  else if c == 'f' then some '\x0C'
  else if c == 'n' then some '\n'
  else if c == 'r' then some '\r'
  else if c == 't' then some '\t'
  else none

/-- A text and what follows it; the text is absent when half a surrogate pair spoils it. -/
abbrev StringReading := Option (Option (List Char) × List Char)

/-- Puts a character in front of the text. -/
def StringReading.push (c : Char) (r : StringReading) : StringReading :=
  r.map fun (text, rest) => (text.map (c :: ·), rest)

/-- Spoils the text. -/
def StringReading.spoil (r : StringReading) : StringReading :=
  r.map fun (_, rest) => (none, rest)

/-- Reads a string after its opening quote. -/
def readString : List Char → StringReading
  | '"' :: rest => some (some [], rest)
  | '\\' :: 'u' :: a :: b :: c :: d :: '\\' :: 'u' :: e :: f :: g :: h :: rest =>
    match Text.ofHex? [a, b, c, d] with
    | none => none
    | some n =>
      if isHighSurrogate n then
        match Text.ofHex? [e, f, g, h] with
        | none => none
        | some m =>
          if isLowSurrogate m then (readString rest).push (ofSurrogates n m)
          else (readString ('\\' :: 'u' :: e :: f :: g :: h :: rest)).spoil
      else if isLowSurrogate n then
        (readString ('\\' :: 'u' :: e :: f :: g :: h :: rest)).spoil
      else (readString ('\\' :: 'u' :: e :: f :: g :: h :: rest)).push (Char.ofNat n)
  | '\\' :: 'u' :: a :: b :: c :: d :: rest =>
    match Text.ofHex? [a, b, c, d] with
    | none => none
    | some n =>
      if isHighSurrogate n || isLowSurrogate n then (readString rest).spoil
      else (readString rest).push (Char.ofNat n)
  | '\\' :: c :: rest =>
    match shortEscape? c with
    | none => none
    | some e => (readString rest).push e
  | c :: rest => if c == '\\' || c.toNat < 0x20 then none else (readString rest).push c
  | [] => none

/-! ## Numbers -/

/-- The decimal digits at the front of the text, and the rest. -/
def spanDigits (cs : List Char) : List Char × List Char :=
  (cs.takeWhile Char.isDigit, cs.dropWhile Char.isDigit)

/-- At least one digit. -/
def someDigits (cs : List Char) : Option (List Char × List Char) :=
  let (ds, rest) := spanDigits cs
  if ds.isEmpty then none else some (ds, rest)

/-- The digits before the point: a zero alone, or digits that begin with another one. -/
def readWhole (cs : List Char) : Option (List Char × List Char) :=
  match cs with
  | '0' :: rest => some (['0'], rest)
  | _ => someDigits cs

/-- The digits after a point, if one follows. -/
def readFraction (cs : List Char) : Option (List Char × List Char) :=
  match cs with
  | '.' :: rest => someDigits rest
  | _ => some ([], cs)

/-- An exponent, if one follows: its text and its value. -/
def readExponent (cs : List Char) : Option (List Char × Int × List Char) :=
  match cs with
  | e :: rest =>
    if e == 'e' || e == 'E' then
      match rest with
      | '-' :: rest =>
        (someDigits rest).map fun (ds, r) => (e :: '-' :: ds, -(Text.ofDigits ds : Int), r)
      | '+' :: rest =>
        (someDigits rest).map fun (ds, r) => (e :: '+' :: ds, (Text.ofDigits ds : Int), r)
      | _ => (someDigits rest).map fun (ds, r) => (e :: ds, (Text.ofDigits ds : Int), r)
    else some ([], 0, cs)
  | [] => some ([], 0, cs)

/-- The least magnitude that rounds to infinity in double precision. -/
def overflowBound : Nat :=
  1 <<< 1024 - 1 <<< 970

/-- The magnitude `significand * 10 ^ scale` rounds to infinity. Far from the bound the number of
digits decides. -/
def overflows (significand : Nat) (scale : Int) : Bool :=
  let size : Int := (Text.digits significand).length + scale
  if significand == 0 || size < 300 then false
  else if 320 < size then true
  else if 0 ≤ scale then overflowBound ≤ significand * Nat.pow 10 scale.toNat
  else overflowBound * Nat.pow 10 (-scale).toNat ≤ significand

/-- A number by its parts: its sign, the digits before and after the point, and its exponent. -/
def numberOf (sign whole fraction exponent : List Char) (scale : Int) : Json :=
  if overflows (Text.ofDigits (whole ++ fraction)) (scale - fraction.length) then .void
  else if sign.isEmpty && fraction.isEmpty && exponent.isEmpty then .nat (Text.ofDigits whole)
  else .decimal (sign ++ whole ++ (if fraction.isEmpty then [] else '.' :: fraction) ++ exponent)

/-- The sign of a number, if it has one. -/
def readSign : List Char → List Char × List Char
  | '-' :: rest => (['-'], rest)
  | cs => ([], cs)

/-- Reads a number, from its sign on. -/
def readNumber (cs : List Char) : Option (Json × List Char) :=
  let (sign, unsigned) := readSign cs
  match readWhole unsigned with
  | none => none
  | some (whole, afterWhole) =>
    match readFraction afterWhole with
    | none => none
    | some (fraction, afterFraction) =>
      match readExponent afterFraction with
      | none => none
      | some (exponent, scale, rest) => some (numberOf sign whole fraction exponent scale, rest)

/-! ## Values -/

/-- An object with the given members, unless one of the keys is spoilt. -/
def objectOf (members : List (Option (List Char) × Json)) : Json :=
  match members.mapM fun (key, value) => key.map fun k => (String.ofList k, value) with
  | some members => .obj members
  | none => .void

mutual

/-- Reads a value, after any white space. The first argument exceeds twice the length of the text. -/
def readValue : Nat → List Char → Option (Json × List Char)
  | 0, _ => none
  | n + 1, cs =>
    match skipSpace cs with
    | [] => none
    | '"' :: rest =>
      (readString rest).map fun (text, rest) => ((text.map (.str <| String.ofList ·)).getD .void, rest)
    | '[' :: rest =>
      match skipSpace rest with
      | ']' :: rest => some (.arr [], rest)
      | rest => (readItems n rest).map fun (items, rest) => (.arr items, rest)
    | '{' :: rest =>
      match skipSpace rest with
      | '}' :: rest => some (.obj [], rest)
      | rest => (readMembers n rest).map fun (members, rest) => (objectOf members, rest)
    | 'n' :: rest => (afterWord ['u', 'l', 'l'] rest).map (.null, ·)
    | 't' :: rest => (afterWord ['r', 'u', 'e'] rest).map (.bool true, ·)
    | 'f' :: rest => (afterWord ['a', 'l', 's', 'e'] rest).map (.bool false, ·)
    | c :: rest => readNumber (c :: rest)

/-- Reads the items of an array up to its closing bracket. There is at least one. -/
def readItems : Nat → List Char → Option (List Json × List Char)
  | 0, _ => none
  | n + 1, cs =>
    match readValue n cs with
    | none => none
    | some (item, rest) =>
      match skipSpace rest with
      | ']' :: rest => some ([item], rest)
      | ',' :: rest => (readItems n rest).map fun (items, rest) => (item :: items, rest)
      | _ => none

/-- Reads the members of an object up to its closing brace. There is at least one. -/
def readMembers : Nat → List Char → Option (List (Option (List Char) × Json) × List Char)
  | 0, _ => none
  | n + 1, cs =>
    match skipSpace cs with
    | '"' :: rest =>
      match readString rest with
      | none => none
      | some (key, rest) =>
        match skipSpace rest with
        | ':' :: rest =>
          match readValue n rest with
          | none => none
          | some (value, rest) =>
            match skipSpace rest with
            | '}' :: rest => some ([(key, value)], rest)
            | ',' :: rest => (readMembers n rest).map fun (ms, rest) => ((key, value) :: ms, rest)
            | _ => none
        | _ => none
    | _ => none

end

/-- Reads a document: one value with nothing but white space around it. -/
def read (text : String) : Option Json :=
  let cs := text.toList
  match readValue (2 * cs.length + 1) cs with
  | some (value, rest) => if (skipSpace rest).isEmpty then some value else none
  | none => none

end ArchLint.Json
