import ArchLint.Text.Decimal
import ArchLint.Yaml.Cursor

/-! # Scalars in a YAML text

The four ways to write a text: plain, in single or double quotes, and as a block of lines.

* `Style` — plain text, whose content may give it a type, or any other.
* `readPlain`, `readQuoted`, `readBlock` — a scalar from its first character on, and what follows it.
-/

namespace ArchLint.Yaml

/-- How a scalar is written. -/
inductive Style where
  | plain
  | quoted
  | literal
  | folded
deriving DecidableEq, Repr

/-! ## Plain scalars -/

/-- A word of a plain scalar: up to white space or to a character that ends the scalar. Within
brackets a colon directly before another bracket is refused. -/
def plainWord (inFlow : Bool) : List Char → Option (List Char)
  | [] => some []
  | c :: cs =>
    if isBlank c || isBreak c then some []
    else if inFlow && c == ':' && [',', '?', '[', ']', '{', '}'].any (cs.head? == some ·) then none
    else if (c == ':' && endsWord cs) || (inFlow && [',', '[', ']', '{', '}'].contains c) then some []
    else (plainWord inFlow cs).map (c :: ·)

/-- A plain scalar as it was read: its text, whether a line break follows it, and what is left. -/
structure PlainReading where
  text : List Char
  endsLine : Bool
  rest : Cursor

/-- Reads on in a plain scalar, `done` and `gap` being behind. Lines that go on must reach column
`margin`. The first argument bounds the length of the text. -/
def readPlainFrom (inFlow : Bool) (margin : Int) : Nat → Cursor → List Char → Gap →
    Option PlainReading
  | 0, _, _, _ => none
  | n + 1, c, done, gap =>
    if c.atDocumentMarker || c.peek? == some '#' then some ⟨done, gap.broken, c⟩
    else
      match plainWord inFlow c.rest with
      | none => none
      | some word =>
        let after := c.skip word.length
        let done := if word.isEmpty then done else done ++ gap.joined ++ word
        let gap := if word.isEmpty then gap else {}
        if after.atGap then
          match gap.read margin after.rest.length after with
          | none => none
          | some (gap, next) =>
            if !inFlow && (next.column : Int) < margin then some ⟨done, gap.broken, next⟩
            else readPlainFrom inFlow margin n next done gap
        else some ⟨done, gap.broken, after⟩

/-- Reads a plain scalar within a collection that is indented by `indent`. -/
def readPlain (inFlow : Bool) (indent : Int) (c : Cursor) : Option PlainReading :=
  readPlainFrom inFlow (indent + 1) (c.rest.length + 1) c [] {}

/-! ## Quoted scalars -/

/-- The character that a backslash and one more character stand for. -/
def namedEscape? (c : Char) : Option Char :=
  ([('0', '\x00'), ('a', '\x07'), ('b', '\x08'), ('t', '\t'), ('\t', '\t'), ('n', '\n'),
    ('v', '\x0B'), ('f', '\x0C'), ('r', '\r'), ('e', '\x1B'), (' ', ' '), ('"', '"'), ('/', '/'),
    ('\\', '\\'), ('N', '\u0085'), ('_', '\u00A0'), ('L', '\u2028'), ('P', '\u2029')]).lookup c

/-- The number of hexadecimal digits that follow a backslash and this character. -/
def escapeLength? (c : Char) : Option Nat :=
  ([('x', 2), ('u', 4), ('U', 8)]).lookup c

/-- The character with a code, unless it is half a surrogate pair or beyond the last one. -/
def charOfCode? (n : Nat) : Option Char :=
  if (0xD800 ≤ n && n ≤ 0xDFFF) || 0x10FFFF < n then none else some (Char.ofNat n)

/-- The character that an escape stands for, and the text after it. -/
def readEscape (c : Char) (rest : List Char) : Option (Char × List Char) :=
  match namedEscape? c with
  | some e => some (e, rest)
  | none =>
    match escapeLength? c with
    | none => none
    | some n =>
      if rest.length < n then none
      else ((Text.ofHex? (rest.take n)).bind charOfCode?).map fun e => (e, rest.drop n)

/-- A word of a quoted scalar: its text, what is left, and whether an escaped line break ends it. -/
structure QuotedWord where
  text : List Char
  rest : List Char
  escapedBreak : Bool

/-- Puts a character in front of a word. -/
def QuotedWord.push (c : Char) (w : QuotedWord) : QuotedWord :=
  { w with text := c :: w.text }

/-- Reads a word of a scalar in quotes of the kind `quote`. The first argument bounds the length of the
text. -/
def quotedWord (quote : Char) : Nat → List Char → Option QuotedWord
  | 0, cs => some ⟨[], cs, false⟩
  | _ + 1, [] => some ⟨[], [], false⟩
  | n + 1, c :: cs =>
    if isBlank c || isBreak c then some ⟨[], c :: cs, false⟩
    else if c == quote then
      if quote == '\'' && cs.head? == some '\'' then
        (quotedWord quote n (cs.drop 1)).map (·.push '\'')
      else some ⟨[], c :: cs, false⟩
    else if quote == '"' && c == '\\' then
      match cs with
      | [] => none
      | e :: rest =>
        if isBreak e then some ⟨[], e :: rest, true⟩
        else
          match readEscape e rest with
          | none => none
          | some (x, rest) => (quotedWord quote n rest).map (·.push x)
    else (quotedWord quote n cs).map (·.push c)

/-- Reads on in a quoted scalar, `done` being behind. The first argument bounds the length of the
text. -/
def readQuotedFrom (quote : Char) : Nat → Cursor → List Char → Option (List Char × Cursor)
  | 0, _, _ => none
  | n + 1, c, done =>
    if c.atDocumentMarker || c.rest.isEmpty then none
    else
      match quotedWord quote c.rest.length c.rest with
      | none => none
      | some word =>
        let after := c.jump word.rest
        let done := done ++ word.text
        let next := if word.escapedBreak then after.skipLine else after
        if next.peek? == some quote then some (done, next.skip 1)
        else
          match Gap.read 0 next.rest.length next { broken := word.escapedBreak } with
          | none => none
          | some (gap, next) => readQuotedFrom quote n next (done ++ gap.joined)

/-- Reads a quoted scalar, from its opening quote on. -/
def readQuoted (quote : Char) (c : Cursor) : Option (List Char × Cursor) :=
  readQuotedFrom quote (c.rest.length + 1) (c.skip 1) []

/-! ## Block scalars -/

/-- What becomes of the line breaks at the end of a block. -/
inductive Chomping where
  | strip
  | clip
  | keep
deriving DecidableEq, Repr

/-- The chomping that an indicator stands for. -/
def chomping? (c : Char) : Option Chomping :=
  if c == '+' then some .keep else if c == '-' then some .strip else none

/-- The header of a block after its first character: chomping and indentation in either order. The
indentation is zero where it is left to the text; a zero that is written is refused. -/
def readHeader (c : Cursor) : Option (Chomping × Nat × Cursor) :=
  match c.rest with
  | x :: rest =>
    match chomping? x with
    | some chomping =>
      match rest with
      | d :: _ =>
        if d == '0' then none
        else if d.isDigit then some (chomping, Text.digitValue d, c.skip 2)
        else some (chomping, 0, c.skip 1)
      | [] => some (chomping, 0, c.skip 1)
    | none =>
      if x == '0' then none
      else if x.isDigit then
        match rest.head?.bind chomping? with
        | some chomping => some (chomping, Text.digitValue x, c.skip 2)
        | none => some (.clip, Text.digitValue x, c.skip 1)
      else some (.clip, 0, c)
  | [] => some (.clip, 0, c)

/-- The empty lines before a line of a block: the indentation, the line breaks, and what is left. -/
structure Margin where
  indent : Nat
  breaks : List Char
  rest : Cursor

/-- Passes over indentation and empty lines. An indentation that is not known yet, which zero stands
for, becomes that of the most indented of these lines, but at least `least`. A tab in the indentation is
refused. The first argument bounds the length of the text. -/
def readMargin (least : Nat) (indent : Nat) : Nat → Nat → List Char → Cursor → Option Margin
  | 0, _, _, _ => none
  | n + 1, widest, breaks, c =>
    let spaces := (c.rest.takeWhile (· == ' ')).length
    let wanted := if indent == 0 then spaces else min spaces (indent - c.column)
    let c := c.skip wanted
    let widest := max widest c.column
    if (indent == 0 || c.column < indent) && c.peek? == some '\t' then none
    else if (c.peek?.map isBreak).getD false then
      readMargin least indent n widest (breaks ++ breakText c.rest) c.skipLine
    else some ⟨if indent == 0 then max widest least else indent, breaks, c⟩

/-- The lines of a block so far. -/
structure BlockState where
  done : List Char := []
  leadingBreak : List Char := []
  trailingBreaks : List Char := []
  leadingBlank : Bool := false

/-- What stands between the lines so far and the next one: in a folded block a single line break
between lines that do not begin with white space becomes a space. -/
def BlockState.separator (folded trailingBlank : Bool) (b : BlockState) : List Char :=
  if folded && b.leadingBreak.head? == some '\n' && !b.leadingBlank && !trailingBlank then
    (if b.trailingBreaks.isEmpty then [' '] else []) ++ b.trailingBreaks
  else b.leadingBreak ++ b.trailingBreaks

/-- Reads the lines of a block. The first argument bounds the length of the text. -/
def readLines (folded : Bool) (least indent : Nat) : Nat → BlockState → Cursor →
    Option (BlockState × Cursor)
  | 0, _, _ => none
  | n + 1, b, c =>
    if c.column == indent && !c.rest.isEmpty then
      let blank := (c.peek?.map isBlank).getD false
      let line := c.rest.takeWhile (!isBreak ·)
      let ended := c.skip line.length
      match readMargin least indent (ended.rest.length + 1) 0 [] ended.skipLine with
      | none => none
      | some margin =>
        readLines folded least indent n
          { done := b.done ++ b.separator folded blank ++ line,
            leadingBreak := breakText ended.rest,
            trailingBreaks := margin.breaks,
            leadingBlank := blank } margin.rest
    else some (b, c)

/-- The text of a block with the line breaks that are left at its end. -/
def BlockState.text (chomping : Chomping) (b : BlockState) : List Char :=
  match chomping with
  | .strip => b.done
  | .clip => b.done ++ b.leadingBreak
  | .keep => b.done ++ b.leadingBreak ++ b.trailingBreaks

/-- Reads a block within a collection that is indented by `indent`, from its first character on. -/
def readBlock (folded : Bool) (indent : Int) (c : Cursor) : Option (List Char × Cursor) :=
  match readHeader (c.skip 1) with
  | none => none
  | some (chomping, increment, c) =>
    let c := c.skipWhile isBlank
    let c := if c.peek? == some '#' then c.skipWhile (!isBreak ·) else c
    if !endsLine c.rest then none
    else
      let c := c.skipLine
      let given := if increment == 0 then 0 else (max indent 0).toNat + increment
      let least := max (indent + 1).toNat 1
      match readMargin least given (c.rest.length + 1) 0 [] c with
      | none => none
      | some margin =>
        match readLines folded least margin.indent (c.rest.length + 1)
            { trailingBreaks := margin.breaks } margin.rest with
        | none => none
        | some (b, c) => some (b.text chomping, c)

end ArchLint.Yaml
