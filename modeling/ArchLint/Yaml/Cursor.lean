/-! # Positions in a YAML text

* `isBreak`, `isBlank`, `isPermitted` — the characters of the format.
* `Cursor` — what is left of a text, and the place it begins at.
* `Gap`, `Gap.read`, `Gap.joined` — white space between the words of a scalar, and what is left of it.
-/

namespace ArchLint.Yaml

/-! ## Characters -/

/-- The character ends a line. -/
def isBreak (c : Char) : Bool :=
  c == '\n' || c == '\r' || c == '\u0085' || c == '\u2028' || c == '\u2029'

/-- A space or a tab. -/
def isBlank (c : Char) : Bool :=
  c == ' ' || c == '\t'

/-- The character may stand in a text at all. -/
def isPermitted (c : Char) : Bool :=
  let n := c.toNat
  n == 0x09 || n == 0x0A || n == 0x0D || (0x20 ≤ n && n ≤ 0x7E) || n == 0x85 ||
    (0xA0 ≤ n && n ≤ 0xFFFD) || 0x10000 ≤ n

/-- A letter or digit of ASCII, a hyphen or an underscore. -/
def isWordChar (c : Char) : Bool :=
  c.isAlphanum || c == '_' || c == '-'

/-- The text is at its end or goes on with white space. -/
def endsWord : List Char → Bool
  | [] => true
  | c :: _ => isBlank c || isBreak c

/-- The text is at its end or at the end of a line. -/
def endsLine : List Char → Bool
  | [] => true
  | c :: _ => isBreak c

/-- What a line break at the front of the text stands for: a newline, or itself if it separates lines
or paragraphs explicitly. -/
def breakText : List Char → List Char
  | [] => []
  | c :: _ => if c == '\u2028' || c == '\u2029' then [c] else ['\n']

/-! ## Cursors -/

/-- What is left of a text, with the number of characters before it and its place. -/
structure Cursor where
  rest : List Char
  index : Nat := 0
  line : Nat := 0
  column : Nat := 0
deriving Repr

namespace Cursor

/-- The next character. -/
def peek? (c : Cursor) : Option Char :=
  c.rest.head?

/-- Passes over characters within a line. -/
def skip (n : Nat) (c : Cursor) : Cursor :=
  { c with rest := c.rest.drop n, index := c.index + n, column := c.column + n }

/-- Passes over all characters of a class within a line. -/
def skipWhile (p : Char → Bool) (c : Cursor) : Cursor :=
  c.skip (c.rest.takeWhile p).length

/-- Passes over a line break. -/
def skipLine (c : Cursor) : Cursor :=
  match c.rest with
  | '\r' :: '\n' :: rest => ⟨rest, c.index + 2, c.line + 1, 0⟩
  | _ :: rest => ⟨rest, c.index + 1, c.line + 1, 0⟩
  | [] => c

/-- The cursor after `n` more characters have become known to be read, `rest` being left. -/
def jump (rest : List Char) (c : Cursor) : Cursor :=
  c.skip (c.rest.length - rest.length)

/-- Three times the character `m` stand at the beginning of a line. -/
def atMarker (m : Char) (c : Cursor) : Bool :=
  c.column == 0 && [m, m, m].isPrefixOf c.rest && endsWord (c.rest.drop 3)

/-- A line begins with a mark between documents. -/
def atDocumentMarker (c : Cursor) : Bool :=
  c.atMarker '-' || c.atMarker '.'

/-- The next character is white space. -/
def atGap (c : Cursor) : Bool :=
  match c.rest with
  | [] => false
  | x :: _ => isBlank x || isBreak x

end Cursor

/-! ## Gaps between words -/

/-- White space between two words of a scalar. -/
structure Gap where
  /-- The words stand on different lines. -/
  broken : Bool := false
  spaces : List Char := []
  firstBreak : List Char := []
  moreBreaks : List Char := []
deriving Repr

/-- What a gap leaves between the words: its spaces; or one space for a single line break, and of
several all but the first. -/
def Gap.joined (g : Gap) : List Char :=
  if !g.broken then g.spaces
  else if g.firstBreak == ['\n'] then (if g.moreBreaks.isEmpty then [' '] else g.moreBreaks)
  else g.firstBreak ++ g.moreBreaks

/-- The gap after one more line break. -/
def Gap.pushBreak (text : List Char) (g : Gap) : Gap :=
  if g.broken then { g with moreBreaks := g.moreBreaks ++ text }
  else { g with broken := true, spaces := [], firstBreak := text }

/-- Reads the rest of a gap. A tab before column `margin` of a later line is refused. The first
argument bounds the length of the text. -/
def Gap.read (margin : Int) : Nat → Cursor → Gap → Option (Gap × Cursor)
  | 0, c, g => some (g, c)
  | n + 1, c, g =>
    match c.rest with
    | [] => some (g, c)
    | x :: _ =>
      if isBlank x then
        if g.broken then
          if x == '\t' && (c.column : Int) < margin then none else Gap.read margin n (c.skip 1) g
        else Gap.read margin n (c.skip 1) { g with spaces := g.spaces ++ [x] }
      else if isBreak x then Gap.read margin n c.skipLine (g.pushBreak (breakText c.rest))
      else some (g, c)

end ArchLint.Yaml
