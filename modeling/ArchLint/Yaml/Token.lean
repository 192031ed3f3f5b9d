import ArchLint.Yaml.Scalar

/-! # Tokens of a YAML text

Indentation becomes tokens that open and close block collections. A key is known as such only by the
colon after it, so the scanner remembers where a key may have begun and puts the tokens in there
afterwards. Such a key lies on one line and within 1024 characters.

* `Token` — the tokens.
* `Scanner` — the state of the scanner, with one function for each sort of token.
* `Token.scan` — all tokens of a text.
-/

namespace ArchLint.Yaml

/-- A token. -/
inductive Token where
  | version (major minor : Nat)
  | tagDirective (handle full : List Char)
  | documentStart
  | documentEnd
  | blockSequenceStart
  | blockMappingStart
  | blockEnd
  | flowSequenceStart
  | flowSequenceEnd
  | flowMappingStart
  | flowMappingEnd
  | blockEntry
  | flowEntry
  | key
  | value
  | alias (name : List Char)
  | anchor (name : List Char)
  | tag (handle suffix : List Char)
  | scalar (style : Style) (text : List Char)
deriving DecidableEq, Repr

/-- A place where a key may have begun. -/
structure KeyMark where
  /-- Nothing but a key can stand there. -/
  required : Bool
  /-- The number of tokens before it. -/
  position : Nat
  index : Nat
  line : Nat
  column : Nat
deriving Repr

/-- The state of the scanner. -/
structure Scanner where
  cursor : Cursor
  /-- The tokens so far, last one first. -/
  tokens : List Token := []
  /-- The column of the innermost block collection, less than zero outside all of them. -/
  indent : Int := -1
  /-- The columns of the block collections around it. -/
  indents : List Int := []
  /-- A key may begin here. -/
  keyAllowed : Bool := true
  /-- Where a key may have begun, innermost bracket first; the last entry belongs to no bracket. -/
  keys : List (Option KeyMark) := [none]
deriving Repr

namespace Scanner

/-! ## Tokens and keys -/

/-- The scanner is between brackets. -/
def inFlow (s : Scanner) : Bool :=
  1 < s.keys.length

/-- The scanner with one more token. -/
def emit (t : Token) (s : Scanner) : Scanner :=
  { s with tokens := t :: s.tokens }

/-- The scanner with a token put in after the first `position` ones. -/
def insertAt (position : Nat) (t : Token) (s : Scanner) : Scanner :=
  let later := s.tokens.length - position
  { s with tokens := s.tokens.take later ++ t :: s.tokens.drop later }

/-- The scanner past `n` characters of its line. -/
def advance (n : Nat) (s : Scanner) : Scanner :=
  { s with cursor := s.cursor.skip n }

/-- The scanner with a key allowed or not. -/
def allowKey (allowed : Bool) (s : Scanner) : Scanner :=
  { s with keyAllowed := allowed }

/-- Forgets the innermost place of a key, which must not be required. -/
def dropKey (s : Scanner) : Option Scanner :=
  match s.keys with
  | some k :: rest => if k.required then none else some { s with keys := none :: rest }
  | _ => some s

/-- Remembers that a key may begin here. -/
def saveKey (s : Scanner) : Option Scanner :=
  if s.keyAllowed then
    let c := s.cursor
    let mark : KeyMark :=
      { required := !s.inFlow && s.indent == c.column, position := s.tokens.length,
        index := c.index, line := c.line, column := c.column }
    s.dropKey.map fun s => { s with keys := some mark :: s.keys.drop 1 }
  else some s

/-- Forgets a place that is too far behind, unless it is required. -/
def expireKey (c : Cursor) : Option KeyMark → Option (Option KeyMark)
  | none => some none
  | some k =>
    if k.line < c.line || k.index + 1024 < c.index then (if k.required then none else some none)
    else some (some k)

/-- Forgets all places that are too far behind. -/
def expireKeys (s : Scanner) : Option Scanner :=
  (s.keys.mapM (expireKey s.cursor)).map fun keys => { s with keys := keys }

/-! ## Indentation -/

/-- Closes the block collections whose columns are given, as far as they lie beyond `column`. -/
def unrollThrough (column : Int) : List Int → Scanner → Scanner
  | [], s => s
  | i :: outer, s =>
    if column < s.indent then
      unrollThrough column outer ({ s with indent := i, indents := outer }.emit .blockEnd)
    else s

/-- Closes the block collections beyond a column. Between brackets indentation does not count. -/
def unroll (column : Int) (s : Scanner) : Scanner :=
  if s.inFlow then s else unrollThrough column s.indents s

/-- Opens a block collection at a column beyond the innermost one, with its token after the first
`position` ones. -/
def roll (column : Int) (position : Nat) (t : Token) (s : Scanner) : Scanner :=
  if s.inFlow || column ≤ s.indent then s
  else { s with indents := s.indent :: s.indents, indent := column }.insertAt position t

/-- Opens a block collection at the cursor. -/
def rollHere (t : Token) (s : Scanner) : Scanner :=
  s.roll s.cursor.column s.tokens.length t

/-! ## White space and comments -/

/-- Passes over white space, line breaks and comments. A tab may not stand where a key may begin. The
first argument bounds the length of the text. -/
def skipToToken : Nat → Scanner → Scanner
  | 0, s => s
  | n + 1, s =>
    let mark := s.cursor.index == 0 && s.cursor.peek? == some '\uFEFF'
    let s := if mark then s.advance 1 else s
    let tabs := s.inFlow || !s.keyAllowed
    let c := s.cursor.skipWhile fun x => x == ' ' || (tabs && x == '\t')
    let c := if c.peek? == some '#' then c.skipWhile (!isBreak ·) else c
    if (c.peek?.map isBreak).getD false then
      skipToToken n { s with cursor := c.skipLine, keyAllowed := s.keyAllowed || !s.inFlow }
    else { s with cursor := c }

/-! ## Indicators -/

/-- A mark between documents. -/
def fetchDocumentMarker (t : Token) (s : Scanner) : Option Scanner :=
  (s.unroll (-1)).dropKey.map fun s => ((s.allowKey false).emit t).advance 3

/-- An opening bracket. -/
def fetchFlowStart (t : Token) (s : Scanner) : Option Scanner :=
  s.saveKey.map fun s =>
    (({ s with keys := none :: s.keys }.allowKey true).emit t).advance 1

/-- A closing bracket. -/
def fetchFlowEnd (t : Token) (s : Scanner) : Option Scanner :=
  s.dropKey.map fun s =>
    let s := if s.inFlow then { s with keys := s.keys.drop 1 } else s
    ((s.allowKey false).emit t).advance 1

/-- A comma between brackets. -/
def fetchFlowEntry (s : Scanner) : Option Scanner :=
  s.dropKey.map fun s => ((s.allowKey true).emit .flowEntry).advance 1

/-- The hyphen in front of an item. -/
def fetchBlockEntry (s : Scanner) : Option Scanner :=
  if !s.inFlow && !s.keyAllowed then none
  else
    (s.rollHere .blockSequenceStart).dropKey.map fun s =>
      ((s.allowKey true).emit .blockEntry).advance 1

/-- The question mark in front of a key. -/
def fetchKey (s : Scanner) : Option Scanner :=
  if !s.inFlow && !s.keyAllowed then none
  else
    (s.rollHere .blockMappingStart).dropKey.map fun s =>
      ((s.allowKey !s.inFlow).emit .key).advance 1

/-- The colon in front of a value. -/
def fetchValue (s : Scanner) : Option Scanner :=
  match s.keys with
  | some k :: outer =>
    let s := s.insertAt k.position .key
    let s := s.roll k.column k.position .blockMappingStart
    some ((({ s with keys := none :: outer }.allowKey false).emit .value).advance 1)
  | _ =>
    if !s.inFlow && !s.keyAllowed then none
    else some ((((s.rollHere .blockMappingStart).allowKey !s.inFlow).emit .value).advance 1)

/-! ## Anchors and tags -/

/-- The characters that may follow the name of an anchor. -/
def endsAnchor (cs : List Char) : Bool :=
  endsWord cs || ['?', ':', ',', ']', '}', '%', '@', '\x60'].any (cs.head? == some ·)

/-- The name after an anchor or alias indicator. -/
def fetchAnchor (token : List Char → Token) (s : Scanner) : Option Scanner :=
  match s.saveKey with
  | none => none
  | some s =>
    let c := s.cursor.skip 1
    let name := c.rest.takeWhile isWordChar
    let c := c.skip name.length
    if name.isEmpty || !endsAnchor c.rest then none
    else some (({ s with cursor := c }.allowKey false).emit (token name))

/-- A tag handle: exclamation marks around a word, or one with a word after it. -/
def readHandle (cs : List Char) : Option (List Char × List Char) :=
  match cs with
  | '!' :: rest =>
    let word := rest.takeWhile isWordChar
    match rest.drop word.length with
    | '!' :: rest => some ('!' :: word ++ ['!'], rest)
    | rest => some ('!' :: word, rest)
  | _ => none

/-- The character may stand in a tag; commas and square brackets only between angle brackets. -/
def isTagChar (verbatim : Bool) (c : Char) : Bool :=
  isWordChar c ||
    [';', '/', '?', ':', '@', '&', '=', '+', '$', '.', '!', '~', '*', '\'', '(', ')'].contains c ||
    (verbatim && [',', '[', ']'].contains c)

/-- The number of bytes of the character that a first byte begins. -/
def sequenceLength? (byte : Nat) : Option Nat :=
  if byte < 0x80 then some 1
  else if 0xC0 ≤ byte && byte < 0xE0 then some 2
  else if 0xE0 ≤ byte && byte < 0xF0 then some 3
  else if 0xF0 ≤ byte && byte < 0xF8 then some 4
  else none

/-- One byte written as a percent sign and two digits. -/
def readByte : List Char → Option (Nat × List Char)
  | '%' :: a :: b :: rest => (Text.ofHex? [a, b]).map (·, rest)
  | _ => none

/-- The `n` further bytes of a character, `code` being the value so far. -/
def readTrailing : Nat → Nat → List Char → Option (Nat × List Char)
  | 0, code, cs => some (code, cs)
  | n + 1, code, cs =>
    match readByte cs with
    | none => none
    | some (byte, rest) =>
      if byte / 0x40 == 2 then readTrailing n (code * 0x40 + byte % 0x40) rest else none

/-- A character written as the bytes of its encoding. -/
def readUriEscape (cs : List Char) : Option (Char × List Char) :=
  match readByte cs with
  | none => none
  | some (byte, rest) =>
    match sequenceLength? byte with
    | none => none
    | some n =>
      let lead := if n == 1 then byte else byte % (0x80 >>> n)
      (readTrailing (n - 1) lead rest).map fun (code, rest) => (Char.ofNat code, rest)

/-- The characters of a tag. The first argument bounds the length of the text. -/
def readTagUri (verbatim : Bool) : Nat → List Char → Option (List Char × List Char)
  | 0, cs => some ([], cs)
  | _ + 1, [] => some ([], [])
  | n + 1, c :: cs =>
    if c == '%' then
      match readUriEscape (c :: cs) with
      | none => none
      | some (x, rest) => (readTagUri verbatim n rest).map fun (uri, rest) => (x :: uri, rest)
    else if isTagChar verbatim c then
      (readTagUri verbatim n cs).map fun (uri, rest) => (c :: uri, rest)
    else some ([], c :: cs)

/-- At least one character of a tag. -/
def someTagUri (verbatim : Bool) (cs : List Char) : Option (List Char × List Char) :=
  match readTagUri verbatim cs.length cs with
  | some (uri, rest) => if uri.isEmpty then none else some (uri, rest)
  | none => none

/-- A tag from its exclamation mark on: handle, suffix and what is left. -/
def readTag (cs : List Char) : Option (List Char × List Char × List Char) :=
  match cs with
  | '!' :: '<' :: rest =>
    match someTagUri true rest with
    | some (uri, '>' :: rest) => some ([], uri, rest)
    | _ => none
  | _ =>
    match readHandle cs with
    | none => none
    | some (handle, rest) =>
      if 1 < handle.length && handle.getLast? == some '!' then
        (someTagUri false rest).map fun (suffix, rest) => (handle, suffix, rest)
      else
        match readTagUri false rest.length rest with
        | none => none
        | some (uri, rest) =>
          let suffix := handle.drop 1 ++ uri
          if suffix.isEmpty then some ([], ['!'], rest) else some (['!'], suffix, rest)

/-- A tag in front of a node. -/
def fetchTag (s : Scanner) : Option Scanner :=
  match s.saveKey with
  | none => none
  | some s =>
    match readTag s.cursor.rest with
    | none => none
    | some (handle, suffix, rest) =>
      if endsWord rest || (s.inFlow && rest.head? == some ',') then
        some (({ s with cursor := s.cursor.jump rest }.allowKey false).emit (.tag handle suffix))
      else none

/-! ## Directives -/

/-- A number of a version, of at most nine digits. -/
def readVersionNumber (cs : List Char) : Option (Nat × List Char) :=
  let digits := cs.takeWhile Char.isDigit
  if digits.isEmpty || 9 < digits.length then none
  else some (Text.ofDigits digits, cs.drop digits.length)

/-- The version after its directive's name. -/
def readVersion (cs : List Char) : Option (Token × List Char) :=
  match readVersionNumber (cs.dropWhile isBlank) with
  | some (major, '.' :: rest) =>
    (readVersionNumber rest).map fun (minor, rest) => (.version major minor, rest)
  | _ => none

/-- The handle and meaning after a tag directive's name. -/
def readTagDirective (cs : List Char) : Option (Token × List Char) :=
  match readHandle (cs.dropWhile isBlank) with
  | none => none
  | some (handle, rest) =>
    if handle != ['!'] && handle.getLast? != some '!' then none
    else if !(rest.head?.map isBlank).getD false then none
    else
      match someTagUri true (rest.dropWhile isBlank) with
      | none => none
      | some (full, rest) => if endsWord rest then some (.tagDirective handle full, rest) else none

/-- A directive by its name. -/
def readDirective (cs : List Char) : Option (Token × List Char) :=
  let name := cs.takeWhile isWordChar
  let rest := cs.drop name.length
  if !endsWord rest then none
  else if name == ['Y', 'A', 'M', 'L'] then readVersion rest
  else if name == ['T', 'A', 'G'] then readTagDirective rest
  else none

/-- A directive up to the end of its line. -/
def fetchDirective (s : Scanner) : Option Scanner :=
  match (s.unroll (-1)).dropKey with
  | none => none
  | some s =>
    match readDirective (s.cursor.rest.drop 1) with
    | none => none
    | some (token, rest) =>
      let c := (s.cursor.jump rest).skipWhile isBlank
      let c := if c.peek? == some '#' then c.skipWhile (!isBreak ·) else c
      if endsLine c.rest then some (({ s with cursor := c.skipLine }.allowKey false).emit token)
      else none

/-! ## Scalars -/

/-- A block scalar. -/
def fetchBlockScalar (style : Style) (s : Scanner) : Option Scanner :=
  match s.dropKey with
  | none => none
  | some s =>
    (readBlock (style == .folded) s.indent s.cursor).map fun (text, c) =>
      ({ s with cursor := c }.allowKey true).emit (.scalar style text)

/-- A quoted scalar. -/
def fetchQuoted (quote : Char) (s : Scanner) : Option Scanner :=
  match s.saveKey with
  | none => none
  | some s =>
    (readQuoted quote s.cursor).map fun (text, c) =>
      ({ s with cursor := c }.allowKey false).emit (.scalar .quoted text)

/-- A plain scalar. On a new line a key may begin. -/
def fetchPlain (s : Scanner) : Option Scanner :=
  match s.saveKey with
  | none => none
  | some s =>
    (readPlain s.inFlow s.indent s.cursor).map fun r =>
      ({ s with cursor := r.rest }.allowKey r.endsLine).emit (.scalar .plain r.text)

/-- The characters that cannot begin a plain scalar, or only before certain others. -/
def indicators : List Char :=
  ['-', '?', ':', ',', '[', ']', '{', '}', '#', '&', '*', '!', '|', '>', '\'', '"', '%', '@', '\x60']

/-- A plain scalar may begin with `c` before `rest`. -/
def beginsPlain (inFlow : Bool) (c : Char) (rest : List Char) : Bool :=
  !(isBlank c || isBreak c || indicators.contains c) ||
    (c == '-' && !(rest.head?.map isBlank).getD false) ||
    (!inFlow && (c == '?' || c == ':') && !endsWord rest)

/-! ## The next token -/

/-- Reads the token that begins with `c` before `rest`. -/
def fetch (c : Char) (rest : List Char) (s : Scanner) : Option Scanner :=
  if c == '%' && s.cursor.column == 0 then s.fetchDirective
  else if s.cursor.atMarker '-' then s.fetchDocumentMarker .documentStart
  else if s.cursor.atMarker '.' then s.fetchDocumentMarker .documentEnd
  else if c == '[' then s.fetchFlowStart .flowSequenceStart
  else if c == '{' then s.fetchFlowStart .flowMappingStart
  else if c == ']' then s.fetchFlowEnd .flowSequenceEnd
  else if c == '}' then s.fetchFlowEnd .flowMappingEnd
  else if c == ',' then s.fetchFlowEntry
  else if c == '-' && endsWord rest then s.fetchBlockEntry
  else if c == '?' && (s.inFlow || endsWord rest) then s.fetchKey
  else if c == ':' && (s.inFlow || endsWord rest) then s.fetchValue
  else if c == '*' then s.fetchAnchor .alias
  else if c == '&' then s.fetchAnchor .anchor
  else if c == '!' then s.fetchTag
  else if c == '|' && !s.inFlow then s.fetchBlockScalar .literal
  else if c == '>' && !s.inFlow then s.fetchBlockScalar .folded
  else if c == '\'' || c == '"' then s.fetchQuoted c
  else if beginsPlain s.inFlow c rest then s.fetchPlain
  else none

/-- Closes what is open at the end of the text. -/
def finish (s : Scanner) : Option Scanner :=
  (s.unroll (-1)).dropKey

/-- Reads tokens to the end of the text. The first argument bounds its length. -/
def run : Nat → Scanner → Option Scanner
  | 0, _ => none
  | n + 1, s =>
    match (skipToToken (s.cursor.rest.length + 1) s).expireKeys with
    | none => none
    | some s =>
      let s := s.unroll s.cursor.column
      match s.cursor.rest with
      | [] => s.finish
      | c :: rest =>
        match s.fetch c rest with
        | none => none
        | some s => run n s

end Scanner

/-- The tokens of a text. -/
def Token.scan (text : List Char) : Option (List Token) :=
  if text.all isPermitted then
    (Scanner.run (text.length + 1) { cursor := { rest := text } }).map (·.tokens.reverse)
  else none

end ArchLint.Yaml
