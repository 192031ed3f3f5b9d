import ArchLint.Yaml.Token

/-! # The structure of a YAML document

Tokens are grouped into nodes; the outcome is a flat sequence in which collections have a start and an
end.

* `Event` — the beginning or end of a node, or a whole one.
* `Event.ofTokens?` — the events of the one document of a text, none if the text holds no document.
-/

namespace ArchLint.Yaml

/-- What precedes a node: a name by which aliases refer to it, and its tag. -/
structure Properties where
  anchor : Option (List Char) := none
  tag : Option (List Char) := none
deriving DecidableEq, Repr

/-- A piece of the structure of a document. -/
inductive Event where
  | alias (name : List Char)
  | scalar (properties : Properties) (style : Style) (text : List Char)
  | sequenceStart (properties : Properties)
  | sequenceEnd
  | mappingStart (properties : Properties)
  | mappingEnd
deriving DecidableEq, Repr

namespace Event

/-- A node that is left out. -/
def absent : Event :=
  .scalar {} .plain []

/-- Events and the tokens after them. -/
abbrev Reading := Option (List Event × List Token)

/-- Puts events in front of others. -/
def Reading.after (events : List Event) (r : Reading) : Reading :=
  r.map fun (es, rest) => (events ++ es, rest)

/-! ## Properties -/

/-- The anchor in front of the tokens. -/
def readAnchor : List Token → Option (List Char) × List Token
  | .anchor name :: rest => (some name, rest)
  | tokens => (none, tokens)

/-- The tag in front of the tokens, as handle and suffix. -/
def readTag : List Token → Option (List Char × List Char) × List Token
  | .tag handle suffix :: rest => (some (handle, suffix), rest)
  | tokens => (none, tokens)

/-- The meaning of a tag. A handle must have been declared. -/
def resolveTag (handles : List (List Char × List Char)) : List Char × List Char → Option (List Char)
  | ([], suffix) => some suffix
  | (handle, suffix) => (handles.lookup handle).map (· ++ suffix)

/-- The properties in front of a node, in either order. -/
def readProperties (handles : List (List Char × List Char)) (tokens : List Token) :
    Option (Properties × List Token) :=
  let (anchor, tokens) := readAnchor tokens
  let (tag, tokens) := readTag tokens
  let (anchor, tokens) := if anchor.isNone then readAnchor tokens else (anchor, tokens)
  match tag with
  | none => some (⟨anchor, none⟩, tokens)
  | some tag => (resolveTag handles tag).map fun tag => (⟨anchor, some tag⟩, tokens)

/-! ## Nodes -/

mutual

/-- A node. Block collections count where `block` says so, and items at the indentation of their key
where `indentless` does. The second argument exceeds twice the number of tokens. -/
def node (handles : List (List Char × List Char)) : Nat → (block indentless : Bool) → List Token →
    Reading
  | 0, _, _, _ => none
  | _ + 1, _, _, .alias name :: rest => some ([.alias name], rest)
  | n + 1, block, indentless, tokens =>
    match readProperties handles tokens with
    | none => none
    | some (properties, tokens) =>
      match tokens with
      | .scalar style text :: rest =>
        let tag := if properties.tag == some ['!'] then none else properties.tag
        some ([.scalar { properties with tag := tag } style text], rest)
      | .flowSequenceStart :: rest =>
        (flowSequence handles n true rest).after [.sequenceStart properties]
      | .flowMappingStart :: rest =>
        (flowMapping handles n true rest).after [.mappingStart properties]
      | .blockEntry :: rest =>
        if indentless then
          (indentlessSequence handles n (.blockEntry :: rest)).after [.sequenceStart properties]
        else if properties == {} then none
        else some ([.scalar properties .plain []], .blockEntry :: rest)
      | .blockSequenceStart :: rest =>
        if block then (blockSequence handles n rest).after [.sequenceStart properties]
        else if properties == {} then none
        else some ([.scalar properties .plain []], .blockSequenceStart :: rest)
      | .blockMappingStart :: rest =>
        if block then (blockMapping handles n rest).after [.mappingStart properties]
        else if properties == {} then none
        else some ([.scalar properties .plain []], .blockMappingStart :: rest)
      | rest => if properties == {} then none else some ([.scalar properties .plain []], rest)

/-- The items of a block sequence up to its end. -/
def blockSequence (handles : List (List Char × List Char)) : Nat → List Token → Reading
  | 0, _ => none
  | n + 1, .blockEntry :: rest =>
    match rest with
    | .blockEntry :: _ => (blockSequence handles n rest).after [absent]
    | .blockEnd :: _ => (blockSequence handles n rest).after [absent]
    | _ =>
      match node handles n true false rest with
      | none => none
      | some (item, rest) => (blockSequence handles n rest).after item
  | _ + 1, .blockEnd :: rest => some ([.sequenceEnd], rest)
  | _ + 1, _ => none

/-- The items of a sequence at the indentation of its key. Nothing marks its end. -/
def indentlessSequence (handles : List (List Char × List Char)) : Nat → List Token → Reading
  | 0, _ => none
  | n + 1, .blockEntry :: rest =>
    match rest with
    | .blockEntry :: _ => (indentlessSequence handles n rest).after [absent]
    | .key :: _ => (indentlessSequence handles n rest).after [absent]
    | .value :: _ => (indentlessSequence handles n rest).after [absent]
    | .blockEnd :: _ => (indentlessSequence handles n rest).after [absent]
    | _ =>
      match node handles n true false rest with
      | none => none
      | some (item, rest) => (indentlessSequence handles n rest).after item
  | _ + 1, tokens => some ([.sequenceEnd], tokens)

/-- A key or value of a block mapping, which may be left out. -/
def blockPart (handles : List (List Char × List Char)) : Nat → List Token → Reading
  | 0, _ => none
  | _ + 1, .key :: rest => some ([absent], .key :: rest)
  | _ + 1, .value :: rest => some ([absent], .value :: rest)
  | _ + 1, .blockEnd :: rest => some ([absent], .blockEnd :: rest)
  | n + 1, tokens => node handles n true true tokens

/-- The entries of a block mapping up to its end. -/
def blockMapping (handles : List (List Char × List Char)) : Nat → List Token → Reading
  | 0, _ => none
  | n + 1, .key :: rest =>
    match blockPart handles n rest with
    | none => none
    | some (key, .value :: rest) =>
      match blockPart handles n rest with
      | none => none
      | some (value, rest) => (blockMapping handles n rest).after (key ++ value)
    | some (key, rest) => (blockMapping handles n rest).after (key ++ [absent])
  | _ + 1, .blockEnd :: rest => some ([.mappingEnd], rest)
  | _ + 1, _ => none

/-- The items of a bracketed sequence up to its closing bracket. `first` tells that no comma is due. -/
def flowSequence (handles : List (List Char × List Char)) : Nat → (first : Bool) → List Token →
    Reading
  | 0, _, _ => none
  | _ + 1, _, .flowSequenceEnd :: rest => some ([.sequenceEnd], rest)
  | n + 1, false, .flowEntry :: rest =>
    match rest with
    | .flowSequenceEnd :: rest => some ([.sequenceEnd], rest)
    | _ => flowItem handles n rest
  | _ + 1, false, _ => none
  | n + 1, true, tokens => flowItem handles n tokens

/-- One item of a bracketed sequence, and those after it. A key makes the item a mapping of one
entry. -/
def flowItem (handles : List (List Char × List Char)) : Nat → List Token → Reading
  | 0, _ => none
  | n + 1, .key :: rest =>
    match flowKeyAlone handles n rest with
    | none => none
    | some (key, rest) =>
      match flowValue handles n rest with
      | none => none
      | some (value, rest) =>
        (flowSequence handles n false rest).after
          (.mappingStart {} :: key ++ value ++ [.mappingEnd])
  | n + 1, tokens =>
    match node handles n false false tokens with
    | none => none
    | some (item, rest) => (flowSequence handles n false rest).after item

/-- The key of a mapping of one entry. Where it is left out, the token after it is passed over. -/
def flowKeyAlone (handles : List (List Char × List Char)) : Nat → List Token → Reading
  | 0, _ => none
  | _ + 1, .value :: rest => some ([absent], rest)
  | _ + 1, .flowEntry :: rest => some ([absent], rest)
  | _ + 1, .flowSequenceEnd :: rest => some ([absent], rest)
  | n + 1, tokens => node handles n false false tokens

/-- The value after a key between brackets, which may be left out. -/
def flowValue (handles : List (List Char × List Char)) : Nat → List Token → Reading
  | 0, _ => none
  | n + 1, .value :: rest =>
    match rest with
    | .flowEntry :: _ => some ([absent], rest)
    | .flowSequenceEnd :: _ => some ([absent], rest)
    | .flowMappingEnd :: _ => some ([absent], rest)
    | _ => node handles n false false rest
  | _ + 1, tokens => some ([absent], tokens)

/-- The entries of a bracketed mapping up to its closing bracket. `first` tells that no comma is due. -/
def flowMapping (handles : List (List Char × List Char)) : Nat → (first : Bool) → List Token →
    Reading
  | 0, _, _ => none
  | _ + 1, _, .flowMappingEnd :: rest => some ([.mappingEnd], rest)
  | n + 1, false, .flowEntry :: rest =>
    match rest with
    | .flowMappingEnd :: rest => some ([.mappingEnd], rest)
    | _ => flowPair handles n rest
  | _ + 1, false, _ => none
  | n + 1, true, tokens => flowPair handles n tokens

/-- One entry of a bracketed mapping, and those after it. -/
def flowPair (handles : List (List Char × List Char)) : Nat → List Token → Reading
  | 0, _ => none
  | n + 1, .key :: rest =>
    match flowKey handles n rest with
    | none => none
    | some (key, rest) =>
      match flowValue handles n rest with
      | none => none
      | some (value, rest) => (flowMapping handles n false rest).after (key ++ value)
  | n + 1, tokens =>
    match node handles n false false tokens with
    | none => none
    | some (key, rest) => (flowMapping handles n false rest).after (key ++ [absent])

/-- The key of an entry of a bracketed mapping, which may be left out. -/
def flowKey (handles : List (List Char × List Char)) : Nat → List Token → Reading
  | 0, _ => none
  | _ + 1, .value :: rest => some ([absent], .value :: rest)
  | _ + 1, .flowEntry :: rest => some ([absent], .flowEntry :: rest)
  | _ + 1, .flowMappingEnd :: rest => some ([absent], .flowMappingEnd :: rest)
  | n + 1, tokens => node handles n false false tokens

end

/-! ## Documents -/

/-- The meanings of handles that need no declaration. -/
def standardHandles : List (List Char × List Char) :=
  [(['!'], ['!']), (['!', '!'], "tag:yaml.org,2002:".toList)]

/-- The directives in front of a document: the handles that they declare, and the tokens after them.
Versions other than 1.1 and 1.2 and repeated directives are refused. -/
def readDirectives (versioned : Bool) (handles : List (List Char × List Char)) : List Token →
    Option (List (List Char × List Char) × List Token)
  | .version major minor :: rest =>
    if versioned || major != 1 || !(minor == 1 || minor == 2) then none
    else readDirectives true handles rest
  | .tagDirective handle full :: rest =>
    if (handles.lookup handle).isSome then none
    else readDirectives versioned (handles ++ [(handle, full)]) rest
  | tokens => some (handles, tokens)

/-- The tokens leave room for the content of a document. -/
def lacksContent : List Token → Bool
  | [] => true
  | .version _ _ :: _ => true
  | .tagDirective _ _ :: _ => true
  | .documentStart :: _ => true
  | .documentEnd :: _ => true
  | _ => false

/-- Nothing is left but marks for the end of a document. -/
def onlyEndMarkers (tokens : List Token) : Bool :=
  tokens.all (· == .documentEnd)

/-- The document begins without directives and without a mark. -/
def beginsBare : List Token → Bool
  | .version _ _ :: _ => false
  | .tagDirective _ _ :: _ => false
  | .documentStart :: _ => false
  | _ => true

/-- A whole text of one document. -/
def closed (r : Reading) : Option (List Event) :=
  match r with
  | some (events, rest) => if onlyEndMarkers rest then some events else none
  | none => none

/-- The events of the one document of a text. -/
def ofTokens? (tokens : List Token) : Option (List Event) :=
  let fuel := 4 * tokens.length + 4
  if tokens.isEmpty then some []
  else if beginsBare tokens then closed (node standardHandles fuel true false tokens)
  else
    match readDirectives false [] tokens with
    | some (declared, .documentStart :: rest) =>
      if lacksContent rest then closed (some ([absent], rest))
      else closed (node (declared ++ standardHandles) fuel true false rest)
    | _ => none

end Event

end ArchLint.Yaml
