import ArchLint.Yaml.Event

/-! # YAML documents as trees

A node is a scalar, a sequence, a mapping, or an alias that stands for a node elsewhere in its document.

Anchors are numbered: an anchor takes the number of different names that were anchored before it, and an
alias takes the number that its name has where the alias stands. The node of a number is the last one
that took it. As long as no name is anchored twice, this is the node of that name. An alias may stand
within the very node that it means; nothing goes around in circles, because an alias is followed only
where the node is needed.

* `Node`, `Document` — the trees.
* `Document.ofEvents?` — the document that events describe, unless an alias has no anchor before it.
* `Document.read?` — the document of a text.
* `Document.target` — what a node is when it is no alias.
-/

namespace ArchLint.Yaml

/-- A node. The mark is the number of its anchor. -/
inductive Node where
  | alias (number : Nat)
  | scalar (mark : Option Nat) (tag : Option (List Char)) (style : Style) (text : List Char)
  | sequence (mark : Option Nat) (items : List Node)
  | mapping (mark : Option Nat) (entries : List (Node × Node))
deriving Repr

namespace Node

/-- What stands for nothing at all. -/
def absent : Node :=
  .scalar none none .plain []

/-- The number of the anchor of a node. -/
def mark? : Node → Option Nat
  | .alias _ => none
  | .scalar mark _ _ _ => mark
  | .sequence mark _ => mark
  | .mapping mark _ => mark

/-- A node under the number of its anchor. -/
def entry (n : Node) : List (Nat × Node) :=
  (n.mark?.map fun number => (number, n)).toList

mutual

/-- The anchored nodes of a tree with their numbers, each before those inside it. -/
def anchored : Node → List (Nat × Node)
  | .alias _ => []
  | .scalar mark tag style text => (scalar mark tag style text).entry
  | .sequence mark items => (sequence mark items).entry ++ anchoredItems items
  | .mapping mark entries => (mapping mark entries).entry ++ anchoredEntries entries

/-- The anchored nodes among the items of a sequence. -/
def anchoredItems : List Node → List (Nat × Node)
  | [] => []
  | n :: rest => n.anchored ++ anchoredItems rest

/-- The anchored nodes among the keys and values of a mapping. -/
def anchoredEntries : List (Node × Node) → List (Nat × Node)
  | [] => []
  | (key, value) :: rest => key.anchored ++ value.anchored ++ anchoredEntries rest

end

end Node

/-- A document: its root, and the nodes that aliases may mean, the one that counts in front. -/
structure Document where
  root : Node
  anchors : List (Nat × Node) := []
deriving Repr

namespace Document

/-- The document with a given root. -/
def ofRoot (root : Node) : Document :=
  ⟨root, root.anchored.reverse⟩

/-- What a node is: the node meant, if it is an alias. -/
def target (d : Document) : Node → Node
  | .alias number => (d.anchors.lookup number).getD .absent
  | n => n

end Document

/-! ## From events to trees -/

/-- A collection that is not finished: its nodes so far, last one first. In a mapping keys and values
take turns. -/
inductive Frame where
  | sequence (mark : Option Nat) (items : List Node)
  | mapping (mark : Option Nat) (parts : List Node)
deriving Repr

namespace Frame

/-- Keys with their values. -/
def pairs : List Node → List (Node × Node)
  | key :: value :: rest => (key, value) :: pairs rest
  | _ => []

/-- The collection with one more node. -/
def push (n : Node) : Frame → Frame
  | .sequence mark items => .sequence mark (n :: items)
  | .mapping mark parts => .mapping mark (n :: parts)

/-- The finished collection. -/
def node : Frame → Node
  | .sequence mark items => .sequence mark items.reverse
  | .mapping mark parts => .mapping mark (pairs parts.reverse)

end Frame

/-- A document in the making: the numbers of the names, the collections that are not finished, innermost
first, and the root once it is. -/
structure Draft where
  names : List (List Char × Nat) := []
  frames : List Frame := []
  root : Node := .absent
deriving Repr

namespace Draft

/-- Adds a finished node. -/
def add (n : Node) (d : Draft) : Draft :=
  match d.frames with
  | [] => { d with root := n }
  | f :: outer => { d with frames := f.push n :: outer }

/-- Finishes the innermost collection. -/
def close (d : Draft) : Draft :=
  match d.frames with
  | [] => d
  | f :: outer => { d with frames := outer }.add f.node

/-- The number for an anchor, and the draft that knows its name. -/
def number (d : Draft) : Option (List Char) → Option Nat × Draft
  | none => (none, d)
  | some name =>
    let n := d.names.length
    (some n, { d with names := (name, n) :: d.names.filter (·.1 != name) })

/-- The draft after one more event, unless that is an alias without an anchor. -/
def step (d : Draft) : Event → Option Draft
  | .alias name => (d.names.lookup name).map fun n => d.add (.alias n)
  | .scalar properties style text =>
    let (mark, d) := d.number properties.anchor
    some (d.add (.scalar mark properties.tag style text))
  | .sequenceStart properties =>
    let (mark, d) := d.number properties.anchor
    some { d with frames := .sequence mark [] :: d.frames }
  | .mappingStart properties =>
    let (mark, d) := d.number properties.anchor
    some { d with frames := .mapping mark [] :: d.frames }
  | .sequenceEnd => some d.close
  | .mappingEnd => some d.close

end Draft

namespace Document

/-- The document that events describe. Without any, there is nothing in it. -/
def ofEvents? (events : List Event) : Option Document :=
  (events.foldlM Draft.step {}).map fun d => ofRoot d.root

/-- The document that a text holds. -/
def read? (text : String) : Option Document :=
  ((Token.scan text.toList).bind Event.ofTokens?).bind ofEvents?

end Document

end ArchLint.Yaml
