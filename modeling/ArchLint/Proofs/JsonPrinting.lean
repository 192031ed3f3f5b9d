import ArchLint.Proofs.JsonGrammar

/-! # Printed documents are read back

* `Json.Plain` — the documents that a tree or a report is written as.
* `Json.Plain.read_compact`, `Json.Plain.read_pretty` — the reader gives back what either printer wrote.
* `Json.Plain.denotes` — every part of such a document has a value.
-/

namespace ArchLint.Json

mutual

/-- The document has no number beyond 64 bits or with a fraction, and a value in all its parts. -/
def Plain : Json → Prop
  | .arr items => PlainItems items
  | .obj members => PlainMembers members
  | .nat n => n < UInt64.size
  | .decimal _ => False
  | .void => False
  | .null => True
  | .bool _ => True
  | .str _ => True

def PlainItems : List Json → Prop
  | [] => True
  | j :: js => j.Plain ∧ PlainItems js

def PlainMembers : List (String × Json) → Prop
  | [] => True
  | (_, j) :: ms => j.Plain ∧ PlainMembers ms

end

mutual

theorem Plain.compact : ∀ {j : Json}, j.Plain → Spells j.compact.toList j
  | .null, _ => by simpa [Json.compact] using Spells.null
  | .bool true, _ => by simpa [Json.compact] using Spells.yes
  | .bool false, _ => by simpa [Json.compact] using Spells.no
  | .nat n, h => by simpa [Json.compact, Text.decimal] using Spells.nat h
  | .str text, _ => by simpa [Json.compact] using Spells.str text
  | .arr [], _ => by simpa [Json.compact, compactItems] using Spells.emptyArr
  | .obj [], _ => by simpa [Json.compact, compactMembers] using Spells.emptyObj
  | .arr (j :: js), h => by
      have items := PlainItems.compact (List.cons_ne_nil j js) h
      simpa [Json.compact] using Spells.arr items
  | .obj (m :: ms), h => by
      have members := PlainMembers.compact (List.cons_ne_nil m ms) h
      simpa [Json.compact] using Spells.obj members

theorem PlainItems.compact : ∀ {items : List Json}, items ≠ [] → PlainItems items →
    ItemsSpell ((compactItems items).toList ++ [']']) items
  | [], nonempty, _ => absurd rfl nonempty
  | [j], _, h => by
      simpa [compactItems] using ItemsSpell.last .nil h.1.compact .nil
  | j :: k :: js, _, h => by
      have rest := PlainItems.compact (List.cons_ne_nil k js) h.2
      simpa [compactItems] using ItemsSpell.more .nil h.1.compact rest

theorem PlainMembers.compact : ∀ {members : List (String × Json)}, members ≠ [] →
    PlainMembers members → MembersSpell ((compactMembers members).toList ++ ['}']) members
  | [], nonempty, _ => absurd rfl nonempty
  | [(key, j)], _, h => by
      simpa [compactMembers] using MembersSpell.last key .nil .nil h.1.compact .nil
  | (key, j) :: m :: ms, _, h => by
      have rest := PlainMembers.compact (List.cons_ne_nil m ms) h.2
      simpa [compactMembers] using MembersSpell.more key .nil .nil h.1.compact rest

end

theorem blank_indent (level : Nat) : Blank (indent level).toList := by
  intro c h
  simp only [indent, String.toList_ofList, List.mem_cons, List.mem_replicate] at h
  obtain rfl | ⟨_, rfl⟩ := h <;> rfl

mutual

theorem Plain.prettyAt : ∀ {j : Json} (level : Nat), j.Plain → Spells (prettyAt level j).toList j
  | .null, _, _ => by simpa [Json.prettyAt] using Spells.null
  | .bool true, _, _ => by simpa [Json.prettyAt] using Spells.yes
  | .bool false, _, _ => by simpa [Json.prettyAt] using Spells.no
  | .nat n, _, h => by simpa [Json.prettyAt, Text.decimal] using Spells.nat h
  | .str text, _, _ => by simpa [Json.prettyAt] using Spells.str text
  | .arr [], _, _ => by simpa [Json.prettyAt] using Spells.emptyArr
  | .obj [], _, _ => by simpa [Json.prettyAt] using Spells.emptyObj
  | .arr (j :: js), level, h => by
      -- The line break before the bracket is white space after the last item.
      have items :=
        PlainItems.prettyItems (level + 1) (List.cons_ne_nil j js) h (blank_indent level)
      simpa [Json.prettyAt] using Spells.arr items
  | .obj (m :: ms), level, h => by
      have members :=
        PlainMembers.prettyMembers (level + 1) (List.cons_ne_nil m ms) h (blank_indent level)
      simpa [Json.prettyAt] using Spells.obj members

theorem PlainItems.prettyItems : ∀ {items : List Json} (level : Nat) {w : List Char},
    items ≠ [] → PlainItems items → Blank w →
    ItemsSpell ((prettyItems level items).toList ++ (w ++ [']'])) items
  | [], _, _, nonempty, _, _ => absurd rfl nonempty
  | [j], level, w, _, h, after => by
      simpa [Json.prettyItems] using ItemsSpell.last (blank_indent level) (h.1.prettyAt level) after
  | j :: k :: js, level, w, _, h, after => by
      -- The comma ends an item, and the next line begins the one after it.
      have rest := PlainItems.prettyItems level (List.cons_ne_nil k js) h.2 after
      simpa [Json.prettyItems] using ItemsSpell.more (blank_indent level) (h.1.prettyAt level) rest

theorem PlainMembers.prettyMembers : ∀ {members : List (String × Json)} (level : Nat)
    {w : List Char}, members ≠ [] → PlainMembers members → Blank w →
    MembersSpell ((prettyMembers level members).toList ++ (w ++ ['}'])) members
  | [], _, _, nonempty, _, _ => absurd rfl nonempty
  | [(key, j)], level, w, _, h, after => by
      have space : Blank [' '] := by simp [Blank, isSpace]
      simpa [Json.prettyMembers] using
        MembersSpell.last key (blank_indent level) space (h.1.prettyAt level) after
  | (key, j) :: m :: ms, level, w, _, h, after => by
      have space : Blank [' '] := by simp [Blank, isSpace]
      have rest := PlainMembers.prettyMembers level (List.cons_ne_nil m ms) h.2 after
      simpa [Json.prettyMembers] using
        MembersSpell.more key (blank_indent level) space (h.1.prettyAt level) rest

end

mutual

theorem Plain.denotes : ∀ {j : Json}, j.Plain → j.denotes = true
  | .null, _ | .bool _, _ | .nat _, _ | .str _, _ => rfl
  | .arr _, h => PlainItems.denote h
  | .obj _, h => PlainMembers.denote h

theorem PlainItems.denote : ∀ {items : List Json}, PlainItems items → itemsDenote items = true
  | [], _ => rfl
  | _ :: _, h => by
      rw [itemsDenote, h.1.denotes, PlainItems.denote h.2]
      rfl

theorem PlainMembers.denote : ∀ {members : List (String × Json)}, PlainMembers members →
    membersDenote members = true
  | [], _ => rfl
  | (_, _) :: _, h => by
      rw [membersDenote, h.1.denotes, PlainMembers.denote h.2]
      rfl

end

theorem Plain.read_compact {j : Json} (h : j.Plain) : read j.compact = some j :=
  read_of_spells h.compact

theorem Plain.read_pretty {j : Json} (h : j.Plain) : read j.pretty = some j :=
  read_of_spells (h.prettyAt 0)

end ArchLint.Json
