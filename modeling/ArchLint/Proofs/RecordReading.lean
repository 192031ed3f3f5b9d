import ArchLint.Dump.Writer
import ArchLint.Json.Record
import ArchLint.Proofs.JsonPrinting
import Mathlib.Data.Nat.SuccPred

/-! # Written records are read back

* `Json.Restores` — a reader takes a document back to what it was written from, as far as the levels
  that may be opened allow.
* `Json.RestoresAll.listOf?`, `Json.optional_orNull` — lists and values that may be absent.
* `Json.fields?_obj`, `Json.variant?_tagged` — the fields and the kind of a written record.
* `Json.keep?_of_plain` — the check on records that are kept whole.
-/

namespace ArchLint.Json

attribute [simp] depth depthOfItems depthOfMembers Plain PlainItems PlainMembers

variable {α β : Type} {read : Nat → Json → Option α}

/-- The reader gives `a` for the document where there is room for it, and nothing elsewhere. -/
abbrev Restores (read : Nat → Json → Option α) (j : Json) (a : α) : Prop :=
  ∀ n, read n j = if j.depth ≤ n then some a else none

/-- The reader gives `as`, one for each of the items. -/
abbrev RestoresAll (read : Nat → Json → Option α) (items : List Json) (as : List α) : Prop :=
  ∀ n, items.mapM (read n) = if depthOfItems items ≤ n then some as else none

@[simp] theorem ite_bind (p : Prop) [Decidable p] (a : α) (f : α → Option β) :
    (if p then some a else none).bind f = if p then f a else none := by
  split <;> rfl

theorem Restores.map {j : Json} {a : α} (h : Restores read j a) (f : α → β) (n : Nat) :
    (read n j).map f = if j.depth ≤ n then some (f a) else none := by
  rw [h n]
  split <;> rfl

/-! ## Leaves -/

@[simp] theorem text?_str (s : String) : text? (.str s) = some s := rfl

@[simp] theorem flag?_bool (b : Bool) : flag? (.bool b) = some b := rfl

@[simp] theorem word?_word (n : UInt64) : word? (word n) = some n := by
  simp [word?, word, UInt64.toNat_lt_size]

@[simp] theorem depth_word (n : UInt64) : (word n).depth = 0 := rfl

@[simp] theorem plain_word (n : UInt64) : (word n).Plain :=
  UInt64.toNat_lt_size n

@[simp] theorem keyword?_str (held : Bool) (words : List (String × α)) (s : String) :
    keyword? held words (.str s) = words.lookup s := rfl

@[simp] theorem optional_text? (s : Option String) :
    optional text? (some (orNull .str s)) = some s := by
  cases s <;> rfl

@[simp] theorem depth_orNull_str (s : Option String) : (orNull .str s).depth = 0 := by
  cases s <;> rfl

@[simp] theorem plain_orNull_str (s : Option String) : (orNull .str s).Plain := by
  cases s <;> trivial

/-! ## Lists -/

theorem RestoresAll.nil : RestoresAll read [] [] := by
  intro n
  simp

theorem RestoresAll.cons {j : Json} {js : List Json} {a : α} {as : List α}
    (head : Restores read j a) (tail : RestoresAll read js as) :
    RestoresAll read (j :: js) (a :: as) := by
  intro n
  simp [head n, tail n, ite_and]

theorem RestoresAll.map {write : α → Json} (h : ∀ a, Restores read (write a) a) :
    ∀ as : List α, RestoresAll read (as.map write) as
  | [] => .nil
  | a :: as => .cons (h a) (RestoresAll.map h as)

theorem RestoresAll.listOf? {items : List Json} {as : List α} (h : RestoresAll read items as)
    (n : Nat) :
    listOf? read n (.arr items) = if depthOfItems items + 1 ≤ n then some as else none := by
  cases n with
  | zero => simp [Json.listOf?]
  | succ n => simp [Json.listOf?, h n]

theorem plainItems_map {write : α → Json} (h : ∀ a, (write a).Plain) (as : List α) :
    PlainItems (as.map write) := by
  induction as with
  | nil => trivial
  | cons a as ih => exact ⟨h a, ih⟩

@[simp] theorem listOf?_texts (l : List String) :
    Restores (listOf? fun _ => text?) (texts l) l := by
  have items : RestoresAll (fun _ => text?) (l.map .str) l := by
    apply RestoresAll.map
    intro s n
    simp
  intro n
  simp only [texts, depth, items.listOf? n]

@[simp] theorem plain_texts (l : List String) : (texts l).Plain := by
  show PlainItems (l.map .str)
  apply plainItems_map
  intro s
  trivial

/-! ## Fields -/

@[simp] theorem required_some (get : Json → Option α) (j : Json) :
    required get (some j) = get j := rfl

@[simp] theorem defaulted_some (fallback : α) (get : Json → Option α) (j : Json) :
    defaulted fallback get (some j) = get j := rfl

/-- A value that is present reads as itself unless it is written as null. -/
theorem optional_of_restores {j : Json} {a : α} (h : Restores read j a) (present : j ≠ .null)
    (n : Nat) : optional (read n) (some j) = if j.depth ≤ n then some (some a) else none := by
  have value : optional (read n) (some j) = (read n j).map some := by
    cases j with
    | null => exact absurd rfl present
    | bool _ | nat _ | decimal _ | str _ | arr _ | obj _ | void => rfl
  rw [value]
  exact h.map some n

theorem optional_orNull {write : α → Json} (h : ∀ a, Restores read (write a) a)
    (present : ∀ a, write a ≠ .null) (a : Option α) (n : Nat) :
    optional (read n) (some (orNull write a)) =
      if (orNull write a).depth ≤ n then some a else none := by
  cases a with
  | none => simp [orNull, optional]
  | some a => exact optional_of_restores (h a) (present a) n

theorem plain_orNull {write : α → Json} (h : ∀ a, (write a).Plain) (a : Option α) :
    (orNull write a).Plain := by
  cases a with
  | none => trivial
  | some a => exact h a

theorem once?_cons_self {name : String} {ms : List (String × Json)} (value : Json)
    (h : name ∉ ms.map (·.1)) : once? name ((name, value) :: ms) = some (some value) := by
  have absent : ms.filter (·.1 == name) = [] := by
    rw [List.filter_eq_nil_iff]
    intro m hm same
    exact h (List.mem_map.mpr ⟨m, hm, eq_of_beq same⟩)
  simp [once?, absent]

theorem once?_cons_of_ne {name key : String} {ms : List (String × Json)} (value : Json)
    (h : key ≠ name) : once? name ((key, value) :: ms) = once? name ms := by
  simp [once?, h]

theorem once?_of_mem {ms : List (String × Json)} {m : String × Json}
    (distinct : (ms.map (·.1)).Nodup) (h : m ∈ ms) : once? m.1 ms = some (some m.2) := by
  induction ms with
  | nil => cases h
  | cons head ms ih =>
      obtain ⟨apart, distinct⟩ := List.nodup_cons.mp distinct
      -- The member stands first and no other has its key, or the first one has another key.
      obtain rfl | h := List.mem_cons.mp h
      · exact once?_cons_self m.2 apart
      · have other : head.1 ≠ m.1 := by
          intro same
          exact apart (List.mem_map.mpr ⟨m, h, same.symm⟩)
        rw [once?_cons_of_ne head.2 other]
        exact ih distinct h

theorem mapM_eq_some_map {f : β → Option α} {g : β → α} : ∀ {l : List β},
    (∀ b ∈ l, f b = some (g b)) → l.mapM f = some (l.map g)
  | [], _ => rfl
  | b :: l, h => by
      simp [h b (.head l), mapM_eq_some_map fun c hc => h c (.tail b hc)]

/-- The fields of an object whose keys are the names in their order. -/
@[simp] theorem fields?_obj {names : List String} {ms : List (String × Json)}
    (keys : ms.map (·.1) = names) (distinct : names.Nodup) :
    fields? names (.obj ms) = some (ms.map (some ·.2)) := by
  subst keys
  rw [fields?, List.mapM_map]
  exact mapM_eq_some_map fun m => once?_of_mem distinct

/-! ## Kinds -/

@[simp] theorem depth_tagged (kind : String) (ms : List (String × Json)) :
    (tagged kind ms).depth = depthOfMembers ms + 1 := by
  simp [tagged]

@[simp] theorem plain_tagged (kind : String) (ms : List (String × Json)) :
    (tagged kind ms).Plain ↔ PlainMembers ms := by
  simp [tagged, Plain, PlainMembers]

@[simp] theorem tagged_ne_null (kind : String) (ms : List (String × Json)) :
    tagged kind ms ≠ .null := nofun

@[simp] theorem variant?_tagged {kinds : List String} {kind : String} {ms : List (String × Json)}
    (known : kind ∈ kinds) (apart : "kind" ∉ ms.map (·.1)) :
    (tagged kind ms).variant? kinds = some (kind, .obj ms) := by
  have others : ms.filter (·.1 != "kind") = ms := by
    rw [List.filter_eq_self]
    intro m hm
    simp only [bne_iff_ne]
    intro same
    exact apart (List.mem_map.mpr ⟨m, hm, same⟩)
  simp [tagged, variant?, once?_cons_self _ apart, others, kindOf?, known]

theorem hasNumberedKind_tagged {kind : String} {ms : List (String × Json)}
    (apart : "kind" ∉ ms.map (·.1)) : (tagged kind ms).hasNumberedKind = false := by
  simp only [tagged, hasNumberedKind, List.any_cons, isNat, Bool.and_false, Bool.false_or,
    List.any_eq_false, Bool.and_eq_true, beq_iff_eq, not_and]
  intro m hm same
  exact absurd (List.mem_map.mpr ⟨m, hm, same⟩) apart

theorem keep?_of_plain {j : Json} (plain : j.Plain) (spelled : j.hasNumberedKind = false)
    (n : Nat) : keep? false n j = if j.depth ≤ n then some j else none := by
  -- Of the three checks only the one on the levels can fail for a written record.
  simp [keep?, plain.denotes, spelled]

/-- A reader of records that are kept whole. -/
theorem Restores.kept {j : Json} {a : α} (h : Restores read j a) (plain : j.Plain)
    (spelled : j.hasNumberedKind = false) :
    Restores (fun n j => (keep? false n j).bind (read n)) j a := by
  intro n
  simp only [keep?_of_plain plain spelled, ite_bind, h n]
  split <;> rfl

end ArchLint.Json
