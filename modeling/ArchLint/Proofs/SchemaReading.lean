import ArchLint.Proofs.DumpSchema
import ArchLint.Proofs.ListReading

/-! # Readers that follow the schema

A reader follows the schema when it takes the documents that the schema takes, and what it reads of
one is written as the full form of that document.

* `Json.fields?_eq_some`, `Json.variant?_eq_some` — what a record is that has been read.
* `normalizeFields?_cases`, `TaggedSort.variant?_cases` — the fields of a record, one after the
  other, and the variants of a sort.
* `Agrees`, `Takes` — a reader and a writer follow the schema, for a shape and for a field.
-/

namespace ArchLint

open Json (keep? listOf? orNull text? flag? word? keyword?)

/-! ## Records as such -/

namespace Json

/-- The fields of a record come from an object, or from the items of an array. -/
theorem fields?_eq_some {names : List String} {j : Json} {values : List (Option Json)}
    (h : j.fields? names = some values) :
    (∃ members, j = .obj members ∧ names.mapM (once? · members) = some values) ∨
      ∃ items, j = .arr items ∧ items.length ≤ names.length ∧
        values = items.map some ++ List.replicate (names.length - items.length) none := by
  cases j with
  | obj members => exact .inl ⟨members, rfl, h⟩
  | arr items =>
    simp only [fields?, Option.ite_none_right_eq_some, Option.some_inj] at h
    exact .inr ⟨items, rfl, h.1, h.2.symm⟩
  | null | bool _ | nat _ | decimal _ | str _ | void => cases h

/-- A kind stands under its key in an object, or in front of the items of an array. -/
theorem variant?_eq_some {kinds : List String} {kind : String} {j record : Json}
    (h : j.variant? kinds = some (kind, record)) :
    (∃ members tag, j = .obj members ∧ once? "kind" members = some (some tag) ∧
      kindOf? kinds tag = some kind ∧ record = .obj (members.filter (·.1 != "kind"))) ∨
      ∃ tag items, j = .arr (tag :: items) ∧ kindOf? kinds tag = some kind ∧
        record = .arr items := by
  cases j with
  | obj members =>
    simp only [variant?] at h
    split at h
    next tag once =>
      obtain ⟨_, named, same⟩ := Option.map_eq_some_iff.1 h
      cases same
      exact .inl ⟨members, tag, rfl, once, named, rfl⟩
    next => cases h
  | arr items =>
    cases items with
    | nil => cases h
    | cons tag items =>
      obtain ⟨_, named, same⟩ := Option.map_eq_some_iff.1 h
      cases same
      exact .inr ⟨tag, items, rfl, named, rfl⟩
  | null | bool _ | nat _ | decimal _ | str _ | void => cases h

theorem mem_of_kindOf? {kinds : List String} {kind : String} {tag : Json}
    (h : kindOf? kinds tag = some kind) : kind ∈ kinds := by
  cases tag with
  | str s =>
    simp only [kindOf?, Option.ite_none_right_eq_some, Option.some_inj] at h
    obtain ⟨known, rfl⟩ := h
    exact List.contains_iff_mem.1 known
  | nat n => exact List.mem_of_getElem? h
  | null | bool _ | decimal _ | arr _ | obj _ | void => cases h

/-- A record has none of the kinds, or it has one and goes on as an object or as an array. -/
theorem variant?_cases (j : Json) (kinds : List String) :
    j.variant? kinds = none ∨
      ∃ kind ∈ kinds, ∃ record, j.variant? kinds = some (kind, record) ∧
        ((∃ members, record = .obj members) ∨ ∃ items, record = .arr items) := by
  cases read : j.variant? kinds with
  | none => exact .inl rfl
  | some named =>
    obtain ⟨kind, record⟩ := named
    right
    obtain ⟨_, _, -, -, known, rfl⟩ | ⟨_, _, -, known, rfl⟩ := variant?_eq_some read
    · exact ⟨kind, mem_of_kindOf? known, _, rfl, .inl ⟨_, rfl⟩⟩
    · exact ⟨kind, mem_of_kindOf? known, _, rfl, .inr ⟨_, rfl⟩⟩

end Json

/-! ## Records of the schema -/

namespace RecordField

@[simp] theorem name_optional (name : String) (shape : Shape) :
    (optional name shape).name = name := rfl

@[simp] theorem name_flag (name : String) : (flag name).name = name := rfl

@[simp] theorem name_word (name : String) : (word name).name = name := rfl

@[simp] theorem name_text (name : String) : (text name).name = name := rfl

@[simp] theorem name_keyword (name first : String) (words : List String) :
    (keyword name first words).name = name := rfl

@[simp] theorem name_list (name : String) (item : Shape) : (list name item).name = name := rfl

@[simp] theorem name_place (name : String) : (place name).name = name := rfl

@[simp] theorem name_body : body.name = "body" := rfl

end RecordField

theorem Json.length_of_fields? {names : List String} {j : Json} {values : List (Option Json)}
    (h : j.fields? names = some values) : values.length = names.length := by
  obtain ⟨members, -, each⟩ | ⟨items, -, room, rfl⟩ := fields?_eq_some h
  · exact length_of_mapM each
  · simp only [List.length_append, List.length_map, List.length_replicate]
    omega

/-- What is made of the fields, taken one after the other from the `i`-th value on. -/
def takeFields {α : Type} (norm : Shape → Json → Option Json) (get : Nat → Option Json) :
    List RecordField → Nat → (List (String × Json) → α) → Option α
  | [], _, make => some (make [])
  | f :: fields, i, make =>
    (f.normalize? norm (get i)).bind fun value =>
      takeFields norm get fields (i + 1) fun members => make ((f.name, value) :: members)

@[simp] theorem takeFields_nil {α : Type} (norm : Shape → Json → Option Json)
    (get : Nat → Option Json) (i : Nat) (make : List (String × Json) → α) :
    takeFields norm get [] i make = some (make []) := rfl

theorem takeFields_map {α β : Type} (norm : Shape → Json → Option Json) (get : Nat → Option Json)
    (fields : List RecordField) (i : Nat) (make : List (String × Json) → α) (g : α → β) :
    (takeFields norm get fields i make).map g = takeFields norm get fields i (g ∘ make) := by
  induction fields generalizing i make with
  | nil => rfl
  | cons f fields ih =>
    rw [takeFields, takeFields, Option.map_bind]
    congr 1
    funext value
    exact ih (i + 1) _

theorem mapM_eq_takeFields (norm : Shape → Json → Option Json) (get : Nat → Option Json)
    (fields : List RecordField) (i : Nat) :
    ((fields.zipIdx i).mapM fun (f, i) => (f.normalize? norm (get i)).map (f.name, ·)) =
      takeFields norm get fields i id := by
  induction fields generalizing i with
  | nil => rfl
  | cons f fields ih =>
    rw [List.zipIdx_cons, List.mapM_cons, ih, takeFields]
    cases taken : f.normalize? norm (get i) with
    | none => simp [taken]
    | some value =>
      have rest := takeFields_map norm get fields (i + 1) id ((f.name, value) :: ·)
      rw [Option.map_eq_bind] at rest
      simpa [taken, Function.comp_def] using rest

theorem normalizeFields?_eq (norm : Shape → Json → Option Json) (fields : List RecordField)
    (record : Json) :
    record.fields? (fields.map (·.name)) = none ∧ normalizeFields? norm fields record = none ∨
      ∃ get : Nat → Option Json,
        record.fields? (fields.map (·.name)) = some (fields.zipIdx.map fun (_, i) => get i) ∧
        normalizeFields? norm fields record = takeFields norm get fields 0 id := by
  rw [normalizeFields?]
  cases read : record.fields? (fields.map (·.name)) with
  | none => exact .inl ⟨rfl, rfl⟩
  | some values =>
    have length : values.length = fields.length := by
      rw [Json.length_of_fields? read, List.length_map]
    have inOrder : values = fields.zipIdx.map fun (_, i) => values[i]?.join := by
      apply List.ext_getElem (by simp [length])
      intro i hi _
      simp [hi]
    have pairs : fields.zip values = fields.zipIdx.map fun (f, i) => (f, values[i]?.join) := by
      apply List.ext_getElem (by simp [length])
      intro i hi _
      have hi : i < values.length := by simp at hi; omega
      simp [hi]
    refine .inr ⟨fun i => values[i]?.join, congrArg some inOrder, ?_⟩
    rw [Option.bind_some, pairs, List.mapM_map, ← mapM_eq_takeFields]
    rfl

/-- A record is refused, or each of its fields is taken by itself. -/
@[elab_as_elim]
theorem normalizeFields?_cases
    {motive : Option (List (Option Json)) → Option (List (String × Json)) → Prop}
    (norm : Shape → Json → Option Json) (fields : List RecordField) (record : Json)
    (refused : motive none none)
    (taken : ∀ get : Nat → Option Json,
      motive (some (fields.zipIdx.map fun (_, i) => get i)) (takeFields norm get fields 0 id)) :
    motive (record.fields? (fields.map (·.name))) (normalizeFields? norm fields record) := by
  obtain ⟨absent, none⟩ | ⟨get, present, full⟩ := normalizeFields?_eq norm fields record
  · rw [absent, none]
    exact refused
  · rw [present, full]
    exact taken get

theorem TaggedSort.fields_of_mem (sort : TaggedSort) :
    ∀ v ∈ sort.variants, sort.fields v.1 = v.2 := by
  cases sort <;> simp [variants, fields, List.lookup_cons]

/-- A record has none of the kinds of a sort, or it is one of the variants. -/
@[elab_as_elim]
theorem TaggedSort.variant?_cases {motive : Option (String × Json) → Option Json → Prop}
    (norm : Shape → Json → Option Json) (sort : TaggedSort) (j : Json)
    (unknown : motive none none)
    (known : ∀ v ∈ sort.variants, ∀ record,
      ((∃ members, record = .obj members) ∨ ∃ items, record = .arr items) →
      motive (some (v.1, record)) ((normalizeFields? norm v.2 record).map (Json.tagged v.1))) :
    motive (j.variant? sort.kinds) ((j.variant? sort.kinds).bind fun (kind, record) =>
      (normalizeFields? norm (sort.fields kind) record).map (Json.tagged kind)) := by
  obtain none | ⟨kind, mem, record, named, form⟩ := Json.variant?_cases j sort.kinds
  · rw [none]
    exact unknown
  · obtain ⟨v, listed, rfl⟩ := List.mem_map.1 mem
    have variant := known v listed record form
    rw [← sort.fields_of_mem v listed] at variant
    rw [named]
    exact variant

/-! ## Readers of values -/

/-- On `n` levels, what is read of a document is written as its full form, and nothing is read
where there is none. -/
abbrev Agrees {α : Type} (n : Nat) (shape : Shape) (read : Json → Option α) (write : α → Json) :
    Prop :=
  ∀ j, normalize? n shape j = (read j).map write

section Values

variable {α : Type} {n : Nat} {shape : Shape} {read : Json → Option α} {write : α → Json}

theorem mapM_map_some {f : Json → Option Json} (h : ∀ j, f j = (read j).map write)
    (items : List Json) : items.mapM f = (items.mapM read).map (·.map write) := by
  induction items with
  | nil => rfl
  | cons j items ih =>
    rw [List.mapM_cons, List.mapM_cons, h j, ih]
    cases read j with
    | none => rfl
    | some a =>
      cases items.mapM read with
      | none => rfl
      | some as => rfl

theorem Agrees.listOf? {reader : Nat → Json → Option α}
    (h : ∀ m, m + 1 = n → Agrees m shape (reader m) write) :
    Agrees n (.list shape) (listOf? reader n) fun as => .arr (as.map write) := by
  intro j
  cases n with
  | zero => cases j <;> rfl
  | succ n =>
    cases j with
    | arr items =>
      have each := mapM_map_some (h n rfl) items
      simp only [normalize?, Json.listOf?, each, Option.map_map]
      rfl
    | null | bool _ | nat _ | decimal _ | str _ | obj _ | void => rfl

theorem agrees_text : Agrees n .text text? .str := by
  intro j
  cases n <;> rfl

theorem agrees_flag : Agrees n .flag flag? .bool := by
  intro j
  cases n <;> rfl

theorem agrees_word : Agrees n .word word? Json.word := by
  intro j
  cases n <;> rfl

theorem lookup_words {α : Type} (words : List (String × α)) (token : α → String)
    (spelled : ∀ w ∈ words, token w.2 = w.1) (s : String) :
    ((words.map (·.1)).map fun w => (w, w)).lookup s = (words.lookup s).map token := by
  induction words with
  | nil => rfl
  | cons w words ih =>
    have rest := ih fun v hv => spelled v (.tail _ hv)
    have first := spelled w (.head _)
    rw [List.map_cons, List.map_cons, List.lookup_cons, List.lookup_cons]
    cases same : s == w.1 with
    | true => rw [Option.map_some, first, eq_of_beq same]
    | false => exact rest

/-- A word is taken by itself when its token is how it is spelled. -/
theorem agrees_keyword {α : Type} (n : Nat) (words : List (String × α)) (token : α → String)
    (spelled : ∀ w ∈ words, token w.2 = w.1) :
    Agrees n (.keyword (words.map (·.1))) (keyword? true words) fun a => .str (token a) := by
  intro j
  have found := lookup_words words token spelled
  have whole : normalize? n (.keyword (words.map (·.1))) j =
      (keyword? true ((words.map (·.1)).map fun w => (w, w)) j).map .str := by
    cases n <;> rfl
  rw [whole]
  unfold keyword?
  split
  next s => rw [found, Option.map_map]; rfl
  next key value =>
    split
    next => rw [found, Option.map_map]; rfl
    next => rfl
  next => rfl

end Values

/-! ## Readers of fields -/

/-- A field that comes next is read by `read`, and what was read of it is written by `write`. -/
abbrev Takes {α : Type} (n : Nat) (f : RecordField) (read : Option Json → Option α)
    (write : α → Json) : Prop :=
  ∀ (β : Type) (get : Nat → Option Json) (fields : List RecordField) (i : Nat)
    (make : List (String × Json) → β),
    takeFields (normalize? n) get (f :: fields) i make = (read (get i)).bind fun a =>
      takeFields (normalize? n) get fields (i + 1) fun members =>
        make ((f.name, write a) :: members)

section Fields

variable {α : Type} {n : Nat} {shape : Shape} {read : Json → Option α} {write : α → Json}

theorem takes_of_normalize? {f : RecordField} {read : Option Json → Option α}
    (h : ∀ value, f.normalize? (normalize? n) value = (read value).map write) :
    Takes n f read write := by
  intro β get fields i make
  rw [takeFields, h, Option.bind_map]
  rfl

/-- Reading a field and going on with what was read. -/
theorem Takes.bind {β γ : Type} {f : RecordField} {read : Option Json → Option α}
    (h : Takes n f read write) {get : Nat → Option Json} {fields : List RecordField} {i : Nat}
    {make : List (String × Json) → γ} {next : α → Option β} {g : β → γ}
    (rest : ∀ a, takeFields (normalize? n) get fields (i + 1)
      (fun members => make ((f.name, write a) :: members)) = (next a).map g) :
    takeFields (normalize? n) get (f :: fields) i make = ((read (get i)).bind next).map g := by
  rw [h, Option.map_bind]
  congr 1
  funext a
  exact rest a

theorem Agrees.required (h : Agrees n shape read write) (name : String) :
    Takes n ⟨name, shape, .required⟩ (Json.required read) write := by
  apply takes_of_normalize?
  intro value
  cases value with
  | none => rfl
  | some j => exact h j

theorem Agrees.defaulted (h : Agrees n shape read write) (name : String) (fallback : α) :
    Takes n ⟨name, shape, .defaulted (write fallback)⟩ (Json.defaulted fallback read) write := by
  apply takes_of_normalize?
  intro value
  cases value with
  | none => rfl
  | some j => exact h j

theorem Agrees.optional (h : Agrees n shape read write) (name : String) :
    Takes n (.optional name shape) (Json.optional read) (orNull write) := by
  -- Only null is not handed on to the reader.
  have present (j : Json) : ((normalize? n shape j).map some).map (·.getD .null) =
      ((read j).map some).map (orNull write) := by
    rw [h j]
    cases read j <;> rfl
  apply takes_of_normalize?
  intro value
  cases value with
  | none => rfl
  | some j =>
    cases j with
    | null => rfl
    | bool _ | nat _ | decimal _ | str _ | arr _ | obj _ | void => exact present _

theorem Agrees.items {reader : Nat → Json → Option α}
    (h : ∀ m, m + 1 = n → Agrees m shape (reader m) write) (name : String) :
    Takes n (.list name shape) (Json.defaulted [] (Json.listOf? reader n))
      fun as => .arr (as.map write) :=
  (Agrees.listOf? h).defaulted name []

theorem takes_requiredText (name : String) :
    Takes n ⟨name, .text, .required⟩ (Json.required text?) .str :=
  agrees_text.required name

theorem takes_optionalText (name : String) :
    Takes n (.optional name .text) (Json.optional text?) (orNull .str) :=
  agrees_text.optional name

theorem takes_flag (name : String) :
    Takes n (.flag name) (Json.defaulted false flag?) .bool :=
  agrees_flag.defaulted name false

theorem takes_word (name : String) :
    Takes n (.word name) (Json.defaulted 0 word?) Json.word :=
  agrees_word.defaulted name 0

theorem takes_text (name : String) :
    Takes n (.text name) (Json.defaulted "" text?) .str :=
  agrees_text.defaulted name ""

end Fields

/-! ## Readers of records with a kind -/

/-- The same for a reader of records of a sort that are kept whole. -/
abbrev AgreesKept {α : Type} (n : Nat) (sort : TaggedSort) (read : Json → Option α)
    (write : α → Json) : Prop :=
  ∀ j, ((j.variant? sort.kinds).bind fun (kind, record) =>
    (normalizeFields? (normalize? n) (sort.fields kind) record).map (Json.tagged kind)) =
      (read j).map write

theorem AgreesKept.kept {α : Type} {n : Nat} {sort : TaggedSort} {read : Json → Option α}
    {write : α → Json} (h : AgreesKept n sort read write) (held : Bool) :
    Agrees (n + 1) (.tagged held sort) (fun j => (keep? held (n + 1) j).bind read) write := by
  intro j
  simp only [normalize?]
  cases keep? held (n + 1) j with
  | none => rfl
  | some j => exact h j

end ArchLint
