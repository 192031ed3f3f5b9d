import ArchLint.Proofs.DumpDepth
import Mathlib.Data.List.Nodup
import Mathlib.Logic.Relation

/-! # Edited dumps

A dump may have its keys in any order, leave out what has a default and hold unknown keys.

* `Edit` — one such change at one place of a document.
* `Edit.normalize?_eq` — an edit leaves the full form as it is.
* `SourceUnit.ofJson?_of_edits` — whatever has been edited in the document of a tree, it still gives
  the tree.
-/

namespace ArchLint

open Json (once? Restores)

/-- The fields of a record with such members. -/
def Shape.fieldsIn? : Shape → List (String × Json) → Option (List RecordField)
  | .plain sort, _ => some sort.fields
  | .tagged _ sort, members =>
    match members.lookup "kind" with
    | some (.str kind) => some (sort.fields kind)
    | _ => none
  | _, _ => none

/-- One change of a document of the shape that readers should not mind. -/
inductive Edit : Shape → Json → Json → Prop where
  /-- The members of a record change places, the one with its kind among them. -/
  | permute {shape : Shape} {fields : List RecordField} {members members' : List (String × Json)} :
      shape.fieldsIn? members = some fields → members.Perm members' →
      Edit shape (.obj members) (.obj members')
  /-- A field is left out that has the value which stands for an absent one. -/
  | leaveOut {shape : Shape} {fields : List RecordField} {f : RecordField} {v : Json}
      (before after : List (String × Json)) :
      shape.fieldsIn? (before ++ (f.name, v) :: after) = some fields → f ∈ fields →
      f.fallback? = some v →
      Edit shape (.obj (before ++ (f.name, v) :: after)) (.obj (before ++ after))
  /-- A record gets a key that it does not know, with any value. -/
  | add {shape : Shape} {fields : List RecordField} {members : List (String × Json)} {key : String}
      {v : Json} :
      shape.fieldsIn? members = some fields → key ∉ fields.map (·.name) → key ≠ "kind" →
      v.denotes → Edit shape (.obj members) (.obj ((key, v) :: members))
  /-- The change is made within a field. -/
  | field {shape : Shape} {fields : List RecordField} {f : RecordField} {v v' : Json}
      (before after : List (String × Json)) :
      shape.fieldsIn? (before ++ (f.name, v) :: after) = some fields → f ∈ fields →
      Edit f.shape v v' →
      Edit shape (.obj (before ++ (f.name, v) :: after)) (.obj (before ++ (f.name, v') :: after))
  /-- The change is made within an item of a list. -/
  | item {shape : Shape} {j j' : Json} (before after : List Json) :
      Edit shape j j' →
      Edit (.list shape) (.arr (before ++ j :: after)) (.arr (before ++ j' :: after))

/-! ## Keys -/

namespace Json

section Once

variable {name key : String} {o : Option Json} {v : Json}
  {before after members members' : List (String × Json)}

theorem once?_eq_some_iff :
    once? name members = some o ↔ members.filter (·.1 == name) = o.toList.map (name, ·) := by
  unfold once?
  split
  next absent =>
    rw [absent]
    cases o <;> simp
  next key v single =>
    have same : key = name := by
      have member : (key, v) ∈ members.filter (·.1 == name) := by rw [single]; exact .head _
      exact eq_of_beq (List.mem_filter.1 member).2
    rw [single, same]
    cases o <;> simp
  next several single =>
    cases o with
    | none => simpa using several
    | some w => simpa using single name w

theorem once?_of_perm (h : members.Perm members') (once : once? name members = some o) :
    once? name members' = some o := by
  rw [once?_eq_some_iff] at once ⊢
  have filtered := h.filter (·.1 == name)
  rw [once] at filtered
  cases o with
  | none => exact List.nil_perm.1 filtered
  | some w => exact (List.singleton_perm.1 filtered).symm

theorem once?_append_cons_of_ne (v : Json) (h : key ≠ name) :
    once? name (before ++ (key, v) :: after) = once? name (before ++ after) := by
  simp [once?, h]

/-- A key that is found once is found nowhere else. -/
theorem once?_append_cons_self (h : once? name (before ++ (name, v) :: after) = some o) :
    o = some v ∧ once? name (before ++ after) = some none ∧
      ∀ v', once? name (before ++ (name, v') :: after) = some (some v') := by
  simp only [once?_eq_some_iff, List.filter_append, List.filter_cons, beq_self_eq_true,
    if_true] at h ⊢
  cases o with
  | none => simp at h
  | some w =>
    obtain ⟨absent, same, absent'⟩ : before.filter (·.1 == name) = [] ∧ v = w ∧
        after.filter (·.1 == name) = [] := by
      cases filtered : before.filter (·.1 == name) with
      | nil => simpa [filtered] using h
      | cons m rest => simp [filtered] at h
    simp [absent, absent', same]

theorem eq_of_once? {m : String × Json} (h : once? name members = some (some v))
    (hm : m ∈ members) (same : m.1 = name) : m.2 = v := by
  have kept : m ∈ members.filter (·.1 == name) := List.mem_filter.2 ⟨hm, beq_iff_eq.2 same⟩
  rw [once?_eq_some_iff.1 h] at kept
  rw [List.mem_singleton.1 kept]

theorem lookup_of_once? (h : once? name members = some (some v)) :
    members.lookup name = some v := by
  obtain ⟨before, after, rfl, apart, -, -⟩ := List.filter_eq_cons_iff.1 (once?_eq_some_iff.1 h)
  refine List.lookup_eq_some_iff.2 ⟨before, after, rfl, ?_⟩
  intro m hm
  rw [bne_iff_ne]
  intro same
  exact apart m hm (beq_iff_eq.2 same.symm)

theorem once?_filter_ne (h : name ≠ key) :
    once? name (members.filter (·.1 != key)) = once? name members := by
  have same : (members.filter (·.1 != key)).filter (·.1 == name) =
      members.filter (·.1 == name) := by
    rw [List.filter_filter]
    apply List.filter_congr
    intro m _
    by_cases found : m.1 = name <;> simp [found, h]
  rw [once?, once?, same]

end Once

theorem itemsDenote_iff {items : List Json} : itemsDenote items ↔ ∀ j ∈ items, j.denotes := by
  induction items with
  | nil => simp [itemsDenote]
  | cons j items ih => simp [itemsDenote, ih]

theorem membersDenote_iff {members : List (String × Json)} :
    membersDenote members ↔ ∀ m ∈ members, m.2.denotes := by
  induction members with
  | nil => simp [membersDenote]
  | cons m members ih => simp [membersDenote, ih]

end Json

theorem Edit.denotes {shape : Shape} {j j' : Json} (h : Edit shape j j') :
    j.denotes → j'.denotes := by
  induction h with
  | permute _ perm =>
    simp only [Json.denotes, Json.membersDenote_iff]
    intro all m hm
    exact all m (perm.mem_iff.2 hm)
  | leaveOut before after _ _ _ =>
    simp only [Json.denotes, Json.membersDenote_iff, List.forall_mem_append, List.forall_mem_cons]
    rintro ⟨front, -, back⟩
    exact ⟨front, back⟩
  | add _ _ _ value =>
    simp only [Json.denotes, Json.membersDenote_iff, List.forall_mem_cons]
    exact fun all => ⟨value, all⟩
  | field before after _ _ _ ih =>
    simp only [Json.denotes, Json.membersDenote_iff, List.forall_mem_append, List.forall_mem_cons]
    rintro ⟨front, value, back⟩
    exact ⟨front, ih value, back⟩
  | item before after _ ih =>
    simp only [Json.denotes, Json.itemsDenote_iff, List.forall_mem_append, List.forall_mem_cons]
    rintro ⟨front, value, back⟩
    exact ⟨front, ih value, back⟩

/-! ## Fields -/

/-- What stands for an absent field is written out in full. -/
def RecordField.Stable (f : RecordField) : Prop :=
  ∀ n v k, f.presence = .defaulted v → ArchLint.normalize? n f.shape v = some k → k = v

theorem Agrees.stable {α : Type} {shape : Shape} {reader : Nat → Json → Option α}
    {write : α → Json} {a : α} (agrees : ∀ n, Agrees n shape (reader n) write)
    (back : Restores reader (write a) a) (name : String) :
    (RecordField.mk name shape (.defaulted (write a))).Stable := by
  intro n v k presence full
  cases presence
  rw [agrees n, back n] at full
  split at full
  next => exact (Option.some_inj.1 full).symm
  next => cases full

namespace RecordField

@[simp] theorem stable_required (name : String) (shape : Shape) :
    (RecordField.mk name shape .required).Stable :=
  nofun

@[simp] theorem stable_optional (name : String) (shape : Shape) : (optional name shape).Stable :=
  nofun

@[simp] theorem stable_flag (name : String) : (flag name).Stable := by
  refine Agrees.stable (a := false) (fun _ => agrees_flag) ?_ name
  intro n
  simp

@[simp] theorem stable_word (name : String) : (word name).Stable := by
  refine Agrees.stable (a := 0) (fun _ => agrees_word) ?_ name
  intro n
  simp

@[simp] theorem stable_text (name : String) : (text name).Stable := by
  refine Agrees.stable (a := "") (fun _ => agrees_text) ?_ name
  intro n
  simp

@[simp] theorem stable_list (name : String) (item : Shape) : (list name item).Stable := by
  intro n v k presence full
  cases presence
  cases n with
  | zero => cases full
  | succ n => exact (Option.some_inj.1 full).symm

@[simp] theorem stable_place (name : String) : (place name).Stable :=
  Agrees.stable Span.agrees (Span.ofJson?_toJson {}) name

@[simp] theorem stable_body : body.Stable :=
  Agrees.stable FunctionBody.agrees (FunctionBody.ofJson?_toJson default) "body"

@[simp] theorem stable_keyword (name first : String) (words : List String) :
    (keyword name first words).Stable := by
  intro n v k presence full
  cases presence
  have spelled : ((words.map fun w => (w, w)).lookup first).map Json.str = some k := by
    cases n <;> exact full
  obtain ⟨w, found, rfl⟩ := Option.map_eq_some_iff.1 spelled
  obtain ⟨before, after, split, -⟩ := List.lookup_eq_some_iff.1 found
  have member : (first, w) ∈ words.map fun w => (w, w) := by
    rw [split]
    exact List.mem_append_right _ (.head _)
  obtain ⟨_, -, same⟩ := List.mem_map.1 member
  cases same
  rfl

end RecordField

theorem PlainSort.fields_stable (sort : PlainSort) : ∀ f ∈ sort.fields, f.Stable := by
  have content := Agrees.stable BodyContent.agrees (BodyContent.ofJson?_toJson .empty)
  cases sort <;> simp [PlainSort.fields, content]

theorem TaggedSort.variants_stable (sort : TaggedSort) :
    ∀ v ∈ sort.variants, ∀ f ∈ v.2, f.Stable := by
  have modifiers := Agrees.stable ClassModifiers.agrees (ClassModifiers.ofJson?_toJson {})
  cases sort <;>
    simp [TaggedSort.variants, variableFields, referenceFields, constructorFields, methodFields,
      functionFields, classFields, modifiers]

theorem PlainSort.keys_nodup (sort : PlainSort) :
    ("kind" :: sort.fields.map (·.name)).Nodup := by
  cases sort <;> decide +kernel

theorem TaggedSort.keys_nodup (sort : TaggedSort) :
    ∀ v ∈ sort.variants, ("kind" :: v.2.map (·.name)).Nodup := by
  cases sort <;> decide +kernel

/-- No two fields share a key, none takes the key of the kind, and all are stable. -/
structure LawfulFields (fields : List RecordField) : Prop where
  keys : ("kind" :: fields.map (·.name)).Nodup
  stable : ∀ f ∈ fields, f.Stable

theorem LawfulFields.ne_kind {fields : List RecordField} (h : LawfulFields fields) {f : RecordField}
    (hf : f ∈ fields) : f.name ≠ "kind" := by
  intro same
  exact (List.nodup_cons.1 h.keys).1 (List.mem_map.2 ⟨f, hf, same⟩)

theorem LawfulFields.eq_of_name_eq {fields : List RecordField} (h : LawfulFields fields)
    {f g : RecordField} (hf : f ∈ fields) (hg : g ∈ fields) (same : f.name = g.name) : f = g :=
  List.inj_on_of_nodup_map (List.nodup_cons.1 h.keys).2 hf hg same

theorem Shape.lawful_of_fieldsIn? {shape : Shape} {members : List (String × Json)}
    {fields : List RecordField} (h : shape.fieldsIn? members = some fields) :
    LawfulFields fields := by
  rw [Shape.fieldsIn?.eq_def] at h
  split at h
  next sort =>
    cases h
    exact ⟨sort.keys_nodup, sort.fields_stable⟩
  next sort =>
    split at h
    next kind _ =>
      cases h
      obtain none | listed := sort.fields_cases kind
      · rw [none]
        exact ⟨by simp, nofun⟩
      · exact ⟨sort.keys_nodup _ listed, sort.variants_stable _ listed⟩
    next => cases h
  next => cases h

/-! ## Records -/

/-- In an object each field is looked up and taken by itself. -/
theorem normalizeFields?_obj (norm : Shape → Json → Option Json) (fields : List RecordField)
    (members : List (String × Json)) :
    normalizeFields? norm fields (.obj members) =
      fields.mapM fun f => ((once? f.name members).bind (f.normalize? norm)).map (f.name, ·) := by
  rw [normalizeFields?, Json.fields?]
  induction fields with
  | nil => rfl
  | cons f fields ih =>
    rw [List.mapM_cons, ← ih, List.map_cons, List.mapM_cons]
    cases once? f.name members with
    | none => rfl
    | some o =>
      cases rest : (fields.map (·.name)).mapM (once? · members) with
      | none => simp
      | some values => simp [Option.bind_map]

theorem normalizeFields?_filter {norm : Shape → Json → Option Json} {fields : List RecordField}
    (lawful : LawfulFields fields) (members : List (String × Json)) :
    normalizeFields? norm fields (.obj (members.filter (·.1 != "kind"))) =
      normalizeFields? norm fields (.obj members) := by
  rw [normalizeFields?_obj, normalizeFields?_obj]
  apply mapM_congr
  intro f hf
  rw [Json.once?_filter_ne (lawful.ne_kind hf)]

theorem hasNumberedKind_eq_false {members : List (String × Json)} {kind : String}
    (h : once? "kind" members = some (some (.str kind))) :
    (Json.obj members).hasNumberedKind = false := by
  simp only [Json.hasNumberedKind, List.any_eq_false, Bool.and_eq_true, beq_iff_eq, not_and]
  intro m hm same
  rw [Json.eq_of_once? h hm same]
  exact Bool.false_ne_true

/-- What the schema takes from some members it takes from the others as well. -/
structure Carries (n : Nat) (fields : List RecordField) (members members' : List (String × Json)) :
    Prop where
  kind : ∀ tag, once? "kind" members = some (some tag) → once? "kind" members' = some (some tag)
  values : ∀ f ∈ fields, ∀ k, (once? f.name members).bind (f.normalize? (normalize? n)) = some k →
    (once? f.name members').bind (f.normalize? (normalize? n)) = some k

namespace Carries

variable {n : Nat} {fields : List RecordField} {f : RecordField} {key : String} {v v' : Json}
  {before after members members' : List (String × Json)}

theorem of_perm (perm : members.Perm members') : Carries n fields members members' where
  kind _ once := Json.once?_of_perm perm once
  values f _ k value := by
    obtain ⟨o, once, value⟩ := Option.bind_eq_some_iff.1 value
    rw [Json.once?_of_perm perm once, Option.bind_some, value]

theorem of_add (v : Json) (unknown : key ∉ fields.map (·.name)) (notKind : key ≠ "kind") :
    Carries n fields members ((key, v) :: members) where
  kind _ once := by rwa [Json.once?_cons_of_ne v notKind]
  values f hf k value := by
    have apart : key ≠ f.name := by
      rintro rfl
      exact unknown (List.mem_map_of_mem hf)
    rwa [Json.once?_cons_of_ne v apart]

theorem of_leaveOut (lawful : LawfulFields fields) (hf : f ∈ fields)
    (absent : ∀ k, f.normalize? (normalize? n) (some v) = some k →
      f.normalize? (normalize? n) none = some k) :
    Carries n fields (before ++ (f.name, v) :: after) (before ++ after) where
  kind _ once := by rwa [Json.once?_append_cons_of_ne v (lawful.ne_kind hf)] at once
  values g hg k value := by
    by_cases same : f.name = g.name
    · obtain rfl := lawful.eq_of_name_eq hf hg same
      obtain ⟨o, once, value⟩ := Option.bind_eq_some_iff.1 value
      obtain ⟨rfl, gone, -⟩ := Json.once?_append_cons_self once
      rw [gone, Option.bind_some]
      exact absent k value
    · rwa [Json.once?_append_cons_of_ne v same] at value

theorem of_field (lawful : LawfulFields fields) (hf : f ∈ fields)
    (edited : ∀ k, f.normalize? (normalize? n) (some v) = some k →
      f.normalize? (normalize? n) (some v') = some k) :
    Carries n fields (before ++ (f.name, v) :: after) (before ++ (f.name, v') :: after) where
  kind _ once := by
    rw [Json.once?_append_cons_of_ne _ (lawful.ne_kind hf)] at once ⊢
    exact once
  values g hg k value := by
    by_cases same : f.name = g.name
    · obtain rfl := lawful.eq_of_name_eq hf hg same
      obtain ⟨o, once, value⟩ := Option.bind_eq_some_iff.1 value
      obtain ⟨rfl, -, other⟩ := Json.once?_append_cons_self once
      rw [other v', Option.bind_some]
      exact edited k value
    · rw [Json.once?_append_cons_of_ne _ same] at value ⊢
      exact value

theorem normalizeFields?_eq {full : List (String × Json)} (h : Carries n fields members members')
    (taken : normalizeFields? (normalize? n) fields (.obj members) = some full) :
    normalizeFields? (normalize? n) fields (.obj members') = some full := by
  rw [normalizeFields?_obj] at taken ⊢
  refine mapM_mono ?_ taken
  intro f hf m found
  obtain ⟨k, value, rfl⟩ := Option.map_eq_some_iff.1 found
  rw [h.values f hf k value, Option.map_some]

theorem keep?_eq {held : Bool} {kind : String} (h : Carries n fields members members')
    (denote : (Json.obj members).denotes → (Json.obj members').denotes)
    (spelled : once? "kind" members = some (some (.str kind)))
    (room : (Json.obj members').depth ≤ n + 1)
    (kept : (Json.obj members).keep? held (n + 1) = some (.obj members)) :
    (Json.obj members').keep? held (n + 1) = some (.obj members') := by
  have spelled' := hasNumberedKind_eq_false (h.kind _ spelled)
  cases held with
  | true => rfl
  | false =>
    simp only [Json.keep?, Bool.false_or, Option.ite_none_right_eq_some, Bool.and_eq_true,
      decide_eq_true_eq] at kept
    rw [Json.keep?, denote kept.1.1.1, spelled', decide_eq_true room]
    rfl

theorem normalize?_eq {shape : Shape} {k : Json} (here : shape.fieldsIn? members = some fields)
    (h : Carries n fields members members')
    (denote : (Json.obj members).denotes → (Json.obj members').denotes)
    (room : (Json.obj members').depth ≤ n + 1)
    (full : normalize? (n + 1) shape (.obj members) = some k) :
    normalize? (n + 1) shape (.obj members') = some k := by
  have lawful := Shape.lawful_of_fieldsIn? here
  rw [Shape.fieldsIn?.eq_def] at here
  split at here
  next sort =>
    cases here
    obtain ⟨full, taken, rfl⟩ := Option.map_eq_some_iff.1 full
    rw [normalize?, h.normalizeFields?_eq taken, Option.map_some]
  next held sort =>
    split at here
    next kind found =>
      cases here
      simp only [normalize?, Option.bind_eq_bind, Option.bind_eq_some_iff] at full
      obtain ⟨j, kept, ⟨kind', record⟩, named, full⟩ := full
      obtain rfl := Json.eq_of_keep? kept
      obtain ⟨members, tag, same, once, known, rfl⟩ | ⟨_, _, same, -⟩ :=
        Json.variant?_eq_some named
      · cases same
        -- The kind that is read is the one under the key.
        rw [Json.lookup_of_once? once, Option.some_inj] at found
        subst found
        obtain rfl : kind' = kind := by
          simp only [Json.kindOf?, Option.ite_none_right_eq_some, Option.some_inj] at known
          exact known.2.symm
        obtain ⟨full, taken, rfl⟩ := Option.map_eq_some_iff.1 full
        rw [normalizeFields?_filter lawful] at taken
        simp only [normalize?, h.keep?_eq denote once room kept, Json.variant?, h.kind _ once,
          known, Option.bind_eq_bind, Option.bind_some, Option.map_some]
        rw [normalizeFields?_filter lawful, h.normalizeFields?_eq taken, Option.map_some]
      · cases same
    next => cases here
  next => cases here

end Carries

/-! ## Edits -/

theorem Edit.ne_null {shape : Shape} {j j' : Json} (h : Edit shape j j') :
    j ≠ .null ∧ j' ≠ .null := by
  cases h <;> exact ⟨nofun, nofun⟩

theorem RecordField.normalize?_leftOut {n : Nat} {f : RecordField} {v k : Json} (stable : f.Stable)
    (fallback : f.fallback? = some v) (h : f.normalize? (ArchLint.normalize? n) (some v) = some k) :
    f.normalize? (ArchLint.normalize? n) none = some k := by
  unfold RecordField.normalize? RecordField.fallback? at *
  cases presence : f.presence with
  | required =>
    rw [presence] at fallback
    cases fallback
  | defaulted w =>
    rw [presence] at fallback h
    cases fallback
    rw [stable n v k presence h]
    rfl
  | optional =>
    rw [presence] at fallback h
    cases fallback
    exact h

/-- An edit leaves the full form as it is, where there are levels enough for the edited document. -/
theorem Edit.normalize?_eq {shape : Shape} {j j' : Json} (h : Edit shape j j') :
    ∀ {n : Nat} {k : Json}, j'.depth ≤ n → normalize? n shape j = some k →
      normalize? n shape j' = some k := by
  induction h with
  | permute here perm =>
    intro n k room full
    have denote := (Edit.permute here perm).denotes
    cases n with
    | zero => cases room
    | succ n => exact (Carries.of_perm perm).normalize?_eq here denote room full
  | leaveOut before after here hf fallback =>
    intro n k room full
    have lawful := Shape.lawful_of_fieldsIn? here
    have denote := (Edit.leaveOut before after here hf fallback).denotes
    cases n with
    | zero => cases room
    | succ n =>
      have absent k :=
        RecordField.normalize?_leftOut (n := n) (k := k) (lawful.stable _ hf) fallback
      exact (Carries.of_leaveOut lawful hf absent).normalize?_eq here denote room full
  | add here unknown notKind value =>
    intro n k room full
    have denote := (Edit.add here unknown notKind value).denotes
    cases n with
    | zero => cases room
    | succ n => exact (Carries.of_add _ unknown notKind).normalize?_eq here denote room full
  | @field shape fields f v v' before after here hf edit ih =>
    intro n k room full
    have lawful := Shape.lawful_of_fieldsIn? here
    have denote := (Edit.field before after here hf edit).denotes
    cases n with
    | zero => cases room
    | succ n =>
      have inside := Json.depth_le_of_mem_members (m := (f.name, v'))
        (List.mem_append_right before (.head after))
      have below := Nat.le_trans inside (Nat.le_of_succ_le_succ room)
      refine (Carries.of_field lawful hf ?_).normalize?_eq here denote room full
      intro k value
      rw [RecordField.normalize?_of_ne_null edit.ne_null.1] at value
      rw [RecordField.normalize?_of_ne_null edit.ne_null.2]
      exact ih below value
  | @item shape j j' before after edit ih =>
    intro n k room full
    cases n with
    | zero => cases room
    | succ n =>
      have inside := Json.depth_le_of_mem_items (j := j')
        (List.mem_append_right before (.head after))
      have below := Nat.le_trans inside (Nat.le_of_succ_le_succ room)
      simp only [normalize?, List.mapM_append, List.mapM_cons, Option.bind_eq_bind,
        Option.map_eq_some_iff, Option.bind_eq_some_iff] at full ⊢
      obtain ⟨items, ⟨front, hfront, rest, ⟨value, hvalue, back, hback, same⟩, same'⟩, rfl⟩ := full
      exact ⟨items, ⟨front, hfront, rest, ⟨value, ih below hvalue, back, hback, same⟩, same'⟩, rfl⟩

/-! ## Dumps -/

/-- However often a document is edited, its full form stays. -/
theorem normalize?_of_edits {shape : Shape} {j j' k : Json}
    (edits : Relation.ReflTransGen (Edit shape) j j') {m : Nat}
    (full : normalize? m shape j = some k) {n : Nat} (room : j'.depth ≤ n) :
    normalize? n shape j' = some k := by
  suffices some : ∃ m, normalize? m shape j' = some k by
    obtain ⟨m, full⟩ := some
    exact normalize?_of_depth_le full room
  clear room
  induction edits with
  | refl => exact ⟨m, full⟩
  | @tail j j' _ edit ih =>
    obtain ⟨m, full⟩ := ih
    have enough := normalize?_of_depth_le full (Nat.le_max_left j.depth j'.depth)
    exact ⟨_, edit.normalize?_eq (Nat.le_max_right j.depth j'.depth) enough⟩

theorem Restores.injective {α : Type} {read : Nat → Json → Option α} {write : α → Json}
    (h : ∀ a, Restores read (write a) a) {a b : α} (same : write a = write b) : a = b := by
  have first := h a (write a).depth
  have second := h b (write a).depth
  rw [← same, first, if_pos (Nat.le_refl _), if_pos (Nat.le_refl _), Option.some_inj] at second
  exact second

theorem SourceUnit.full_injective {u v : SourceUnit} (same : u.full = v.full) : u = v := by
  obtain ⟨path, unit, content⟩ := u
  obtain ⟨path', unit', content'⟩ := v
  simp only [SourceUnit.full, Json.obj.injEq, List.cons.injEq, Prod.mk.injEq, true_and, and_true,
    Json.str.injEq] at same
  obtain ⟨rfl, units, contents⟩ := same
  obtain rfl := Restores.injective CompilationUnit.ofJson?_toJson units
  have texts := Json.optional_text? content
  rw [contents, Json.optional_text?, Option.some_inj] at texts
  rw [texts]

/-- Whatever is edited in the document of a tree and however often, it still gives the tree. -/
theorem SourceUnit.ofJson?_of_edits {u : SourceUnit} {j : Json}
    (edits : Relation.ReflTransGen (Edit (.plain .file)) u.toJson j) :
    (∀ n, j.depth ≤ n → SourceUnit.ofJson? n j = some u) ∧
      ∀ text, Json.read text = some j → j.depth ≤ nestingLimit → parse text = .ok u := by
  have value : ∀ n, j.depth ≤ n → SourceUnit.ofJson? n j = some u := by
    intro n room
    have start : normalize? u.toJson.depth (.plain .file) u.toJson = some u.full := by
      rw [SourceUnit.agrees, u.ofJson?_toJson, if_pos (Nat.le_refl _), Option.map_some]
    have full := normalize?_of_edits edits start room
    rw [SourceUnit.agrees] at full
    obtain ⟨v, read, same⟩ := Option.map_eq_some_iff.1 full
    rw [read, SourceUnit.full_injective same]
  refine ⟨value, fun text read room => ?_⟩
  exact parse_eq_ok_iff.2 ⟨j, read, value nestingLimit room⟩

/-- A file with the name of a library and nothing else. -/
def SourceUnit.library : SourceUnit :=
  { path := "lib/a.dart", unit := { directives := [.library "a" {}] } }

/-- Its document with other members for the unit, and for the directive. -/
def libraryDump (directive rest : List (String × Json)) : Json :=
  .obj [("path", .str "lib/a.dart"), ("unit", .obj (("directives", .arr [.obj directive]) :: rest))]

/-- The directive loses its place in the code, the unit its empty list of declarations, the kind
goes to the end, and a key that no directive has comes in front. -/
theorem SourceUnit.parse_library_edited :
    let j := libraryDump [("note", .arr [.null]), ("name", .str "a"), ("kind", .str "library")] []
    Relation.ReflTransGen (Edit (.plain .file)) SourceUnit.library.toJson j ∧
      parse j.compact = .ok SourceUnit.library := by
  intro j
  have inUnit {d d' rest rest' : List (String × Json)}
      (h : Edit (.plain .unit) (.obj (("directives", .arr [.obj d]) :: rest))
        (.obj (("directives", .arr [.obj d']) :: rest'))) :
      Edit (.plain .file) (libraryDump d rest) (libraryDump d' rest') :=
    .field (f := ⟨"unit", .plain .unit, .required⟩) [("path", .str "lib/a.dart")] [] rfl
      (by simp [PlainSort.fields]) h
  have inDirective {d d' rest : List (String × Json)}
      (h : Edit (.tagged false .directive) (.obj d) (.obj d')) :
      Edit (.plain .file) (libraryDump d rest) (libraryDump d' rest) :=
    inUnit (.field (f := RecordField.list "directives" (.tagged false .directive)) [] rest rfl
      (by simp [PlainSort.fields]) (.item [] [] h))
  have place : Edit (.plain .file) SourceUnit.library.toJson
      (libraryDump [("kind", .str "library"), ("name", .str "a")] [("declarations", .arr [])]) :=
    inDirective (.leaveOut (f := RecordField.place "span")
      [("kind", .str "library"), ("name", .str "a")] [] rfl
      (by simp [TaggedSort.fields, TaggedSort.variants, List.lookup_cons]) rfl)
  have declarations : Edit (.plain .file)
      (libraryDump [("kind", .str "library"), ("name", .str "a")] [("declarations", .arr [])])
      (libraryDump [("kind", .str "library"), ("name", .str "a")] []) :=
    inUnit (.leaveOut (f := RecordField.list "declarations" (.tagged false .declaration))
      [("directives", .arr [.obj [("kind", .str "library"), ("name", .str "a")]])] [] rfl
      (by simp [PlainSort.fields]) rfl)
  have kind : Edit (.plain .file)
      (libraryDump [("kind", .str "library"), ("name", .str "a")] [])
      (libraryDump [("name", .str "a"), ("kind", .str "library")] []) :=
    inDirective (.permute rfl (.swap ..))
  have note : Edit (.plain .file)
      (libraryDump [("name", .str "a"), ("kind", .str "library")] []) j :=
    inDirective (.add rfl (by decide) (by decide) rfl)
  have edits := (((Relation.ReflTransGen.single place).tail declarations).tail kind).tail note
  have plain : j.Plain := by simp [j, libraryDump]
  exact ⟨edits, (SourceUnit.ofJson?_of_edits edits).2 _ plain.read_compact (by decide)⟩

end ArchLint
