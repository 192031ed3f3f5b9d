import ArchLint.Proofs.TreeSchema

/-! # How deep the full form of a dump nests

A document may leave out what has a default, and its full form spells it out. That opens one level
below a record at most, except that a declaration without a body is written with one, which has a
content. So an accepted dump is written at most one level deeper than it was, and is refused when
that is one too many.

* `depth_normalize?_le` — the bound, over the whole schema.
* `normalize?_of_depth_le` — a document needs no more levels than it opens.
* `SourceUnit.depth_toJson_le` — the bound for dumps.
* `SourceUnit.parse_written_iff` — which accepted dumps come back from what they are written as.
-/

namespace ArchLint

open Json (orNull tagged)

/-! ## The values in a record -/

namespace Json

theorem depth_le_of_mem_items {j : Json} {items : List Json} (h : j ∈ items) :
    j.depth ≤ depthOfItems items := by
  induction items with
  | nil => cases h
  | cons k items ih =>
    rw [depthOfItems]
    rcases List.mem_cons.1 h with rfl | h
    · exact Nat.le_max_left ..
    · exact Nat.le_trans (ih h) (Nat.le_max_right ..)

theorem depthOfItems_le {b : Nat} {items : List Json} (h : ∀ j ∈ items, j.depth ≤ b) :
    depthOfItems items ≤ b := by
  induction items with
  | nil => exact Nat.zero_le b
  | cons k items ih =>
    rw [depthOfItems]
    exact Nat.max_le.2 ⟨h k (.head _), ih fun j hj => h j (.tail _ hj)⟩

theorem depth_le_of_mem_members {m : String × Json} {members : List (String × Json)}
    (h : m ∈ members) : m.2.depth ≤ depthOfMembers members := by
  induction members with
  | nil => cases h
  | cons k members ih =>
    rw [depthOfMembers]
    rcases List.mem_cons.1 h with rfl | h
    · exact Nat.le_max_left ..
    · exact Nat.le_trans (ih h) (Nat.le_max_right ..)

theorem depthOfMembers_le {b : Nat} {members : List (String × Json)}
    (h : ∀ m ∈ members, m.2.depth ≤ b) : depthOfMembers members ≤ b := by
  induction members with
  | nil => exact Nat.zero_le b
  | cons k members ih =>
    rw [depthOfMembers]
    exact Nat.max_le.2 ⟨h k (.head _), ih fun m hm => h m (.tail _ hm)⟩

theorem mem_of_once? {name : String} {members : List (String × Json)} {v : Json}
    (h : once? name members = some (some v)) : (name, v) ∈ members := by
  rw [once?] at h
  split at h
  next => cases h
  next key value single =>
    cases h
    have member : (key, v) ∈ members.filter (·.1 == name) := by rw [single]; exact .head _
    obtain ⟨member, same⟩ := List.mem_filter.1 member
    rwa [← eq_of_beq same]
  next => cases h

/-- A record opens a level. -/
theorem depth_pos_of_fields? {names : List String} {j : Json} {values : List (Option Json)}
    (h : j.fields? names = some values) : 0 < j.depth := by
  obtain ⟨_, rfl, -⟩ | ⟨_, rfl, -⟩ := fields?_eq_some h
  · exact Nat.succ_pos _
  · exact Nat.succ_pos _

/-- The values of a record lie below the level that it opens. -/
theorem depth_lt_of_fields? {names : List String} {j v : Json} {values : List (Option Json)}
    (h : j.fields? names = some values) (hv : some v ∈ values) : v.depth < j.depth := by
  obtain ⟨members, rfl, each⟩ | ⟨items, rfl, -, rfl⟩ := fields?_eq_some h
  · obtain ⟨name, -, once⟩ := (mem_iff_of_mapM each).1 hv
    exact Nat.lt_succ_of_le (depth_le_of_mem_members (mem_of_once? once))
  · have item : v ∈ items := by simpa using hv
    exact Nat.lt_succ_of_le (depth_le_of_mem_items item)

theorem eq_of_keep? {held : Bool} {levels : Nat} {j j' : Json}
    (h : keep? held levels j = some j') : j' = j := by
  rw [keep?, Option.ite_none_right_eq_some, Option.some_inj] at h
  exact h.2.symm

theorem depth_le_of_variant? {kinds : List String} {kind : String} {j record : Json}
    (h : j.variant? kinds = some (kind, record)) : record.depth ≤ j.depth := by
  obtain ⟨members, tag, rfl, -, -, rfl⟩ | ⟨tag, items, rfl, -, rfl⟩ := variant?_eq_some h
  · apply Nat.succ_le_succ
    apply depthOfMembers_le
    intro m hm
    exact depth_le_of_mem_members (List.mem_of_mem_filter hm)
  · exact Nat.succ_le_succ (Nat.le_max_right ..)

end Json

/-! ## The bound -/

/-- The depth that the full form of a record may have however flat the record is. -/
def PlainSort.floor : PlainSort → Nat
  | .unit => 7
  | .file => 8
  | _ => 1

/-- The same for the records with a kind. -/
def TaggedSort.floor : TaggedSort → Nat
  | .member => 3
  | .declaration => 5
  | _ => 1

/-- The same for all values. What a record or a list opens itself is not counted up to the first
level. -/
def Shape.floor : Shape → Nat
  | .list item => if item.floor ≤ 1 then 1 else item.floor + 1
  | .plain sort => sort.floor
  | .tagged _ sort => sort.floor
  | _ => 1

/-- The field lies within the floor of its record, also when it is left out. -/
def RecordField.Fits (floor : Nat) (f : RecordField) : Prop :=
  (f.shape.floor ≤ 1 ∨ f.shape.floor < floor) ∧ ∀ v ∈ f.fallback?, v.depth ≤ 1 ∨ v.depth < floor

instance (floor : Nat) (f : RecordField) : Decidable (f.Fits floor) :=
  inferInstanceAs (Decidable (_ ∧ _))

theorem PlainSort.fields_fit (sort : PlainSort) : ∀ f ∈ sort.fields, f.Fits sort.floor := by
  cases sort <;> decide +kernel

theorem TaggedSort.variants_fit (sort : TaggedSort) :
    ∀ v ∈ sort.variants, ∀ f ∈ v.2, f.Fits sort.floor := by
  cases sort <;> decide +kernel

/-- The fields of a kind stand in the table, or there is no such kind. -/
theorem TaggedSort.fields_cases (sort : TaggedSort) (kind : String) :
    sort.fields kind = [] ∨ (kind, sort.fields kind) ∈ sort.variants := by
  rw [TaggedSort.fields]
  cases found : sort.variants.lookup kind with
  | none => exact .inl rfl
  | some fields =>
    obtain ⟨before, after, split, -⟩ := List.lookup_eq_some_iff.1 found
    rw [split]
    exact .inr (List.mem_append_right _ (.head _))

theorem TaggedSort.fields_fit {sort : TaggedSort} {kind : String} {f : RecordField}
    (h : f ∈ sort.fields kind) : f.Fits sort.floor := by
  obtain none | listed := sort.fields_cases kind
  · rw [none] at h
    cases h
  · exact sort.variants_fit _ listed f h

section Values

variable {norm : Shape → Json → Option Json} {f : RecordField} {v k : Json}

theorem RecordField.normalize?_of_ne_null (present : v ≠ .null) :
    f.normalize? norm (some v) = norm f.shape v := by
  have whole : (Json.optional (norm f.shape) (some v)).map (·.getD .null) = norm f.shape v := by
    cases v with
    | null => exact absurd rfl present
    | bool _ | nat _ | decimal _ | str _ | arr _ | obj _ | void =>
      simp [Json.optional, Function.comp_def]
  rw [RecordField.normalize?]
  split
  next => rfl
  next => rfl
  next => exact whole

/-- A field is taken from a value, or what stands for an absent one is taken whatever the values
are. -/
theorem RecordField.normalize?_cases {value : Option Json} (h : f.normalize? norm value = some k) :
    (∃ v, value = some v ∧ norm f.shape v = some k ∧
      ∀ norm', norm' f.shape v = some k → f.normalize? norm' value = some k) ∨
    f.fallback? = some k ∧ ∀ norm', f.normalize? norm' value = some k := by
  cases value with
  | none =>
    unfold RecordField.normalize? RecordField.fallback? at *
    cases presence : f.presence with
    | required =>
      rw [presence] at h
      cases h
    | defaulted w =>
      rw [presence] at h
      exact .inr ⟨h, fun _ => h⟩
    | optional =>
      rw [presence] at h
      exact .inr ⟨h, fun _ => h⟩
  | some v =>
    by_cases null : v = .null
    · subst null
      unfold RecordField.normalize? RecordField.fallback? at *
      cases presence : f.presence with
      | required =>
        rw [presence] at h
        exact .inl ⟨.null, rfl, h, fun _ taken => taken⟩
      | defaulted w =>
        rw [presence] at h
        exact .inl ⟨.null, rfl, h, fun _ taken => taken⟩
      | optional =>
        rw [presence] at h
        exact .inr ⟨h, fun _ => h⟩
    · rw [RecordField.normalize?_of_ne_null null] at h
      refine .inl ⟨v, rfl, h, fun norm' taken => ?_⟩
      rw [RecordField.normalize?_of_ne_null null, taken]

end Values

section Bound

variable {norm : Shape → Json → Option Json} {n floor : Nat}

/-- A field is written below the level of its record. -/
theorem RecordField.depth_normalize?_lt {f : RecordField} {d : Nat} {value : Option Json} {k : Json}
    (fits : f.Fits floor)
    (grows : ∀ j k, norm f.shape j = some k → k.depth ≤ max (min n j.depth + 1) f.shape.floor)
    (opened : 0 < d) (below : ∀ v ∈ value, v.depth < d) (h : f.normalize? norm value = some k) :
    k.depth < max (min (n + 1) d + 1) floor := by
  obtain ⟨shape, fallback⟩ := fits
  obtain ⟨v, rfl, taken, -⟩ | ⟨absent, -⟩ := f.normalize?_cases h
  · have := grows v k taken
    have := below v rfl
    omega
  · have := fallback k absent
    omega

theorem depth_normalizeFields?_lt {fields : List RecordField} {record : Json}
    {members : List (String × Json)} (fits : ∀ f ∈ fields, f.Fits floor)
    (grows : ∀ shape j k, norm shape j = some k → k.depth ≤ max (min n j.depth + 1) shape.floor)
    (h : normalizeFields? norm fields record = some members) :
    (Json.obj members).depth ≤ max (min (n + 1) record.depth + 1) floor := by
  obtain ⟨values, read, each⟩ := Option.bind_eq_some_iff.1 h
  have opened := Json.depth_pos_of_fields? read
  have inside : Json.depthOfMembers members < max (min (n + 1) record.depth + 1) floor := by
    apply Nat.lt_of_le_pred (by omega)
    apply Json.depthOfMembers_le
    intro m hm
    obtain ⟨⟨f, value⟩, pair, image⟩ := (mem_iff_of_mapM each).1 hm
    obtain ⟨k, hk, rfl⟩ := Option.map_eq_some_iff.1 image
    obtain ⟨hf, hv⟩ := List.of_mem_zip pair
    have below : ∀ v ∈ value, v.depth < record.depth := by
      rintro v rfl
      exact Json.depth_lt_of_fields? read hv
    have within := RecordField.depth_normalize?_lt (fits f hf) (grows f.shape) opened below hk
    exact Nat.le_pred_of_lt within
  exact inside

end Bound

/-- On `n` levels, the full form of a document opens at most one level more than the document, or
than the levels that were left, and else no more than the floor. -/
theorem depth_normalize?_le (n : Nat) (shape : Shape) (j k : Json)
    (h : normalize? n shape j = some k) : k.depth ≤ max (min n j.depth + 1) shape.floor := by
  rw [normalize?.eq_def] at h
  split at h
  next =>
    obtain ⟨_, -, rfl⟩ := Option.map_eq_some_iff.1 h
    exact Nat.zero_le _
  next =>
    obtain ⟨_, -, rfl⟩ := Option.map_eq_some_iff.1 h
    exact Nat.zero_le _
  next =>
    obtain ⟨_, -, rfl⟩ := Option.map_eq_some_iff.1 h
    exact Nat.zero_le _
  next =>
    obtain ⟨_, -, rfl⟩ := Option.map_eq_some_iff.1 h
    exact Nat.zero_le _
  next n item items =>
    obtain ⟨full, each, rfl⟩ := Option.map_eq_some_iff.1 h
    have inside :
        Json.depthOfItems full ≤ max (min n (Json.depthOfItems items) + 1) item.floor := by
      apply Json.depthOfItems_le
      intro k hk
      obtain ⟨j, hj, image⟩ := (mem_iff_of_mapM each).1 hk
      have := depth_normalize?_le n item j k image
      have := Json.depth_le_of_mem_items hj
      omega
    simp only [Json.depth, Shape.floor]
    split <;> omega
  next n sort =>
    obtain ⟨members, fields, rfl⟩ := Option.map_eq_some_iff.1 h
    exact depth_normalizeFields?_lt sort.fields_fit (depth_normalize?_le n) fields
  next n held sort =>
    simp only [Option.bind_eq_bind, Option.bind_eq_some_iff] at h
    obtain ⟨j', kept, ⟨kind, record⟩, named, h⟩ := h
    obtain ⟨members, fields, rfl⟩ := Option.map_eq_some_iff.1 h
    -- The record lies within the document, and its kind opens no level.
    have inside : record.depth ≤ j.depth := by
      rw [← Json.eq_of_keep? kept]
      exact Json.depth_le_of_variant? named
    have fit : ∀ f ∈ sort.fields kind, f.Fits sort.floor := fun f => TaggedSort.fields_fit
    have := depth_normalizeFields?_lt fit (depth_normalize?_le n) fields
    simp only [Json.depth_tagged, Json.depth, Shape.floor] at this ⊢
    omega
  next => cases h
termination_by n

/-! ## Levels -/

theorem keep?_of_depth_le {held : Bool} {m n : Nat} {j k : Json} (h : j.keep? held m = some k)
    (room : j.depth ≤ n) : j.keep? held n = some k := by
  simp only [Json.keep?, Option.ite_none_right_eq_some, Bool.or_eq_true, Bool.and_eq_true,
    decide_eq_true_eq] at h ⊢
  obtain ⟨held | ⟨⟨denote, -⟩, spelled⟩, same⟩ := h
  · exact ⟨.inl held, same⟩
  · exact ⟨.inr ⟨⟨denote, room⟩, spelled⟩, same⟩

theorem normalizeFields?_mono {norm norm' : Shape → Json → Option Json} {fields : List RecordField}
    {record : Json} {members : List (String × Json)}
    (more : ∀ shape v k, v.depth < record.depth → norm shape v = some k → norm' shape v = some k)
    (h : normalizeFields? norm fields record = some members) :
    normalizeFields? norm' fields record = some members := by
  obtain ⟨values, read, each⟩ := Option.bind_eq_some_iff.1 h
  rw [normalizeFields?, read, Option.bind_some]
  refine mapM_mono ?_ each
  rintro ⟨f, value⟩ pair m image
  obtain ⟨k, taken, rfl⟩ := Option.map_eq_some_iff.1 image
  obtain ⟨v, rfl, taken, same⟩ | ⟨-, same⟩ := f.normalize?_cases taken
  · have below := Json.depth_lt_of_fields? read (List.of_mem_zip pair).2
    exact Option.map_eq_some_iff.2 ⟨k, same norm' (more f.shape v k below taken), rfl⟩
  · exact Option.map_eq_some_iff.2 ⟨k, same norm', rfl⟩

theorem depth_pos_of_normalizeFields? {norm : Shape → Json → Option Json}
    {fields : List RecordField} {record : Json} {members : List (String × Json)}
    (h : normalizeFields? norm fields record = some members) : 0 < record.depth := by
  obtain ⟨values, read, -⟩ := Option.bind_eq_some_iff.1 h
  exact Json.depth_pos_of_fields? read

/-- A document that is taken on some levels is taken on as many as it opens. -/
theorem normalize?_of_depth_le {m n : Nat} {shape : Shape} {j k : Json}
    (h : normalize? m shape j = some k) (room : j.depth ≤ n) : normalize? n shape j = some k := by
  rw [normalize?.eq_def] at h
  split at h
  next => cases n <;> exact h
  next => cases n <;> exact h
  next => cases n <;> exact h
  next => cases n <;> exact h
  next m item items =>
    cases n with
    | zero => cases room
    | succ n =>
      obtain ⟨full, each, rfl⟩ := Option.map_eq_some_iff.1 h
      refine Option.map_eq_some_iff.2 ⟨full, mapM_mono ?_ each, rfl⟩
      intro j hj k taken
      have below := Nat.le_trans (Json.depth_le_of_mem_items hj) (Nat.le_of_succ_le_succ room)
      exact normalize?_of_depth_le taken below
  next m sort =>
    obtain ⟨members, fields, rfl⟩ := Option.map_eq_some_iff.1 h
    have opened := depth_pos_of_normalizeFields? fields
    cases n with
    | zero => omega
    | succ n =>
      refine Option.map_eq_some_iff.2 ⟨members, normalizeFields?_mono ?_ fields, rfl⟩
      intro shape v k below taken
      exact normalize?_of_depth_le taken (by omega)
  next m held sort =>
    simp only [Option.bind_eq_bind, Option.bind_eq_some_iff] at h
    obtain ⟨j', kept, ⟨kind, record⟩, named, h⟩ := h
    obtain ⟨members, fields, rfl⟩ := Option.map_eq_some_iff.1 h
    obtain rfl := Json.eq_of_keep? kept
    have inside := Json.depth_le_of_variant? named
    have opened : 0 < record.depth := depth_pos_of_normalizeFields? fields
    cases n with
    | zero => omega
    | succ n =>
      have fields' : normalizeFields? (normalize? n) (sort.fields kind) record = some members := by
        refine normalizeFields?_mono ?_ fields
        intro shape v k below taken
        exact normalize?_of_depth_le taken (by omega)
      simp only [normalize?, keep?_of_depth_le kept room, Option.bind_eq_bind, Option.bind_some,
        named, fields', Option.map_some]
  next => cases h
termination_by m

/-! ## Dumps -/

theorem SourceUnit.depth_full (u : SourceUnit) : u.full.depth = u.toJson.depth := by
  obtain ⟨path, unit, content⟩ := u
  cases content <;> simp [SourceUnit.full, SourceUnit.toJson, orNull]

/-- A dump is written at most one level deeper than the document that it was read from. -/
theorem SourceUnit.depth_toJson_le {n : Nat} {j : Json} {u : SourceUnit}
    (h : SourceUnit.ofJson? n j = some u) : u.toJson.depth ≤ max (min n j.depth + 1) 8 := by
  have full : normalize? n (.plain .file) j = some u.full := by
    rw [SourceUnit.agrees n j, h, Option.map_some]
  rw [← u.depth_full]
  exact depth_normalize?_le n (.plain .file) j u.full full

theorem SourceUnit.parse_eq_ok_iff {text : String} {u : SourceUnit} :
    parse text = .ok u ↔
      ∃ j, Json.read text = some j ∧ SourceUnit.ofJson? nestingLimit j = some u := by
  rw [parse, ofText?, readDocument, ← Option.bind_eq_some_iff]
  split
  next v read => rw [read, Option.some_inj, Except.ok.injEq]
  next none => rw [none]; simp

/-! ## A dump that uses all levels -/

/-- An expression that is awaited `n` times. -/
def Expr.awaits : Nat → Expr
  | 0 => .this {}
  | n + 1 => .await (awaits n) {}

/-- A file with nothing but a variable that starts as such an expression. -/
def SourceUnit.awaits (n : Nat) : SourceUnit :=
  let declarators := [{ name := "x", initializer := some (Expr.awaits n) }]
  { path := "lib/a.dart", unit := { declarations := [.variableList { declarators }] } }

namespace Json

/-- The expression without its places in the code. -/
def awaits : Nat → Json
  | 0 => tagged "this" []
  | n + 1 => tagged "await" [("expr", awaits n)]

def awaitsDeclaration (n : Nat) : Json :=
  let declarator := .obj [("name", .str "x"), ("initializer", awaits n)]
  tagged "variable" [("variables", .arr [declarator])]

/-- The file with nothing written out that may be left out. -/
def awaitsDump (n : Nat) : Json :=
  .obj [("path", .str "lib/a.dart"),
    ("unit", .obj [("declarations", .arr [awaitsDeclaration n])])]

theorem depth_awaits (n : Nat) : (awaits n).depth = n + 1 := by
  induction n with
  | zero => rfl
  | succ n ih => simp [awaits, ih]

theorem plain_awaits (n : Nat) : (awaits n).Plain := by
  induction n with
  | zero => simp [awaits]
  | succ n ih => simp [awaits, ih]

theorem plain_awaitsDump (n : Nat) : (awaitsDump n).Plain := by
  simp [awaitsDump, awaitsDeclaration, plain_awaits n]

end Json

theorem Expr.ofJson?_awaits {n : Nat} : ∀ {m : Nat}, n < m →
    Expr.ofJson? m (Json.awaits n) = some (Expr.awaits n) := by
  induction n with
  | zero =>
    intro m room
    obtain ⟨m, rfl⟩ := Nat.exists_eq_add_of_lt room
    simp [Expr.ofJson?, Json.awaits, Expr.awaits, Expr.kinds, Json.fields?, Json.once?,
      Json.defaulted]
  | succ n ih =>
    intro m room
    cases m with
    | zero => cases room
    | succ m =>
      have operand := ih (Nat.lt_of_succ_lt_succ room)
      simp [Expr.ofJson?, Json.awaits, Expr.awaits, Expr.kinds, Json.fields?, Json.once?,
        Json.defaulted, operand]

theorem Declaration.ofJson?_awaits {n m : Nat} (room : n < m) :
    (Json.keep? false (m + 3) (Json.awaitsDeclaration n)).bind (Declaration.ofJson? (m + 3)) =
      some (.variableList
        { declarators := [{ name := "x", initializer := some (.awaits n) }] }) := by
  have plain : (Json.awaitsDeclaration n).Plain := by
    simp [Json.awaitsDeclaration, Json.plain_awaits n]
  have depth : (Json.awaitsDeclaration n).depth ≤ m + 3 := by
    simp [Json.awaitsDeclaration, Json.depth_awaits n]
    omega
  have spelled : (Json.awaitsDeclaration n).hasNumberedKind = false :=
    Json.hasNumberedKind_tagged (by simp)
  have initializer : Json.optional (Expr.ofJson? m) (some (Json.awaits n)) =
      some (some (Expr.awaits n)) := by
    have value := Expr.ofJson?_awaits room
    cases n <;> simpa [Json.optional, Json.awaits, tagged] using value
  rw [Json.keep?_of_plain plain spelled, if_pos depth, Option.bind_some]
  simp [Declaration.ofJson?, FieldDecl.ofJson?, VariableDeclarator.ofJson?, Json.awaitsDeclaration,
    Json.fields?, Json.once?, Json.defaulted, Json.listOf?, initializer]
  simp [Json.optional]

theorem SourceUnit.parse_awaitsDump {n : Nat} (room : n ≤ 120) :
    parse (Json.awaitsDump n).compact = .ok (SourceUnit.awaits n) := by
  have read := (Json.plain_awaitsDump n).read_compact
  have declaration := Declaration.ofJson?_awaits (n := n) (m := 121) (by omega)
  refine parse_eq_ok_iff.2 ⟨_, read, ?_⟩
  simp [nestingLimit, SourceUnit.ofJson?, CompilationUnit.ofJson?, Json.awaitsDump,
    SourceUnit.awaits, Json.fields?, Json.once?, Json.defaulted, Json.listOf?, Json.optional,
    declaration]

theorem SourceUnit.depth_toJson_awaits (n : Nat) : (SourceUnit.awaits n).toJson.depth = n + 8 := by
  have depth : (Expr.awaits n).toJson.depth = n + 2 := by
    induction n with
    | zero => rfl
    | succ n ih => simp [Expr.awaits, Expr.toJson, Span.toJson, ih]
  simp [SourceUnit.awaits, SourceUnit.toJson, CompilationUnit.toJson, Declaration.toJson,
    FieldDecl.members, VariableDeclarator.toJson, optionalExprToJson_eq_orNull, orNull, Span.toJson,
    depth]

/-! ## Written dumps -/

/-- What an accepted dump is written as, in either layout, gives the same tree again exactly when it
opens no more levels than the limit, as it does when the dump itself left a level unused. Otherwise
it opens one level too many and is refused. -/
theorem SourceUnit.parse_written_iff {text : String} {u : SourceUnit}
    (accepted : parse text = .ok u) :
    (∀ written, written = u.toJson.compact ∨ written = u.toJson.pretty →
      (parse written = .ok u ↔ u.toJson.depth ≤ nestingLimit) ∧
      (parse written = .error .malformed ↔ u.toJson.depth = nestingLimit + 1)) ∧
    ∀ j, Json.read text = some j → j.depth < nestingLimit → u.toJson.depth ≤ nestingLimit := by
  obtain ⟨j, read, value⟩ := parse_eq_ok_iff.1 accepted
  have bound := depth_toJson_le value
  have limit : nestingLimit = 127 := rfl
  constructor
  · intro written layout
    have back : Json.read written = some u.toJson := by
      obtain rfl | rfl := layout
      · exact u.plain_toJson.read_compact
      · exact u.plain_toJson.read_pretty
    rw [parse_of_read back]
    by_cases room : u.toJson.depth ≤ nestingLimit
    · have within : u.toJson.depth ≠ nestingLimit + 1 := by omega
      simp [room, within]
    · have beyond : u.toJson.depth = nestingLimit + 1 := by omega
      simp [beyond]
  · intro j' read' flat
    obtain rfl : j = j' := Option.some_inj.1 (read.symm.trans read')
    omega

theorem SourceUnit.awaits_accepted_when_written :
    parse (Json.awaitsDump 119).compact = .ok (SourceUnit.awaits 119) ∧
      parse (SourceUnit.awaits 119).toJson.pretty = .ok (SourceUnit.awaits 119) := by
  have accepted := parse_awaitsDump (n := 119) (by decide)
  have room : (SourceUnit.awaits 119).toJson.depth ≤ nestingLimit := by
    rw [depth_toJson_awaits]
    decide
  exact ⟨accepted, ((parse_written_iff accepted).1 _ (.inr rfl)).1.2 room⟩

/-- With one more expression the dump is still accepted, and what it is written as is not. -/
theorem SourceUnit.awaits_refused_when_written :
    parse (Json.awaitsDump 120).compact = .ok (SourceUnit.awaits 120) ∧
      parse (SourceUnit.awaits 120).toJson.compact = .error .malformed := by
  have beyond : ¬ (SourceUnit.awaits 120).toJson.depth ≤ nestingLimit := by
    rw [depth_toJson_awaits]
    decide
  constructor
  · exact parse_awaitsDump (by decide)
  · rw [parse_of_read (SourceUnit.awaits 120).plain_toJson.read_compact, if_neg beyond]

end ArchLint
