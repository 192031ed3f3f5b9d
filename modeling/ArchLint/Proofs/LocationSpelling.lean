import Mathlib.Data.List.Infix
import ArchLint.Role
import ArchLint.Proofs.LocationPatterns
import ArchLint.Proofs.PathSegments

/-! # Spellings of configured locations

An entry of the entity or model locations is trimmed, its backslashes are turned and its letters are
made small, so other margins, other separators and another case of letters are no other location. Of the
core path only the letters are made small. A backslash in it is one that no path in normal form has, and
white space around it belongs to the names of its first and last directory.

* `Location.Variant`, `Layout.Respelled` — other spellings of a location and of all locations.
* `normalPattern_variant` — the entries of the two lists are compared alike.
* `Layout.coreDirectories?` — what the core path adds to the directories named `core`.
* `FileContext.placed_alike_iff` — when other spellings place every file alike.
-/

namespace ArchLint

/-! ## Spellings -/

/-- The second location is the first one with other separators and other cases of letters, between
margins of white space. -/
def Location.Variant (l m : String) : Prop :=
  ∃ front middle back, m.toList = front ++ (middle ++ back) ∧
    List.Forall₂ (Path.alike · ·) l.toList middle ∧
    front.all Text.isBlank = true ∧ back.all Text.isBlank = true

/-- Each location of the second layout is another spelling of that of the first one. -/
structure Layout.Respelled (l m : Layout) : Prop where
  features : m.featuresPath = l.featuresPath
  core : Location.Variant l.corePath m.corePath
  entities : List.Forall₂ Location.Variant l.entityPatterns m.entityPatterns
  models : List.Forall₂ Location.Variant l.modelPatterns m.modelPatterns

namespace Text

theorem isBlank_asciiLowerChar (c : Char) : isBlank (asciiLowerChar c) = isBlank c := by
  by_cases capital : 0x41 ≤ c.toNat ∧ c.toNat ≤ 0x5A
  · have ascii : c.toNat < 0x80 ∧ c.toNat + 0x20 < 0x80 := by omega
    rw [Bool.eq_iff_iff]
    simp [isBlank, toNat_asciiLowerChar, capital, ascii]
    omega
  · simp [isBlank, toNat_asciiLowerChar, capital]

end Text

/-- Neither turning a backslash nor making a letter small touches white space. -/
theorem stripBy_isBlank_asciiLower_forwardSlashes (cs : List Char) :
    Text.stripBy Text.isBlank (Text.asciiLower (forwardSlashes cs)) =
      Text.asciiLower (forwardSlashes (Text.stripBy Text.isBlank cs)) := by
  have small : Text.isBlank ∘ Text.asciiLowerChar = Text.isBlank :=
    funext Text.isBlank_asciiLowerChar
  have turned : Text.isBlank ∘ (fun c => if c == '\\' then '/' else c) = Text.isBlank := by
    funext c
    by_cases backslash : c = '\\'
    · subst backslash
      decide
    · simp [backslash]
  rw [Text.asciiLower, Text.stripBy_map, small, forwardSlashes, Text.stripBy_map, turned]
  rfl

theorem normalPattern_variant {l m : String} (h : Location.Variant l m) :
    normalPattern l = normalPattern m := by
  obtain ⟨front, middle, back, whole, alike, hf, hb⟩ := h
  have trimmed : Text.stripBy Text.isBlank m.toList = Text.stripBy Text.isBlank middle := by
    rw [whole, Text.stripBy_append_append (List.all_eq_true.1 hf) (List.all_eq_true.1 hb)]
  have same := asciiLower_forwardSlashes_eq alike
  rw [normalPattern, normalPattern, trimmed, ← Text.lower_asciiLower,
    ← stripBy_isBlank_asciiLower_forwardSlashes, same, stripBy_isBlank_asciiLower_forwardSlashes,
    Text.lower_asciiLower]

theorem NormalPath.any_matchesPattern_variant {ls ms : List String}
    (h : List.Forall₂ Location.Variant ls ms) (p : NormalPath) :
    ls.any p.matchesPattern = ms.any p.matchesPattern := by
  induction h with
  | nil => rfl
  | cons variant _ ih =>
    rw [List.any_cons, List.any_cons, ih, matchesPattern, normalPattern_variant variant, matchesPattern]

/-! ## The core path -/

/-- The core path as it is compared. -/
def Layout.coreName (l : Layout) : List Char :=
  Text.stripBy (· == '/') (Text.lower l.corePath.toList)

/-- The directories that the core path adds to those named `core`, if there can be files below them:
the core path must name something, no backslash is found on a path, and below a directory `core` a file
belongs to the core anyway. -/
def Layout.coreDirectories? (l : Layout) : Option (List (List Char)) :=
  if l.coreName = [] ∨ '\\' ∈ l.coreName ∨ "core".toList ∈ Text.segments '/' l.coreName then none
  else some (Text.segments '/' l.coreName)

namespace Layout

variable {l : Layout} {ds : List (List Char)}

theorem coreDirectories?_eq_some : l.coreDirectories? = some ds ↔
    (l.coreName ≠ [] ∧ '\\' ∉ l.coreName ∧ "core".toList ∉ Text.segments '/' l.coreName) ∧
      Text.segments '/' l.coreName = ds := by
  rw [coreDirectories?]
  split
  next blind => simp only [reduceCtorEq, false_iff]; tauto
  next reaches => simp only [Option.some.injEq, iff_and_self]; tauto

theorem lower_coreName (l : Layout) : Text.lower l.coreName = l.coreName := by
  rw [coreName, Text.stripBy_slash_lower, Text.lower_lower]

/-- There is a file directly below the directories that the core path adds. -/
theorem exists_path_of_coreDirectories? (h : l.coreDirectories? = some ds) :
    ∃ path, (NormalPath.of path).directories = ds := by
  obtain ⟨⟨nonempty, absent, -⟩, rfl⟩ := coreDirectories?_eq_some.1 h
  have turned : forwardSlashes (l.coreName ++ ['/', 'x']) = l.coreName ++ '/' :: ['x'] :=
    forwardSlashes_eq_self (by simpa using absent)
  have small : Text.lower (l.coreName ++ '/' :: ['x']) = l.coreName ++ '/' :: ['x'] := by
    rw [Text.lower_append_slash, lower_coreName]
    rfl
  have rooted : leadsWithSlash (l.coreName ++ '/' :: ['x']) = false := by
    obtain ⟨c, cs, chars⟩ := List.exists_cons_of_ne_nil nonempty
    have front : c ∈ l.coreName.head? := by rw [chars]; rfl
    rw [chars]
    exact Text.leadsWithSlash_cons_of_ne (by simpa using Text.eq_false_of_mem_head?_stripBy front) _
  refine ⟨String.ofList (l.coreName ++ ['/', 'x']), ?_⟩
  rw [NormalPath.directories, NormalPath.of]
  simp only [String.toList_ofList, turned, small, rooted, Bool.false_eq_true, if_false]
  have pieces : Text.segments '/' ('/' :: (l.coreName ++ '/' :: ['x'])) =
      [] :: (Text.segments '/' l.coreName ++ [['x']]) := by
    rw [← List.nil_append ('/' :: _), Text.segments_append_cons, Text.segments_append_cons]
    rfl
  rw [pieces, List.tail_cons, List.dropLast_concat]

end Layout

namespace FileContext

theorem isCorePath_iff (config : Config) (path : String) :
    (config.contextOf path).isCorePath = true ↔
      (∃ ds ∈ config.layout.coreDirectories?, ds <:+: (NormalPath.of path).directories) ∨
        "core".toList ∈ (NormalPath.of path).directories := by
  rw [isCorePath, Bool.or_eq_true, NormalPath.contains_iff_mem_directories (by decide) (by decide)]
  constructor
  · rintro (below | core)
    · obtain ⟨nonempty, run⟩ := NormalPath.containsChars_iff_directories.1 below
      obtain ⟨-, inside⟩ := NormalPath.containsChars_iff.1 below
      have absent : '\\' ∉ config.layout.coreName := by
        intro mem
        have found : '\\' ∈ '/' :: (config.layout.coreName ++ ['/']) := by simp [mem]
        exact NormalPath.not_backslash_mem_of path (inside.subset found)
      by_cases core : "core".toList ∈ Text.segments '/' config.layout.coreName
      · exact .inr (run.subset core)
      · exact .inl ⟨_, Layout.coreDirectories?_eq_some.2 ⟨⟨nonempty, absent, core⟩, rfl⟩, run⟩
    · exact .inr core
  · rintro (⟨ds, reaches, run⟩ | core)
    · obtain ⟨⟨nonempty, -, -⟩, rfl⟩ := Layout.coreDirectories?_eq_some.1 reaches
      exact .inl (NormalPath.containsChars_iff_directories.2 ⟨nonempty, run⟩)
    · exact .inr core

/-- If what lies in the core under one core path does so under another one, the directories that the
other one adds are a part of those that the first one adds. -/
theorem exists_infix_coreDirectories? {c d : Config} {ds : List (List Char)}
    (reaches : c.layout.coreDirectories? = some ds)
    (within : ∀ path, (c.contextOf path).isCorePath = true → (d.contextOf path).isCorePath = true) :
    ∃ es ∈ d.layout.coreDirectories?, es <:+: ds := by
  obtain ⟨path, rfl⟩ := Layout.exists_path_of_coreDirectories? reaches
  have core : (c.contextOf path).isCorePath = true :=
    (isCorePath_iff c path).2 (.inl ⟨_, reaches, List.infix_refl _⟩)
  obtain ⟨⟨-, -, absent⟩, directories⟩ := Layout.coreDirectories?_eq_some.1 reaches
  rw [directories] at absent
  exact ((isCorePath_iff d path).1 (within path core)).resolve_right absent

/-- Two core paths under which the same files belong to the core add the same directories. -/
theorem coreDirectories?_eq_of_isCorePath_eq {c d : Config}
    (same : ∀ path, (c.contextOf path).isCorePath = (d.contextOf path).isCorePath) :
    c.layout.coreDirectories? = d.layout.coreDirectories? := by
  cases reaches : c.layout.coreDirectories? with
  | none =>
    cases reaches' : d.layout.coreDirectories? with
    | none => rfl
    | some es =>
      obtain ⟨ds, mem, -⟩ := exists_infix_coreDirectories? reaches' fun path => (same path).trans
      rw [reaches] at mem
      cases mem
  | some ds =>
    obtain ⟨es, mem, inner⟩ := exists_infix_coreDirectories? reaches fun path => (same path).symm.trans
    obtain ⟨ds', mem', outer⟩ := exists_infix_coreDirectories? mem fun path => (same path).trans
    rw [reaches] at mem'
    obtain rfl : ds' = ds := (Option.some_inj.1 mem').symm
    obtain rfl := inner.eq_of_length (Nat.le_antisymm inner.length_le outer.length_le)
    exact mem.symm

section

variable {ctx ctx' : FileContext} (path : ctx.path = ctx'.path)
  (core : ctx.isCorePath = ctx'.isCorePath)

include path core

theorem isGlobalCubitPath_congr : ctx.isGlobalCubitPath = ctx'.isGlobalCubitPath := by
  simp only [isGlobalCubitPath, path, core]

/-- The role of a class depends on the configured locations only through three tests of the path. -/
theorem role_congr_of_placed (naming : ctx.naming = ctx'.naming)
    (entity : ctx.isEntityPath = ctx'.isEntityPath) (model : ctx.isModelPath = ctx'.isModelPath)
    (c : ClassDecl) : ctx.role c = ctx'.role c := by
  have isEntity : ctx.isEntity c = ctx'.isEntity c := by
    simp only [FileContext.isEntity, path, naming, entity]
  have isModel : ctx.isModel c = ctx'.isModel c := by
    simp only [FileContext.isModel, isModelLocation, path, naming, isEntity, model]
  have isRepositoryImplementation :
      ctx.isRepositoryImplementation c = ctx'.isRepositoryImplementation c := by
    simp only [FileContext.isRepositoryImplementation, path, naming]
  have isRepositoryInterface : ctx.isRepositoryInterface c = ctx'.isRepositoryInterface c := by
    simp only [FileContext.isRepositoryInterface, isRepositoryInterfacePath, path]
  have stateUnit : ctx.stateUnit? c = ctx'.stateUnit? c := by
    rw [stateUnit?, stateUnit?, naming]
  rw [role, role, isEntity, isModel, isRepositoryInterface, isRepositoryImplementation, stateUnit,
    isGlobalCubitPath_congr path core]

end

/-- Another spelling of the entries of the two lists places every file as before. Another spelling of
the core path does so exactly if it adds the same directories; it does when only the case of letters is
another one. -/
theorem placed_alike_iff (config : Config) (layout : Layout) (h : config.layout.Respelled layout) :
    let respelled := { config with layout := layout }
    (∀ path, (config.contextOf path).isEntityPath = (respelled.contextOf path).isEntityPath ∧
      (config.contextOf path).isModelPath = (respelled.contextOf path).isModelPath) ∧
    ((∀ path, (config.contextOf path).isCorePath = (respelled.contextOf path).isCorePath ∧
        (config.contextOf path).isGlobalCubitPath = (respelled.contextOf path).isGlobalCubitPath ∧
        ∀ c, (config.contextOf path).role c = (respelled.contextOf path).role c) ↔
      config.layout.coreDirectories? = layout.coreDirectories?) ∧
    (Text.asciiLower config.layout.corePath.toList = Text.asciiLower layout.corePath.toList →
      config.layout.coreDirectories? = layout.coreDirectories?) := by
  intro respelled
  have entity : ∀ path, (config.contextOf path).isEntityPath = (respelled.contextOf path).isEntityPath :=
    fun path => NormalPath.any_matchesPattern_variant h.entities (.of path)
  have model : ∀ path, (config.contextOf path).isModelPath = (respelled.contextOf path).isModelPath :=
    fun path => NormalPath.any_matchesPattern_variant h.models (.of path)
  have core : config.layout.coreDirectories? = layout.coreDirectories? → ∀ path,
      (config.contextOf path).isCorePath = (respelled.contextOf path).isCorePath := by
    intro directories path
    rw [Bool.eq_iff_iff, isCorePath_iff, isCorePath_iff, directories]
  have paths : ∀ path, (config.contextOf path).path = (respelled.contextOf path).path := fun _ => rfl
  refine ⟨fun path => ⟨entity path, model path⟩, ⟨fun same => ?_, fun directories path => ?_⟩, ?_⟩
  · exact coreDirectories?_eq_of_isCorePath_eq (c := config) (d := respelled) fun path => (same path).1
  · have core := core directories path
    have naming : (config.contextOf path).naming = (respelled.contextOf path).naming := rfl
    have global := isGlobalCubitPath_congr (paths path) core
    have role := role_congr_of_placed (paths path) core naming (entity path) (model path)
    exact ⟨core, global, role⟩
  · intro small
    have name : config.layout.coreName = layout.coreName := by
      rw [Layout.coreName, ← Text.lower_asciiLower, small, Text.lower_asciiLower, Layout.coreName]
    rw [Layout.coreDirectories?, name, Layout.coreDirectories?]

theorem placed_alike_capitals :
    let config : Config := {}
    let layout : Layout :=
      { corePath := "LIB/Core", entityPatterns := [" Domain\\Entities "]
        modelPatterns := ["\tDATA/models"] }
    let respelled : Config := { config with layout := layout }
    config.layout.Respelled layout ∧
      Text.asciiLower config.layout.corePath.toList = Text.asciiLower layout.corePath.toList ∧
      ∀ file, (config.contextOf file).isEntityPath = (respelled.contextOf file).isEntityPath ∧
        (config.contextOf file).isCorePath = (respelled.contextOf file).isCorePath := by
  intro config layout respelled
  have spelling : config.layout.Respelled layout :=
    { features := rfl
      core := ⟨[], "LIB/Core".toList, [], by decide⟩
      entities := .cons ⟨[' '], "Domain\\Entities".toList, [' '], by decide⟩ .nil
      models := .cons ⟨['\t'], "DATA/models".toList, [], by decide⟩ .nil }
  have small :
      Text.asciiLower config.layout.corePath.toList = Text.asciiLower layout.corePath.toList := by
    decide
  obtain ⟨listed, placed, cased⟩ := placed_alike_iff config layout spelling
  have core := placed.2 (cased small)
  exact ⟨spelling, small, fun file => ⟨(listed file).1, (core file).1⟩⟩

/-- A file of the core is none any more, and the Cubit in it is no global one, when the core path is
written with a backslash or with white space in front. -/
theorem core_path_respelled_loses_core :
    let file := "lib/shared/cubits/app_cubit.dart"
    let cubit : ClassDecl := { name := "AppCubit" }
    let configured (corePath : String) : Config := { layout := { corePath := corePath } }
    let plain := configured "lib/shared"
    ((plain.contextOf file).isCorePath = true ∧ (plain.contextOf file).isGlobalCubitPath = true ∧
      (plain.contextOf file).role cubit = .globalCubit) ∧
    ∀ corePath ∈ ["lib\\shared", " lib/shared"],
      let other := configured corePath
      plain.layout.Respelled other.layout ∧ (other.contextOf file).isCorePath = false ∧
        (other.contextOf file).isGlobalCubitPath = false ∧
        (other.contextOf file).role cubit = .cubit := by
  intro file cubit configured plain
  have alike : ∀ corePath, Location.Variant "lib/shared" corePath →
      plain.layout.Respelled (configured corePath).layout := fun _ core =>
    { features := rfl, core := core
      entities := .cons ⟨[], "domain/entities".toList, [], by decide⟩ .nil
      models := .cons ⟨[], "data/models".toList, [], by decide⟩ .nil }
  refine ⟨by decide +kernel, fun corePath mem => ?_⟩
  rcases List.mem_pair.1 mem with rfl | rfl
  · exact ⟨alike _ ⟨[], "lib\\shared".toList, [], by decide⟩, by decide +kernel⟩
  · exact ⟨alike _ ⟨[' '], "lib/shared".toList, [], by decide⟩, by decide +kernel⟩

end FileContext

end ArchLint
