import Mathlib.Data.List.Find
import ArchLint.Console.Run
import ArchLint.Proofs.TreePaths

/-! # Trees that gain malformed files

A tree may gain entries that hold no file under analysis. What its paths led to is still there, and a walk
comes upon all that it came upon, and besides only upon what was added, unless an entry was added that
excludes others.

* `FileTree.Visits` — what a walk comes upon; `FileTree.Visits.at?_eq` — its path leads there.
* `FileTree.Gains` — a tree and the same with malformed entries; `FileTree.Gains.at?` — what paths lead to.
* `FileTree.Visits.gains`, `FileTree.Visits.of_gains` — what walks come upon.
* `FileTree.Gains.load_eq` — the configuration of a run.
-/

namespace ArchLint

namespace FileTree

/-! ## Walks -/

/-- A walk from a path, which has the tree behind it, comes upon an entry: its path, and what is there. -/
inductive Visits : FileTree → String → List String → String × FileTree → Prop
  | here {t path excluded} : Visits t path excluded (path, t)
  | entry {entries path excluded name t e} (listed : (name, t) ∈ entries)
      (shown : Path.isHidden name = false) (kept : name ∉ excludedNames entries ++ excluded)
      (inner : Visits t (Path.join path name) (excludedNames entries ++ excluded) e) :
    Visits (.directory entries) path excluded e

theorem visits_file_iff {content : ByteArray} {path : String} {excluded : List String}
    {e : String × FileTree} :
    (file content).Visits path excluded e ↔ e = (path, .file content) := by
  constructor
  · rintro ⟨⟩
    rfl
  · rintro rfl
    exact .here

theorem visits_directory_iff {entries : List (String × FileTree)} {path : String}
    {excluded : List String} {e : String × FileTree} :
    (directory entries).Visits path excluded e ↔ e = (path, .directory entries) ∨
      ∃ d ∈ entries, (Path.isHidden d.1 = false ∧ d.1 ∉ excludedNames entries ++ excluded) ∧
        d.2.Visits (Path.join path d.1) (excludedNames entries ++ excluded) e := by
  constructor
  · rintro (_ | ⟨listed, shown, kept, inner⟩)
    · exact .inl rfl
    · exact .inr ⟨_, listed, ⟨shown, kept⟩, inner⟩
  · rintro (rfl | ⟨d, listed, ⟨shown, kept⟩, inner⟩)
    · exact .here
    · exact .entry listed shown kept inner

-- The walk of a directory and the walk of its entries call each other, so both are settled at once.
mutual

theorem mem_walk_iff (path : String) (excluded : List String) (e : String × FileTree) :
    ∀ t : FileTree, e ∈ t.walk path excluded ↔ t.Visits path excluded e
  | .file content => by rw [visits_file_iff, walk, List.mem_singleton]
  | .directory entries => by
    rw [visits_directory_iff, walk, List.mem_cons, mem_walkEntries_iff path _ e entries]

theorem mem_walkEntries_iff (path : String) (excluded : List String) (e : String × FileTree) :
    ∀ entries : List (String × FileTree), e ∈ walkEntries path excluded entries ↔
      ∃ d ∈ entries, (Path.isHidden d.1 = false ∧ d.1 ∉ excluded) ∧
        d.2.Visits (Path.join path d.1) excluded e
  | [] => by simp [walkEntries]
  | (name, t) :: rest => by
    have first := mem_walk_iff (Path.join path name) excluded e t
    rw [walkEntries, List.mem_append, mem_walkEntries_iff path excluded e rest,
      List.exists_mem_cons_iff, ← first]
    cases hidden : Path.isHidden name with
    | true => simp
    | false => by_cases skipped : name ∈ excluded <;> simp [skipped]

end

variable {t t' s s' : FileTree} {path : String} {excluded : List String} {e : String × FileTree}

/-- A walk from a path of the tree gives everything a path that leads to it. -/
theorem Visits.at?_eq (h : s.Visits path excluded e) (lawful : t.Lawful)
    (leads : t.at? path = some s) : t.at? e.1 = some e.2 := by
  induction h with
  | here => exact leads
  -- No name is listed twice and none is hidden, so the longer path leads to the entry itself.
  | entry listed shown _ _ ih =>
    refine ih ?_
    cases lawful.at? leads with
    | directory distinct proper =>
      obtain ⟨nonempty, single⟩ := proper _ listed
      rw [at?_join leads nonempty single shown]
      exact lookup_of_mem distinct listed

theorem ok_mem_walk_iff {dir : String} (leads : t.at? dir = some s) :
    .ok path ∈ t.files.walk dir ↔ ∃ found, s.Visits dir [] (path, found) := by
  simp [files, leads, mem_walk_iff]

/-! ## Gains -/

/-- No file in the tree gives a file under analysis. -/
inductive Malformed : FileTree → Prop
  | file {content : ByteArray} (none : ∀ path, (⟨path, content⟩ : DumpFile).unit? = none) :
    Malformed (.file content)
  | directory {entries : List (String × FileTree)} (inner : ∀ e ∈ entries, Malformed e.2) :
    Malformed (.directory entries)

mutual

/-- The second tree is the first one with malformed entries added to its directories. -/
inductive Gains : FileTree → FileTree → Prop
  | file (content : ByteArray) : Gains (.file content) (.file content)
  | directory {entries entries'} (inner : EntriesGain entries entries') :
    Gains (.directory entries) (.directory entries')

/-- The entries of a directory and the same with malformed ones among them, none of which excludes
others. -/
inductive EntriesGain : List (String × FileTree) → List (String × FileTree) → Prop
  | nil : EntriesGain [] []
  | keep {name t t' rest rest'} (entry : Gains t t') (others : EntriesGain rest rest') :
    EntriesGain ((name, t) :: rest) ((name, t') :: rest')
  | add {name t rest rest'} (malformed : Malformed t) (harmless : name ≠ ".ignore")
      (others : EntriesGain rest rest') :
    EntriesGain rest ((name, t) :: rest')

end

theorem EntriesGain.mem {entries entries' : List (String × FileTree)} {name : String} {t : FileTree}
    (h : EntriesGain entries entries') (listed : (name, t) ∈ entries) :
    ∃ t', (name, t') ∈ entries' ∧ t.Gains t' := by
  cases h with
  | nil => cases listed
  | keep entry others =>
    rcases List.mem_cons.1 listed with same | later
    · cases same
      exact ⟨_, List.mem_cons_self, entry⟩
    · obtain ⟨t', later', gains⟩ := others.mem later
      exact ⟨t', .tail _ later', gains⟩
  | add _ _ others =>
    obtain ⟨t', later', gains⟩ := others.mem listed
    exact ⟨t', .tail _ later', gains⟩
termination_by sizeOf entries'

theorem EntriesGain.mem_or {entries entries' : List (String × FileTree)} {name : String}
    {t' : FileTree} (h : EntriesGain entries entries') (listed : (name, t') ∈ entries') :
    (∃ t, (name, t) ∈ entries ∧ t.Gains t') ∨ t'.Malformed := by
  cases h with
  | nil => cases listed
  | keep entry others =>
    rcases List.mem_cons.1 listed with same | later
    · cases same
      exact .inl ⟨_, List.mem_cons_self, entry⟩
    · rcases others.mem_or later with ⟨t, earlier, gains⟩ | malformed
      · exact .inl ⟨t, .tail _ earlier, gains⟩
      · exact .inr malformed
  | add malformed _ others =>
    rcases List.mem_cons.1 listed with same | later
    · cases same
      exact .inr malformed
    · exact others.mem_or later
termination_by sizeOf entries'

theorem EntriesGain.excludedNames_eq {entries entries' : List (String × FileTree)}
    (h : EntriesGain entries entries') : excludedNames entries' = excludedNames entries := by
  cases h with
  | nil => rfl
  | @keep name _ _ _ _ entry others =>
    have ih := others.excludedNames_eq
    rw [excludedNames, excludedNames, List.lookup_cons, List.lookup_cons]
    cases ".ignore" == name with
    | false => exact ih
    -- The file that excludes is one that was there, with the content that it had.
    | true => cases entry <;> rfl
  | add _ harmless others =>
    rw [excludedNames, List.lookup_cons, beq_false_of_ne harmless.symm]
    exact others.excludedNames_eq
termination_by sizeOf entries'

/-! ## What walks come upon -/

theorem Visits.gains (h : s.Visits path excluded e) (gains : s.Gains s') :
    ∃ found, s'.Visits path excluded (e.1, found) := by
  induction h generalizing s' with
  | here => exact ⟨s', .here⟩
  | entry listed shown kept _ ih =>
    cases gains with
    | directory inner =>
      -- What was added excludes nothing, so the entry is not passed over now either.
      rw [← inner.excludedNames_eq] at kept ih
      obtain ⟨t', listed', entry⟩ := inner.mem listed
      obtain ⟨found, visit⟩ := ih entry
      exact ⟨found, .entry listed' shown kept visit⟩

theorem Visits.malformed (h : s.Visits path excluded e) (malformed : s.Malformed) :
    e.2.Malformed := by
  induction h with
  | here => exact malformed
  | entry listed _ _ _ ih =>
    cases malformed with
    | directory inner => exact ih (inner _ listed)

theorem Visits.of_gains (h : s'.Visits path excluded e) (gains : s.Gains s') :
    (∃ found, s.Visits path excluded (e.1, found) ∧ found.Gains e.2) ∨ e.2.Malformed := by
  induction h generalizing s with
  | here => exact .inl ⟨s, .here, gains⟩
  | entry listed shown kept inner ih =>
    cases gains with
    | directory more =>
      rw [more.excludedNames_eq] at kept ih
      rcases more.mem_or listed with ⟨t, listed, entry⟩ | malformed
      · refine (ih entry).imp_left ?_
        rintro ⟨found, visit, gains⟩
        exact ⟨found, .entry listed shown kept visit, gains⟩
      -- Everything below an entry that was added is malformed.
      · exact .inr (inner.malformed malformed)

/-! ## Paths -/

/-- The two trees are a directory passed through and the same with malformed entries added. -/
def Outer (a b : FileTree) : Prop :=
  a.Gains b ∧ b.Lawful

theorem Gains.goes {segment : List Char} {above above' above₁ : List FileTree}
    (step : Goes segment t above s above₁) (gains : t.Gains t') (lawful : t'.Lawful)
    (outer : List.Forall₂ Outer above above') :
    ∃ s' above₁', Goes segment t' above' s' above₁' ∧ s.Gains s' ∧ s'.Lawful ∧
      List.Forall₂ Outer above₁ above₁' := by
  obtain _ | inner := gains
  · cases step
  · cases step with
    | stay idle => exact ⟨_, _, .stay idle, .directory inner, lawful, outer⟩
    -- The way up leads to the counterpart of the directory passed through last.
    | leave up =>
      obtain _ | ⟨first, outer⟩ := outer
      exact ⟨_, _, .leave up, first.1, first.2, outer⟩
    | enter named listed =>
      obtain ⟨t', listed', entry⟩ := inner.mem (mem_of_lookup listed)
      cases lawful with
      | directory distinct proper below =>
        exact ⟨t', _, .enter named (lookup_of_mem distinct listed'), entry, below _ listed',
          .cons ⟨.directory inner, .directory distinct proper below⟩ outer⟩

theorem Gains.follows {segments : List (List Char)} {above above' above₁ : List FileTree}
    (way : Follows segments t above s above₁) (gains : t.Gains t') (lawful : t'.Lawful)
    (outer : List.Forall₂ Outer above above') :
    ∃ s' above₁', Follows segments t' above' s' above₁' ∧ s.Gains s' := by
  induction way generalizing t' above' with
  | nil => exact ⟨t', above', .nil, gains⟩
  | cons step _ ih =>
    obtain ⟨_, _, step', gains, lawful, outer⟩ := gains.goes step lawful outer
    obtain ⟨s', above₁', others, more⟩ := ih gains lawful outer
    exact ⟨s', above₁', .cons step' others, more⟩

/-- What a path leads to stays there, with malformed entries added to it. -/
theorem Gains.at? (gains : t.Gains t') (lawful : t'.Lawful) (leads : t.at? path = some s) :
    ∃ s', t'.at? path = some s' ∧ s.Gains s' := by
  obtain ⟨relative, leads⟩ := at?_eq_some_iff.1 leads
  obtain ⟨_, way⟩ := exists_follows leads
  obtain ⟨s', _, way', more⟩ := gains.follows way lawful .nil
  have leads' := way'.follow_eq []
  rw [List.append_nil, FileTree.follow] at leads'
  exact ⟨s', at?_eq_some_iff.2 ⟨relative, leads'⟩, more⟩

end FileTree

/-! ## Configurations -/

/-- Where the configuration may lie. -/
def Invocation.settingsPaths (i : Invocation) : List String :=
  match i.config with
  | some path => [path]
  | none => Config.fileNames.map (Path.join i.project)

namespace FileTree

variable {t t' : FileTree}

/-- A path at which no file is new leads to the text that it led to. -/
theorem Gains.isFile_text?_eq (gains : t.Gains t') (lawful : t'.Lawful) {path : String}
    (old : t'.files.isFile path = true → t.files.isFile path = true) :
    t'.files.isFile path = t.files.isFile path ∧ t'.files.text? path = t.files.text? path := by
  simp only [Files.isFile, Files.text?, files] at old ⊢
  cases before : t.at? path with
  | some s =>
    obtain ⟨s', after, more⟩ := gains.at? lawful before
    rw [after]
    cases more <;> exact ⟨rfl, rfl⟩
  | none =>
    rw [before] at old
    cases after : t'.at? path with
    | none => exact ⟨rfl, rfl⟩
    | some s' =>
      rw [after] at old
      -- Something new lies here. It is no file, and a directory is no file and has no text either way.
      cases s' with
      | file => cases old rfl
      | directory => exact ⟨rfl, rfl⟩

/-- A run has the configuration that it had if no new file lies where it may lie. -/
theorem Gains.load_eq (gains : t.Gains t') (lawful : t'.Lawful) (i : Invocation)
    (old : ∀ path ∈ i.settingsPaths, t'.files.isFile path = true → t.files.isFile path = true) :
    (ConfigSource.find t'.files i.project i.config).load t'.files =
      (ConfigSource.find t.files i.project i.config).load t.files := by
  have same : ∀ path ∈ i.settingsPaths, t'.files.isFile path = t.files.isFile path ∧
      Config.ofFile t'.files path = Config.ofFile t.files path := by
    intro path mem
    obtain ⟨isFile, text⟩ := gains.isFile_text?_eq lawful (old path mem)
    exact ⟨isFile, by rw [Config.ofFile, Config.ofFile, text]⟩
  rw [Invocation.settingsPaths] at same
  cases given : i.config with
  | some path =>
    rw [given] at same
    have read := (same path List.mem_cons_self).2
    simp only [ConfigSource.find, ConfigSource.load, read]
  | none =>
    rw [given] at same
    have names : Config.fileName? t'.files i.project = Config.fileName? t.files i.project :=
      List.find?_congr fun name mem => (same _ (List.mem_map_of_mem mem)).1
    simp only [ConfigSource.find, names]
    cases found : Config.fileName? t.files i.project with
    | none => rfl
    | some name =>
      have read := (same _ (List.mem_map_of_mem (List.mem_of_find?_eq_some found))).2
      simp only [ConfigSource.load, read]

end FileTree

end ArchLint
