import Mathlib.Data.List.Destutter
import Mathlib.Data.List.Sort
import Mathlib.Data.Set.Card
import ArchLint.Console.Run
import ArchLint.Proofs.PathOrder
import ArchLint.Proofs.TreePaths

/-! # The dump files that paths lead to

A path names a dump file or leads to those that a walk from a directory comes upon. What is collected from
several paths holds every sequence of components that they reach once, in strictly ascending order. So it is
settled by what is reached, whatever the paths that lead there.

* `Files.LeadsTo`, `Files.Reached` — what a path and several paths lead to, whatever walks come upon.
* `Files.dumps_ascending`, `Files.mem_map_components_dumps` — what is collected.
* `Files.ToldApart` — what tells files apart; `FileTree.toldApart_files` — in a tree it is their place.
* `Files.units_eq_of_reached` — what the files under analysis depend on.
-/

namespace ArchLint

/-! ## Walks -/

namespace Files

variable {files : Files} {path : String} {paths : List String} {f g : DumpFile}

/-- The path names the dump file, or a walk from it comes upon the dump file under its suffix. -/
inductive LeadsTo (files : Files) : String → DumpFile → Prop
  | named {path content} (file : files.entry? path = some (.file content)) :
    LeadsTo files path ⟨path, content⟩
  | walked {dir entries path content} (start : files.entry? dir = some (.directory entries))
      (visit : .ok path ∈ files.walk dir) (suffix : isDumpPath path = true)
      (file : files.entry? path = some (.file content)) : LeadsTo files dir ⟨path, content⟩

/-- One of the paths leads to the dump file. -/
def Reached (files : Files) (paths : List String) (f : DumpFile) : Prop :=
  ∃ path ∈ paths, files.LeadsTo path f

/-- What a path leads to lies under its own path. -/
theorem LeadsTo.entry?_eq (h : files.LeadsTo path f) : files.entry? f.path = some (.file f.content) := by
  cases h with
  | named file => exact file
  | walked _ _ _ file => exact file

theorem dumpAt?_eq_some_iff :
    files.dumpAt? path = some f ↔ f.path = path ∧ files.entry? path = some (.file f.content) := by
  rw [dumpAt?]
  constructor
  · intro found
    split at found
    next file =>
      obtain rfl := Option.some_inj.1 found
      exact ⟨rfl, file⟩
    next => cases found
  · rintro ⟨rfl, file⟩
    rw [file]

theorem walked?_eq_some_iff {e : Except String String} : files.walked? e = some f ↔
    e = .ok f.path ∧ isDumpPath f.path = true ∧ files.entry? f.path = some (.file f.content) := by
  cases e with
  | error text => simp [walked?]
  | ok path =>
    rw [walked?, Option.ite_none_right_eq_some, dumpAt?_eq_some_iff, Except.ok.injEq]
    constructor
    · rintro ⟨suffix, rfl, file⟩
      exact ⟨rfl, suffix, file⟩
    · rintro ⟨rfl, suffix, file⟩
      exact ⟨suffix, rfl, file⟩

theorem mem_dumpsFrom_iff : f ∈ files.dumpsFrom path ↔ files.LeadsTo path f := by
  rw [dumpsFrom]
  constructor
  · intro mem
    split at mem
    next file =>
      obtain rfl := List.mem_singleton.1 mem
      exact .named file
    next start =>
      obtain ⟨e, visit, found⟩ := List.mem_filterMap.1 mem
      obtain ⟨rfl, suffix, file⟩ := walked?_eq_some_iff.1 found
      exact .walked start visit suffix file
    next => cases mem
  · rintro (file | ⟨start, visit, suffix, file⟩)
    · simp [file]
    · rw [start]
      exact List.mem_filterMap.2 ⟨_, visit, walked?_eq_some_iff.2 ⟨rfl, suffix, file⟩⟩

theorem mem_flatMap_dumpsFrom_iff : f ∈ paths.flatMap files.dumpsFrom ↔ files.Reached paths f := by
  simp only [List.mem_flatMap, mem_dumpsFrom_iff, Reached]

end Files

/-! ## Collecting -/

/-- The components of the path that led to the dump file. -/
def DumpFile.components (f : DumpFile) : List Path.Component :=
  Path.components f.path

namespace Files

variable {files files' : Files} {paths paths' : List String} {f g : DumpFile}

/-- Of a run of dump files with the same components the first one counts. -/
theorem withoutRepeats_eq_destutter' (f : DumpFile) (rest : List DumpFile) :
    f :: withoutRepeats f rest =
      rest.destutter' (fun a b => a.components ≠ b.components) f := by
  induction rest generalizing f with
  | nil => rfl
  | cons g rest ih =>
    rw [withoutRepeats, List.destutter'_cons]
    by_cases same : f.components = g.components
    · rw [if_pos (Path.same_iff.2 same), if_neg (not_not.2 same), ih f]
    · rw [if_neg (mt Path.same_iff.1 same), if_pos same, ih g]

/-- What the paths lead to, sorted. -/
def sorted (files : Files) (paths : List String) : List DumpFile :=
  (paths.flatMap files.dumpsFrom).mergeSort fun a b => (Path.order a.path b.path).isLE

theorem dumps_eq_destutter (files : Files) (paths : List String) : files.dumps paths =
    (files.sorted paths).destutter fun a b => a.components ≠ b.components := by
  rw [dumps, ← sorted]
  cases files.sorted paths with
  | nil => rfl
  | cons f rest => exact withoutRepeats_eq_destutter' f rest

theorem mem_sorted_iff : f ∈ files.sorted paths ↔ files.Reached paths f := by
  rw [sorted, List.mem_mergeSort, mem_flatMap_dumpsFrom_iff]

theorem reached_of_mem_dumps (mem : f ∈ files.dumps paths) : files.Reached paths f := by
  rw [dumps_eq_destutter] at mem
  exact mem_sorted_iff.1 ((List.destutter_sublist _ _).mem mem)

/-- The first components come no later. -/
def NotAfter (a b : List Path.Component) : Prop :=
  (compare a b).isLE = true

instance : Std.Antisymm NotAfter where
  antisymm _ _ ab ba := Std.LawfulEqOrd.eq_of_compare (Std.OrientedCmp.isLE_antisymm ab ba)

theorem pairwise_sorted (files : Files) (paths : List String) :
    (files.sorted paths).Pairwise fun a b => NotAfter a.components b.components :=
  @pairwise_mergeSort_isLE _ (compareOn DumpFile.components) _ (paths.flatMap files.dumpsFrom)

theorem map_components_dumps (files : Files) (paths : List String) :
    (files.dumps paths).map DumpFile.components =
      ((files.sorted paths).map DumpFile.components).dedup := by
  -- Equal ones are neighbours after the sort, so to drop repeats in a row is to drop all repeats.
  rw [dumps_eq_destutter, ← (List.pairwise_map.2 (pairwise_sorted files paths)).destutter_eq_dedup]
  exact List.map_destutter fun _ _ _ _ => Iff.rfl

/-- The components of what is collected are those of what is reached. -/
theorem mem_map_components_dumps {cs : List Path.Component} :
    cs ∈ (files.dumps paths).map DumpFile.components ↔
      ∃ f, files.Reached paths f ∧ f.components = cs := by
  simp only [map_components_dumps, List.mem_dedup, List.mem_map, mem_sorted_iff]

theorem nodup_map_components_dumps (files : Files) (paths : List String) :
    ((files.dumps paths).map DumpFile.components).Nodup :=
  map_components_dumps files paths ▸ List.nodup_dedup _

/-- What is collected stands in strictly ascending order. -/
theorem dumps_ascending (files : Files) (paths : List String) :
    (files.dumps paths).Pairwise fun f g => compare f.components g.components = .lt := by
  have apart := List.pairwise_map.1 (nodup_map_components_dumps files paths)
  have ordered : (files.dumps paths).Pairwise fun f g => NotAfter f.components g.components := by
    rw [dumps_eq_destutter]
    exact (pairwise_sorted files paths).sublist (List.destutter_sublist _ _)
  refine (ordered.and apart).imp ?_
  rintro f g ⟨le, ne⟩
  exact (Ordering.isLE_iff_eq_lt_or_eq_eq.1 le).resolve_right (mt Std.LawfulEqOrd.eq_of_compare ne)

theorem dumps_eq_nil_iff : files.dumps paths = [] ↔ ∀ f, ¬ files.Reached paths f := by
  rw [← @List.map_eq_nil_iff _ _ DumpFile.components, List.eq_nil_iff_forall_not_mem]
  simp only [mem_map_components_dumps]
  constructor
  · intro none f reached
    exact none _ ⟨f, reached, rfl⟩
  · rintro none _ ⟨f, reached, -⟩
    exact none f reached

end Files

/-! ## Telling files apart -/

/-- Of two dump files that lie at one place, `place` giving the place for the components of a path, both
have the same content. -/
def Files.ToldApart {κ : Type} (files : Files) (place : List Path.Component → κ) : Prop :=
  ∀ ⦃p q : String⦄ ⦃f g : DumpFile⦄, files.LeadsTo p f → files.LeadsTo q g →
    place f.components = place g.components → f.content = g.content

/-- In a tree the names from the top tell files apart. -/
theorem FileTree.toldApart_files (t : FileTree) : t.files.ToldApart Path.place := by
  intro p q f g hf hg same
  have first := descend?_place hf.entry?_eq
  have second := descend?_place hg.entry?_eq
  rw [← DumpFile.components] at first second
  rw [same, second] at first
  simpa using first.symm

/-! ## Files under analysis -/

/-- The path under which a dump file is read shows in its errors only. -/
theorem DumpFile.unit?_congr {f g : DumpFile} (same : f.content = g.content) :
    f.unit? = g.unit? := by
  rw [unit?, unit?, read, read, same]
  cases String.fromUTF8? g.content <;> rfl

/-- The dump of an empty file under analysis. -/
def blankDump : ByteArray :=
  "\x7b\"path\":\"lib/a.dart\",\"unit\":\x7b\x7d\x7d".toUTF8

namespace Files

variable {files files' : Files} {paths paths' : List String}

/-- What the paths reach under the same components is the same file under analysis, or none. -/
def Settled (files : Files) (paths : List String) : Prop :=
  ∀ ⦃f g⦄, files.Reached paths f → files.Reached paths g → f.components = g.components →
    f.unit? = g.unit?

theorem ToldApart.settled {κ : Type} {place : List Path.Component → κ} (h : files.ToldApart place)
    (paths : List String) : files.Settled paths := by
  rintro f g ⟨p, -, hf⟩ ⟨q, -, hg⟩ same
  exact DumpFile.unit?_congr (h hf hg (congrArg place same))

/-- The files under analysis in what is collected, each with the components that led to it. -/
def readings (files : Files) (paths : List String) : List (List Path.Component × SourceUnit) :=
  (files.dumps paths).filterMap fun f => f.unit?.map (f.components, ·)

theorem map_snd_readings (files : Files) (paths : List String) :
    (files.readings paths).map Prod.snd = (files.dumps paths).filterMap DumpFile.unit? := by
  rw [readings, List.map_filterMap]
  congr 1
  funext f
  simp [Option.map_map, Function.comp_def]

/-- The first reading stands under earlier components. -/
def Earlier (a b : List Path.Component × SourceUnit) : Prop :=
  compare a.1 b.1 = .lt

instance : Std.Irrefl Earlier where
  irrefl a before := by
    have self : compare a.1 a.1 = .eq := Std.ReflCmp.compare_self
    cases self.symm.trans before

instance : Std.Antisymm Earlier where
  antisymm _ _ ab ba := absurd ba (Std.OrientedCmp.not_lt_of_lt ab)

theorem readings_ascending (files : Files) (paths : List String) :
    (files.readings paths).Pairwise Earlier := by
  refine List.pairwise_filterMap.2 ((dumps_ascending files paths).imp ?_)
  intro f g before a ha b hb
  obtain ⟨_, -, rfl⟩ := Option.map_eq_some_iff.1 ha
  obtain ⟨_, -, rfl⟩ := Option.map_eq_some_iff.1 hb
  exact before

theorem mem_readings_iff (settled : files.Settled paths) {cs : List Path.Component}
    {u : SourceUnit} : (cs, u) ∈ files.readings paths ↔
      ∃ f, files.Reached paths f ∧ f.components = cs ∧ f.unit? = some u := by
  rw [readings, List.mem_filterMap]
  constructor
  · rintro ⟨f, mem, reading⟩
    obtain ⟨u, holds, same⟩ := Option.map_eq_some_iff.1 reading
    cases same
    exact ⟨f, reached_of_mem_dumps mem, rfl, holds⟩
  · rintro ⟨f, reached, rfl, holds⟩
    -- The one that was collected may come by another path, but with the same components.
    obtain ⟨g, mem, same⟩ := List.mem_map.1 (mem_map_components_dumps.2 ⟨f, reached, rfl⟩)
    refine ⟨g, mem, ?_⟩
    rw [settled (reached_of_mem_dumps mem) reached same, holds, same]
    rfl

/-- The files under analysis depend on nothing but the components under which they are reached. -/
theorem units_eq_of_reached (settled : files.Settled paths) (settled' : files'.Settled paths')
    (same : ∀ cs u, (∃ f, files.Reached paths f ∧ f.components = cs ∧ f.unit? = some u) ↔
      ∃ f, files'.Reached paths' f ∧ f.components = cs ∧ f.unit? = some u) :
    (files.dumps paths).filterMap DumpFile.unit? =
      (files'.dumps paths').filterMap DumpFile.unit? := by
  -- Two strictly ascending lists with the same members are the same list.
  have equal : files.readings paths = files'.readings paths' := by
    refine (readings_ascending files paths).eq_of_mem_iff (readings_ascending files' paths') ?_
    rintro ⟨cs, u⟩
    rw [mem_readings_iff settled, mem_readings_iff settled', same]
  rw [← map_snd_readings, ← map_snd_readings, equal]

end Files

/-! ## Outcomes -/

/-- What a run prints and its exit code. -/
def Outcome.visible (o : Outcome) : String × UInt32 :=
  (o.output, o.code)

variable {files files' : Files} {paths paths' : List String}

theorem checkDumps_visible (draw : Drawing) (a : Analyzer) (format : Format)
    (log log' : List LogLine) {dumps dumps' : List DumpFile} (some : dumps = [] ↔ dumps' = [])
    (units : dumps.filterMap DumpFile.unit? = dumps'.filterMap DumpFile.unit?) :
    (checkDumps draw a format log dumps).visible =
      (checkDumps draw a format log' dumps').visible := by
  cases dumps with
  | nil => rw [some.1 rfl]; rfl
  | cons f dumps =>
    cases dumps' with
    | nil => cases some.2 rfl
    | cons f' dumps' =>
      simp only [checkDumps, List.isEmpty_cons, Bool.false_eq_true, if_false, units]
      rfl

/-- What a check prints and its exit code depend on the configuration and on the files under analysis, and
on whether anything was collected. -/
theorem checkRun_visible (draw : Drawing) {source source' : ConfigSource} (format : Format)
    (rules : Option String) (config : source.load files = source'.load files')
    (some : files.dumps paths = [] ↔ files'.dumps paths' = [])
    (units : (files.dumps paths).filterMap DumpFile.unit? =
      (files'.dumps paths').filterMap DumpFile.unit?) :
    (checkRun draw files source paths format rules).visible =
      (checkRun draw files' source' paths' format rules).visible := by
  rw [checkRun, checkRun, config]
  cases source'.load files' with
  | error => rfl
  | ok loaded => exact checkDumps_visible _ _ _ _ _ some units

/-- A check that finds nothing in what it collects prints how many files it has checked. -/
theorem run_output_of_silent (draw : Drawing) {f : DumpFile} {dumps : List DumpFile}
    (config : (ConfigSource.find files "." none).load files = .ok ({}, []))
    (collected : files.dumps paths = f :: dumps)
    (silent : ((f :: dumps).filterMap DumpFile.unit?).flatMap
      ({ rules := Rule.catalog } : Analyzer).check = []) :
    (({ command := .check paths .text none } : Invocation).run draw files).output =
      Report.plain ⟨[], UInt64.ofNat ((f :: dumps).filterMap DumpFile.unit?).length⟩ := by
  have report : ({ rules := Rule.catalog } : Analyzer).analyze
      ((f :: dumps).filterMap DumpFile.unit?) =
        ⟨[], UInt64.ofNat ((f :: dumps).filterMap DumpFile.unit?).length⟩ := by
    rw [Analyzer.analyze, silent, Report.sort, List.mergeSort_nil]
  simp only [Invocation.run, checkRun, config, collected, checkDumps, List.isEmpty_cons,
    Bool.false_eq_true, if_false, Option.map_none, Option.getD_none, report, Report.layout]

end ArchLint
