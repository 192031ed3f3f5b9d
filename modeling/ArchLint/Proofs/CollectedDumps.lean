import ArchLint.Proofs.ListLaws
import ArchLint.Proofs.ReachedDumps

/-! # How often a dump file is checked

What is collected from the paths of a check is told apart by the components of its path, and the place where
a file lies is not: `a` and `./a` lead to one file and have different components. So a file is checked as
often as there are sequences of components that lead to it, and that is once exactly if the paths reach
it under one such sequence.

* `Files.spellings`, `Files.acceptedSpellings` — the components under which dump files are reached.
* `Files.countP_dumps_eq_ncard`, `Files.length_units_eq_ncard` — how many dump files are checked.
* `Files.checked_once_iff_spelled_alike` — when a file is checked once, and what a check depends on.
-/

namespace ArchLint.Files

variable {files : Files} {paths paths' : List String}

/-! ## Counting -/

/-- The components of the paths under which dump files are reached. -/
def spellings (files : Files) (paths : List String) : Set (List Path.Component) :=
  {cs | ∃ f, files.Reached paths f ∧ f.components = cs}

/-- Those under which files under analysis are reached. -/
def acceptedSpellings (files : Files) (paths : List String) : Set (List Path.Component) :=
  {cs | ∃ f, files.Reached paths f ∧ f.components = cs ∧ f.unit?.isSome = true}

theorem mem_spellings_iff {cs : List Path.Component} :
    cs ∈ files.spellings paths ↔ cs ∈ (files.dumps paths).map DumpFile.components :=
  mem_map_components_dumps.symm

/-- The spellings can be read off the walks. -/
theorem mem_spellings_iff_dumpsFrom {cs : List Path.Component} : cs ∈ files.spellings paths ↔
    cs ∈ (paths.flatMap files.dumpsFrom).map DumpFile.components := by
  simp only [List.mem_map, mem_flatMap_dumpsFrom_iff]
  rfl

theorem dumps_eq_nil_iff_spellings : files.dumps paths = [] ↔ files.spellings paths = ∅ := by
  rw [dumps_eq_nil_iff, Set.eq_empty_iff_forall_notMem]
  constructor
  · rintro none _ ⟨f, reached, -⟩
    exact none f reached
  · intro none f reached
    exact none _ ⟨f, reached, rfl⟩

theorem finite_spellings (files : Files) (paths : List String) : (files.spellings paths).Finite :=
  (List.finite_toSet ((files.dumps paths).map DumpFile.components)).subset
    fun _ mem => mem_spellings_iff.1 mem

theorem finite_acceptedSpellings (files : Files) (paths : List String) :
    (files.acceptedSpellings paths).Finite :=
  (finite_spellings files paths).subset fun _ ⟨f, reached, same, _⟩ => ⟨f, reached, same⟩

/-- What is collected holds as many dump files as there are spellings, whatever is counted of them. -/
theorem countP_dumps_eq_ncard (files : Files) (paths : List String)
    (p : List Path.Component → Prop) [DecidablePred p] :
    ((files.dumps paths).countP fun f => p f.components) =
      {cs ∈ files.spellings paths | p cs}.ncard := by
  have counted := length_eq_ncard ((nodup_map_components_dumps files paths).filter (p ·))
  rw [← List.countP_eq_length_filter, List.countP_map, Function.comp_def] at counted
  rw [counted]
  congr 1
  ext cs
  simp only [Set.mem_ofPred_eq, List.mem_filter, mem_spellings_iff, decide_eq_true_iff]

theorem length_units_eq_ncard (settled : files.Settled paths) :
    ((files.dumps paths).filterMap DumpFile.unit?).length =
      (files.acceptedSpellings paths).ncard := by
  -- Spellings are counted, not files: of the readings each stands under components of its own.
  have nodup : ((files.readings paths).map Prod.fst).Nodup := by
    refine List.pairwise_map.2 ((readings_ascending files paths).imp fun before same => ?_)
    rw [Earlier, same] at before
    exact Std.Irrefl.irrefl (r := Earlier) _ before
  have counted := length_eq_ncard nodup
  rw [List.length_map] at counted
  rw [← map_snd_readings, List.length_map, counted]
  congr 1
  ext cs
  simp only [Set.mem_ofPred_eq, List.mem_map, Prod.exists, exists_and_right, exists_eq_right,
    mem_readings_iff settled, acceptedSpellings, Option.isSome_iff_exists]
  constructor
  · rintro ⟨u, f, reached, same, holds⟩
    exact ⟨f, reached, same, u, holds⟩
  · rintro ⟨f, reached, same, u, holds⟩
    exact ⟨u, f, reached, same, holds⟩

/-! ## Checked once -/

section Told

variable {κ : Type} {place : List Path.Component → κ}

/-- Paths that reach the same spellings lead to the same files under analysis. -/
theorem ToldApart.units_eq (told : files.ToldApart place)
    (same : files.spellings paths = files.spellings paths') :
    (files.dumps paths).filterMap DumpFile.unit? =
      (files.dumps paths').filterMap DumpFile.unit? := by
  have half : ∀ {ps qs : List String}, files.spellings ps = files.spellings qs → ∀ cs u,
      (∃ f, files.Reached ps f ∧ f.components = cs ∧ f.unit? = some u) →
      ∃ f, files.Reached qs f ∧ f.components = cs ∧ f.unit? = some u := by
    rintro ps qs same _ u ⟨f, reached, rfl, holds⟩
    have other : f.components ∈ files.spellings qs := same ▸ ⟨f, reached, rfl⟩
    obtain ⟨g, reached', alike⟩ := other
    obtain ⟨_, -, leads⟩ := reached
    obtain ⟨_, given, leads'⟩ := reached'
    have content := DumpFile.unit?_congr (told leads' leads (congrArg place alike))
    exact ⟨g, ⟨_, given, leads'⟩, alike, content.trans holds⟩
  refine units_eq_of_reached (told.settled paths) (told.settled paths') fun cs u => ?_
  exact ⟨half same cs u, half same.symm cs u⟩

theorem ToldApart.visible_eq (told : files.ToldApart place)
    (same : files.spellings paths = files.spellings paths') (draw : Drawing) (i : Invocation)
    (format : Format) (rules : Option String) :
    ({ i with command := .check paths format rules }.run draw files).visible =
      ({ i with command := .check paths' format rules }.run draw files).visible := by
  refine checkRun_visible draw format rules rfl ?_ (told.units_eq same)
  rw [dumps_eq_nil_iff_spellings, dumps_eq_nil_iff_spellings, same]

/-- Let `place` tell files apart. The file at a place is checked as often as there are spellings under which
it is reached, so it is checked once exactly if there is one such spelling only. The number of files checked
is that of spellings under which files under analysis are reached, which is the number of these files
exactly if each has one of them. And what a check prints and its exit code depend on nothing but the
spellings, which is to say on nothing but the files, if each has one of them. -/
theorem checked_once_iff_spelled_alike [DecidableEq κ] (told : files.ToldApart place)
    (paths : List String) :
    (∀ f, files.Reached paths f →
      ((files.dumps paths).countP fun g => place g.components = place f.components) =
          {cs ∈ files.spellings paths | place cs = place f.components}.ncard ∧
        (((files.dumps paths).countP fun g => place g.components = place f.components) = 1 ↔
          ∀ cs ∈ files.spellings paths, place cs = place f.components → cs = f.components)) ∧
    (∀ a : Analyzer,
      (a.analyze ((files.dumps paths).filterMap DumpFile.unit?)).filesChecked =
        UInt64.ofNat (files.acceptedSpellings paths).ncard) ∧
    ((files.acceptedSpellings paths).ncard = (place '' files.acceptedSpellings paths).ncard ↔
      Set.InjOn place (files.acceptedSpellings paths)) ∧
    ∀ paths', files.spellings paths = files.spellings paths' ∨
        (Set.InjOn place (files.spellings paths ∪ files.spellings paths') ∧
          place '' files.spellings paths = place '' files.spellings paths') →
      ∀ (draw : Drawing) (i : Invocation) (format : Format) (rules : Option String),
        ({ i with command := .check paths format rules }.run draw files).visible =
          ({ i with command := .check paths' format rules }.run draw files).visible := by
  refine ⟨?counts, ?checked, ?distinct, ?outcome⟩
  case counts =>
    intro f reached
    have counted := countP_dumps_eq_ncard files paths fun cs => place cs = place f.components
    have mine : f.components ∈ {cs ∈ files.spellings paths | place cs = place f.components} :=
      ⟨⟨f, reached, rfl⟩, rfl⟩
    refine ⟨counted, ?_⟩
    rw [counted, ncard_eq_one_iff mine]
    constructor
    · intro alike cs mem there
      exact alike cs ⟨mem, there⟩
    · rintro alike cs ⟨mem, there⟩
      exact alike cs mem there
  case checked =>
    intro a
    rw [← length_units_eq_ncard (told.settled paths)]
    rfl
  case distinct =>
    rw [eq_comm]
    exact Set.ncard_image_iff (finite_acceptedSpellings files paths)
  case outcome =>
    rintro paths' (same | ⟨alike, places⟩) draw i format rules
    · exact told.visible_eq same draw i format rules
    -- Where no place has two spellings, the places reached settle the spellings.
    · have same := (alike.image_eq_image_iff Set.subset_union_left Set.subset_union_right).1 places
      exact told.visible_eq same draw i format rules

end Told

/-- A directory with a dump file in it and one in a directory below. -/
def nestedTree : FileTree :=
  .directory [("a.ast.json", .file blankDump), ("z", .directory [("w.ast.json", .file blankDump)])]

theorem checked_once_nestedTree :
    let files := nestedTree.files
    let check (paths : List String) : Invocation := { command := .check paths .text none }
    files.ToldApart Path.place ∧
      Set.InjOn Path.place (files.spellings ["z", "a.ast.json"] ∪
        files.spellings ["z//w.ast.json", "z/./", "a.ast.json", "a.ast.json"]) ∧
      Path.place '' files.spellings ["z", "a.ast.json"] =
        Path.place '' files.spellings ["z//w.ast.json", "z/./", "a.ast.json", "a.ast.json"] ∧
      ((check ["z", "a.ast.json"]).run .words files).visible =
        ((check ["z//w.ast.json", "z/./", "a.ast.json", "a.ast.json"]).run .words files).visible := by
  intro files check
  have told : files.ToldApart Path.place := nestedTree.toldApart_files
  let a : List Path.Component := [.name "a.ast.json"]
  let w : List Path.Component := [.name "z", .name "w.ast.json"]
  have first : ∀ cs, cs ∈ files.spellings ["z", "a.ast.json"] ↔ cs ∈ [w, a] := by
    intro cs
    rw [mem_spellings_iff_dumpsFrom]
    exact iff_of_eq (congrArg (cs ∈ ·) (by decide))
  have second : ∀ cs,
      cs ∈ files.spellings ["z//w.ast.json", "z/./", "a.ast.json", "a.ast.json"] ↔
        cs ∈ [w, w, a, a] := by
    intro cs
    rw [mem_spellings_iff_dumpsFrom]
    exact iff_of_eq (congrArg (cs ∈ ·) (by decide))
  have same : files.spellings ["z", "a.ast.json"] =
      files.spellings ["z//w.ast.json", "z/./", "a.ast.json", "a.ast.json"] := by
    ext cs
    simp [first, second]
  have alike : Set.InjOn Path.place (files.spellings ["z", "a.ast.json"] ∪
      files.spellings ["z//w.ast.json", "z/./", "a.ast.json", "a.ast.json"]) := by
    rw [← same, Set.union_self]
    have apart : ∀ x ∈ [w, a], ∀ y ∈ [w, a], Path.place x = Path.place y → x = y := by decide
    intro x hx y hy
    exact apart x ((first x).1 hx) y ((first y).1 hy)
  have places := congrArg (Set.image Path.place) same
  obtain ⟨-, -, -, outcome⟩ := checked_once_iff_spelled_alike told ["z", "a.ast.json"]
  exact ⟨told, alike, places, outcome _ (.inr ⟨alike, places⟩) .words (check []) .text none⟩

theorem dotted_path_checked_twice :
    let files := (FileTree.directory [("a.ast.json", .file blankDump)]).files
    let check (paths : List String) : Invocation := { command := .check paths .text none }
    Path.place (Path.components "./a.ast.json") = Path.place (Path.components "a.ast.json") ∧
      ((check ["a.ast.json"]).run .words files).output =
        "\x1b[32mFound 0 error(s), 0 warning(s), 0 info(s) in 1 file(s)\x1b[0m\n" ∧
      ((check ["./a.ast.json", "a.ast.json"]).run .words files).output =
        "\x1b[32mFound 0 error(s), 0 warning(s), 0 info(s) in 2 file(s)\x1b[0m\n" := by
  intro files check
  let plain : DumpFile := ⟨"a.ast.json", blankDump⟩
  let dotted : DumpFile := ⟨"./a.ast.json", blankDump⟩
  have once : files.dumps ["a.ast.json"] = [plain] := by
    have walked : ["a.ast.json"].flatMap files.dumpsFrom = [plain] := rfl
    rw [dumps, walked, List.mergeSort_singleton]
    rfl
  have twice : files.dumps ["./a.ast.json", "a.ast.json"] = [dotted, plain] := by
    have walked : ["./a.ast.json", "a.ast.json"].flatMap files.dumpsFrom = [dotted, plain] := rfl
    have ordered : [dotted, plain].Pairwise fun a b => (Path.order a.path b.path).isLE := by decide
    have apart : ¬ Path.same dotted.path plain.path = true := by decide
    simp only [dumps, walked, List.mergeSort_of_pairwise ordered, withoutRepeats, if_neg apart]
  have config : (ConfigSource.find files "." none).load files = .ok ({}, []) := rfl
  have one := run_output_of_silent .words config once (by decide +kernel)
  have two := run_output_of_silent .words config twice (by decide +kernel)
  exact ⟨by decide, one.trans (by decide +kernel), two.trans (by decide +kernel)⟩

end ArchLint.Files
