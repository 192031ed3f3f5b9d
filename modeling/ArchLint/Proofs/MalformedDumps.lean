import ArchLint.Proofs.DumpRoundTrip
import ArchLint.Proofs.ReachedDumps
import ArchLint.Proofs.TreeGains

/-! # Dump files that are not in order

A dump file that gives no file under analysis is passed over: it takes its turn when dump files are
collected, sorted and read, and what is left behind it are the files under analysis of all the others, in
the same order. So a check prints the same, and ends with the same code, without it.

What a check cannot do without is that the walks from its directories come upon the other files all the same.
A file of patterns that exclude entries from a walk may itself be given as a dump. It is malformed, and the
dump files that it excludes are missed.

* `Files.Joined` — what there was is still there, and what walks come upon besides is malformed.
* `Files.Joined.of_gains` — trees with malformed files added to them.
* `Invocation.run_joined` — a check with malformed dump files and without them.
-/

namespace ArchLint

namespace Files

/-- The second files are the first ones with others among them that give no file under analysis, and walks
are not disturbed by them. -/
structure Joined (files files' : Files) : Prop where
  /-- Files stay as they are. -/
  file : ∀ {path content}, files.entry? path = some (.file content) →
    files'.entry? path = some (.file content)
  /-- Directories stay directories. -/
  directory : ∀ {path entries}, files.entry? path = some (.directory entries) →
    ∃ entries', files'.entry? path = some (.directory entries')
  /-- A walk from a directory comes upon all that it came upon. -/
  kept : ∀ {dir entries path}, files.entry? dir = some (.directory entries) →
    .ok path ∈ files.walk dir → .ok path ∈ files'.walk dir
  /-- Of files it comes upon no others but such as give no file under analysis. -/
  added : ∀ {dir entries path content}, files.entry? dir = some (.directory entries) →
    .ok path ∈ files'.walk dir → files'.entry? path = some (.file content) →
      (.ok path ∈ files.walk dir ∧ files.entry? path = some (.file content)) ∨
        (⟨path, content⟩ : DumpFile).unit? = none

/-- The second paths are the first ones, in any order and number, with others among them that lead to
nothing but dump files that give no file under analysis. So do the first ones that led nowhere. -/
structure GivenBesides (files files' : Files) (paths paths' : List String) : Prop where
  given : paths ⊆ paths'
  others : ∀ path ∈ paths', (path ∈ paths ∧ (files.entry? path).isSome = true) ∨
    ∀ f, files'.LeadsTo path f → f.unit? = none

variable {files files' : Files} {paths paths' : List String} {path : String} {f : DumpFile}

/-! ## What is reached -/

theorem Joined.leadsTo (joined : files.Joined files') (h : files.LeadsTo path f) :
    files'.LeadsTo path f := by
  cases h with
  | named file => exact .named (joined.file file)
  | walked start visit suffix file =>
    obtain ⟨_, start'⟩ := joined.directory start
    exact .walked start' (joined.kept start visit) suffix (joined.file file)

theorem Joined.leadsTo_or (joined : files.Joined files')
    (somewhere : (files.entry? path).isSome = true) (h : files'.LeadsTo path f) :
    files.LeadsTo path f ∨ f.unit? = none := by
  obtain ⟨s, entry⟩ := Option.isSome_iff_exists.1 somewhere
  cases s with
  -- The path leads to the same sort of thing as before: a file is the same, a directory is walked.
  | file content =>
    have entry' := joined.file entry
    cases h with
    | named file =>
      cases entry'.symm.trans file
      exact .inl (.named entry)
    | walked start => cases entry'.symm.trans start
  | directory =>
    obtain ⟨_, entry'⟩ := joined.directory entry
    cases h with
    | named file => cases entry'.symm.trans file
    | walked _ visit suffix file =>
      refine (joined.added entry visit file).imp_left ?_
      rintro ⟨before, old⟩
      exact .walked entry before suffix old

theorem Joined.reached (joined : files.Joined files')
    (besides : files.GivenBesides files' paths paths') (h : files.Reached paths f) :
    files'.Reached paths' f := by
  obtain ⟨path, mem, leads⟩ := h
  exact ⟨path, besides.given mem, joined.leadsTo leads⟩

theorem Joined.reached_or (joined : files.Joined files')
    (besides : files.GivenBesides files' paths paths') (h : files'.Reached paths' f) :
    files.Reached paths f ∨ f.unit? = none := by
  obtain ⟨path, mem, leads⟩ := h
  -- A path that was given and led nowhere may lead somewhere now, but only to what was added.
  rcases besides.others path mem with ⟨old, somewhere⟩ | malformed
  · exact (joined.leadsTo_or somewhere leads).imp_left fun before => ⟨path, old, before⟩
  · exact .inr (malformed f leads)

theorem Joined.units_eq (joined : files.Joined files')
    (besides : files.GivenBesides files' paths paths') (settled : files'.Settled paths') :
    (files'.dumps paths').filterMap DumpFile.unit? =
      (files.dumps paths).filterMap DumpFile.unit? := by
  have settled' : files.Settled paths := fun _ _ hf hg =>
    settled (joined.reached besides hf) (joined.reached besides hg)
  refine units_eq_of_reached settled settled' fun cs u => ⟨?_, ?_⟩
  · rintro ⟨f, reached, same, holds⟩
    refine ⟨f, (joined.reached_or besides reached).resolve_right fun none => ?_, same, holds⟩
    cases none.symm.trans holds
  · rintro ⟨f, reached, same, holds⟩
    exact ⟨f, joined.reached besides reached, same, holds⟩

/-! ## Trees -/

/-- Malformed entries are added to the directories of a tree, none of which excludes others. -/
theorem Joined.of_gains {t t' : FileTree} (gains : t.Gains t') (lawful : t.Lawful)
    (lawful' : t'.Lawful) : t.files.Joined t'.files where
  file := by
    intro path content entry
    obtain ⟨_, leads, more⟩ := gains.at? lawful' entry
    cases more
    exact leads
  directory := by
    intro path entries entry
    obtain ⟨_, leads, more⟩ := gains.at? lawful' entry
    cases more with
    | directory => exact ⟨_, leads⟩
  kept := by
    intro dir entries path start visit
    obtain ⟨s', start', more⟩ := gains.at? lawful' start
    obtain ⟨_, visit⟩ := (FileTree.ok_mem_walk_iff start).1 visit
    exact (FileTree.ok_mem_walk_iff start').2 (visit.gains more)
  added := by
    intro dir entries path content start visit entry
    obtain ⟨s', start', more⟩ := gains.at? lawful' start
    obtain ⟨found', visit'⟩ := (FileTree.ok_mem_walk_iff start').1 visit
    obtain rfl : found' = .file content := by
      simpa using (visit'.at?_eq lawful' start').symm.trans entry
    rcases visit'.of_gains more with ⟨found, visit, same⟩ | malformed
    · cases same
      exact .inl ⟨(FileTree.ok_mem_walk_iff start).2 ⟨_, visit⟩, visit.at?_eq lawful start⟩
    · cases malformed with
      | file none => exact .inr (none path)

end Files

/-! ## Outcomes -/

/-- Dump files that give no file under analysis, added among what a check collects, leave the files under
analysis as they are, and so what the check prints in any layout and its exit code. The check must collect
something without them, walks must come upon the other files all the same, and both runs have one
configuration. -/
theorem Invocation.run_joined {files files' : Files} {paths paths' : List String} {κ : Type}
    {place : List Path.Component → κ} (told : files'.ToldApart place) (joined : files.Joined files')
    (besides : files.GivenBesides files' paths paths') (some : files.dumps paths ≠ [])
    (i : Invocation) (config : (ConfigSource.find files' i.project i.config).load files' =
      (ConfigSource.find files i.project i.config).load files)
    (draw : Drawing) (format : Format) (rules : Option String) :
    (files'.dumps paths').filterMap DumpFile.unit? =
        (files.dumps paths).filterMap DumpFile.unit? ∧
      ({ i with command := .check paths' format rules }.run draw files').visible =
        ({ i with command := .check paths format rules }.run draw files).visible := by
  have units := joined.units_eq besides (told.settled paths')
  -- A check that collects nothing fails, so it matters that both runs collect something.
  have some' : files'.dumps paths' ≠ [] := by
    intro none
    refine some (Files.dumps_eq_nil_iff.2 fun f reached => ?_)
    exact Files.dumps_eq_nil_iff.1 none f (joined.reached besides reached)
  refine ⟨units, checkRun_visible draw format rules config ?_ units⟩
  exact iff_of_false some' some

/-! ## Examples -/

/-- A file of the domain layer that imports a data client, with its text. -/
def crossingFile : SourceUnit where
  path := "lib/domain/a.dart"
  unit :=
    { directives := [.reference .imported
        { uri := "package:dio/dio.dart"
          span := { length := 30, line := 1, column := 1 } }] }
  content := some "import 'package:dio/dio.dart';"

/-- Its dump. -/
def crossingDump : ByteArray :=
  crossingFile.toJson.compact.toUTF8

theorem unit?_crossingDump (path : String) :
    (⟨path, crossingDump⟩ : DumpFile).unit? = some crossingFile := by
  rw [DumpFile.unit?, crossingDump, DumpFile.read_written path (by decide)]
  rfl

/-- Content that is no text. -/
def spoiledContent : ByteArray :=
  ⟨#[0xFF]⟩

/-- The text of a document that is not closed. -/
def brokenContent : ByteArray :=
  "\x7b not a dump".toUTF8

/-- A directory with a dump file in it and one in a directory below. -/
def crossingTree : FileTree :=
  .directory [("a.ast.json", .file crossingDump), ("z", .directory [("w.ast.json", .file blankDump)])]

/-- The same with a malformed dump in each of the directories. -/
def spoiledTree : FileTree :=
  .directory [("a.ast.json", .file crossingDump), ("b.ast.json", .file spoiledContent),
    ("z", .directory [("v.ast.json", .file brokenContent), ("w.ast.json", .file blankDump)])]

theorem lawful_crossingTree : crossingTree.Lawful := by
  refine .directory (by decide) (by decide) ?_
  simp only [List.forall_mem_cons, List.not_mem_nil, false_imp_iff, implies_true, and_true]
  refine ⟨.file _, .directory (by decide) (by decide) ?_⟩
  simpa using .file _

theorem lawful_spoiledTree : spoiledTree.Lawful := by
  refine .directory (by decide) (by decide) ?_
  simp only [List.forall_mem_cons, List.not_mem_nil, false_imp_iff, implies_true, and_true]
  refine ⟨.file _, .file _, .directory (by decide) (by decide) ?_⟩
  simpa using ⟨.file _, .file _⟩

theorem gains_spoiledTree : crossingTree.Gains spoiledTree := by
  have spoiled : (FileTree.file spoiledContent).Malformed := .file fun path =>
    (@DumpFile.unit?_congr ⟨path, _⟩ ⟨"", _⟩ rfl).trans (by decide +kernel)
  have broken : (FileTree.file brokenContent).Malformed := .file fun path =>
    (@DumpFile.unit?_congr ⟨path, _⟩ ⟨"", _⟩ rfl).trans (by decide +kernel)
  exact .directory (.keep (.file _) (.add spoiled (by decide) (.keep (.directory
    (.add broken (by decide) (.keep (.file _) .nil))) .nil)))

theorem Invocation.run_joined_spoiledTree :
    let files := crossingTree.files
    let files' := spoiledTree.files
    let i : Invocation := { command := .listRules }
    let paths := ["."]
    let paths' := ["z/v.ast.json", ".", "missing", "b.ast.json"]
    let a : Analyzer := { rules := Rule.catalog }
    (⟨"./a.ast.json", crossingDump⟩ : DumpFile).unit? = some crossingFile ∧
      (a.check crossingFile).map (fun d => (d.code, d.location.length)) = [("CMA010", 30)] ∧
      files'.ToldApart Path.place ∧ files.Joined files' ∧
      files.GivenBesides files' paths paths' ∧ files.dumps paths ≠ [] ∧
      (ConfigSource.find files' i.project i.config).load files' =
        (ConfigSource.find files i.project i.config).load files ∧
      ({ i with command := .check paths' .pretty none }.run .words files').visible =
        ({ i with command := .check paths .pretty none }.run .words files).visible := by
  intro files files' i paths paths' a
  have told : files'.ToldApart Path.place := spoiledTree.toldApart_files
  have joined : files.Joined files' :=
    .of_gains gains_spoiledTree lawful_crossingTree lawful_spoiledTree
  have besides : files.GivenBesides files' paths paths' := by
    have malformed : ∀ path ∈ paths', path ∈ paths ∨
        ∀ f ∈ files'.dumpsFrom path, f.unit? = none := by decide +kernel
    refine ⟨by decide, fun path mem => ?_⟩
    rcases malformed path mem with old | new
    · obtain rfl := List.mem_singleton.1 old
      exact .inl ⟨old, by decide⟩
    · exact .inr fun f leads => new f (Files.mem_dumpsFrom_iff.2 leads)
  have some : files.dumps paths ≠ [] := by
    intro none
    have walked : (⟨"./a.ast.json", crossingDump⟩ : DumpFile) ∈ files.dumpsFrom "." := .head _
    have leads := Files.mem_dumpsFrom_iff.1 walked
    exact Files.dumps_eq_nil_iff.1 none _ ⟨".", List.mem_singleton_self _, leads⟩
  have config := gains_spoiledTree.load_eq lawful_spoiledTree i (by decide)
  exact ⟨unit?_crossingDump _, by decide +kernel, told, joined, besides, some, config,
    (i.run_joined told joined besides some config .words .pretty none).2⟩

/-- A line with the name of a dump file. -/
def excludingContent : ByteArray :=
  "a.ast.json\n".toUTF8

/-- A file that excludes a dump file from the walk of its directory may be given as a dump itself. Then the walk
does not come upon the other one, and it is not checked. -/
theorem excluded_dump_not_checked :
    let files := (FileTree.directory [("d", .directory [("a.ast.json", .file blankDump)])]).files
    let files' := (FileTree.directory [("d", .directory [(".ignore", .file excludingContent),
      ("a.ast.json", .file blankDump)])]).files
    let check (paths : List String) : Invocation := { command := .check paths .text none }
    files'.dumpsFrom "d/.ignore" = [⟨"d/.ignore", excludingContent⟩] ∧
      (⟨"d/.ignore", excludingContent⟩ : DumpFile).unit? = none ∧ ¬ files.Joined files' ∧
      ((check ["d"]).run .words files).output =
        "\x1b[32mFound 0 error(s), 0 warning(s), 0 info(s) in 1 file(s)\x1b[0m\n" ∧
      ((check ["d", "d/.ignore"]).run .words files').output =
        "\x1b[32mFound 0 error(s), 0 warning(s), 0 info(s) in 0 file(s)\x1b[0m\n" := by
  intro files files' check
  let dump : DumpFile := ⟨"d/a.ast.json", blankDump⟩
  let excluding : DumpFile := ⟨"d/.ignore", excludingContent⟩
  have before : files.dumps ["d"] = [dump] := by
    have walked : ["d"].flatMap files.dumpsFrom = [dump] := rfl
    rw [Files.dumps, walked, List.mergeSort_singleton]
    rfl
  have after : files'.dumps ["d", "d/.ignore"] = [excluding] := by
    have walked : ["d", "d/.ignore"].flatMap files'.dumpsFrom = [excluding] := rfl
    rw [Files.dumps, walked, List.mergeSort_singleton]
    rfl
  have checked := run_output_of_silent .words rfl before (by decide +kernel)
  have missed := run_output_of_silent .words rfl after (by decide +kernel)
  have disturbed : ¬ files.Joined files' := by
    intro joined
    have visit := @joined.kept "d" _ "d/a.ast.json" rfl (by decide)
    exact absurd visit (by decide +kernel)
  exact ⟨rfl, by decide +kernel, disturbed, checked.trans (by decide +kernel),
    missed.trans (by decide +kernel)⟩

end ArchLint
