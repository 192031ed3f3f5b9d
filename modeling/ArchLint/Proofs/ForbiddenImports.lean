import ArchLint.Proofs.FindingPlaces
import ArchLint.Proofs.PathSegments

/-! # Imports beyond a boundary

A boundary is built step by step. Of all its steps, only the last layer that was chosen, the directories
and the packages decide which imports it reports: an import counts as forbidden by the beginning of its URI
or by a run of directories in it, and each directory and each package does so on its own.

* `ImportBoundary.Step`, `ImportBoundary.built` — the steps and what they lead to.
* `ImportBoundary.Forbids` — the URIs beyond a boundary.
* `ImportBoundary.reported` — the imports that a boundary reports.
* `ImportBoundary.reported_built` — they are the forbidden ones.
* `ImportBoundary.built_reports` — the report of a boundary, and how it depends on the steps.
-/

namespace ArchLint.ImportBoundary

open Text (segments)

/-! ## Building -/

/-- A step in the making of a boundary. -/
inductive Step where
  | fromLayer (layer : Layer)
  | target (label : String)
  | forbidFragments (fragments : List String)
  | forbidPackages (packages : List String)
  | describe (text : String)
  | advise (correction : String)
  | rate (severity : Severity)

namespace Step

def layer? : Step → Option Layer
  | .fromLayer layer => some layer
  | _ => none

def fragments : Step → List String
  | .forbidFragments fragments => fragments
  | _ => []

def packages : Step → List String
  | .forbidPackages packages => packages
  | _ => []

end Step

def apply (b : ImportBoundary) : Step → ImportBoundary
  | .fromLayer layer => { b with source := layer }
  | .target label => { b with target := label }
  | .forbidFragments fragments => b.forbidFragments fragments
  | .forbidPackages packages => b.forbidPackages packages
  | .describe text => { b with description := text }
  | .advise correction => { b with correction := some correction }
  | .rate severity => { b with severity := severity }

/-- The boundary that some steps lead to. -/
def built (code name : String) (steps : List Step) : ImportBoundary :=
  steps.foldl apply { code := code, name := name }

/-- The layer that was chosen last. A boundary is one of the domain unless a step chooses a layer. -/
def chosenLayer (steps : List Step) : Layer :=
  (steps.filterMap Step.layer?).getLast?.getD .domain

section Building

variable {code name : String} {steps : List Step}

/-- What a step leaves alone and what it adds. -/
theorem apply_eq (b : ImportBoundary) (step : Step) : b.apply step =
    { b.apply step with
      code := b.code, name := b.name, source := step.layer?.getD b.source,
      fragments := b.fragments ++ step.fragments, packages := b.packages ++ step.packages } := by
  cases step <;> simp [apply, Step.layer?, Step.fragments, Step.packages, forbidFragments, forbidPackages]

theorem foldl_apply_append (get : ImportBoundary → List String) (added : Step → List String)
    (one : ∀ b step, get (apply b step) = get b ++ added step) (b : ImportBoundary) :
    get (steps.foldl apply b) = get b ++ steps.flatMap added := by
  induction steps generalizing b with
  | nil => simp
  | cons step steps ih => rw [List.foldl_cons, ih, one, List.flatMap_cons, List.append_assoc]

theorem fragments_built : (built code name steps).fragments = steps.flatMap Step.fragments :=
  foldl_apply_append _ Step.fragments (fun b step => by rw [apply_eq]) _

theorem packages_built : (built code name steps).packages = steps.flatMap Step.packages :=
  foldl_apply_append _ Step.packages (fun b step => by rw [apply_eq]) _

theorem source_foldl_apply (b : ImportBoundary) : (steps.foldl apply b).source =
    (steps.filterMap Step.layer?).getLast?.getD b.source := by
  induction steps generalizing b with
  | nil => rfl
  | cons step steps ih =>
    -- A layer that a later step chooses counts before the one that this step chooses.
    rw [List.foldl_cons, ih, apply_eq, List.filterMap_cons]
    cases step.layer? with
    | none => rfl
    | some layer =>
      cases later : (steps.filterMap Step.layer?).getLast? <;> simp [List.getLast?_cons, later]

theorem source_built : (built code name steps).source = chosenLayer steps :=
  source_foldl_apply _

theorem code_name_foldl_apply (b : ImportBoundary) :
    (steps.foldl apply b).code = b.code ∧ (steps.foldl apply b).name = b.name := by
  induction steps generalizing b with
  | nil => exact ⟨rfl, rfl⟩
  | cons step steps ih =>
    rw [List.foldl_cons, apply_eq]
    exact ih _

theorem code_name_built : (built code name steps).code = code ∧ (built code name steps).name = name :=
  code_name_foldl_apply _

end Building

/-! ## Forbidden URIs -/

/-- The URI begins with one of the packages, white space around it left aside, or it names no core library
of the language and one of the fragments is a run of segments of the path that it gives. The last
segment is that of a file and does not count, nor do slashes around a fragment. -/
def Forbids (fragments packages : List String) (uri : String) : Prop :=
  (∃ package ∈ packages, package.toList <+: (Text.trim uri).toList) ∨
    (¬"dart:".toList <+: (Text.trim uri).toList ∧ ∃ fragment ∈ fragments,
      Text.stripBy (· == '/') fragment.toList ≠ [] ∧
        segments '/' (Text.stripBy (· == '/') fragment.toList) <:+:
          (segments '/' (NormalPath.of (withoutScheme (Text.trim uri))).chars).dropLast)

theorem segments_infix_cons_nil_iff {name : List Char} {pieces : List (List Char)}
    (front : ∃ c ∈ name.head?, c ≠ '/') :
    segments '/' name <:+: [] :: pieces ↔ segments '/' name <:+: pieces := by
  rw [List.infix_cons_iff]
  apply or_iff_right
  intro first
  cases name with
  | nil => simp at front
  | cons c cs =>
    have other : ¬(c == '/') = true := by simpa using front
    -- The first segment begins with the first character, so it is not the empty one.
    rw [segments, Text.segmentsBy, if_neg other] at first
    split at first <;> simp [List.cons_prefix_cons] at first

/-- A fragment lies on a path exactly if it lies among all segments of the path but the last. -/
theorem contains_iff_dropLast (path fragment : String) : (NormalPath.of path).contains fragment = true ↔
    Text.stripBy (· == '/') fragment.toList ≠ [] ∧
      segments '/' (Text.stripBy (· == '/') fragment.toList) <:+:
        (segments '/' (NormalPath.of path).chars).dropLast := by
  rw [NormalPath.contains, NormalPath.containsChars_iff_directories, NormalPath.segments_chars,
    ← List.cons_append, List.dropLast_concat]
  refine and_congr_right fun nonempty => ?_
  symm
  apply segments_infix_cons_nil_iff
  refine ⟨_, List.head?_eq_some_head nonempty, ?_⟩
  simpa using Text.eq_false_of_mem_head?_stripBy (List.head?_eq_some_head nonempty)

theorem startsWith_iff {text start : String} :
    Text.startsWith text start = true ↔ start.toList <+: text.toList :=
  List.isPrefixOf_iff_prefix

theorem isSome_violation?_iff (b : ImportBoundary) (uri : String) :
    (b.violation? uri).isSome = true ↔ Forbids b.fragments b.packages uri := by
  simp only [violation?, Forbids, ← startsWith_iff]
  cases found : b.packages.find? (Text.startsWith (Text.trim uri)) with
  | some package =>
    have known := List.mem_of_find?_eq_some found
    have starts := List.find?_some found
    exact iff_of_true rfl (.inl ⟨package, known, starts⟩)
  | none =>
    have noPackage : ¬∃ package ∈ b.packages, Text.startsWith (Text.trim uri) package = true := by
      rintro ⟨package, known, starts⟩
      exact List.find?_eq_none.1 found package known starts
    rw [or_iff_right noPackage]
    by_cases core : Text.startsWith (Text.trim uri) "dart:" = true
    · simp [core]
    · simp [core, ← contains_iff_dropLast]

instance (fragments packages : List String) (uri : String) : Decidable (Forbids fragments packages uri) :=
  decidable_of_iff _
    (isSome_violation?_iff { code := "", name := "", fragments := fragments, packages := packages } uri)

theorem forbids_iff_single {fragments packages : List String} {uri : String} :
    Forbids fragments packages uri ↔
      (∃ fragment ∈ fragments, Forbids [fragment] [] uri) ∨
        ∃ package ∈ packages, Forbids [] [package] uri := by
  simp only [Forbids, List.mem_singleton, List.not_mem_nil, false_and, exists_false, and_false, false_or,
    or_false, exists_eq_left]
  constructor
  · rintro (package | ⟨other, fragment, known, lies⟩)
    · exact .inr package
    · exact .inl ⟨fragment, known, other, lies⟩
  · rintro (⟨fragment, known, other, lies⟩ | package)
    · exact .inr ⟨other, fragment, known, lies⟩
    · exact .inl package

theorem Forbids.mono {fragments fragments' packages packages' : List String} {uri : String}
    (h : Forbids fragments packages uri) (moreFragments : fragments ⊆ fragments')
    (morePackages : packages ⊆ packages') : Forbids fragments' packages' uri := by
  rw [forbids_iff_single] at h ⊢
  rcases h with ⟨fragment, known, alone⟩ | ⟨package, known, alone⟩
  · exact .inl ⟨fragment, moreFragments known, alone⟩
  · exact .inr ⟨package, morePackages known, alone⟩

/-! ## Reports -/

/-- The imports of a file that the boundary says something of. -/
def reported (b : ImportBoundary) (ctx : FileContext) (u : CompilationUnit) : List Reference :=
  if b.source.holds ctx then u.imports.filter fun r => (b.finding? r).isSome else []

/-- The boundary that forbids nothing but the given fragments and packages. -/
def forbiddingOnly (b : ImportBoundary) (fragments packages : List String) : ImportBoundary :=
  { b with fragments := fragments, packages := packages }

section Reports

variable {b b' : ImportBoundary} {ctx : FileContext} {u : CompilationUnit} {r : Reference}

theorem isSome_finding?_iff : (b.finding? r).isSome = true ↔ Forbids b.fragments b.packages r.uri := by
  rw [finding?, Option.isSome_map, isSome_violation?_iff]

theorem span_of_finding? {f : Finding} (h : b.finding? r = some f) : f.span = r.span := by
  obtain ⟨reason, -, rfl⟩ := Option.map_eq_some_iff.1 h
  rfl

/-- There is one diagnostic for each reported import, in the order of the imports and at its place. -/
theorem check?_rule (b : ImportBoundary) (config : Config) (path : String) (u : CompilationUnit) :
    ∃ report, b.rule.check? config path u = some report ∧
      report.map (fun d => (d.code, d.rule, d.location)) =
        (b.reported (config.contextOf path) u).map fun r => (b.code, b.name, .ofSpan path r.span) := by
  refine ⟨_, rfl, ?_⟩
  rw [Rule.map_diagnose, reported]
  split
  next =>
    rw [map_span_filterMap (fun r x => span_of_finding?), List.map_map]
    rfl
  next => rfl

theorem reported_eq : b.reported ctx u =
    if b.source.holds ctx then u.imports.filter fun r => Forbids b.fragments b.packages r.uri else [] := by
  rw [reported]
  congr 2
  funext r
  rw [← Bool.coe_iff_coe, isSome_finding?_iff, decide_eq_true_iff]

theorem mem_reported_iff : r ∈ b.reported ctx u ↔
    b.source.holds ctx = true ∧ r ∈ u.imports ∧ Forbids b.fragments b.packages r.uri := by
  rw [reported_eq]
  split <;> simp [*]

/-- A boundary of the same layer that forbids no less reports no less. -/
theorem reported_sublist (source : b.source = b'.source) (fragments : b.fragments ⊆ b'.fragments)
    (packages : b.packages ⊆ b'.packages) : (b.reported ctx u).Sublist (b'.reported ctx u) := by
  rw [reported_eq, reported_eq, source]
  split
  next =>
    apply List.monotone_filter_right
    intro r forbidden
    rw [decide_eq_true_iff] at forbidden ⊢
    exact forbidden.mono fragments packages
  next => exact .refl _

theorem reported_congr (source : b.source = b'.source)
    (fragments : ∀ f, f ∈ b.fragments ↔ f ∈ b'.fragments)
    (packages : ∀ p, p ∈ b.packages ↔ p ∈ b'.packages) : b.reported ctx u = b'.reported ctx u := by
  apply List.Sublist.antisymm
  · exact reported_sublist source (fun f => (fragments f).1) fun p => (packages p).1
  · exact reported_sublist source.symm (fun f => (fragments f).2) fun p => (packages p).2

theorem mem_reported_iff_single : r ∈ b.reported ctx u ↔
    (∃ fragment ∈ b.fragments, r ∈ (b.forbiddingOnly [fragment] []).reported ctx u) ∨
      ∃ package ∈ b.packages, r ∈ (b.forbiddingOnly [] [package]).reported ctx u := by
  simp only [mem_reported_iff, forbiddingOnly]
  rw [forbids_iff_single]
  constructor
  · rintro ⟨layer, mem, ⟨fragment, known, alone⟩ | ⟨package, known, alone⟩⟩
    · exact .inl ⟨fragment, known, layer, mem, alone⟩
    · exact .inr ⟨package, known, layer, mem, alone⟩
  · rintro (⟨fragment, known, layer, mem, alone⟩ | ⟨package, known, layer, mem, alone⟩)
    · exact ⟨layer, mem, .inl ⟨fragment, known, alone⟩⟩
    · exact ⟨layer, mem, .inr ⟨package, known, alone⟩⟩

end Reports

theorem chosenLayer_insert {step : Step} (noChoice : step.layer? = none) (before later : List Step) :
    chosenLayer (before ++ step :: later) = chosenLayer (before ++ later) := by
  rw [chosenLayer, chosenLayer, List.filterMap_append, List.filterMap_append,
    List.filterMap_cons_none noChoice]

theorem flatMap_subset_insert (added : Step → List String) (step : Step) (before later : List Step) :
    (before ++ later).flatMap added ⊆ (before ++ step :: later).flatMap added := by
  intro x mem
  rw [List.flatMap_append, List.mem_append] at mem
  rw [List.flatMap_append, List.flatMap_cons, List.mem_append, List.mem_append]
  exact mem.imp_right .inr

/-- A boundary that is built in steps reports nothing outside of the layer that was chosen last. In it, it
reports the imports that the directories and packages of all steps forbid, in the order of the directives,
each once and at its place. Each of them is reported for one directory or one package alone. Steps
with the same last layer, the same directories and the same packages lead to the same reported imports,
and one more step takes none away, wherever it is made, unless it changes which layer was chosen last. -/
theorem built_reports (code name : String) (steps : List Step) (config : Config) (path : String)
    (u : CompilationUnit) :
    (∃ report, (built code name steps).rule.check? config path u = some report ∧
      report.map (fun d => (d.code, d.rule, d.location)) =
        ((built code name steps).reported (config.contextOf path) u).map fun r =>
          (code, name, .ofSpan path r.span)) ∧
    ((built code name steps).reported (config.contextOf path) u =
      if (chosenLayer steps).holds (config.contextOf path) then
        u.imports.filter fun r =>
          Forbids (steps.flatMap Step.fragments) (steps.flatMap Step.packages) r.uri
      else []) ∧
    (∀ r, r ∈ (built code name steps).reported (config.contextOf path) u ↔
      (∃ fragment ∈ steps.flatMap Step.fragments,
        r ∈ ((built code name steps).forbiddingOnly [fragment] []).reported (config.contextOf path) u) ∨
      ∃ package ∈ steps.flatMap Step.packages,
        r ∈ ((built code name steps).forbiddingOnly [] [package]).reported (config.contextOf path) u) ∧
    (∀ steps' : List Step, chosenLayer steps' = chosenLayer steps →
      (∀ f, f ∈ steps'.flatMap Step.fragments ↔ f ∈ steps.flatMap Step.fragments) →
      (∀ p, p ∈ steps'.flatMap Step.packages ↔ p ∈ steps.flatMap Step.packages) →
      (built code name steps').reported (config.contextOf path) u =
        (built code name steps).reported (config.contextOf path) u) ∧
    ∀ before later step, steps = before ++ later →
      (step.layer? = none ∨ chosenLayer (before ++ step :: later) = chosenLayer steps) →
      ((built code name steps).reported (config.contextOf path) u).Sublist
        ((built code name (before ++ step :: later)).reported (config.contextOf path) u) := by
  refine ⟨?_, ?_, fun r => ?_, ?_, ?_⟩
  · have report := check?_rule (built code name steps) config path u
    rwa [code_name_built.1, code_name_built.2] at report
  · rw [reported_eq, source_built, fragments_built, packages_built]
  · rw [mem_reported_iff_single, fragments_built, packages_built]
  · intro steps' layer fragments packages
    apply reported_congr
    · rw [source_built, source_built, layer]
    · rwa [fragments_built, fragments_built]
    · rwa [packages_built, packages_built]
  · rintro before later step rfl layer
    have sameLayer : chosenLayer (before ++ step :: later) = chosenLayer (before ++ later) :=
      layer.elim (chosenLayer_insert · before later) id
    apply reported_sublist
    · rw [source_built, source_built, sameLayer]
    · rw [fragments_built, fragments_built]
      exact flatMap_subset_insert _ step before later
    · rw [packages_built, packages_built]
      exact flatMap_subset_insert _ step before later

end ArchLint.ImportBoundary
