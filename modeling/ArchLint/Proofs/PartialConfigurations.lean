import Mathlib.Data.List.Forall2
import ArchLint.Config.Reader
import ArchLint.Proofs.ListReading

/-! # Partial configurations

A configuration need not say much: what a document leaves out has its default. Each setting is merged by
itself. It depends on what stands at its own keys, one within the other, and on nothing else that the
document says, so sections and settings can be left out, be null or be added in any combination.

* `Document.Gives` — what stands under a list of keys.
* `Document.Alike` — the same tree in two documents.
* `Document.Settles` — a value that is read at a path, with what holds when nothing stands there.
* `Setting` — the settings, their keys, and how they are read.
* `Config.partial_over_defaults` — every setting of a configuration that is accepted.
-/

namespace ArchLint

namespace Yaml

/-! ## Keys -/

theorem once?_eq_some {name : String} {entries : List (String × Node)} {found : Option Node}
    (h : once? name entries = some found) (n : Node) : (name, n) ∈ entries ↔ found = some n := by
  have kept : (name, n) ∈ entries ↔ (name, n) ∈ entries.filter (·.1 == name) := by simp
  rw [once?] at h
  rw [kept]
  split at h
  next absent =>
    cases h
    simp [absent]
  next key value single =>
    cases h
    have named : key = name := by
      have mem : (key, value) ∈ entries.filter (·.1 == name) := by simp [single]
      simpa using (List.mem_filter.1 mem).2
    simp [single, named, eq_comm]
  next => cases h

/-- The key is given once and its value counts, or it is not given. -/
theorem defaulted?_cases {α : Type} {entries : List (String × Node)} {name : String} {fallback v : α}
    {read : Node → Option α} (h : defaulted? entries name fallback read = some v) :
    (∃ n, (∀ m, (name, m) ∈ entries ↔ m = n) ∧ read n = some v) ∨
      (∀ m, (name, m) ∉ entries) ∧ v = fallback := by
  rw [defaulted?] at h
  split at h
  next => cases h
  next absent =>
    have none := once?_eq_some absent
    exact .inr ⟨fun m mem => by simpa using (none m).1 mem, (Option.some_inj.1 h).symm⟩
  next n given =>
    have once := once?_eq_some given
    exact .inl ⟨n, fun m => by rw [once, Option.some_inj, eq_comm], h⟩

namespace Document

/-- Under a list of keys the document gives a node: each key stands in the mapping under the key before
it. Aliases are followed. -/
inductive Gives (d : Document) : Node → List String → Node → Prop
  | here (n : Node) : Gives d n [] n
  | under {n key value m : Node} {mark : Option Nat} {pairs : List (Node × Node)} {name : String}
      {path : List String} (mapping : d.target n = .mapping mark pairs) (mem : (key, value) ∈ pairs)
      (named : d.text? key = some name) (inner : Gives d value path m) : Gives d n (name :: path) m

variable {d e : Document} {n m : Node} {name : String} {path : List String}

theorem mem_entries?_iff {entries : List (String × Node)} (h : d.entries? n = some entries) :
    (name, m) ∈ entries ↔ ∃ mark pairs key, d.target n = .mapping mark pairs ∧ (key, m) ∈ pairs ∧
      d.text? key = some name := by
  rw [entries?] at h
  split at h
  next mark pairs mapping =>
    rw [mem_iff_of_mapM h, mapping]
    constructor
    · rintro ⟨⟨key, value⟩, mem, read⟩
      obtain ⟨text, named, image⟩ := Option.map_eq_some_iff.1 read
      cases image
      exact ⟨mark, pairs, key, rfl, mem, named⟩
    · rintro ⟨mark', pairs', key, same, mem, named⟩
      cases same
      exact ⟨(key, m), mem, Option.map_eq_some_iff.2 ⟨name, named, rfl⟩⟩
  next scalar =>
    cases h
    simp [scalar]
  next => cases h

theorem gives_nil_iff : d.Gives n [] m ↔ m = n := by
  constructor
  · intro h
    cases h
    rfl
  · rintro rfl
    exact .here m

theorem gives_cons_iff {entries : List (String × Node)} (h : d.entries? n = some entries) :
    d.Gives n (name :: path) m ↔ ∃ value, (name, value) ∈ entries ∧ d.Gives value path m := by
  constructor
  · intro gives
    cases gives with
    | under mapping mem named inner =>
      exact ⟨_, (mem_entries?_iff h).2 ⟨_, _, _, mapping, mem, named⟩, inner⟩
  · rintro ⟨value, mem, inner⟩
    obtain ⟨mark, pairs, key, mapping, pair, named⟩ := (mem_entries?_iff h).1 mem
    exact .under mapping pair named inner

/-- Nothing stands below null. -/
theorem not_gives_of_null (null : isNull? (d.target n) = some true) : ¬ d.Gives n (name :: path) m := by
  intro gives
  cases gives with
  | under mapping =>
    rw [mapping] at null
    cases null

/-! ## Values at a path -/

/-- The document gives at most one node at a path below the node, and that one is read as the value; if
it gives nothing there, the value is the one that holds otherwise. -/
structure Settles {α : Type} (d : Document) (n : Node) (path : List String) (read : Node → Option α)
    (otherwise value : α) : Prop where
  single : ∀ m m', d.Gives n path m → d.Gives n path m' → m = m'
  given : ∀ m, d.Gives n path m → read m = some value
  absent : (∀ m, ¬ d.Gives n path m) → value = otherwise

namespace Settles

variable {α σ : Type} {entries : List (String × Node)} {read : Node → Option α} {otherwise value : α}

theorem of_absent (nothing : ∀ m, ¬ d.Gives n path m) (same : value = otherwise) :
    d.Settles n path read otherwise value :=
  ⟨fun m _ gives => absurd gives (nothing m), fun m gives => absurd gives (nothing m), fun _ => same⟩

/-- A path without keys leads to the node itself. -/
theorem of_read (known : read n = some value) : d.Settles n [] read otherwise value := by
  refine ⟨fun m m' gives gives' => ?_, fun m gives => ?_, fun nothing => absurd (.here n) (nothing n)⟩
  · rw [gives_nil_iff.1 gives, gives_nil_iff.1 gives']
  · rw [gives_nil_iff.1 gives, known]

/-- A key that is given once leads to its value. -/
theorem of_single {k : Node} (h : d.entries? n = some entries)
    (single : ∀ m, (name, m) ∈ entries ↔ m = k) (inner : d.Settles k path read otherwise value) :
    d.Settles n (name :: path) read otherwise value := by
  have below : ∀ m, d.Gives n (name :: path) m ↔ d.Gives k path m := fun m => by
    simp [gives_cons_iff h, single]
  refine ⟨fun m m' gives gives' => ?_, fun m gives => ?_, fun nothing => ?_⟩
  · exact inner.single m m' ((below m).1 gives) ((below m').1 gives')
  · exact inner.given m ((below m).1 gives)
  · exact inner.absent fun m gives => nothing m ((below m).2 gives)

/-- A key that is not given leads nowhere. -/
theorem of_missing (h : d.entries? n = some entries) (missing : ∀ m, (name, m) ∉ entries)
    (same : value = otherwise) : d.Settles n (name :: path) read otherwise value := by
  refine .of_absent (fun m gives => ?_) same
  obtain ⟨k, mem, -⟩ := (gives_cons_iff h).1 gives
  exact missing k mem

theorem of_defaulted? (h : d.entries? n = some entries)
    (found : defaulted? entries name otherwise read = some value) :
    d.Settles n [name] read otherwise value := by
  rcases defaulted?_cases found with ⟨k, single, known⟩ | ⟨missing, same⟩
  · exact of_single h single (of_read known)
  · exact of_missing h missing same

variable {readSection : Node → Option σ} {default given : σ} (view : σ → α)

/-- If the section is null, nothing stands in it. -/
theorem of_optional? (found : (d.optional? readSection n).map (·.getD default) = some given)
    (inner : readSection n = some given →
      d.Settles n (name :: path) read (view default) (view given)) :
    d.Settles n (name :: path) read (view default) (view given) := by
  rw [optional?] at found
  split at found
  next => cases found
  next null =>
    cases found
    exact .of_absent (fun _ => not_gives_of_null null) rfl
  next =>
    refine inner ?_
    simpa using found

theorem of_section? {first : String} (h : d.entries? n = some entries)
    (found : Config.section? d entries first default readSection = some given)
    (inner : ∀ k, readSection k = some given →
      d.Settles k (name :: path) read (view default) (view given)) :
    d.Settles n (first :: name :: path) read (view default) (view given) := by
  rcases defaulted?_cases found with ⟨k, single, known⟩ | ⟨missing, rfl⟩
  · exact of_single h single (of_optional? view known (inner k))
  · exact of_missing h missing rfl

end Settles

/-! ## The same tree in two documents -/

/-- The same tree stands at a node of one document and at a node of another one. The documents may have
put anchors and aliases in other places of it. -/
inductive Alike (d e : Document) : Node → Node → Prop
  | scalar {n m : Node} {mark mark' : Option Nat} {tag : Option (List Char)} {style : Style}
      {text : List Char} (left : d.target n = .scalar mark tag style text)
      (right : e.target m = .scalar mark' tag style text) : Alike d e n m
  | sequence {n m : Node} {mark mark' : Option Nat} {items items' : List Node}
      (left : d.target n = .sequence mark items) (right : e.target m = .sequence mark' items')
      (inner : List.Forall₂ (Alike d e) items items') : Alike d e n m
  | mapping {n m : Node} {mark mark' : Option Nat} {pairs pairs' : List (Node × Node)}
      (left : d.target n = .mapping mark pairs) (right : e.target m = .mapping mark' pairs')
      (keys : List.Forall₂ (Alike d e) (pairs.map (·.1)) (pairs'.map (·.1)))
      (values : List.Forall₂ (Alike d e) (pairs.map (·.2)) (pairs'.map (·.2))) : Alike d e n m

namespace Alike

theorem text?_eq (h : Alike d e n m) : d.text? n = e.text? m := by
  cases h with
  | scalar left right | sequence left right | mapping left right => simp [text?, left, right]

theorem flag?_eq (h : Alike d e n m) : d.flag? n = e.flag? m := by
  cases h with
  | scalar left right | sequence left right | mapping left right => simp [flag?, left, right]

theorem texts?_eq (h : Alike d e n m) : d.texts? n = e.texts? m := by
  cases h with
  | @scalar _ _ _ _ _ style text left right =>
    rw [texts?, texts?, items?, items?, left, right]
    cases style <;> cases text <;> rfl
  | sequence left right inner =>
    have items : List.Forall₂ (fun i i' => d.text? i = e.text? i') _ _ := inner.imp fun _ _ => text?_eq
    simp [texts?, items?, left, right, mapM_eq_of_forall₂ items]
  | mapping left right => simp [texts?, items?, left, right]

/-- Trees that are alike have the same keys, in the same order, and what is read of their entries is the
same if it is the same of values that are alike. -/
theorem entries?_bind_mapM_eq {β : Type} {f g : String × Node → Option β} (h : Alike d e n m)
    (same : ∀ name {v w}, Alike d e v w → f (name, v) = g (name, w)) :
    ((d.entries? n).bind fun entries => entries.mapM f) =
      (e.entries? m).bind fun entries => entries.mapM g := by
  cases h with
  | @scalar _ _ _ _ _ style text left right =>
    rw [entries?, entries?, left, right]
    cases style <;> cases text <;> rfl
  | sequence left right => simp [entries?, left, right]
  | mapping left right keys values =>
    simp only [entries?, left, right, mapM_bind_mapM]
    rw [List.forall₂_map_left_iff, List.forall₂_map_right_iff] at keys values
    refine mapM_eq_of_forall₂ (List.Forall₂.mp (fun {p q} key value => ?_) keys values)
    simp only [text?_eq key, Option.bind_map]
    exact congrArg _ (funext fun name => same name value)

end Alike

end Document

end Yaml

open Yaml (Document Node)

variable {d e : Document} {n m : Node}

/-! ## Settings -/

theorem Overrides.ofNode?_eq (h : d.Alike e n m) : ofNode? d n = ofNode? e m := by
  have tokens := h.entries?_bind_mapM_eq (f := fun entry => (d.text? entry.2).map (entry.1, ·))
    (g := fun entry => (e.text? entry.2).map (entry.1, ·))
    fun name v w alike => by rw [alike.text?_eq]
  simp only [ofNode?, Option.bind_eq_bind, ← Option.bind_assoc]
  exact congrArg (Option.bind · _) tokens

/-- The settings, by the types of their values. -/
inductive Setting : Type → Type where
  | featuresPath : Setting String
  | corePath : Setting String
  | entityPatterns : Setting (List String)
  | modelPatterns : Setting (List String)
  | entitySuffix : Setting String
  | modelSuffix : Setting String
  | repositorySuffix : Setting String
  | blocSuffix : Setting String
  | cubitSuffix : Setting String
  | enabled : Setting Bool
  | severity : Setting Overrides
  | stateManagement : Setting String
  | diPackage : Setting String

namespace Setting

variable {α : Type}

/-- The section that a setting belongs to. -/
def sectionName : Setting α → String
  | featuresPath | corePath | entityPatterns | modelPatterns => "structure"
  | entitySuffix | modelSuffix | repositorySuffix | blocSuffix | cubitSuffix => "naming"
  | enabled | severity => "lint"
  | stateManagement | diPackage => "templates"

/-- The key of a setting in its section. -/
def name : Setting α → String
  | featuresPath => "features_path"
  | corePath => "core_path"
  | entityPatterns => "entity_patterns"
  | modelPatterns => "model_patterns"
  | entitySuffix => "entity_suffix"
  | modelSuffix => "model_suffix"
  | repositorySuffix => "repository_suffix"
  | blocSuffix => "bloc_suffix"
  | cubitSuffix => "cubit_suffix"
  | enabled => "enabled"
  | severity => "severity"
  | stateManagement => "state_management"
  | diPackage => "di_package"

/-- The keys that lead to a setting. -/
def path (s : Setting α) : List String :=
  [Config.key, s.sectionName, s.name]

/-- What a node says when a setting is wanted. -/
def read (d : Document) : Setting α → Node → Option α
  | featuresPath | corePath => d.text?
  | entityPatterns | modelPatterns => d.texts?
  | entitySuffix | modelSuffix | repositorySuffix | blocSuffix | cubitSuffix => d.text?
  | enabled => d.flag?
  | severity => Overrides.ofNode? d
  | stateManagement | diPackage => d.text?

/-- The value of a setting. -/
def value : Setting α → Config → α
  | featuresPath, c => c.layout.featuresPath
  | corePath, c => c.layout.corePath
  | entityPatterns, c => c.layout.entityPatterns
  | modelPatterns, c => c.layout.modelPatterns
  | entitySuffix, c => c.naming.entitySuffix
  | modelSuffix, c => c.naming.modelSuffix
  | repositorySuffix, c => c.naming.repositorySuffix
  | blocSuffix, c => c.naming.blocSuffix
  | cubitSuffix, c => c.naming.cubitSuffix
  | enabled, c => c.lint.enabled
  | severity, c => c.lint.severity
  | stateManagement, c => c.templates.stateManagement
  | diPackage, c => c.templates.diPackage

/-- A setting is read alike from trees that are alike. -/
theorem read_eq (s : Setting α) (h : d.Alike e n m) : s.read d n = s.read e m := by
  cases s with
  | entityPatterns | modelPatterns => exact h.texts?_eq
  | enabled => exact h.flag?_eq
  | severity => exact Overrides.ofNode?_eq h
  | _ => exact h.text?_eq

/-- Two documents agree on a setting: neither of them gives it, or they give the same tree for it, or
trees that say the same value. -/
inductive Agree (s : Setting α) (d e : Document) : Prop
  | unset (left : ∀ n, ¬ d.Gives d.root s.path n) (right : ∀ m, ¬ e.Gives e.root s.path m)
  | sameTree {n m : Node} (left : d.Gives d.root s.path n) (right : e.Gives e.root s.path m)
      (alike : d.Alike e n m)
  | sameValue {n m : Node} (left : d.Gives d.root s.path n) (right : e.Gives e.root s.path m)
      (same : s.read d n = s.read e m)

theorem Agree.value_eq {s : Setting α} (agree : s.Agree d e) {otherwise v w : α}
    (left : d.Settles d.root s.path (s.read d) otherwise v)
    (right : e.Settles e.root s.path (s.read e) otherwise w) : v = w := by
  cases agree with
  | unset nothing nothing' => rw [left.absent nothing, right.absent nothing']
  | sameTree gives gives' alike =>
    have same := s.read_eq alike
    rwa [left.given _ gives, right.given _ gives', Option.some_inj] at same
  | sameValue gives gives' same => rwa [left.given _ gives, right.given _ gives', Option.some_inj] at same

end Setting

/-- A configuration is its settings. -/
theorem Config.eq_of_value {c c' : Config} (same : ∀ {α} (s : Setting α), s.value c = s.value c') :
    c = c' := by
  obtain ⟨⟨_, _, _, _⟩, ⟨_, _, _, _, _⟩, ⟨_, _⟩, ⟨_, _⟩⟩ := c
  obtain ⟨⟨_, _, _, _⟩, ⟨_, _, _, _, _⟩, ⟨_, _⟩, ⟨_, _⟩⟩ := c'
  rw [Config.mk.injEq, Layout.mk.injEq, Naming.mk.injEq, Linting.mk.injEq, Templates.mk.injEq]
  exact ⟨⟨same .featuresPath, same .corePath, same .entityPatterns, same .modelPatterns⟩,
    ⟨same .entitySuffix, same .modelSuffix, same .repositorySuffix, same .blocSuffix, same .cubitSuffix⟩,
    ⟨same .enabled, same .severity⟩, same .stateManagement, same .diPackage⟩

/-! ## Sections -/

theorem Layout.settles {l : Layout} (h : ofNode? d n = some l) :
    let default : Layout := {}
    d.Settles n ["features_path"] d.text? default.featuresPath l.featuresPath ∧
    d.Settles n ["core_path"] d.text? default.corePath l.corePath ∧
    d.Settles n ["entity_patterns"] d.texts? default.entityPatterns l.entityPatterns ∧
    d.Settles n ["model_patterns"] d.texts? default.modelPatterns l.modelPatterns := by
  simp only [ofNode?, Option.bind_eq_bind, Option.bind_eq_some_iff, Option.pure_def, Option.some_inj] at h
  obtain ⟨entries, listed, _, features, _, core, _, entities, _, models, rfl⟩ := h
  exact ⟨.of_defaulted? listed features, .of_defaulted? listed core, .of_defaulted? listed entities,
    .of_defaulted? listed models⟩

theorem Naming.settles {s : Naming} (h : ofNode? d n = some s) :
    let default : Naming := {}
    d.Settles n ["entity_suffix"] d.text? default.entitySuffix s.entitySuffix ∧
    d.Settles n ["model_suffix"] d.text? default.modelSuffix s.modelSuffix ∧
    d.Settles n ["repository_suffix"] d.text? default.repositorySuffix s.repositorySuffix ∧
    d.Settles n ["bloc_suffix"] d.text? default.blocSuffix s.blocSuffix ∧
    d.Settles n ["cubit_suffix"] d.text? default.cubitSuffix s.cubitSuffix := by
  simp only [ofNode?, Option.bind_eq_bind, Option.bind_eq_some_iff, Option.pure_def, Option.some_inj] at h
  obtain ⟨entries, listed, _, entity, _, model, _, repository, _, bloc, _, cubit, rfl⟩ := h
  exact ⟨.of_defaulted? listed entity, .of_defaulted? listed model, .of_defaulted? listed repository,
    .of_defaulted? listed bloc, .of_defaulted? listed cubit⟩

theorem Linting.settles {l : Linting} (h : ofNode? d n = some l) :
    let default : Linting := {}
    d.Settles n ["enabled"] d.flag? default.enabled l.enabled ∧
    d.Settles n ["severity"] (Overrides.ofNode? d) default.severity l.severity := by
  simp only [ofNode?, Option.bind_eq_bind, Option.bind_eq_some_iff, Option.pure_def, Option.some_inj] at h
  obtain ⟨entries, listed, _, enabled, _, severity, rfl⟩ := h
  exact ⟨.of_defaulted? listed enabled, .of_defaulted? listed severity⟩

theorem Templates.settles {t : Templates} (h : ofNode? d n = some t) :
    let default : Templates := {}
    d.Settles n ["state_management"] d.text? default.stateManagement t.stateManagement ∧
    d.Settles n ["di_package"] d.text? default.diPackage t.diPackage := by
  simp only [ofNode?, Option.bind_eq_bind, Option.bind_eq_some_iff, Option.pure_def, Option.some_inj] at h
  obtain ⟨entries, listed, _, management, _, package, rfl⟩ := h
  exact ⟨.of_defaulted? listed management, .of_defaulted? listed package⟩

namespace Config

open Yaml.Document (Settles)

variable {c : Config}

/-- Every setting is settled at its two keys in the mapping of all settings. -/
theorem settles_of_ofNode? (h : ofNode? d n = some c) {α : Type} (s : Setting α) :
    d.Settles n [s.sectionName, s.name] (s.read d) (s.value {}) (s.value c) := by
  simp only [ofNode?, Option.bind_eq_bind, Option.bind_eq_some_iff, Option.pure_def, Option.some_inj] at h
  obtain ⟨entries, listed, layout, structured, naming, named, lint, linted, templates, chosen, rfl⟩ := h
  cases s with
  | featuresPath => exact .of_section? (·.featuresPath) listed structured fun _ h => (Layout.settles h).1
  | corePath => exact .of_section? (·.corePath) listed structured fun _ h => (Layout.settles h).2.1
  | entityPatterns =>
    exact .of_section? (·.entityPatterns) listed structured fun _ h => (Layout.settles h).2.2.1
  | modelPatterns =>
    exact .of_section? (·.modelPatterns) listed structured fun _ h => (Layout.settles h).2.2.2
  | entitySuffix => exact .of_section? (·.entitySuffix) listed named fun _ h => (Naming.settles h).1
  | modelSuffix => exact .of_section? (·.modelSuffix) listed named fun _ h => (Naming.settles h).2.1
  | repositorySuffix =>
    exact .of_section? (·.repositorySuffix) listed named fun _ h => (Naming.settles h).2.2.1
  | blocSuffix => exact .of_section? (·.blocSuffix) listed named fun _ h => (Naming.settles h).2.2.2.1
  | cubitSuffix => exact .of_section? (·.cubitSuffix) listed named fun _ h => (Naming.settles h).2.2.2.2
  | enabled => exact .of_section? (·.enabled) listed linted fun _ h => (Linting.settles h).1
  | severity => exact .of_section? (·.severity) listed linted fun _ h => (Linting.settles h).2
  | stateManagement =>
    exact .of_section? (·.stateManagement) listed chosen fun _ h => (Templates.settles h).1
  | diPackage => exact .of_section? (·.diPackage) listed chosen fun _ h => (Templates.settles h).2

/-- Every setting is settled at its keys in the document. -/
theorem settles_of_ofDocument? (h : ofDocument? d = some c) {α : Type} (s : Setting α) :
    d.Settles d.root s.path (s.read d) (s.value {}) (s.value c) := by
  refine .of_optional? s.value h fun found => ?_
  obtain ⟨entries, listed, given⟩ := Option.bind_eq_some_iff.1 found
  exact .of_section? s.value listed given fun _ read => settles_of_ofNode? read s

/-- The document of a text. A blank text is one that says nothing. -/
def document? (text : String) : Option Document :=
  if Text.allBlank text then some (.ofRoot .absent) else Document.read? text

theorem ofText?_eq (text : String) : ofText? text = (document? text).bind ofDocument? := by
  rw [ofText?, document?]
  split
  · rfl
  · rfl

/-- A configuration that is accepted has a value for every setting. It is what the document gives at the
keys of the setting, and the default if it gives nothing there: if the setting, its section or the whole
mapping is missing, or the section is null. So two documents that agree on a setting give it the same
value, whatever else they say, and two that agree on all settings give the same configuration. -/
theorem partial_over_defaults {text : String} (accepted : ofText? text = some c) :
    ∃ d, document? text = some d ∧
      (∀ {α} (s : Setting α), d.Settles d.root s.path (s.read d) (s.value {}) (s.value c)) ∧
      ∀ {text' c' d'}, ofText? text' = some c' → document? text' = some d' →
        (∀ {α} (s : Setting α), s.Agree d d' → s.value c = s.value c') ∧
        ((∀ {α} (s : Setting α), s.Agree d d') → c = c') := by
  obtain ⟨d, document, read⟩ := Option.bind_eq_some_iff.1 ((ofText?_eq text).symm.trans accepted)
  refine ⟨d, document, settles_of_ofDocument? read, ?_⟩
  intro text' c' d' accepted' document'
  rw [ofText?_eq, document', Option.bind_some] at accepted'
  have same : ∀ {α} (s : Setting α), s.Agree d d' → s.value c = s.value c' := fun s agree =>
    agree.value_eq (settles_of_ofDocument? read s) (settles_of_ofDocument? accepted' s)
  exact ⟨same, fun agree => eq_of_value fun s => same s (agree s)⟩

/-- A document that sets two things, leaves a section empty, and says more that is no setting. -/
theorem partial_over_defaults_two_settings :
    let text := "linter: [a]\nclean_modular_architecture:\n  structure:\n  naming:\n    prefix: A\n" ++
      "    model_suffix: Dto\n  lint:\n    severity: \x7bentity_no_getters: info\x7d\n"
    let c : Config :=
      { naming := { modelSuffix := "Dto" }
        lint := { severity := ⟨[("entity_no_getters", "info")]⟩ } }
    ofText? text = some c ∧ ∃ d, document? text = some d ∧
      ∀ {α} (s : Setting α), d.Settles d.root s.path (s.read d) (s.value {}) (s.value c) := by
  intro text c
  have accepted : ofText? text = some c := by decide +kernel
  obtain ⟨d, document, settles, -⟩ := partial_over_defaults accepted
  exact ⟨accepted, d, document, settles⟩

end Config

end ArchLint
