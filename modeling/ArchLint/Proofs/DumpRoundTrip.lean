import ArchLint.Dump.Files
import ArchLint.Dump.Report
import ArchLint.Proofs.CodeReading

/-! # Trees and reports come back from their texts

* `SourceUnit.ofJson?_toJson`, `Report.ofJson?_toJson` — the documents of trees and reports give them
  back, as far as the levels that may be opened allow.
* `Report.depth_toJson_le` — a report never reaches the limit.
* `written_texts_read_back` — the same for the texts of these documents; `DumpFile.read_written` — and for
  dump files that hold them.
-/

namespace ArchLint

open Json (keep? Restores RestoresAll)

/-! ## Declarations -/

@[simp] theorem MethodKind.lookup_token (k : MethodKind) :
    MethodKind.words.lookup k.token = some k := by
  cases k <;> rfl

@[simp] theorem ClassKind.lookup_token (k : ClassKind) :
    ClassKind.words.lookup k.token = some k := by
  cases k <;> rfl

theorem VariableDeclarator.ofJson?_toJson (v : VariableDeclarator) :
    Restores VariableDeclarator.ofJson? v.toJson v := by
  intro n
  cases n with
  | zero => simp [VariableDeclarator.ofJson?, VariableDeclarator.toJson]
  | succ n =>
      simp [VariableDeclarator.ofJson?, VariableDeclarator.toJson,
        optional_optionalExprToJson v.initializer n, ite_and]

theorem FieldDecl.ofJson?_members (f : FieldDecl) :
    Restores FieldDecl.ofJson? (.obj f.members) f := by
  intro n
  cases n with
  | zero => simp [FieldDecl.ofJson?]
  | succ n =>
      have declarators := (RestoresAll.map VariableDeclarator.ofJson?_toJson f.declarators).listOf? n
      simp [FieldDecl.ofJson?, FieldDecl.members, declarators, ite_and]

theorem ConstructorDecl.ofJson?_members (c : ConstructorDecl) :
    Restores ConstructorDecl.ofJson? (.obj c.members) c := by
  intro n
  cases n with
  | zero => simp [ConstructorDecl.ofJson?]
  | succ n =>
      simp [ConstructorDecl.ofJson?, ConstructorDecl.members, c.body.ofJson?_toJson n,
        (parametersOfJson?_parametersToJson c.parameters).listOf? n, ite_and]

theorem MethodDecl.ofJson?_members (m : MethodDecl) :
    Restores MethodDecl.ofJson? (.obj m.members) m := by
  intro n
  cases n with
  | zero => simp [MethodDecl.ofJson?]
  | succ n =>
      simp [MethodDecl.ofJson?, MethodDecl.members, m.body.ofJson?_toJson n,
        (parametersOfJson?_parametersToJson m.parameters).listOf? n, ite_and]

theorem FunctionDecl.ofJson?_members (f : FunctionDecl) :
    Restores FunctionDecl.ofJson? (.obj f.members) f := by
  intro n
  cases n with
  | zero => simp [FunctionDecl.ofJson?]
  | succ n =>
      simp [FunctionDecl.ofJson?, FunctionDecl.members, f.body.ofJson?_toJson n,
        (parametersOfJson?_parametersToJson f.parameters).listOf? n, ite_and]

theorem ClassMember.ofJson?_toJson (m : ClassMember) : Restores ClassMember.ofJson? m.toJson m := by
  intro n
  unfold ClassMember.ofJson? ClassMember.toJson
  cases m with
  | field f =>
      rw [Json.variant?_tagged (by decide) (by simp [FieldDecl.members]), Json.depth_tagged]
      exact f.ofJson?_members.map ClassMember.field n
  | constructor c =>
      rw [Json.variant?_tagged (by decide) (by simp [ConstructorDecl.members]), Json.depth_tagged]
      exact c.ofJson?_members.map ClassMember.constructor n
  | method m =>
      rw [Json.variant?_tagged (by decide) (by simp [MethodDecl.members]), Json.depth_tagged]
      exact m.ofJson?_members.map ClassMember.method n

theorem ClassModifiers.ofJson?_toJson (m : ClassModifiers) :
    Restores ClassModifiers.ofJson? m.toJson m := by
  intro n
  cases n with
  | zero => simp [ClassModifiers.ofJson?, ClassModifiers.toJson]
  | succ n => simp [ClassModifiers.ofJson?, ClassModifiers.toJson]

theorem ClassDecl.ofJson?_jsonMembers (c : ClassDecl) :
    Restores (ClassDecl.ofJson? true) (.obj c.jsonMembers) c := by
  intro n
  cases n with
  | zero => simp [ClassDecl.ofJson?]
  | succ n =>
      have members := (RestoresAll.map ClassMember.ofJson?_toJson c.members).listOf? n
      simp [ClassDecl.ofJson?, ClassDecl.jsonMembers, keep?, c.modifiers.ofJson?_toJson n, members,
        (typesOfJson?_typesToJson c.interfaces).listOf? n,
        (typesOfJson?_typesToJson c.mixins).listOf? n, ite_and]

@[simp] theorem Directive.ofJson?_toJson (d : Directive) :
    Restores Directive.ofJson? d.toJson d := by
  intro n
  cases n with
  | zero => cases d <;> simp [Directive.ofJson?, Directive.toJson]
  | succ n =>
      cases d with
      | library name span => simp [Directive.ofJson?, Directive.toJson]
      | reference kind target =>
          cases kind <;>
            simp [Directive.ofJson?, Directive.toJson, ReferenceKind.token, Reference.ofJson?]

theorem Declaration.ofJson?_toJson (d : Declaration) :
    Restores Declaration.ofJson? d.toJson d := by
  intro n
  cases n with
  | zero => cases d <;> simp [Declaration.ofJson?, Declaration.toJson]
  | succ n =>
      cases d with
      | classLike c =>
          rw [Declaration.toJson, Declaration.ofJson?,
            Json.variant?_tagged (by decide) (by simp [ClassDecl.jsonMembers]), Json.depth_tagged]
          exact c.ofJson?_jsonMembers.map Declaration.classLike (n + 1)
      | function f =>
          rw [Declaration.toJson, Declaration.ofJson?,
            Json.variant?_tagged (by decide) (by simp [FunctionDecl.members]), Json.depth_tagged]
          exact f.ofJson?_members.map Declaration.function (n + 1)
      | variableList f =>
          rw [Declaration.toJson, Declaration.ofJson?,
            Json.variant?_tagged (by decide) (by simp [FieldDecl.members]), Json.depth_tagged]
          exact f.ofJson?_members.map Declaration.variableList (n + 1)
      | other span => simp [Declaration.ofJson?, Declaration.toJson]

theorem Directive.plain_toJson (d : Directive) : d.toJson.Plain := by
  cases d <;> simp [Directive.toJson]

theorem Directive.kept (d : Directive) :
    Restores (fun n j => (keep? false n j).bind (Directive.ofJson? n)) d.toJson d := by
  apply Restores.kept d.ofJson?_toJson d.plain_toJson
  cases d <;> exact Json.hasNumberedKind_tagged (by simp)

theorem VariableDeclarator.plain_toJson (v : VariableDeclarator) : v.toJson.Plain := by
  simp [VariableDeclarator.toJson]

@[simp] theorem FieldDecl.plain_members (f : FieldDecl) : Json.PlainMembers f.members := by
  simp [FieldDecl.members, Json.plainItems_map VariableDeclarator.plain_toJson f.declarators]

theorem ClassMember.plain_toJson (m : ClassMember) : m.toJson.Plain := by
  unfold ClassMember.toJson
  cases m with
  | field f => simp
  | constructor c => simp [ConstructorDecl.members]
  | method m => simp [MethodDecl.members]

theorem ClassModifiers.plain_toJson (m : ClassModifiers) : m.toJson.Plain := by
  simp [ClassModifiers.toJson]

theorem Declaration.plain_toJson (d : Declaration) : d.toJson.Plain := by
  unfold Declaration.toJson
  cases d with
  | classLike c =>
      simp [ClassDecl.jsonMembers, c.modifiers.plain_toJson,
        Json.plainItems_map ClassMember.plain_toJson c.members]
  | function f => simp [FunctionDecl.members]
  | variableList f => simp
  | other span => simp

theorem Declaration.kept (d : Declaration) :
    Restores (fun n j => (keep? false n j).bind (Declaration.ofJson? n)) d.toJson d := by
  apply Restores.kept d.ofJson?_toJson d.plain_toJson
  -- What is written behind a kind bears other keys.
  cases d <;> exact Json.hasNumberedKind_tagged (by
    simp [ClassDecl.jsonMembers, FunctionDecl.members, FieldDecl.members])

theorem CompilationUnit.ofJson?_toJson (u : CompilationUnit) :
    Restores CompilationUnit.ofJson? u.toJson u := by
  intro n
  cases n with
  | zero => simp [CompilationUnit.ofJson?, CompilationUnit.toJson]
  | succ n =>
      -- Directives and declarations are kept whole, so the check on such records comes in here.
      have directives := (RestoresAll.map Directive.kept u.directives).listOf? n
      have declarations := (RestoresAll.map Declaration.kept u.declarations).listOf? n
      simp [CompilationUnit.ofJson?, CompilationUnit.toJson, directives, declarations, ite_and]

theorem SourceUnit.ofJson?_toJson (u : SourceUnit) : Restores SourceUnit.ofJson? u.toJson u := by
  obtain ⟨path, unit, content⟩ := u
  intro n
  cases n with
  | zero => cases content <;> simp [SourceUnit.ofJson?, SourceUnit.toJson]
  | succ n =>
      have read := unit.ofJson?_toJson n
      cases content with
      -- A key that is left out is read as an absent text.
      | none => simp [SourceUnit.ofJson?, SourceUnit.toJson, Json.fields?, Json.once?, Json.optional,
          read]
      | some text => simp [SourceUnit.ofJson?, SourceUnit.toJson, Json.optional, read]

theorem SourceUnit.plain_toJson (u : SourceUnit) : u.toJson.Plain := by
  have directives := Json.plainItems_map Directive.plain_toJson u.unit.directives
  have declarations := Json.plainItems_map Declaration.plain_toJson u.unit.declarations
  obtain ⟨path, unit, content⟩ := u
  cases content <;> simp [SourceUnit.toJson, CompilationUnit.toJson, directives, declarations]

/-! ## Reports -/

@[simp] theorem Severity.lookup_token (s : Severity) : Severity.words.lookup s.token = some s := by
  cases s <;> rfl

theorem Location.ofJson?_toJson (l : Location) : Restores Location.ofJson? l.toJson l := by
  intro n
  cases n with
  | zero => simp [Location.ofJson?, Location.toJson]
  | succ n => simp [Location.ofJson?, Location.toJson]

theorem Diagnostic.ofJson?_toJson (d : Diagnostic) : Restores Diagnostic.ofJson? d.toJson d := by
  obtain ⟨code, rule, severity, location, message, correction⟩ := d
  intro n
  cases n with
  | zero => cases correction <;> simp [Diagnostic.ofJson?, Diagnostic.toJson]
  | succ n =>
      have read := location.ofJson?_toJson n
      cases correction with
      | none =>
          simp [Diagnostic.ofJson?, Diagnostic.toJson, Json.fields?, Json.once?, Json.optional, read]
      | some text => simp [Diagnostic.ofJson?, Diagnostic.toJson, Json.optional, read]

theorem Report.ofJson?_toJson (r : Report) : Restores Report.ofJson? r.toJson r := by
  intro n
  cases n with
  | zero => simp [Report.ofJson?, Report.toJson]
  | succ n =>
      have diagnostics := (RestoresAll.map Diagnostic.ofJson?_toJson r.diagnostics).listOf? n
      simp [Report.ofJson?, Report.toJson, diagnostics]

theorem Diagnostic.plain_toJson (d : Diagnostic) : d.toJson.Plain := by
  obtain ⟨code, rule, severity, location, message, correction⟩ := d
  cases correction <;> simp [Diagnostic.toJson, Location.toJson]

theorem Report.plain_toJson (r : Report) : r.toJson.Plain := by
  simp [Report.toJson, Json.plainItems_map Diagnostic.plain_toJson r.diagnostics]

theorem Diagnostic.depth_toJson (d : Diagnostic) : d.toJson.depth = 2 := by
  obtain ⟨code, rule, severity, location, message, correction⟩ := d
  cases correction <;> simp [Diagnostic.toJson, Location.toJson]

theorem Report.depth_toJson_le (r : Report) : r.toJson.depth ≤ 4 := by
  -- A report holds a list of diagnostics, and each of these a place.
  have items : Json.depthOfItems (r.diagnostics.map Diagnostic.toJson) ≤ 2 := by
    induction r.diagnostics with
    | nil => simp
    | cons d ds ih => simp [d.depth_toJson, ih]
  simp [Report.toJson]
  omega

/-! ## Texts -/

theorem readDocument_of_restores {α : Type} {ofJson? : Nat → Json → Option α} {text : String}
    {j : Json} {a : α} (h : Restores ofJson? j a) (read : Json.read text = some j) :
    readDocument ofJson? text = if j.depth ≤ nestingLimit then some a else none := by
  rw [readDocument, read, Option.bind_some]
  exact h nestingLimit

theorem SourceUnit.parse_of_read {u : SourceUnit} {text : String}
    (read : Json.read text = some u.toJson) :
    parse text = if u.toJson.depth ≤ nestingLimit then .ok u else .error .malformed := by
  rw [parse, ofText?, readDocument_of_restores u.ofJson?_toJson read]
  by_cases room : u.toJson.depth ≤ nestingLimit
  · rw [if_pos room, if_pos room]
  · rw [if_neg room, if_neg room]

theorem fromUTF8?_toUTF8 (text : String) : String.fromUTF8? text.toUTF8 = some text := by
  simp only [String.fromUTF8?, String.toUTF8_eq_toByteArray, dif_pos text.isValidUTF8]
  rfl

/-- A dump file that holds the text of a tree. -/
theorem DumpFile.read_written (path : String) {u : SourceUnit}
    (room : u.toJson.depth ≤ nestingLimit) :
    (⟨path, u.toJson.compact.toUTF8⟩ : DumpFile).read = .ok u := by
  simp only [read, fromUTF8?_toUTF8, SourceUnit.parse_of_read u.plain_toJson.read_compact, if_pos room]

theorem Report.ofText?_of_read {r : Report} {text : String}
    (read : Json.read text = some r.toJson) : ofText? text = some r := by
  have room : r.toJson.depth ≤ nestingLimit := Nat.le_trans r.depth_toJson_le (by decide)
  rw [ofText?, readDocument_of_restores r.ofJson?_toJson read, if_pos room]

/-- The text of a tree, in either layout, spells a document that gives back exactly that tree when its
arrays and objects nest no deeper than the limit, and is refused otherwise. The text of a report always
gives the report back. -/
theorem written_texts_read_back :
    (∀ u : SourceUnit,
      (Json.read u.toJson.compact = some u.toJson ∧ Json.read u.toJson.pretty = some u.toJson) ∧
      SourceUnit.parse u.toJson.compact =
        (if u.toJson.depth ≤ nestingLimit then .ok u else .error .malformed) ∧
      SourceUnit.parse u.toJson.pretty =
        (if u.toJson.depth ≤ nestingLimit then .ok u else .error .malformed)) ∧
    (∀ r : Report, Report.ofText? r.toJson.compact = some r ∧
      Report.ofText? r.toJson.pretty = some r) := by
  constructor
  · intro u
    have compact := u.plain_toJson.read_compact
    have pretty := u.plain_toJson.read_pretty
    exact ⟨⟨compact, pretty⟩, SourceUnit.parse_of_read compact, SourceUnit.parse_of_read pretty⟩
  · intro r
    exact ⟨Report.ofText?_of_read r.plain_toJson.read_compact,
      Report.ofText?_of_read r.plain_toJson.read_pretty⟩

end ArchLint
