import ArchLint.Console.Run
import ArchLint.Proofs.JsonGrammar
import ArchLint.Proofs.PathSegments
import ArchLint.Proofs.QuotedTexts
import ArchLint.Syntax.Construct

/-! # Lines of a report

A compact report has a line for every diagnostic as long as no diagnostic holds a line break. The parts that
a rule brings along never do. A message may, since it quotes the file as it is: a literal over several lines
is a text like any other, and so are names and URIs with a line break in them. Then one diagnostic takes
several lines.

* `Text.segments_lines_iff`, `Text.count_lines_iff` — when texts are the lines of what they are joined to.
* `Diagnostic.Unbroken` — a diagnostic that fits into one line.
* `Analyzer.compact_lines` — when a compact report has one line for every diagnostic.
-/

namespace ArchLint

namespace Text

/-! ## Lines -/

theorem toList_lines_cons (t : String) (ts : List String) :
    (lines (t :: ts)).toList = t.toList ++ '\n' :: (lines ts).toList := by
  simp [lines, line]

theorem segments_lines_iff {texts : List String} :
    segments '\n' (lines texts).toList = texts.map String.toList ++ [[]] ↔
      ∀ t ∈ texts, '\n' ∉ t.toList := by
  constructor
  · intro cut t mem held
    have piece : t.toList ∈ segments '\n' (lines texts).toList := by
      rw [cut]
      exact List.mem_append_left _ (List.mem_map_of_mem mem)
    simpa using eq_false_of_mem_segmentsBy piece held
  · intro unbroken
    induction texts with
    | nil => rfl
    | cons t ts ih =>
      obtain ⟨first, rest⟩ := List.forall_mem_cons.1 unbroken
      rw [toList_lines_cons, segments_append_cons, segments_of_not_mem first, ih rest]
      rfl

theorem length_le_count_lines (texts : List String) :
    texts.length ≤ (lines texts).toList.count '\n' := by
  induction texts with
  | nil => exact Nat.zero_le _
  | cons t ts ih =>
    rw [toList_lines_cons, List.count_append, List.count_cons_self, List.length_cons]
    omega

theorem count_lines_iff {texts : List String} :
    (lines texts).toList.count '\n' = texts.length ↔ ∀ t ∈ texts, '\n' ∉ t.toList := by
  induction texts with
  | nil => simp [lines]
  | cons t ts ih =>
    have least := length_le_count_lines ts
    rw [List.forall_mem_cons, ← ih, ← List.count_eq_zero, toList_lines_cons, List.count_append,
      List.count_cons_self, List.length_cons]
    omega

/-! ## Numbers -/

theorem isPrintable_of_isDigit {c : Char} (h : c.isDigit = true) : isPrintable c = true := by
  simp only [Char.isDigit, Bool.and_eq_true, decide_eq_true_eq, ge_iff_le, UInt32.le_iff_toNat_le] at h
  change 48 ≤ c.toNat ∧ c.toNat ≤ 57 at h
  simp only [isPrintable, Bool.and_eq_true, decide_eq_true_eq]
  omega

theorem drawnFrom_decimal {parts : List String} (n : Nat) : DrawnFrom parts (decimal n) := by
  intro c mem
  rw [decimal, String.toList_ofList] at mem
  exact .inl (isPrintable_of_isDigit (isDigit_of_mem_digits mem))

theorem DrawnFrom.mem_of_unprintable {parts : List String} {s : String} (h : DrawnFrom parts s) {c : Char}
    (unprintable : isPrintable c = false) (mem : c ∈ s.toList) : ∃ part ∈ parts, c ∈ part.toList := by
  rcases h c mem with printable | drawn
  · rw [unprintable] at printable
    cases printable
  · exact drawn

end Text

open Text (DrawnFrom isPrintable drawnFrom_of_printable drawnFrom_of_mem drawnFrom_decimal)

/-! ## Diagnostics -/

namespace Diagnostic

variable {d : Diagnostic}

/-- No line ends within the diagnostic: neither its file nor its message holds a line break. -/
def Unbroken (d : Diagnostic) : Prop :=
  '\n' ∉ d.location.file.toList ∧ '\n' ∉ d.message.toList

instance : DecidablePred Unbroken := fun d =>
  inferInstanceAs (Decidable ('\n' ∉ d.location.file.toList ∧ '\n' ∉ d.message.toList))

/-- A report in one line: place, severity, a name for the rule, and the message. -/
theorem newline_not_mem_row_iff {name : String} (printable : name.toList.all isPrintable = true) :
    '\n' ∉ (d.place ++ ": " ++ d.severity.token ++ " [" ++ name ++ "] " ++ d.message).toList ↔
      d.Unbroken := by
  constructor
  · intro absent
    simp only [place, String.toList_append, List.mem_append, not_or] at absent
    tauto
  · intro unbroken mem
    have drawn : DrawnFrom [d.location.file, d.message]
        (d.place ++ ": " ++ d.severity.token ++ " [" ++ name ++ "] " ++ d.message) := by
      have file : DrawnFrom [d.location.file, d.message] d.location.file := drawnFrom_of_mem (.head _)
      have message : DrawnFrom [d.location.file, d.message] d.message :=
        drawnFrom_of_mem (.tail _ (.head _))
      have weight : DrawnFrom [d.location.file, d.message] d.severity.token := by
        cases d.severity <;> exact drawnFrom_of_printable (by decide)
      have called : DrawnFrom [d.location.file, d.message] name := drawnFrom_of_printable printable
      simp (disch := decide) [place, drawnFrom_decimal, file, message, weight, called]
    obtain ⟨part, parts, held⟩ := drawn.mem_of_unprintable rfl mem
    simp only [List.mem_cons, List.not_mem_nil, or_false] at parts
    rcases parts with rfl | rfl
    · exact unbroken.1 held
    · exact unbroken.2 held

end Diagnostic

/-! ## Reports -/

theorem Rule.printable_of_mem_catalog : ∀ r ∈ Rule.catalog,
    r.code.toList.all isPrintable = true ∧ r.name.toList.all isPrintable = true := by
  decide +kernel

namespace Analyzer

variable {a : Analyzer}

/-- The names of a built-in rule are printable, and the rest of a diagnostic is taken from its file. -/
theorem quotes_of_mem_analyze (builtin : ∀ r ∈ a.rules, r ∈ Rule.catalog) {units : List SourceUnit}
    {d : Diagnostic} (reported : d ∈ (a.analyze units).diagnostics) :
    d.code.toList.all isPrintable = true ∧ d.rule.toList.all isPrintable = true ∧
      ∃ unit ∈ units, d.location.file = unit.path ∧
        DrawnFrom (a.config.naming.quotable ++ unit.unit.quotable) d.message := by
  obtain ⟨unit, hunit, checked⟩ := mem_analyze.1 reported
  obtain ⟨-, rule, hrule, ruled⟩ := mem_check.1 checked
  obtain ⟨-, found, finds, x, hx, rfl⟩ := mem_checkRule.1 ruled
  obtain ⟨code, name⟩ := Rule.printable_of_mem_catalog rule (builtin rule hrule)
  exact ⟨code, name, unit, hunit, rfl,
    Rule.drawn_of_mem_catalog (builtin rule hrule) _ _ _ finds x hx⟩

/-- A compact report of built-in rules is cut into one line for every diagnostic, in their order, exactly
if every diagnostic is unbroken, and otherwise has more lines. The same is true of the other form of a
diagnostic that stands in one line. What a message holds besides printable ASCII comes from the texts of
its file that it may quote and from configured endings. So there are no other lines unless a file has a
line break in its path or in one of these texts. -/
theorem compact_lines (builtin : ∀ r ∈ a.rules, r ∈ Rule.catalog) (units : List SourceUnit) :
    let r := a.analyze units
    (∀ {dumps} draw log, dumps ≠ [] → dumps.filterMap DumpFile.unit? = units →
      (checkDumps draw a .compact log dumps).output = r.compact) ∧
    (Text.segments '\n' r.compact.toList = r.diagnostics.map (·.compact.toList) ++ [[]] ↔
      ∀ d ∈ r.diagnostics, d.Unbroken) ∧
    (r.compact.toList.count '\n' = r.diagnostics.length ↔ ∀ d ∈ r.diagnostics, d.Unbroken) ∧
    r.diagnostics.length ≤ r.compact.toList.count '\n' ∧
    (∀ d ∈ r.diagnostics, '\n' ∉ d.display.toList ↔ d.Unbroken) ∧
    (∀ d ∈ r.diagnostics, ∃ unit ∈ units, d.location.file = unit.path ∧
      DrawnFrom (a.config.naming.quotable ++ unit.unit.quotable) d.message) ∧
    ((∀ unit ∈ units, '\n' ∉ unit.path.toList ∧
        ∀ text ∈ a.config.naming.quotable ++ unit.unit.quotable, '\n' ∉ text.toList) →
      ∀ d ∈ r.diagnostics, d.Unbroken) := by
  intro r
  have rows : (∀ row ∈ r.diagnostics.map Diagnostic.compact, '\n' ∉ row.toList) ↔
      ∀ d ∈ r.diagnostics, d.Unbroken := by
    rw [List.forall_mem_map]
    refine forall₂_congr fun d reported => ?_
    exact Diagnostic.newline_not_mem_row_iff (quotes_of_mem_analyze builtin reported).1
  refine ⟨?_, ?_, ?_, ?_, fun d reported => ?_, fun d reported => ?_, fun unbroken d reported => ?_⟩
  · intro dumps draw log given read
    rw [checkDumps, if_neg (by simpa using given), read]
    rfl
  · rw [← rows, ← Text.segments_lines_iff, List.map_map]
    rfl
  · rw [← rows, ← Text.count_lines_iff, List.length_map]
    rfl
  · simpa [Report.compact] using Text.length_le_count_lines (r.diagnostics.map Diagnostic.compact)
  · exact Diagnostic.newline_not_mem_row_iff (quotes_of_mem_analyze builtin reported).2.1
  · exact (quotes_of_mem_analyze builtin reported).2.2
  · obtain ⟨-, -, unit, hunit, file, drawn⟩ := quotes_of_mem_analyze builtin reported
    obtain ⟨path, texts⟩ := unbroken unit hunit
    refine ⟨file ▸ path, fun held => ?_⟩
    obtain ⟨text, mem, broken⟩ := drawn.mem_of_unprintable rfl held
    exact texts text mem broken

/-- A file that registers a Bloc after it has set a title, given by a literal. -/
def titledFile (title : String) : SourceUnit where
  path := "lib/injection_container.dart"
  unit :=
    { declarations := [.function
        { name := "init"
          body := .block [.expression (.methodInvocation none "registerFactory" []
            [⟨none, .thunk (.cascade (.call "AuthBloc" [])
              [.assignment (.ident "title") "=" (.lit title) {}] {})⟩] (.at 3 5))] }] }

/-- With a title on one line there is one diagnostic and one line. -/
theorem compact_lines_titledFile :
    let a : Analyzer := { rules := Rule.catalog }
    let r := a.analyze [titledFile "'home'"]
    (∀ rule ∈ a.rules, rule ∈ Rule.catalog) ∧ r.diagnostics.length = 1 ∧
      Text.segments '\n' r.compact.toList = r.diagnostics.map (·.compact.toList) ++ [[]] ∧
      r.compact.toList.count '\n' = 1 := by
  intro a r
  have builtin : ∀ rule ∈ a.rules, rule ∈ Rule.catalog := fun _ known => known
  have single : r.diagnostics.length = 1 := by decide +kernel
  have unbroken : ∀ d ∈ r.diagnostics, d.Unbroken := by decide +kernel
  obtain ⟨-, cut, count, -⟩ := compact_lines builtin [titledFile "'home'"]
  exact ⟨builtin, single, cut.2 unbroken, (count.2 unbroken).trans single⟩

/-- A title over two lines is quoted as it is, and the one diagnostic takes two lines. -/
theorem two_lines_titledFile :
    let a : Analyzer := { rules := Rule.catalog }
    let r := a.analyze [titledFile "'''a\nb'''"]
    r.diagnostics.length = 1 ∧
      r.compact = "lib/injection_container.dart:3:5: warning [CMA013] `AuthBloc()..title = '''a\n" ++
        "b'''` is registered with `registerFactory`; use `registerLazySingleton`\n" ∧
      r.compact.toList.count '\n' ≠ r.diagnostics.length ∧
      ∀ d ∈ r.diagnostics, '\n' ∈ d.display.toList := by
  intro a r
  let d := Rule.lazySingletonForBloc.diagnose "lib/injection_container.dart" .warning
    ⟨.at 3 5, "`AuthBloc()..title = '''a\nb'''` is registered with `registerFactory`; " ++
      "use `registerLazySingleton`"⟩
  have reported : r.diagnostics = [d] := by decide +kernel
  have broken : ¬ d.Unbroken := by decide +kernel
  rw [Report.compact, reported]
  refine ⟨rfl, by decide +kernel, fun single => broken ?_, ?_⟩
  · exact (Diagnostic.newline_not_mem_row_iff (by decide)).1 (Text.count_lines_iff.1 single _ (.head _))
  · rw [List.forall_mem_singleton]
    by_contra absent
    exact broken ((Diagnostic.newline_not_mem_row_iff (by decide)).1 absent)

end Analyzer

end ArchLint
