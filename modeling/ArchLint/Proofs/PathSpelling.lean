import Mathlib.Data.List.Forall2
import ArchLint.Analyzer
import ArchLint.Proofs.Lowercasing
import ArchLint.Rule.Catalog

/-! # Spellings of one path

Rules, roles and the test for generated files ask everything of the normal form of a path. So a file is
judged alike under all spellings of its path that have one normal form, and only the place in its
diagnostics tells the spellings apart. Slashes of both kinds, the case of ASCII letters and a slash in
front are such differences; the last two need that lowercasing is not disturbed by them.

* `Path.Variant` — another spelling of a path.
* `NormalPath.of_variant` — it has the same normal form.
* `Analyzer.check_relocated` — a file under two paths of one normal form.
-/

namespace ArchLint

/-! ## Spellings -/

namespace Path

/-- A slash of either kind. -/
def isSeparator (c : Char) : Bool :=
  c == '/' || c == '\\'

/-- Two characters that may stand for each other in a path: separators, or one character up to the case
of ASCII letters. -/
def alike (c d : Char) : Bool :=
  (isSeparator c && isSeparator d) || Text.asciiLowerChar c == Text.asciiLowerChar d

/-- The second path is the first one with other separators and other cases of letters, and perhaps with
a slash in front if the first one does not begin with a separator. -/
inductive Variant (p q : String) : Prop
  | respelled : List.Forall₂ (alike · ·) p.toList q.toList → Variant p q
  | rooted : p.toList.head?.any isSeparator = false →
      List.Forall₂ (alike · ·) ('/' :: p.toList) q.toList → Variant p q

end Path

theorem asciiLower_forwardSlashes_eq {cs ds : List Char} (h : List.Forall₂ (Path.alike · ·) cs ds) :
    Text.asciiLower (forwardSlashes cs) = Text.asciiLower (forwardSlashes ds) := by
  induction h with
  | nil => rfl
  | @cons c d cs ds alike _ ih =>
    simp only [Text.asciiLower, forwardSlashes, List.map_cons, List.cons.injEq] at ih ⊢
    refine ⟨?_, ih⟩
    simp only [Path.alike, Path.isSeparator, Bool.or_eq_true, Bool.and_eq_true, beq_iff_eq] at alike
    rcases alike with ⟨rfl | rfl, rfl | rfl⟩ | same
    · rfl
    · rfl
    · rfl
    · rfl
    -- One of the two is a backslash only if the other one is.
    · have backslash : (c == '\\') = (d == '\\') := by
        rw [← Text.asciiLowerChar_beq (by decide), same, Text.asciiLowerChar_beq (by decide)]
      rw [backslash]
      split
      next => rfl
      next => exact same

namespace NormalPath

variable {p q : String}

theorem of_congr (h : Text.asciiLower (forwardSlashes p.toList) =
    Text.asciiLower (forwardSlashes q.toList)) : of p = of q := by
  have lowered : Text.lower (forwardSlashes p.toList) = Text.lower (forwardSlashes q.toList) := by
    rw [← Text.lower_asciiLower, h, Text.lower_asciiLower]
  simp only [of, lowered]

/-- A slash in front of a path is what its normal form has anyway. -/
theorem of_rooted (relative : p.toList.head?.any Path.isSeparator = false) : of ("/" ++ p) = of p := by
  have lead : leadsWithSlash (Text.lower (forwardSlashes p.toList)) = false := by
    rw [Text.leadsWithSlash_lower]
    cases chars : p.toList with
    | nil => rfl
    | cons c cs =>
      rw [chars] at relative
      simp only [List.head?_cons, Option.any_some, Path.isSeparator, Bool.or_eq_false_iff,
        beq_eq_false_iff_ne] at relative
      simp [forwardSlashes, leadsWithSlash, relative]
  have rooted : Text.lower (forwardSlashes ("/" ++ p).toList) =
      '/' :: Text.lower (forwardSlashes p.toList) := by
    rw [String.toList_append]
    exact Text.lower_slash_cons (forwardSlashes p.toList)
  simp only [of, rooted, lead]
  rfl

theorem of_variant (h : Path.Variant p q) : of p = of q := by
  cases h with
  | respelled alike => exact of_congr (asciiLower_forwardSlashes_eq alike)
  | rooted relative alike =>
    have chars : ("/" ++ p).toList = '/' :: p.toList := String.toList_append
    rw [← of_rooted relative]
    apply of_congr
    rw [chars]
    exact asciiLower_forwardSlashes_eq alike

end NormalPath

/-! ## Judgements -/

/-- The diagnostic under another path of its file. -/
def Diagnostic.inFile (file : String) (d : Diagnostic) : Diagnostic :=
  { d with location := { d.location with file := file } }

namespace Analyzer

variable {p q : String}

theorem checkRule_relocated (a : Analyzer) (unit : SourceUnit) (r : Rule)
    (context : a.config.contextOf p = a.config.contextOf q) :
    a.checkRule { unit with path := q } r =
      (a.checkRule { unit with path := p } r).map (Diagnostic.inFile q) := by
  simp only [checkRule, context]
  split
  next => rfl
  next =>
    split
    next => rw [List.map_map]; rfl
    next => rfl

/-- Under two paths of one normal form a file has the same diagnostics, in the same order and the same
but for the path in their locations; it counts as generated under both or under none; and its classes
have the same roles. Two spellings of one path have one normal form. -/
theorem check_relocated (h : NormalPath.of p = NormalPath.of q ∨ Path.Variant p q) :
    NormalPath.of p = NormalPath.of q ∧
    (∀ (a : Analyzer) (unit : SourceUnit), a.check { unit with path := q } =
      (a.check { unit with path := p }).map (Diagnostic.inFile q)) ∧
    isGeneratedPath (.of p) = isGeneratedPath (.of q) ∧
    ∀ (config : Config) (c : ClassDecl), (config.contextOf p).role c = (config.contextOf q).role c := by
  have same : NormalPath.of p = NormalPath.of q := h.elim id NormalPath.of_variant
  have context : ∀ config : Config, config.contextOf p = config.contextOf q := fun config => by
    rw [Config.contextOf, Config.contextOf, same]
  refine ⟨same, fun a unit => ?_, congrArg isGeneratedPath same, fun config c => by rw [context]⟩
  have skips : a.skips { unit with path := q } = a.skips { unit with path := p } := by
    simp only [Analyzer.skips, same]
  exact check_eq_map skips fun r _ => a.checkRule_relocated unit r (context a.config)

/-- A file that imports a data client. -/
def clientAt (path : String) : SourceUnit where
  path := path
  unit := { directives := [.reference .imported { uri := "package:dio/dio.dart" }] }

theorem check_relocated_client :
    let a : Analyzer := { rules := Rule.catalog }
    Path.Variant "Domain\\ΟΔΟΣ.dart" "/dOMAIN/ΟΔΟΣ.Dart" ∧
      (a.check (clientAt "Domain\\ΟΔΟΣ.dart")).map (·.location.file) = ["Domain\\ΟΔΟΣ.dart"] ∧
      a.check (clientAt "/dOMAIN/ΟΔΟΣ.Dart") =
        (a.check (clientAt "Domain\\ΟΔΟΣ.dart")).map (Diagnostic.inFile "/dOMAIN/ΟΔΟΣ.Dart") :=
  have variant : Path.Variant "Domain\\ΟΔΟΣ.dart" "/dOMAIN/ΟΔΟΣ.Dart" :=
    .rooted (by decide) (by decide)
  ⟨variant, by decide +kernel, (check_relocated (.inr variant)).2.1 _ (clientAt "")⟩

end Analyzer

end ArchLint
