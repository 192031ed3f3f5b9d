import ArchLint.FileContext
import ArchLint.Proofs.LocationPatterns

/-! # Longer paths of one file

A host may report a file from the root of its project, from a package inside it, or with its absolute
path. The normal form of the shorter path is then an end of the normal form of the longer one, since a
slash stands between the two parts and lowercasing does not look beyond it. Every test of a location
looks for something that lies anywhere on the path, so the longer path passes it as well.

* `NormalPath.chars_suffix_of_join` — the normal form of a path with a directory in front.
* `NormalPath.matchesPattern_of_suffix` — a configured location holds the longer path as well.
* `FileContext.layerTests_join` — no layer is lost.
-/

namespace ArchLint

namespace NormalPath

variable {p q : NormalPath}

theorem chars_suffix_of_join (d p : String) : (of p).chars <:+ (of (d ++ "/" ++ p)).chars := by
  have whole : Text.lower (forwardSlashes (d ++ "/" ++ p).toList) <:+ (of (d ++ "/" ++ p)).chars := by
    simp only [of]
    split
    · exact List.suffix_refl _
    · exact List.suffix_cons _ _
  have inner : (of p).chars <:+ '/' :: Text.lower (forwardSlashes p.toList) := by
    simp only [of]
    split
    · exact List.suffix_cons _ _
    · exact List.suffix_refl _
  rw [lower_forwardSlashes_join] at whole
  exact (inner.trans (List.suffix_append _ _)).trans whole

theorem containsChars_of_suffix (longer : p.chars <:+ q.chars) {fragment : List Char}
    (h : p.containsChars fragment = true) : q.containsChars fragment = true := by
  rw [containsChars_iff] at h ⊢
  exact ⟨h.1, h.2.trans longer.isInfix⟩

/-- The text of the shorter path is what follows a slash of the longer one, if it is not all of it. -/
theorem resumes_of_suffix (lead : leadsWithSlash p.chars = true) (longer : p.chars <:+ q.chars) :
    Glob.Resumes (withoutLeadingSlashes q.chars) (withoutLeadingSlashes p.chars) := by
  obtain ⟨front, whole⟩ := longer
  obtain ⟨slashes, inner⟩ := exists_append_withoutLeadingSlashes lead
  rw [← whole, withoutLeadingSlashes, List.dropWhile_append]
  split
  next => exact .refl _
  next =>
    refine .inr (.inl ⟨front.dropWhile (· == '/') ++ slashes, ?_⟩)
    rw [List.append_assoc, ← inner]

theorem matchesPattern_of_suffix (lead : leadsWithSlash p.chars = true) (longer : p.chars <:+ q.chars)
    {pattern : String} (h : p.matchesPattern pattern = true) : q.matchesPattern pattern = true := by
  cases wild : isWildcard (normalPattern pattern) with
  | true =>
    rw [matchesPattern_iff wild, Glob.matchesBelow_iff_resumes] at h ⊢
    obtain ⟨rest, leaves, accepted⟩ := h
    exact ⟨rest, (resumes_of_suffix lead longer).trans leaves, accepted⟩
  | false =>
    simp only [matchesPattern, wild, Bool.false_eq_true, if_false] at h ⊢
    exact containsChars_of_suffix longer h

end NormalPath

namespace FileContext

/-- The tests by which a file is placed in a layer or under a directory of its project. -/
def layerTests : List (FileContext → Bool) :=
  [isEntityPath, isModelPath, isDomainPath, isDataPath, isPresentationPath, isCorePath,
    isGlobalCubitPath, isRepositoryInterfacePath, isModelLocation]

/-- A file that lies in a layer or under a directory lies there as well when its path is reported with
a directory in front. -/
theorem layerTests_join (config : Config) (d p : String) : ∀ test ∈ layerTests,
    test (config.contextOf p) = true → test (config.contextOf (d ++ "/" ++ p)) = true := by
  have longer := NormalPath.chars_suffix_of_join d p
  have chars : ∀ fragment, (config.contextOf p).path.containsChars fragment = true →
      (config.contextOf (d ++ "/" ++ p)).path.containsChars fragment = true :=
    fun _ => NormalPath.containsChars_of_suffix longer
  have text : ∀ fragment, (config.contextOf p).path.contains fragment = true →
      (config.contextOf (d ++ "/" ++ p)).path.contains fragment = true :=
    fun fragment => chars fragment.toList
  have located : ∀ patterns : List String,
      patterns.any (config.contextOf p).path.matchesPattern = true →
      patterns.any (config.contextOf (d ++ "/" ++ p)).path.matchesPattern = true := by
    intro patterns found
    obtain ⟨pattern, mem, holds⟩ := List.any_eq_true.1 found
    have lead := NormalPath.leadsWithSlash_of p
    exact List.any_eq_true.2 ⟨pattern, mem, NormalPath.matchesPattern_of_suffix lead longer holds⟩
  have core : (config.contextOf p).isCorePath = true →
      (config.contextOf (d ++ "/" ++ p)).isCorePath = true := by
    simp only [isCorePath, Bool.or_eq_true]
    exact Or.imp (chars _) (text _)
  simp only [layerTests, List.forall_mem_cons]
  refine ⟨located _, located _, text _, text _, text _, core, ?_, text _, ?_, by simp⟩
  · simp only [isGlobalCubitPath, Bool.and_eq_true, Bool.or_eq_true]
    exact And.imp core (Or.imp (text _) (text _))
  · simp only [isModelLocation, isModelPath, Bool.or_eq_true, Bool.and_eq_true]
    exact Or.imp (Or.imp (located _) (text _)) (And.imp (text _) (text _))

theorem layerTests_join_absolute :
    let config : Config := { layout := { modelPatterns := ["data/*/[t-v]?*_model.dart"] } }
    let p := "/Data/ΟΔΟΣ/user_model.dart"
    isModelPath ∈ layerTests ∧ isModelPath (config.contextOf p) = true ∧
      isModelPath (config.contextOf ("C:\\ΣΑΣ" ++ "/" ++ p)) = true := by
  intro config p
  have listed : isModelPath ∈ layerTests := by simp [layerTests]
  have holds : isModelPath (config.contextOf p) = true := by decide +kernel
  exact ⟨listed, holds, layerTests_join config "C:\\ΣΑΣ" p isModelPath listed holds⟩

end FileContext

end ArchLint
