import Mathlib.Data.List.Basic
import Mathlib.Data.List.Infix
import Mathlib.Data.List.TakeWhile
import ArchLint.Path.Normal

/-! # The directories of a path

Whether a fragment lies on a path is decided by looking for its text between two slashes. A path in
normal form is a list of segments: an empty one before its first slash, the directories, and the file
name. On these lists the test asks for a run of neighbours among the directories, so no directory is
ever taken in part, and the file name is never taken for a directory.

* `NormalPath.directories` — the segments between the first and the last one.
* `slash_infix_iff_segments` — what stands between two slashes is a run of segments.
* `NormalPath.contains_iff_directories` — a fragment is a run of directories.
-/

namespace ArchLint

/-! ## Segments of a text -/

namespace Text

theorem segments_ne_nil (sep : Char) (cs : List Char) : segments sep cs ≠ [] :=
  segmentsBy_ne_nil _ cs

theorem segments_of_not_mem {sep : Char} {cs : List Char} (absent : sep ∉ cs) :
    segments sep cs = [cs] := by
  rw [segments_eq_splitOn, List.splitOn_eq_singleton absent]

theorem segments_append_cons (sep : Char) (cs ds : List Char) :
    segments sep (cs ++ sep :: ds) = segments sep cs ++ segments sep ds :=
  segmentsBy_append_cons (p := (· == sep)) (beq_self_eq_true sep) cs ds

theorem intercalate_segments (sep : Char) (cs : List Char) :
    [sep].intercalate (segments sep cs) = cs := by
  rw [segments_eq_splitOn, List.intercalate_splitOn]

theorem intercalate_append {sep : List Char} {xs ys : List (List Char)} (front : xs ≠ [])
    (back : ys ≠ []) :
    sep.intercalate (xs ++ ys) = sep.intercalate xs ++ (sep ++ sep.intercalate ys) := by
  induction xs with
  | nil => exact absurd rfl front
  | cons x xs ih =>
    have more : xs ++ ys ≠ [] := List.append_ne_nil_of_right_ne_nil xs back
    rw [List.cons_append, List.intercalate_cons_of_ne_nil more]
    cases xs with
    | nil => simp
    | cons y xs =>
      rw [ih (List.cons_ne_nil y xs), List.intercalate_cons_cons]
      simp

/-- The last piece is what stands behind the last separator. -/
theorem getLast?_segments (sep : Char) (cs : List Char) :
    (segments sep cs).getLast? = some (cs.reverse.takeWhile (· != sep)).reverse := by
  generalize taken : cs.reverse.takeWhile (· != sep) = name
  generalize left : cs.reverse.dropWhile (· != sep) = rest
  have absent : sep ∉ name.reverse := by
    intro mem
    rw [List.mem_reverse, ← taken] at mem
    simpa using List.mem_takeWhile_imp mem
  have whole : cs = rest.reverse ++ name.reverse := by
    rw [← List.reverse_append, ← taken, ← left, List.takeWhile_append_dropWhile, List.reverse_reverse]
  cases rest with
  | nil =>
    rw [whole, List.reverse_nil, List.nil_append, segments_of_not_mem absent]
    rfl
  | cons c rest =>
    have stop := List.head?_dropWhile_not (· != sep) cs.reverse
    rw [left] at stop
    obtain rfl : c = sep := by simpa using stop
    rw [whole, List.reverse_cons, List.append_assoc, List.singleton_append, segments_append_cons,
      segments_of_not_mem absent, List.getLast?_concat]

/-- A text with a sign before it is part of another one if it begins what follows that sign somewhere. -/
theorem cons_infix_iff {c : Char} {name cs : List Char} :
    c :: name <:+: cs ↔ ∃ before rest, cs = before ++ c :: rest ∧ name <+: rest := by
  constructor
  · rintro ⟨before, after, rfl⟩
    exact ⟨before, name ++ after, by simp, List.prefix_append name after⟩
  · rintro ⟨before, _, rfl, after, rfl⟩
    exact ⟨before, after, by simp⟩

end Text

open Text (segments)

/-- A text stands between two slashes of another one if its pieces follow one another there, the first
and the last piece of the other one left aside. -/
theorem slash_infix_iff_segments {name cs : List Char} : '/' :: (name ++ ['/']) <:+: cs ↔
    segments '/' name <:+: (segments '/' cs).tail.dropLast := by
  constructor
  · intro h
    obtain ⟨before, _, rfl, after, rfl⟩ := Text.cons_infix_iff.1 h
    obtain ⟨first, front, pieces⟩ := List.exists_cons_of_ne_nil (Text.segments_ne_nil '/' before)
    rw [List.append_assoc, List.singleton_append, Text.segments_append_cons,
      Text.segments_append_cons, pieces, List.cons_append, List.tail_cons, ← List.append_assoc,
      List.dropLast_append_of_ne_nil (Text.segments_ne_nil '/' after)]
    exact List.infix_append front _ _
  · rintro ⟨front, back, inner⟩
    obtain ⟨first, rest, pieces⟩ := List.exists_cons_of_ne_nil (Text.segments_ne_nil '/' cs)
    rw [pieces, List.tail_cons] at inner
    rcases List.eq_nil_or_concat rest with rfl | ⟨init, last, rfl⟩
    · simp [Text.segments_ne_nil] at inner
    -- One piece at least stands before the run and one behind it, and a slash at each of the two joints.
    · rw [List.concat_eq_append, List.dropLast_concat] at inner
      have split : segments '/' cs = (first :: front) ++ (segments '/' name ++ (back ++ [last])) := by
        rw [pieces, ← inner]
        simp
      have spelled := Text.intercalate_segments '/' cs
      rw [split, Text.intercalate_append (by simp) (by simp),
        Text.intercalate_append (Text.segments_ne_nil '/' name) (by simp),
        Text.intercalate_segments] at spelled
      exact ⟨_, _, by simpa using spelled⟩

/-! ## Directories of a path -/

namespace NormalPath

/-- The directories that lead to the file, outermost first. -/
def directories (p : NormalPath) : List (List Char) :=
  (segments '/' p.chars).tail.dropLast

theorem containsChars_iff_directories {p : NormalPath} {fragment : List Char} :
    p.containsChars fragment = true ↔ Text.stripBy (· == '/') fragment ≠ [] ∧
      segments '/' (Text.stripBy (· == '/') fragment) <:+: p.directories := by
  rw [containsChars_iff, slash_infix_iff_segments, directories]

theorem contains_iff_mem_directories {p : NormalPath} {name : String} (nonempty : name.toList ≠ [])
    (single : '/' ∉ name.toList) : p.contains name = true ↔ name.toList ∈ p.directories := by
  have bare : Text.stripBy (· == '/') name.toList = name.toList := by
    refine Text.stripBy_eq_self fun c mem => beq_eq_false_iff_ne.2 ?_
    rintro rfl
    exact single mem
  rw [contains, containsChars_iff_directories, bare, Text.segments_of_not_mem single,
    List.singleton_infix_iff]
  exact and_iff_right nonempty

theorem segments_chars (path : String) : segments '/' (of path).chars =
    [] :: ((of path).directories ++ [(of path).fileName.toList]) := by
  have lead := leadsWithSlash_of path
  have last := Text.getLast?_segments '/' (of path).chars
  have name : (of path).fileName.toList = ((of path).chars.reverse.takeWhile (· != '/')).reverse := by
    simp [fileName, Text.afterLast, text]
  rw [← name] at last
  rw [directories]
  cases chars : (of path).chars with
  | nil =>
    rw [chars] at lead
    cases lead
  | cons c cs =>
    obtain rfl : c = '/' := by simpa [chars, leadsWithSlash] using lead
    have pieces : segments '/' ('/' :: cs) = [] :: segments '/' cs := Text.segments_append_cons '/' [] cs
    rw [chars, pieces, List.getLast?_cons_of_ne_nil (Text.segments_ne_nil '/' cs)] at last
    rw [pieces, List.tail_cons, List.dropLast_append_getLast? _ last]

/-- A fragment lies on a path exactly if something is left of it without the slashes around it, and its
segments follow one another among the directories of the path. These are all segments of the path but
the empty one before its first slash and the file name. -/
theorem contains_iff_directories (path fragment : String) :
    segments '/' (of path).chars = [] :: ((of path).directories ++ [(of path).fileName.toList]) ∧
    ((of path).contains fragment = true ↔ Text.stripBy (· == '/') fragment.toList ≠ [] ∧
      segments '/' (Text.stripBy (· == '/') fragment.toList) <:+: (of path).directories) :=
  ⟨segments_chars path, containsChars_iff_directories⟩

end NormalPath

end ArchLint
