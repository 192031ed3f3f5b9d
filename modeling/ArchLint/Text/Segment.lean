import ArchLint.Text.Blank

/-! # Cutting and joining text

* `segmentsBy`, `segments` — the pieces between separators; there is always at least one
  (`segmentsBy_ne_nil`), none holds a separator (`eq_false_of_mem_segmentsBy`), and what stands on the
  two sides of a separator is cut apart (`segmentsBy_append_cons`).
* `joined` — the pieces with a separator between neighbours.
* `startsWith`, `endsWith`, `afterLast` — the ends of a text.
-/

namespace ArchLint.Text

/-- The pieces of a text between the characters of a class, empty ones included. -/
def segmentsBy (p : Char → Bool) : List Char → List (List Char)
  | [] => [[]]
  | c :: cs =>
    if p c then [] :: segmentsBy p cs
    else
      match segmentsBy p cs with
      | [] => [[c]]
      | s :: ss => (c :: s) :: ss

/-- There is always a piece. -/
theorem segmentsBy_ne_nil (p : Char → Bool) (cs : List Char) : segmentsBy p cs ≠ [] := by
  cases cs with
  | nil => simp [segmentsBy]
  | cons c cs =>
    simp only [segmentsBy]
    split
    · simp
    · split <;> simp

/-- No piece holds a separator. -/
theorem eq_false_of_mem_segmentsBy {p : Char → Bool} {cs s : List Char} {c : Char}
    (hs : s ∈ segmentsBy p cs) (hc : c ∈ s) : p c = false := by
  induction cs generalizing s with
  | nil => simp_all [segmentsBy]
  | cons d cs ih =>
    simp only [segmentsBy] at hs
    split at hs
    · rcases List.mem_cons.1 hs with rfl | hs
      · simp at hc
      · exact ih hs hc
    · split at hs <;> grind

theorem segmentsBy_eq_splitOnP (p : Char → Bool) (cs : List Char) : segmentsBy p cs = cs.splitOnP p := by
  induction cs with
  | nil => rfl
  | cons c cs ih =>
    rw [segmentsBy, List.splitOnP_cons_eq_if_modifyHead, ← ih]
    split
    · rfl
    · cases pieces : segmentsBy p cs with
      | nil => exact absurd pieces (segmentsBy_ne_nil p cs)
      | cons s ss => rfl

/-- What stands on the two sides of a separator is cut apart. -/
theorem segmentsBy_append_cons {p : Char → Bool} {c : Char} (cut : p c = true) (cs ds : List Char) :
    segmentsBy p (cs ++ c :: ds) = segmentsBy p cs ++ segmentsBy p ds := by
  simp only [segmentsBy_eq_splitOnP]
  exact List.splitOnP_append_cons cs ds cut

/-- The pieces of a text between the occurrences of one character. -/
def segments (sep : Char) (cs : List Char) : List (List Char) :=
  segmentsBy (· == sep) cs

theorem segments_eq_splitOn (sep : Char) (cs : List Char) : segments sep cs = cs.splitOn sep :=
  segmentsBy_eq_splitOnP _ cs

/-- The pieces in order, with `sep` between neighbours. -/
def joined (sep : String) : List String → String
  | [] => ""
  | [s] => s
  | s :: t :: rest => s ++ sep ++ joined sep (t :: rest)

/-- The text begins with `p`. -/
def startsWith (s p : String) : Bool :=
  p.toList.isPrefixOf s.toList

/-- The text ends with `t`. -/
def endsWith (s t : String) : Bool :=
  t.toList.isSuffixOf s.toList

/-- The piece after the last separator, or the whole text if it has none. -/
def afterLast (sep : Char) (s : String) : String :=
  String.ofList (s.toList.reverse.takeWhile (· != sep)).reverse

end ArchLint.Text
