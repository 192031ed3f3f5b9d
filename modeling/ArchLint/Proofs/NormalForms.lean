import ArchLint.Proofs.Lowercasing

/-! # Normal forms of paths

Rules never ask which spelling of a path was reported, only for its normal form. That form is a text of
its own kind, and bringing it into normal form again changes nothing. A slash within a path is a joint:
what stands behind it is turned into small letters by itself, whatever stands before it.

* `IsNormalPath` — the texts that are normal forms of paths.
* `lower_forwardSlashes_join` — the two sides of a joint.
* `NormalPath.of_normal_form` — what the normal form of a path is like, and that of a joined path.
-/

namespace ArchLint

/-- A text with a slash in front, without backslashes and in small letters. -/
structure IsNormalPath (cs : List Char) : Prop where
  lead : leadsWithSlash cs = true
  slashes : '\\' ∉ cs
  small : Text.lower cs = cs

theorem not_backslash_mem_lower (cs : List Char) : '\\' ∉ Text.lower (forwardSlashes cs) := by
  rw [Text.mem_lower_iff (by decide)]
  exact not_mem_forwardSlashes cs

/-- The slash between two parts of a path parts their small letters as well. -/
theorem lower_forwardSlashes_join (dir rest : String) :
    Text.lower (forwardSlashes (dir ++ "/" ++ rest).toList) =
      Text.lower (forwardSlashes dir.toList) ++ '/' :: Text.lower (forwardSlashes rest.toList) := by
  rw [← Text.lower_append_slash]
  simp [forwardSlashes]

namespace NormalPath

theorem isNormalPath_of (path : String) : IsNormalPath (of path).chars := by
  refine ⟨leadsWithSlash_of path, ?_, ?_⟩
  · simp only [of]
    split
    · exact not_backslash_mem_lower _
    · simpa using not_backslash_mem_lower path.toList
  · simp only [of]
    split
    · exact Text.lower_lower _
    · rw [Text.lower_slash_cons, Text.lower_lower]

theorem not_backslash_mem_of (path : String) : '\\' ∉ (of path).chars :=
  (isNormalPath_of path).slashes

/-- A normal form is its own normal form. -/
theorem of_text_eq_self {p : NormalPath} (normal : IsNormalPath p.chars) : of p.text = p := by
  have same : Text.lower (forwardSlashes p.text.toList) = p.chars := by
    rw [text, String.toList_ofList, forwardSlashes_eq_self normal.slashes, normal.small]
  simp only [of, same, normal.lead, if_true]

/-- Something in front of the joint decides alone whether a slash has to be put in front of it. -/
theorem chars_of_join {dir : String} (nonempty : dir ≠ "") (rest : String) :
    (of (dir ++ "/" ++ rest)).chars =
      (of dir).chars ++ '/' :: Text.lower (forwardSlashes rest.toList) := by
  obtain ⟨c, cs, front⟩ : ∃ c cs, Text.lower (forwardSlashes dir.toList) = c :: cs := by
    refine List.exists_cons_of_ne_nil (Text.lower_ne_nil ?_)
    simpa [forwardSlashes] using nonempty
  simp only [of, lower_forwardSlashes_join, front, leadsWithSlash, List.cons_append, List.head?_cons]
  split
  · rfl
  · rfl

/-- With nothing in front of the joint, the slash of the joint is the one in front. -/
theorem chars_of_rooted (rest : String) :
    (of ("" ++ "/" ++ rest)).chars = '/' :: Text.lower (forwardSlashes rest.toList) := by
  simp only [of, lower_forwardSlashes_join]
  rfl

/-- The normal form of a path begins with a slash, holds no backslash and is its own normal form. The
normal form of a directory with something behind a slash is the normal form of the directory, the slash
and the rest in small letters and with forward slashes, unless the directory is written as nothing at
all: the slash would then stand there twice. -/
theorem of_normal_form (path : String) :
    leadsWithSlash (of path).chars = true ∧ '\\' ∉ (of path).chars ∧ of (of path).text = of path ∧
    ∀ dir rest : String, (of (dir ++ "/" ++ rest)).text =
      (of dir).text ++ "/" ++ String.ofList (Text.lower (forwardSlashes rest.toList)) ↔ dir ≠ "" := by
  have normal := isNormalPath_of path
  refine ⟨normal.lead, normal.slashes, of_text_eq_self normal, fun dir rest => ?_⟩
  rw [← String.toList_inj]
  simp only [text, String.toList_append, String.toList_ofList, List.append_assoc]
  constructor
  · rintro whole rfl
    have root : (of "").chars = ['/'] := rfl
    have lengths := congrArg List.length (whole.symm.trans (chars_of_rooted rest))
    simp [root] at lengths
  · intro nonempty
    exact chars_of_join nonempty rest

end NormalPath

end ArchLint
