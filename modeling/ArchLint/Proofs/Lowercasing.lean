import Mathlib.Data.List.DropRight
import ArchLint.Path.Normal

/-! # What lowercasing depends on

A character is lowercased by itself, except for the capital sigma, whose small form depends on the
letters around it. It looks only for the next letter that has a case, and a slash ends the search. So
the case of the letters around a sigma does not matter, and nothing beyond a slash does. The table of
small forms leads only to letters, none of which has an entry of its own.

* `lowerChar_cases` — where the table leads.
* `mem_lower_iff` — a sign that is no letter is neither made nor lost.
* `lower_of_subset` — a text of small letters stays.
* `lower_asciiLower` — the ASCII capitals of a text may be made small before the rest.
* `lower_append_slash` — what stands on the two sides of a slash is lowercased apart.
* `leadsWithSlash_lower` — a slash in front is neither made nor lost.
* `stripBy_slash_lower` — the slashes around a text may be taken away first.
-/

namespace ArchLint.Text

/-! ## Small ASCII letters -/

theorem toNat_ofNat_of_lt {n : Nat} (small : n < 0x80) : (Char.ofNat n).toNat = n := by
  have all : ∀ n < 0x80, (Char.ofNat n).toNat = n := by decide
  exact all n small

theorem toNat_asciiLowerChar (c : Char) : (asciiLowerChar c).toNat =
    if 0x41 ≤ c.toNat ∧ c.toNat ≤ 0x5A then c.toNat + 0x20 else c.toNat := by
  by_cases capital : 0x41 ≤ c.toNat ∧ c.toNat ≤ 0x5A
  · simp [asciiLowerChar, capital, toNat_ofNat_of_lt (show c.toNat + 0x20 < 0x80 by omega)]
  · simp [asciiLowerChar, capital]

/-- Making letters small neither makes nor loses a character that is no ASCII letter. -/
theorem asciiLowerChar_beq {c d : Char}
    (other : ¬ (0x41 ≤ d.toNat ∧ d.toNat ≤ 0x5A) ∧ ¬ (0x61 ≤ d.toNat ∧ d.toNat ≤ 0x7A)) :
    (asciiLowerChar c == d) = (c == d) := by
  by_cases capital : 0x41 ≤ c.toNat ∧ c.toNat ≤ 0x5A
  · have small : (asciiLowerChar c).toNat = c.toNat + 0x20 := by simp [toNat_asciiLowerChar, capital]
    have image : asciiLowerChar c ≠ d := by
      rintro rfl
      omega
    have self : c ≠ d := by
      rintro rfl
      omega
    rw [beq_eq_false_iff_ne.2 image, beq_eq_false_iff_ne.2 self]
  · simp [asciiLowerChar, capital]

theorem isCased_asciiLowerChar (c : Char) : isCased (asciiLowerChar c) = isCased c := by
  by_cases capital : 0x41 ≤ c.toNat ∧ c.toNat ≤ 0x5A
  · have ascii : c.toNat < 0x80 ∧ c.toNat + 0x20 < 0x80 := by omega
    simp [isCased, toNat_asciiLowerChar, capital, ascii]
  · simp [isCased, toNat_asciiLowerChar, capital]

theorem isCaseIgnorable_asciiLowerChar (c : Char) :
    isCaseIgnorable (asciiLowerChar c) = isCaseIgnorable c := by
  by_cases capital : 0x41 ≤ c.toNat ∧ c.toNat ≤ 0x5A
  · have ascii : c.toNat < 0x80 ∧ c.toNat + 0x20 < 0x80 := by omega
    rw [Bool.eq_iff_iff]
    simp [isCaseIgnorable, toNat_asciiLowerChar, capital, ascii]
    omega
  · simp [isCaseIgnorable, toNat_asciiLowerChar, capital]

theorem lowerChar_asciiLowerChar (c : Char) : lowerChar (asciiLowerChar c) = lowerChar c := by
  by_cases capital : 0x41 ≤ c.toNat ∧ c.toNat ≤ 0x5A
  · have small : (asciiLowerChar c).toNat = c.toNat + 0x20 := by simp [toNat_asciiLowerChar, capital]
    have ascii : c.toNat < 0x80 ∧ c.toNat + 0x20 < 0x80 ∧ ¬ c.toNat + 0x20 ≤ 0x5A := by omega
    rw [lowerChar, small]
    simp [lowerChar, ascii, capital, asciiLowerChar]
  · simp [asciiLowerChar, capital]

/-! ## Where the table leads -/

/-- The run leads to the code point `m`. -/
def CaseRun.leadsTo (r : CaseRun) (m : Nat) : Prop :=
  r.target ≤ m ∧ m ≤ r.target + (r.last - r.first) ∧ (m - r.target) % r.step = 0

theorem CaseRun.leadsTo_of_image? {r : CaseRun} {n m : Nat} (h : r.image? n = some m) : r.leadsTo m := by
  simp only [image?] at h
  split at h
  next member =>
    simp only [Bool.and_eq_true, decide_eq_true_eq, beq_iff_eq, Option.some.injEq] at member h
    subst h
    refine ⟨by omega, by omega, ?_⟩
    rw [Nat.add_sub_cancel_left]
    exact member.2
  next => cases h

/-- A character stays, or becomes a small letter of ASCII, or goes where a run of the table leads. -/
theorem lowerChar_cases (c : Char) : lowerChar c = c ∨
    (0x61 ≤ (lowerChar c).toNat ∧ (lowerChar c).toNat ≤ 0x7A) ∨
    ∃ r ∈ lowercaseRuns, r.leadsTo (lowerChar c).toNat := by
  rw [lowerChar]
  split
  next =>
    split
    next capital =>
      simp only [Bool.and_eq_true, decide_eq_true_eq] at capital
      refine .inr (.inl ?_)
      rw [toNat_ofNat_of_lt (by omega)]
      omega
    next => exact .inl rfl
  next =>
    cases image : lowercaseRuns.findSome? (·.image? c.toNat) with
    | none => exact .inl rfl
    | some m =>
      obtain ⟨r, mem, found⟩ := List.exists_of_findSome?_eq_some image
      have leads := CaseRun.leadsTo_of_image? found
      have characters : ∀ r ∈ lowercaseRuns,
          r.target + (r.last - r.first) < 0xD800 ∨
            0xDFFF < r.target ∧ r.target + (r.last - r.first) < 0x110000 := by
        decide +kernel
      have valid : m.isValidChar := by
        have := characters r mem
        obtain ⟨low, high, -⟩ := leads
        simp only [Nat.isValidChar]
        omega
      refine .inr (.inr ⟨r, mem, ?_⟩)
      have code : (Char.ofNat m).toNat = m := by
        rw [Char.ofNat, dif_pos valid]
        rfl
      simpa [code] using leads

/-- The table leads to no sign that stands before the small letters. -/
theorem target_gt : ∀ r ∈ lowercaseRuns, 0x60 < r.target := by
  decide +kernel

/-- A sign that is no letter of ASCII is the small form of nothing else. -/
theorem lowerChar_eq_iff {c d : Char} (sign : d.toNat < 0x41 ∨ 0x5A < d.toNat ∧ d.toNat < 0x61) :
    lowerChar c = d ↔ c = d := by
  constructor
  · rintro rfl
    rcases lowerChar_cases c with same | ⟨low, -⟩ | ⟨r, mem, low, -⟩
    · exact same.symm
    · omega
    · have := target_gt r mem
      omega
  · rintro rfl
    have ascii : c.toNat < 0x80 ∧ ¬ (0x41 ≤ c.toNat ∧ c.toNat ≤ 0x5A) := by omega
    simp [lowerChar, ascii]

/-- No white space comes from anything else. -/
theorem isBlank_lowerChar {c : Char} (mark : isBlank c = false) : isBlank (lowerChar c) = false := by
  have clear : ∀ r ∈ lowercaseRuns, ∀ b ∈ blankRuns,
      r.target + (r.last - r.first) < b.first ∨ b.last < r.target := by decide +kernel
  rcases lowerChar_cases c with same | ⟨low, high⟩ | ⟨r, mem, low, high, -⟩
  · rw [same, mark]
  · have ascii : (lowerChar c).toNat < 0x80 := by omega
    simp [isBlank, ascii]
    omega
  · have small := target_gt r mem
    rw [isBlank]
    split
    · simp; omega
    · refine Bool.eq_false_iff.2 fun covered => ?_
      obtain ⟨b, blank, covers⟩ := List.any_eq_true.1 covered
      have := clear r mem b blank
      simp [Run.covers] at covers
      omega

/-- What one run leads to is no member of the other: their code points lie apart, or they alternate. -/
def CaseRun.misses (r s : CaseRun) : Bool :=
  (r.target + (r.last - r.first)).blt s.first || s.last.blt r.target ||
    ((r.step == 2 || r.first == r.last) && (s.step == 2 || s.first == s.last) &&
      (r.target + s.first) % 2 == 1)

theorem CaseRun.image?_eq_none_of_misses {r s : CaseRun} (apart : r.misses s = true) {m : Nat}
    (h : r.leadsTo m) : s.image? m = none := by
  obtain ⟨low, high, step⟩ := h
  simp only [image?]
  split
  next member =>
    simp only [Bool.and_eq_true, decide_eq_true_eq, beq_iff_eq] at member
    obtain ⟨⟨first, last⟩, member⟩ := member
    simp only [misses, Bool.or_eq_true, Bool.and_eq_true, Nat.blt_eq, beq_iff_eq] at apart
    exfalso
    rcases apart with (below | above) | ⟨⟨two | one, two' | one'⟩, odd⟩
    · omega
    · omega
    · rw [two] at step; rw [two'] at member; omega
    · rw [two] at step; omega
    · rw [two'] at member; omega
    · omega
  next => rfl

/-- What the table leads to has no entry. -/
theorem lowerChar_idem (c : Char) : lowerChar (lowerChar c) = lowerChar c := by
  have apart : (lowercaseRuns.all fun r => lowercaseRuns.all r.misses) = true := by decide +kernel
  rcases lowerChar_cases c with same | ⟨low, high⟩ | ⟨r, mem, leads⟩
  · rw [same, same]
  · have ascii : (lowerChar c).toNat < 0x80 ∧ ¬ (lowerChar c).toNat ≤ 0x5A := by omega
    rw [lowerChar.eq_def (lowerChar c)]
    simp [ascii]
  -- The code point the table leads to lies between the members of every run, or beyond them.
  · have absent : lowercaseRuns.findSome? (·.image? (lowerChar c).toNat) = none := by
      refine List.findSome?_eq_none_iff.2 fun s hs => CaseRun.image?_eq_none_of_misses ?_ leads
      exact List.all_eq_true.1 (List.all_eq_true.1 apart r mem) s hs
    have letter : ¬ (lowerChar c).toNat ≤ 0x5A := by
      have := target_gt r mem
      have := leads.1
      omega
    rw [lowerChar.eq_def (lowerChar c), absent]
    simp [letter]

/-- The capital I with a dot is the small form of nothing else. -/
theorem lowerChar_ne_dotted {c : Char} (other : c ≠ '\u0130') : lowerChar c ≠ '\u0130' := by
  have apart : ∀ r ∈ lowercaseRuns, r.target + (r.last - r.first) < 0x130 ∨ 0x130 < r.target := by
    decide +kernel
  intro dotted
  rcases lowerChar_cases c with same | ⟨-, high⟩ | ⟨r, mem, low, high, -⟩
  · exact other (same.symm.trans dotted)
  · rw [dotted] at high
    exact absurd high (by decide)
  · rw [dotted, show ('\u0130' : Char).toNat = 0x130 from rfl] at low high
    have := apart r mem
    omega

/-! ## The neighbours of a sigma -/

theorem meetsCased_cons (c : Char) (cs : List Char) :
    meetsCased (c :: cs) = if isCaseIgnorable c then meetsCased cs else isCased c := by
  by_cases ignorable : isCaseIgnorable c = true <;> simp [meetsCased, ignorable]

theorem meetsCased_asciiLower (cs : List Char) : meetsCased (asciiLower cs) = meetsCased cs := by
  induction cs with
  | nil => rfl
  | cons c cs ih =>
    rw [asciiLower, List.map_cons, ← asciiLower, meetsCased_cons, meetsCased_cons, ih,
      isCaseIgnorable_asciiLowerChar, isCased_asciiLowerChar]

theorem meetsCased_append_slash (cs ds : List Char) :
    meetsCased (cs ++ '/' :: ds) = meetsCased cs := by
  induction cs with
  | nil => rfl
  | cons c cs ih => rw [List.cons_append, meetsCased_cons, meetsCased_cons, ih]

/-- What stands before a text matters only for whether the nearest letter belongs to a word. -/
theorem lowerAfter_congr {before before' : List Char} (same : meetsCased before = meetsCased before')
    (cs : List Char) : lowerAfter before cs = lowerAfter before' cs := by
  induction cs generalizing before before' with
  | nil => rfl
  | cons c cs ih =>
    have next : meetsCased (c :: before) = meetsCased (c :: before') := by
      rw [meetsCased_cons, meetsCased_cons, same]
    rw [lowerAfter, lowerAfter, smallSigma, smallSigma, same, ih next]

/-! ## The small forms in a text -/

/-- What a character between two texts becomes, as `lowerAfter` has it. -/
def smallForm (before : List Char) (c : Char) (rest : List Char) : List Char :=
  if c == '\u03A3' then [smallSigma before rest]
  else if c == '\u0130' then ['i', '\u0307']
  else [lowerChar c]

theorem lowerAfter_cons (before : List Char) (c : Char) (rest : List Char) :
    lowerAfter before (c :: rest) = smallForm before c rest ++ lowerAfter (c :: before) rest :=
  rfl

theorem smallForm_ne_nil (before : List Char) (c : Char) (rest : List Char) :
    smallForm before c rest ≠ [] := by
  rw [smallForm]
  split
  · simp
  · split <;> simp

theorem lower_ne_nil {cs : List Char} (nonempty : cs ≠ []) : lower cs ≠ [] := by
  obtain ⟨c, cs, rfl⟩ := List.exists_cons_of_ne_nil nonempty
  rw [lower, lowerAfter_cons]
  exact List.append_ne_nil_of_left_ne_nil (smallForm_ne_nil [] c cs) _

/-- The forms are those of single characters but for the two forms of the sigma and the dotted i. -/
theorem mem_smallForm {before rest : List Char} {c d : Char} (h : d ∈ smallForm before c rest) :
    (d = lowerChar c ∧ c ≠ '\u0130') ∨ d ∈ ['\u03C2', '\u03C3', 'i', '\u0307'] := by
  rw [smallForm, smallSigma] at h
  by_cases sigma : c = '\u03A3'
  · simp only [sigma, beq_self_eq_true, if_true, List.mem_singleton] at h
    subst h
    split <;> simp
  · by_cases dotted : c = '\u0130'
    · right
      have form : d = 'i' ∨ d = '\u0307' := by simpa [dotted] using h
      simp [form]
    · left
      exact ⟨by simpa [sigma, dotted] using h, dotted⟩

/-- What holds of the small forms of all characters holds of a text in small letters. -/
theorem forall_mem_lowerAfter {p : Char → Prop} {before cs : List Char}
    (forms : ∀ before rest, ∀ c ∈ cs, ∀ d ∈ smallForm before c rest, p d) :
    ∀ d ∈ lowerAfter before cs, p d := by
  induction cs generalizing before with
  | nil => simp [lowerAfter]
  | cons c cs ih =>
    rw [lowerAfter_cons]
    refine List.forall_mem_append.2 ⟨forms before cs c List.mem_cons_self, ?_⟩
    exact ih fun before rest c mem => forms before rest c (List.mem_cons_of_mem _ mem)

/-- A sign that is no letter of ASCII stays. -/
theorem smallForm_of_sign {d : Char} (sign : d.toNat < 0x41 ∨ 0x5A < d.toNat ∧ d.toNat < 0x61)
    (before rest : List Char) : smallForm before d rest = [d] := by
  have ascii : d ≠ '\u03A3' ∧ d ≠ '\u0130' := by
    constructor
    all_goals
      rintro rfl
      exact absurd sign (by decide)
  simp [smallForm, ascii, (lowerChar_eq_iff sign).2 rfl]

theorem mem_smallForm_iff {d : Char} (sign : d.toNat < 0x41 ∨ 0x5A < d.toNat ∧ d.toNat < 0x61)
    {before rest : List Char} {c : Char} : d ∈ smallForm before c rest ↔ d = c := by
  constructor
  · intro mem
    rcases mem_smallForm mem with ⟨same, -⟩ | other
    · exact ((lowerChar_eq_iff sign).1 same.symm).symm
    · simp only [List.mem_cons, List.not_mem_nil, or_false] at other
      rcases other with rfl | rfl | rfl | rfl
      all_goals exact absurd sign (by decide)
  · rintro rfl
    simp [smallForm_of_sign sign]

/-- Such a sign is neither made nor lost. -/
theorem mem_lower_iff {d : Char} (sign : d.toNat < 0x41 ∨ 0x5A < d.toNat ∧ d.toNat < 0x61)
    {cs : List Char} : d ∈ lower cs ↔ d ∈ cs := by
  rw [lower]
  generalize [] = before
  induction cs generalizing before with
  | nil => rfl
  | cons c cs ih =>
    rw [lowerAfter_cons, List.mem_append, List.mem_cons, ih, mem_smallForm_iff sign]

theorem isBlank_of_mem_smallForm {before rest : List Char} {c d : Char} (mark : isBlank c = false)
    (h : d ∈ smallForm before c rest) : isBlank d = false := by
  rcases mem_smallForm h with ⟨rfl, -⟩ | other
  · exact isBlank_lowerChar mark
  · simp only [List.mem_cons, List.not_mem_nil, or_false] at other
    rcases other with rfl | rfl | rfl | rfl
    all_goals decide

/-- Small forms stay. -/
theorem smallForm_of_mem_smallForm {before rest : List Char} {c d : Char}
    (h : d ∈ smallForm before c rest) (before' rest' : List Char) : smallForm before' d rest' = [d] := by
  rcases mem_smallForm h with ⟨rfl, dotted⟩ | other
  -- A form cannot be the capital sigma, which has a form of its own.
  · have capital : lowerChar c ≠ '\u03A3' := by
      intro capital
      have small : lowerChar '\u03A3' = '\u03C3' := by decide +kernel
      have again := lowerChar_idem c
      rw [capital, small] at again
      exact absurd again (by decide)
    simp [smallForm, capital, lowerChar_ne_dotted dotted, lowerChar_idem]
  · simp only [List.mem_cons, List.not_mem_nil, or_false] at other
    rcases other with rfl | rfl | rfl | rfl
    -- Each of the four has no entry of its own.
    all_goals
      refine List.singleton_inj.2 ?_
      decide +kernel

/-- A text of small letters stays. -/
theorem lower_of_subset {ds cs : List Char} (small : ds ⊆ lower cs) : lower ds = ds := by
  have stays : ∀ d ∈ lower cs, ∀ before rest, smallForm before d rest = [d] :=
    forall_mem_lowerAfter fun before rest c _ d mem => smallForm_of_mem_smallForm mem
  rw [lower]
  generalize [] = before
  induction ds generalizing before with
  | nil => rfl
  | cons d ds ih =>
    rw [List.cons_subset] at small
    rw [lowerAfter_cons, stays d small.1, ih small.2]
    rfl

theorem lower_lower (cs : List Char) : lower (lower cs) = lower cs :=
  lower_of_subset (List.Subset.refl _)

/-- A text in small letters ends with a form of the last character of the text. -/
theorem lower_concat (cs : List Char) (c : Char) :
    ∃ front d before, lower (cs ++ [c]) = front ++ [d] ∧ d ∈ smallForm before c [] := by
  have last : ∀ before, ∃ front before',
      lowerAfter before (cs ++ [c]) = front ++ smallForm before' c [] := by
    induction cs with
    | nil => exact fun before => ⟨[], before, by simp [lowerAfter_cons, lowerAfter]⟩
    | cons b cs ih =>
      intro before
      obtain ⟨front, before', whole⟩ := ih (b :: before)
      exact ⟨smallForm before b (cs ++ [c]) ++ front, before', by
        rw [List.cons_append, lowerAfter_cons, whole, List.append_assoc]⟩
  obtain ⟨front, before, whole⟩ := last []
  obtain ⟨init, d, form⟩ := (List.eq_nil_or_concat _).resolve_left (smallForm_ne_nil before c [])
  exact ⟨front ++ init, d, before, by simp [lower, whole, form], by simp [form]⟩

/-! ## Texts -/

theorem smallSigma_asciiLower (before after : List Char) :
    smallSigma (asciiLower before) (asciiLower after) = smallSigma before after := by
  rw [smallSigma, smallSigma, meetsCased_asciiLower, meetsCased_asciiLower]

theorem lowerAfter_asciiLower (before cs : List Char) :
    lowerAfter (asciiLower before) (asciiLower cs) = lowerAfter before cs := by
  induction cs generalizing before with
  | nil => rfl
  | cons c cs ih =>
    have cons : ∀ cs, asciiLower (c :: cs) = asciiLowerChar c :: asciiLower cs := fun _ => rfl
    rw [cons, lowerAfter, ← cons, ih, smallSigma_asciiLower, lowerChar_asciiLowerChar,
      asciiLowerChar_beq (by decide), asciiLowerChar_beq (by decide), lowerAfter]

/-- The ASCII capitals of a text may be made small before the rest. -/
theorem lower_asciiLower (cs : List Char) : lower (asciiLower cs) = lower cs :=
  lowerAfter_asciiLower [] cs

theorem lowerAfter_append_slash (before cs ds : List Char) :
    lowerAfter before (cs ++ '/' :: ds) = lowerAfter before cs ++ '/' :: lower ds := by
  induction cs generalizing before with
  | nil =>
    have clear : meetsCased ('/' :: before) = meetsCased [] := rfl
    rw [List.nil_append, lowerAfter.eq_2, lowerAfter_congr clear]
    rfl
  | cons c cs ih =>
    rw [List.cons_append, lowerAfter, lowerAfter, ih, smallSigma, smallSigma, meetsCased_append_slash,
      List.append_assoc]

/-- What stands on the two sides of a slash is lowercased apart. -/
theorem lower_append_slash (cs ds : List Char) : lower (cs ++ '/' :: ds) = lower cs ++ '/' :: lower ds :=
  lowerAfter_append_slash [] cs ds

theorem lower_slash_cons (cs : List Char) : lower ('/' :: cs) = '/' :: lower cs :=
  lower_append_slash [] cs

theorem leadsWithSlash_cons_of_ne {c : Char} (other : c ≠ '/') (cs : List Char) :
    leadsWithSlash (c :: cs) = false :=
  beq_eq_false_iff_ne.2 fun slash => other (Option.some_inj.1 slash)

/-- A slash in front is neither made nor lost. -/
theorem leadsWithSlash_lower (cs : List Char) : leadsWithSlash (lower cs) = leadsWithSlash cs := by
  cases cs with
  | nil => rfl
  | cons c cs =>
    by_cases slash : c = '/'
    · subst slash
      rw [lower_slash_cons]
      rfl
    · have sigma : smallSigma [] cs ≠ '/' := by
        rw [smallSigma]
        split <;> decide
      rw [leadsWithSlash_cons_of_ne slash, lower, lowerAfter]
      split
      next => exact leadsWithSlash_cons_of_ne sigma _
      next =>
        split
        next => rfl
        next => exact leadsWithSlash_cons_of_ne (mt (lowerChar_eq_iff (by decide)).1 slash) _

theorem withoutLeadingSlashes_eq_self {cs : List Char} (h : leadsWithSlash cs = false) :
    withoutLeadingSlashes cs = cs := by
  refine dropWhile_eq_self fun c mem => ?_
  rw [leadsWithSlash, Option.mem_def.1 mem] at h
  simpa using h

/-- The slashes around a text may be taken away before it is lowercased. -/
theorem stripBy_slash_lower (cs : List Char) :
    stripBy (· == '/') (lower cs) = lower (stripBy (· == '/') cs) := by
  have front : ∀ cs, withoutLeadingSlashes (lower cs) = lower (withoutLeadingSlashes cs) := by
    intro cs
    induction cs with
    | nil => rfl
    | cons c cs ih =>
      by_cases slash : c = '/'
      · subst slash
        rw [lower_slash_cons]
        exact ih
      · have other : leadsWithSlash (c :: cs) = false := leadsWithSlash_cons_of_ne slash cs
        rw [withoutLeadingSlashes_eq_self other, withoutLeadingSlashes_eq_self]
        rw [leadsWithSlash_lower, other]
  have back : ∀ cs, (lower cs).rdropWhile (· == '/') = lower (cs.rdropWhile (· == '/')) := by
    intro cs
    induction cs using List.reverseRecOn with
    | nil => rfl
    | append_singleton cs c ih =>
      by_cases slash : c = '/'
      · subst slash
        have cut : lower (cs ++ ['/']) = lower cs ++ ['/'] := lower_append_slash cs []
        rw [cut, List.rdropWhile_concat_pos _ _ _ (by rfl), ih,
          List.rdropWhile_concat_pos _ _ _ (by rfl)]
      · obtain ⟨front, d, before, whole, form⟩ := lower_concat cs c
        have other : d ≠ '/' := by
          rintro rfl
          exact slash ((mem_smallForm_iff (by decide)).1 form).symm
        rw [whole, List.rdropWhile_concat_neg _ _ _ (by simpa using other), ← whole,
          List.rdropWhile_concat_neg _ _ _ (by simpa using slash)]
  exact (congrArg (List.rdropWhile (· == '/')) (front cs)).trans (back _)

end ArchLint.Text
