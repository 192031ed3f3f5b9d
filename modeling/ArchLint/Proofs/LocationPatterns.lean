import ArchLint.Proofs.GlobMatching
import ArchLint.Proofs.NormalForms
import ArchLint.Proofs.PathSegments
import ArchLint.Proofs.PathSpelling

/-! # What a configured location holds

A location with wildcards may begin at any directory of a path, and one without them names whole
directories. Two stars in front say the first, and two stars on both sides say the second, so every
location could be written as one pattern that is matched once.

* `NormalPath.matchesPattern_wildcard` — which paths a location with wildcards holds.
* `NormalPath.matchesPattern_fragment` — a location without wildcards as a pattern.
-/

namespace ArchLint

/-! ## Locations in normal form -/

theorem isWildcard_iff {cs : List Char} :
    isWildcard cs = true ↔ '*' ∈ cs ∨ '?' ∈ cs ∨ '[' ∈ cs := by
  simp [isWildcard, List.any_eq_true, and_or_left, exists_or, or_assoc]

theorem mem_forwardSlashes_iff {cs : List Char} {c : Char} (other : Path.isSeparator c = false) :
    c ∈ forwardSlashes cs ↔ c ∈ cs := by
  simp only [Path.isSeparator, Bool.or_eq_false_iff, beq_eq_false_iff_ne] at other
  induction cs with
  | nil => rfl
  | cons d cs ih =>
    rw [forwardSlashes, List.map_cons, ← forwardSlashes, List.mem_cons, List.mem_cons, ih]
    by_cases backslash : d = '\\' <;> simp [backslash, other]

theorem stripBy_slash_forwardSlashes (cs : List Char) :
    Text.stripBy (· == '/') (forwardSlashes cs) = forwardSlashes (Text.stripBy Path.isSeparator cs) := by
  have slash : ((· == '/') ∘ fun c => if c == '\\' then '/' else c) = Path.isSeparator := by
    funext c
    by_cases backslash : c = '\\' <;> simp [Path.isSeparator, backslash]
  rw [forwardSlashes, Text.stripBy_map, slash, forwardSlashes]

/-- A sign that is no letter, no slash and no white space stays through normalisation. -/
theorem mem_normalPattern_iff {pattern : String} {c : Char}
    (sign : c.toNat < 0x41 ∨ 0x5A < c.toNat ∧ c.toNat < 0x61) (mark : Text.isBlank c = false)
    (other : Path.isSeparator c = false) : c ∈ normalPattern pattern ↔ c ∈ pattern.toList := by
  rw [normalPattern, Text.mem_lower_iff sign, mem_forwardSlashes_iff other, Text.mem_stripBy_iff mark]

theorem isWildcard_normalPattern (pattern : String) :
    isWildcard (normalPattern pattern) = isWildcard pattern.toList := by
  rw [Bool.eq_iff_iff, isWildcard_iff, isWildcard_iff]
  rw [mem_normalPattern_iff (by decide) (by decide) (by decide),
    mem_normalPattern_iff (by decide) (by decide) (by decide),
    mem_normalPattern_iff (by decide) (by decide) (by decide)]

theorem isWildcard_withoutLeadingSlashes (cs : List Char) :
    isWildcard (withoutLeadingSlashes cs) = isWildcard cs := by
  rw [Bool.eq_iff_iff, isWildcard_iff, isWildcard_iff, withoutLeadingSlashes]
  rw [Text.mem_dropWhile_iff (by decide), Text.mem_dropWhile_iff (by decide),
    Text.mem_dropWhile_iff (by decide)]

theorem isWildcard_stripBy_slash (cs : List Char) :
    isWildcard (Text.stripBy (· == '/') cs) = isWildcard cs := by
  rw [Bool.eq_iff_iff, isWildcard_iff, isWildcard_iff]
  rw [Text.mem_stripBy_iff (by decide), Text.mem_stripBy_iff (by decide),
    Text.mem_stripBy_iff (by decide)]

theorem not_backslash_mem_normalPattern (pattern : String) : '\\' ∉ normalPattern pattern :=
  not_backslash_mem_lower _

/-- A location in normal form does not end with white space. -/
theorem isBlank_of_mem_getLast?_normalPattern {pattern : String} {c : Char}
    (mem : c ∈ (normalPattern pattern).getLast?) : Text.isBlank c = false := by
  rw [normalPattern] at mem
  rcases List.eq_nil_or_concat (Text.stripBy Text.isBlank pattern.toList) with
    empty | ⟨front, last, whole⟩
  · rw [empty] at mem
    cases mem
  -- The last character is none when the margins are gone, and neither step after that makes it one.
  · have ends : last ∈ (Text.stripBy Text.isBlank pattern.toList).getLast? := by simp [whole]
    have mark : Text.isBlank last = false := Text.eq_false_of_mem_getLast?_stripBy ends
    have slashed : Text.isBlank (if last == '\\' then '/' else last) = false := by
      split
      · decide
      · exact mark
    rw [whole, List.concat_eq_append, forwardSlashes, List.map_append, List.map_singleton] at mem
    obtain ⟨init, d, before, lowered, form⟩ := Text.lower_concat
      (front.map fun c => if c == '\\' then '/' else c) (if last == '\\' then '/' else last)
    rw [lowered] at mem
    obtain rfl : d = c := by simpa using mem
    exact Text.isBlank_of_mem_smallForm slashed form

/-- A text that is left as it is when a location is brought into normal form, but for white space in
front. -/
structure InNormalForm (cs : List Char) : Prop where
  back : ∀ c ∈ cs.getLast?, Text.isBlank c = false
  slashes : '\\' ∉ cs
  small : Text.lower cs = cs

namespace InNormalForm

variable {cs : List Char}

theorem of_suffix {pattern : String} (suffix : cs <:+ normalPattern pattern) : InNormalForm cs where
  back c mem := by
    obtain ⟨front, whole⟩ := suffix
    have last : c ∈ (normalPattern pattern).getLast? := by
      rw [← whole, List.getLast?_append, Option.mem_def.1 mem]
      rfl
    exact isBlank_of_mem_getLast?_normalPattern last
  slashes mem := not_backslash_mem_normalPattern pattern (suffix.subset mem)
  small := Text.lower_of_subset suffix.subset

/-- Two stars may be put in front. -/
theorem stars (h : InNormalForm cs) : InNormalForm ('*' :: '*' :: '/' :: cs) where
  back c mem := by
    cases cs with
    | nil =>
      cases mem
      decide
    | cons d cs => exact h.back c (by simpa using mem)
  slashes := by simpa using h.slashes
  small := by
    have cut := Text.lower_append_slash ['*', '*'] cs
    rw [h.small] at cut
    exact cut

theorem normalPattern_ofList (h : InNormalForm cs) (front : cs.head?.any Text.isBlank = false) :
    normalPattern (String.ofList cs) = cs := by
  have ends : ∀ c ∈ cs.head?, Text.isBlank c = false := fun c mem => by
    simpa [Option.mem_def.1 mem] using front
  rw [normalPattern, String.toList_ofList, Text.stripBy_eq_self_of_ends ends h.back,
    forwardSlashes_eq_self h.slashes, h.small]

theorem normalPattern_stars (h : InNormalForm cs) :
    normalPattern ("**/" ++ String.ofList cs) = '*' :: '*' :: '/' :: cs := by
  have chars : "**/" ++ String.ofList cs = String.ofList ('*' :: '*' :: '/' :: cs) := by
    rw [← String.toList_inj]
    simp
  rw [chars]
  exact h.stars.normalPattern_ofList rfl

end InNormalForm

/-! ## Locations with wildcards -/

namespace NormalPath

theorem matchesPattern_iff {p : NormalPath} {pattern : String}
    (wild : isWildcard (normalPattern pattern) = true) : p.matchesPattern pattern = true ↔
      Glob.MatchesBelow (withoutLeadingSlashes (normalPattern pattern))
        (withoutLeadingSlashes p.chars) := by
  rw [Glob.matchesBelow_iff, ← Bool.or_eq_true]
  simp [matchesPattern, wild]

section

variable {p : NormalPath} {g : List Char}

theorem matchesPattern_stars (normal : InNormalForm g) :
    p.matchesPattern ("**/" ++ String.ofList g) = true ↔
      Glob.MatchesBelow g (withoutLeadingSlashes p.chars) := by
  have form := normal.normalPattern_stars
  rw [matchesPattern_iff (by rw [form]; rfl), form]
  exact Glob.matchesBelow_recursive

theorem matchesPattern_ofList (normal : InNormalForm g) (front : g.head?.any Text.isBlank = false)
    (wild : isWildcard g = true) : p.matchesPattern (String.ofList g) = true ↔
      Glob.MatchesBelow (withoutLeadingSlashes g) (withoutLeadingSlashes p.chars) := by
  have form := normal.normalPattern_ofList front
  rw [matchesPattern_iff (by rw [form, wild]), form]

end

/-- A location with wildcards holds the paths that its pattern matches as a whole or from one of their
directories on, and none if the pattern is not valid. Two stars may be put in front of the pattern
without its slashes; that pattern itself is the same location as well, unless it begins with white
space, which does not count in front of a location. -/
theorem matchesPattern_wildcard (path pattern : String) (wild : isWildcard pattern.toList = true) :
    let n := NormalPath.of path
    let r := withoutLeadingSlashes n.chars
    let g := withoutLeadingSlashes (normalPattern pattern)
    (∀ ts, Glob.compile g = some ts → (n.matchesPattern pattern = true ↔
      Glob.Matches ts r ∨ ∃ before rest, r = before ++ '/' :: rest ∧ Glob.Matches ts rest)) ∧
    (Glob.compile g = none → n.matchesPattern pattern = false) ∧
    n.matchesPattern ("**/" ++ String.ofList g) = n.matchesPattern pattern ∧
    (g.head?.any Text.isBlank = false →
      n.matchesPattern (String.ofList g) = n.matchesPattern ("**/" ++ String.ofList g)) := by
  intro n r g
  have normal : InNormalForm g := .of_suffix (List.dropWhile_suffix _)
  have wildG : isWildcard g = true := by
    rw [isWildcard_withoutLeadingSlashes, isWildcard_normalPattern, wild]
  -- The slashes in front are gone from `g`, so as a location it loses nothing to them.
  have once : withoutLeadingSlashes g = g := List.dropWhile_idempotent _ _
  have holds : n.matchesPattern pattern = true ↔ Glob.MatchesBelow g r :=
    matchesPattern_iff (by rw [isWildcard_normalPattern, wild])
  have starred := matchesPattern_stars (p := n) normal
  refine ⟨fun ts compiled => ?_, fun invalid => ?_, ?_, fun front => ?_⟩
  · have nonempty : ts ≠ [] := by
      cases chars : g with
      | nil => simp [chars, isWildcard] at wildG
      | cons c cs => exact Glob.ne_nil_of_compile (chars ▸ compiled)
    rw [holds, ← Glob.matches_recursive_iff_of_ne_nil nonempty, Glob.MatchesBelow, compiled]
    simp
  · rw [Bool.eq_false_iff, ne_eq, holds]
    rintro ⟨ts, compiled, -⟩
    cases invalid.symm.trans compiled
  · rw [Bool.eq_iff_iff, starred, holds]
  · rw [Bool.eq_iff_iff, starred, matchesPattern_ofList normal front wildG, once]

theorem matchesPattern_wildcard_core :
    let pattern := "\\Core/**/*.d[!x]rt"
    let n := NormalPath.of "lib/Core/Entities/base.dart"
    let r := withoutLeadingSlashes n.chars
    let g := withoutLeadingSlashes (normalPattern pattern)
    isWildcard pattern.toList = true ∧ String.ofList g = "core/**/*.d[!x]rt" ∧
      (∃ ts, Glob.compile g = some ts ∧
        (Glob.Matches ts r ∨ ∃ before rest, r = before ++ '/' :: rest ∧ Glob.Matches ts rest)) ∧
      n.matchesPattern (String.ofList g) = n.matchesPattern ("**/" ++ String.ofList g) := by
  intro pattern n r g
  have wild : isWildcard pattern.toList = true := by decide
  obtain ⟨places, -, -, front⟩ := matchesPattern_wildcard "lib/Core/Entities/base.dart" pattern wild
  obtain ⟨ts, compiled⟩ : ∃ ts, Glob.compile g = some ts :=
    Option.isSome_iff_exists.1 (by decide +kernel)
  have holds : n.matchesPattern pattern = true := by decide +kernel
  exact ⟨wild, by decide +kernel, ⟨ts, compiled, (places ts compiled).1 holds⟩, front (by decide +kernel)⟩

/-- White space behind the slashes of a location belongs to its pattern, but not to the pattern as a
location of its own. -/
theorem matchesPattern_wildcard_blank :
    let n := NormalPath.of "ab"
    let g := withoutLeadingSlashes (normalPattern "/ a*")
    isWildcard "/ a*".toList = true ∧ (Glob.compile g).isSome = true ∧ String.ofList g = " a*" ∧
      n.matchesPattern (String.ofList g) = true ∧
      n.matchesPattern ("**/" ++ String.ofList g) = false := by
  decide +kernel

/-! ## Locations without wildcards -/

/-- A slash stands before what follows the leading slashes. -/
theorem exists_append_withoutLeadingSlashes {chars : List Char} (lead : leadsWithSlash chars = true) :
    ∃ front, chars = front ++ '/' :: withoutLeadingSlashes chars := by
  induction chars with
  | nil => cases lead
  | cons c cs ih =>
    obtain rfl : c = '/' := by simpa [leadsWithSlash] using lead
    cases again : leadsWithSlash cs with
    | false =>
      refine ⟨[], ?_⟩
      rw [← Text.withoutLeadingSlashes_eq_self again]
      simp [withoutLeadingSlashes, List.dropWhile_idempotent]
    | true =>
      obtain ⟨front, whole⟩ := ih again
      exact ⟨'/' :: front, congrArg ('/' :: ·) whole⟩

/-- A text stands behind a slash of a path exactly if it begins one of the places at which two stars may leave
off. -/
theorem infix_iff_resumes {name chars : List Char} (start : ∃ c ∈ name.head?, c ≠ '/')
    (lead : leadsWithSlash chars = true) : '/' :: name <:+: chars ↔
      ∃ rest, Glob.Resumes (withoutLeadingSlashes chars) rest ∧ name <+: rest := by
  obtain ⟨c, head, other⟩ := start
  rw [Text.cons_infix_iff]
  constructor
  · rintro ⟨before, _, rfl, after, rfl⟩
    have stays : (name ++ after).dropWhile (· == '/') = name ++ after := by
      refine Text.dropWhile_eq_self fun d mem => ?_
      rw [List.head?_append, Option.mem_def.1 head] at mem
      cases mem
      simpa using other
    refine ⟨name ++ after, ?_, after, rfl⟩
    rw [withoutLeadingSlashes, List.dropWhile_append]
    split
    -- Nothing but slashes stands before the directory: it begins where the text without them does.
    next => exact .inl (by simpa using stays.symm)
    next => exact .inr (.inl ⟨_, rfl⟩)
  · rintro ⟨rest, leaves, begins⟩
    obtain ⟨front, whole⟩ := exists_append_withoutLeadingSlashes lead
    rcases leaves with all | ⟨taken, behind⟩ | rfl
    · exact ⟨front, rest, by rw [all, ← whole], begins⟩
    · exact ⟨front ++ '/' :: taken, rest, by simpa [← behind] using whole, begins⟩
    · rw [List.prefix_nil.1 begins] at head
      cases head

/-- A text between two pairs of stars in normal form. -/
theorem normalPattern_between (name : List Char) :
    normalPattern ("**/" ++ String.ofList name ++ "/**") =
      '*' :: '*' :: '/' :: (Text.lower (forwardSlashes name) ++ ['/', '*', '*']) := by
  have chars : "**/" ++ String.ofList name ++ "/**" =
      String.ofList ('*' :: '*' :: '/' :: (name ++ ['/', '*', '*'])) := by
    rw [← String.toList_inj]
    simp
  have trimmed : Text.stripBy Text.isBlank ('*' :: '*' :: '/' :: (name ++ ['/', '*', '*'])) =
      '*' :: '*' :: '/' :: (name ++ ['/', '*', '*']) := by
    have last : ('*' :: '*' :: '/' :: (name ++ ['/', '*', '*'])).getLast? = some '*' :=
      List.getLast?_eq_some_iff.2 ⟨'*' :: '*' :: '/' :: (name ++ ['/', '*']), by simp⟩
    refine Text.stripBy_eq_self_of_ends (fun c mem => ?_) (fun c mem => ?_)
    · cases mem
      decide
    · rw [last] at mem
      cases mem
      decide
  have slashed : forwardSlashes ('*' :: '*' :: '/' :: (name ++ ['/', '*', '*'])) =
      ['*', '*'] ++ '/' :: (forwardSlashes name ++ '/' :: ['*', '*']) := by
    simp [forwardSlashes]
  have stars : Text.lower ['*', '*'] = ['*', '*'] := by decide +kernel
  rw [chars, normalPattern, String.toList_ofList, trimmed, slashed, Text.lower_append_slash,
    Text.lower_append_slash, stars]
  rfl

theorem matchesPattern_between {p : NormalPath} {name : List Char}
    (plain : isWildcard (Text.lower (forwardSlashes name)) = false) :
    p.matchesPattern ("**/" ++ String.ofList name ++ "/**") = true ↔
      ∃ rest, Glob.Resumes (withoutLeadingSlashes p.chars) rest ∧
        Text.lower (forwardSlashes name) ++ ['/'] <+: rest := by
  have form := normalPattern_between name
  rw [matchesPattern_iff (by rw [form]; rfl), form]
  exact Glob.matchesBelow_fragment plain

/-- A location without wildcards holds the same paths as its text between two pairs of stars. -/
theorem matchesPattern_fragment (path fragment : String)
    (plain : isWildcard fragment.toList = false)
    (nonempty : Text.stripBy Path.isSeparator (Text.stripBy Text.isBlank fragment.toList) ≠ []) :
    let n := NormalPath.of path
    let name := Text.stripBy Path.isSeparator (Text.stripBy Text.isBlank fragment.toList)
    n.matchesPattern fragment = n.matchesPattern ("**/" ++ String.ofList name ++ "/**") := by
  intro n name
  -- Slashes may be taken from the ends before or after a text is brought into normal form.
  have inner : Text.stripBy (· == '/') (normalPattern fragment) = Text.lower (forwardSlashes name) := by
    rw [normalPattern, Text.stripBy_slash_lower, stripBy_slash_forwardSlashes]
  have wild : isWildcard (normalPattern fragment) = false := by rw [isWildcard_normalPattern, plain]
  have plainName : isWildcard (Text.lower (forwardSlashes name)) = false := by
    rw [← inner, isWildcard_stripBy_slash, wild]
  have nonemptyName : Text.lower (forwardSlashes name) ≠ [] :=
    Text.lower_ne_nil (by simpa [forwardSlashes] using nonempty)
  have start : ∃ c ∈ (Text.lower (forwardSlashes name) ++ ['/']).head?, c ≠ '/' := by
    obtain ⟨c, cs, chars⟩ := List.exists_cons_of_ne_nil nonemptyName
    refine ⟨c, by rw [chars]; rfl, ?_⟩
    have head : c ∈ (Text.stripBy (· == '/') (normalPattern fragment)).head? := by
      rw [inner, chars]
      rfl
    simpa using Text.eq_false_of_mem_head?_stripBy head
  have contains : n.matchesPattern fragment = n.containsChars (normalPattern fragment) := by
    simp [matchesPattern, wild]
  rw [Bool.eq_iff_iff, contains, containsChars_iff, inner, matchesPattern_between plainName,
    ← infix_iff_resumes start (leadsWithSlash_of path)]
  exact and_iff_right nonemptyName

theorem matchesPattern_fragment_shared :
    let fragment := " \\Shared/Entities/"
    let name := Text.stripBy Path.isSeparator (Text.stripBy Text.isBlank fragment.toList)
    isWildcard fragment.toList = false ∧ String.ofList name = "Shared/Entities" ∧
      (NormalPath.of "lib/core/shared/entities/base.dart").matchesPattern
        ("**/" ++ String.ofList name ++ "/**") = true := by
  intro fragment name
  have plain : isWildcard fragment.toList = false := by decide
  have nonempty : name ≠ [] := by decide
  have same := matchesPattern_fragment "lib/core/shared/entities/base.dart" fragment plain nonempty
  exact ⟨plain, by decide, same.symm.trans (by decide +kernel)⟩

end NormalPath

end ArchLint
