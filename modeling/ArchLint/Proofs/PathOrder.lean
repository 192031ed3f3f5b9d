import Mathlib.Data.List.Lex
import Mathlib.Logic.Relation
import ArchLint.Path.Order
import ArchLint.Proofs.PathSegments
import ArchLint.Proofs.ReportOrder

/-! # What the order of paths compares

Two texts that differ may name the same components, and then no comparison of paths tells them apart.
That happens exactly if they differ by slashes that are repeated or trail and by dots behind a slash: every
path can be respelled, by such changes alone, to the one text that spells its components out.

* `Path.Respelled`, `Path.components_eq_iff` — the changes, and that they are all that does not count.
* `Path.Component.Before`, `Path.order_eq_lt_iff` — the order of components and of paths.
* `Path.order_eq_eq_iff`, `Path.same_iff` — paths that compare equal.
-/

namespace ArchLint.Path

/-! ## Spellings -/

/-- The second text says the same with a slash or a dot less: a slash after another one, a dot between
slashes or behind the last one, or the slash at the end of a longer path. -/
inductive Respelled : List Char → List Char → Prop
  | slash (front back : List Char) : Respelled (front ++ '/' :: '/' :: back) (front ++ '/' :: back)
  | dot (front back : List Char) : Respelled (front ++ '/' :: '.' :: '/' :: back) (front ++ '/' :: back)
  | lastDot (front : List Char) : Respelled (front ++ ['/', '.']) (front ++ ['/'])
  | lastSlash {front : List Char} (more : front ≠ []) : Respelled (front ++ ['/']) front

/-- The components of the path with these segments. -/
def componentsOf (segments : List (List Char)) : List Component :=
  leadOf segments ++ segments.filterMap componentOf?

theorem components_eq (path : String) :
    components path = componentsOf (Text.segments '/' path.toList) :=
  rfl

/-- The first segment alone says what a path leads with, unless it is empty. -/
theorem leadOf_cons (first : List Char) {rest rest' : List (List Char)}
    (h : first ≠ [] ∨ (rest ≠ [] ∧ rest' ≠ [])) : leadOf (first :: rest) = leadOf (first :: rest') := by
  cases first with
  | nil =>
    obtain ⟨some, some'⟩ := h.resolve_left (· rfl)
    obtain ⟨_, _, rfl⟩ := List.exists_cons_of_ne_nil some
    obtain ⟨_, _, rfl⟩ := List.exists_cons_of_ne_nil some'
    rfl
  | cons c cs =>
    unfold leadOf
    split <;> simp_all

/-- A segment that stands for no component may be left out, or another such one put for it. -/
theorem componentsOf_of_idle {front back back' : List (List Char)}
    (idle : back.filterMap componentOf? = back'.filterMap componentOf?)
    (more : ∃ first rest, front = first :: rest ∧
      (first ≠ [] ∨ (rest ++ back ≠ [] ∧ rest ++ back' ≠ []))) :
    componentsOf (front ++ back) = componentsOf (front ++ back') := by
  obtain ⟨first, rest, rfl, lead⟩ := more
  rw [componentsOf, componentsOf, List.filterMap_append, List.filterMap_append, idle]
  exact congrArg (· ++ _) (leadOf_cons first lead)

theorem Respelled.componentsOf_eq {cs ds : List Char} (h : Respelled cs ds) :
    componentsOf (Text.segments '/' cs) = componentsOf (Text.segments '/' ds) := by
  have cut := Text.segments_append_cons '/'
  have ne := Text.segments_ne_nil '/'
  have split (front : List Char) := List.exists_cons_of_ne_nil (ne front)
  cases h with
  | slash front back =>
    obtain ⟨first, rest, pieces⟩ := split front
    rw [cut, cut, show Text.segments '/' ('/' :: back) = _ from cut [] back]
    refine componentsOf_of_idle rfl ⟨first, rest, pieces, .inr ?_⟩
    simp [ne back]
  | dot front back =>
    obtain ⟨first, rest, pieces⟩ := split front
    rw [cut, cut, show Text.segments '/' ('.' :: '/' :: back) = _ from cut ['.'] back]
    refine componentsOf_of_idle rfl ⟨first, rest, pieces, .inr ?_⟩
    simp [ne back]
  | lastDot front =>
    obtain ⟨first, rest, pieces⟩ := split front
    rw [cut, cut]
    exact componentsOf_of_idle rfl ⟨first, rest, pieces, .inr (by simp [ne])⟩
  | lastSlash more =>
    obtain ⟨first, rest, pieces⟩ := split ds
    rw [cut]
    conv_rhs => rw [← List.append_nil (Text.segments '/' ds)]
    refine componentsOf_of_idle rfl ⟨first, rest, pieces, ?_⟩
    have whole := Text.intercalate_segments '/' ds
    rw [pieces] at whole
    by_cases named : first = []
    · subst named
      refine .inr ⟨by simp [ne], fun none => more ?_⟩
      obtain rfl : rest = [] := by simpa using none
      exact whole.symm
    · exact .inl named

/-- The text of a component; the slashes around it are none of it. -/
def Component.text : Component → List Char
  | .root => []
  | .here => ['.']
  | .parent => ['.', '.']
  | .name text => text.toList

/-- Every component with a slash in front. -/
def spellTail (cs : List Component) : List Char :=
  cs.flatMap fun c => '/' :: c.text

/-- The components of a path spelled out, with one slash between neighbours. -/
def spell : List Component → List Char
  | [] => []
  | [.root] => ['/']
  | .root :: cs => spellTail cs
  | c :: cs => c.text ++ spellTail cs

theorem componentOf?_eq_none {s : List Char} (h : componentOf? s = none) : s = [] ∨ s = ['.'] := by
  rw [componentOf?] at h
  split at h
  next idle => simpa [List.isEmpty_iff] using idle
  next => split at h <;> cases h

theorem text_of_componentOf? {s : List Char} {c : Component} (h : componentOf? s = some c) :
    c.text = s ∧ c ≠ .root ∧ c ≠ .here := by
  rw [componentOf?] at h
  split at h
  next => cases h
  next =>
    split at h
    next up =>
      cases h
      exact ⟨(beq_iff_eq.1 up).symm, nofun, nofun⟩
    next =>
      cases h
      exact ⟨String.toList_ofList, nofun, nofun⟩

/-- Segments with a slash in front of each. -/
def tailText (segments : List (List Char)) : List Char :=
  segments.flatMap ('/' :: ·)

theorem intercalate_cons (first : List Char) (rest : List (List Char)) :
    ['/'].intercalate (first :: rest) = first ++ tailText rest := by
  induction rest generalizing first with
  | nil => simp [tailText]
  | cons s rest ih => simp [ih, tailText]

open Relation (ReflTransGen Join)

/-- Behind something, slashes and dots that do not count may go one by one. -/
theorem respelled_spellTail (rest : List (List Char)) {front : List Char} (more : front ≠ []) :
    ReflTransGen Respelled (front ++ tailText rest)
      (front ++ spellTail (rest.filterMap componentOf?)) := by
  induction rest generalizing front with
  | nil => exact .refl
  | cons s rest ih =>
    cases found : componentOf? s with
    | some c =>
      rw [List.filterMap_cons_some found]
      have further := @ih (front ++ '/' :: s) (by simp)
      simpa [tailText, spellTail, (text_of_componentOf? found).1] using further
    | none =>
      rw [List.filterMap_cons_none found]
      refine .trans ?_ (ih more)
      cases rest with
      | nil =>
        rcases componentOf?_eq_none found with rfl | rfl
        · exact .single (by simpa [tailText] using Respelled.lastSlash more)
        · exact .head (by simpa [tailText] using Respelled.lastDot front)
            (.single (by simpa [tailText] using Respelled.lastSlash more))
      | cons s' rest =>
        rcases componentOf?_eq_none found with rfl | rfl
        · exact .single (by simpa [tailText] using Respelled.slash front (s' ++ tailText rest))
        · exact .single (by simpa [tailText] using Respelled.dot front (s' ++ tailText rest))

/-- So they may behind the slash that a path begins with, which itself stays. -/
theorem respelled_spell_root (s : List Char) (rest : List (List Char)) :
    ReflTransGen Respelled ('/' :: s ++ tailText rest)
      (spell (.root :: (s :: rest).filterMap componentOf?)) := by
  induction rest generalizing s with
  | nil =>
    cases found : componentOf? s with
    | some c =>
      have text := (text_of_componentOf? found).1
      simpa [found, spell, spellTail, tailText, text] using ReflTransGen.refl
    | none =>
      rcases componentOf?_eq_none found with rfl | rfl
      · exact .refl
      · exact .single (Respelled.lastDot [])
  | cons s' rest ih =>
    cases found : componentOf? s with
    | some c =>
      have text := (text_of_componentOf? found).1
      have further := @respelled_spellTail (s' :: rest) ('/' :: s) (by simp)
      rw [List.filterMap_cons_some found]
      simpa [spell, spellTail, text] using further
    | none =>
      rw [List.filterMap_cons_none found]
      refine .head ?_ (ih s')
      rcases componentOf?_eq_none found with rfl | rfl
      · simpa [tailText] using Respelled.slash [] (s' ++ tailText rest)
      · simpa [tailText] using Respelled.dot [] (s' ++ tailText rest)

/-- What does not count may go until the components alone are spelled out. -/
theorem respelled_spell (path : String) :
    ReflTransGen Respelled path.toList (spell (components path)) := by
  obtain ⟨first, rest, pieces⟩ :=
    List.exists_cons_of_ne_nil (Text.segments_ne_nil '/' path.toList)
  have whole : path.toList = first ++ tailText rest := by
    rw [← intercalate_cons, ← pieces, Text.intercalate_segments]
  rw [components_eq, pieces, componentsOf, whole]
  by_cases lead : first = []
  · subst lead
    cases rest with
    | nil => exact .refl
    | cons s rest =>
      rw [List.filterMap_cons_none rfl]
      exact respelled_spell_root s rest
  · have further := respelled_spellTail rest lead
    rw [@leadOf_cons first rest [] (.inl lead)]
    cases found : componentOf? first with
    | none =>
      obtain rfl := (componentOf?_eq_none found).resolve_left lead
      exact further
    | some c =>
      obtain ⟨text, rooted, here⟩ := text_of_componentOf? found
      have dotless : first ≠ ['.'] := by
        rintro rfl
        cases found
      have bare : leadOf [first] = [] := by
        unfold leadOf
        split <;> simp_all
      rw [bare, List.nil_append, List.filterMap_cons_some found]
      cases c with
      | root => exact absurd rfl rooted
      | here => exact absurd rfl here
      | parent | name => exact text ▸ further

/-- Two texts name the same components exactly if both can be respelled to one text. -/
theorem components_eq_iff {p q : String} :
    components p = components q ↔ Join (ReflTransGen Respelled) p.toList q.toList := by
  have kept : ∀ {cs ds : List Char}, ReflTransGen Respelled cs ds →
      componentsOf (Text.segments '/' cs) = componentsOf (Text.segments '/' ds) := by
    intro cs ds h
    induction h with
    | refl => rfl
    | tail _ step ih => exact ih.trans step.componentsOf_eq
  constructor
  · intro same
    exact ⟨_, respelled_spell p, same ▸ respelled_spell q⟩
  · rintro ⟨text, hp, hq⟩
    exact (kept hp).trans (kept hq).symm

/-! ## Order -/

/-- The root comes before a dot, a dot before two dots, these before names, and of two names the one
with the smaller text. -/
inductive Component.Before : Component → Component → Prop
  | rank {a b : Component} (h : a.rank < b.rank) : Before a b
  | name {s t : String} (h : s < t) : Before (.name s) (.name t)

theorem compare_string_eq_lt {s t : String} : compare s t = .lt ↔ s < t :=
  compareOfLessAndEq_eq_lt

namespace Component

theorem compare_eq_then (a b : Component) :
    compare a b = (compare a.rank b.rank).then (compare a.label b.label) :=
  rfl

theorem eq_or_names_of_rank_eq {a b : Component} (h : a.rank = b.rank) :
    a = b ∨ ∃ s t, a = .name s ∧ b = .name t := by
  cases a <;> cases b <;> simp_all [rank]

theorem compare_eq_lt_iff {a b : Component} : compare a b = .lt ↔ a.Before b := by
  rw [compare_eq_then, Ordering.then_eq_lt, Nat.compare_eq_lt, Nat.compare_eq_eq,
    compare_string_eq_lt]
  constructor
  · rintro (rank | ⟨rank, label⟩)
    · exact .rank rank
    · obtain rfl | ⟨s, t, rfl, rfl⟩ := eq_or_names_of_rank_eq rank
      · exact absurd label (String.lt_irrefl _)
      · exact .name label
  · rintro (rank | text)
    · exact .inl rank
    · exact .inr ⟨rfl, text⟩

instance : Std.LawfulEqOrd Component where
  compare_self := Std.ReflCmp.compare_self
  eq_of_compare {a b} h := by
    rw [compare_eq_then, Ordering.then_eq_eq, Nat.compare_eq_eq,
      Std.LawfulEqOrd.compare_eq_iff_eq] at h
    obtain ⟨rank, label⟩ := h
    obtain rfl | ⟨s, t, rfl, rfl⟩ := eq_or_names_of_rank_eq rank
    · rfl
    · exact congrArg Component.name label

end Component

theorem compare_components_eq_lt_iff {as bs : List Component} :
    compare as bs = .lt ↔ List.Lex Component.Before as bs := by
  induction as generalizing bs with
  | nil =>
    cases bs with
    | nil => simp
    | cons b bs => simp
  | cons a as ih =>
    cases bs with
    | nil => simp
    | cons b bs =>
      rw [List.compare_cons_cons, Ordering.then_eq_lt, Component.compare_eq_lt_iff, ih,
        Std.LawfulEqOrd.compare_eq_iff_eq]
      constructor
      · rintro (first | ⟨rfl, rest⟩)
        · exact .rel first
        · exact .cons rest
      · rintro (_ | first | rest)
        · exact .inl first
        · exact .inr ⟨rfl, rest⟩

/-- A path comes before another one if its components do: at the first difference, or by ending there. -/
theorem order_eq_lt_iff {p q : String} :
    order p q = .lt ↔ List.Lex Component.Before (components p) (components q) :=
  compare_components_eq_lt_iff

theorem order_eq_eq_iff {p q : String} : order p q = .eq ↔ components p = components q :=
  Std.LawfulEqOrd.compare_eq_iff_eq

theorem same_iff {p q : String} : same p q = true ↔ components p = components q :=
  beq_iff_eq

end ArchLint.Path
