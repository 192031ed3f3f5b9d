import Mathlib.Data.Set.Card

/-! # Concatenations and sizes of lists

What is contributed by the members of a list, one after the other, and how many members there are.

* `flatMap_eq_of_perm`, `flatMap_flatMap_perm` — members in another order.
* `flatMap_filter` — a choice among the members.
* `length_eq_ncard`, `ncard_eq_one_iff` — the size of a list without repeats, and of a set with one member.
-/

namespace ArchLint

variable {α β γ : Type} {f : α → List β} {l l' : List α}

/-! ## Concatenations -/

/-- If of any two members at most one contributes, the order of the members does not count. -/
theorem flatMap_eq_of_perm (perm : l.Perm l') (apart : l.Pairwise fun a b => f a = [] ∨ f b = []) :
    l.flatMap f = l'.flatMap f := by
  induction perm with
  | nil => rfl
  | cons a _ ih => rw [List.flatMap_cons, List.flatMap_cons, ih apart.of_cons]
  | swap a b l =>
    -- One of the two contributes nothing, so the other one comes first either way.
    have first := List.rel_of_pairwise_cons apart (List.mem_cons_self (a := a) (l := l))
    rcases first with h | h <;> simp [h]
  | trans perm _ ih ih' =>
    -- The condition does not see the order of a pair, so it holds after the first permutation too.
    have symm : ∀ {a b : α}, (f a = [] ∨ f b = []) → (f b = [] ∨ f a = []) := Or.symm
    rw [ih apart, ih' ((perm.pairwise_iff symm).1 apart)]

/-- What the pairs of two lists contribute, along the first list or along the second. -/
theorem flatMap_flatMap_perm (l : List α) (m : List β) (f : α → β → List γ) :
    (l.flatMap fun a => m.flatMap (f a)).Perm (m.flatMap fun b => l.flatMap fun a => f a b) := by
  induction l with
  | nil => simp
  | cons a l ih =>
    simp only [List.flatMap_cons]
    exact (ih.append_left _).trans (List.flatMap_append_perm m _ _)

/-- A choice among the members is a choice among what they contribute, if that shows which member it
comes from. -/
theorem flatMap_filter {p : α → Bool} {q : β → Bool} (shows : ∀ a ∈ l, ∀ b ∈ f a, q b = p a) :
    (l.filter p).flatMap f = (l.flatMap f).filter q := by
  induction l with
  | nil => rfl
  | cons a l ih =>
    have rest := ih fun x hx => shows x (.tail _ hx)
    have head := shows a List.mem_cons_self
    rw [List.flatMap_cons, List.filter_append, ← rest]
    cases chosen : p a with
    | true =>
      rw [List.filter_cons_of_pos chosen, List.flatMap_cons,
        List.filter_eq_self.2 fun b hb => (head b hb).trans chosen]
    | false =>
      have none : (f a).filter q = [] :=
        List.filter_eq_nil_iff.2 fun b hb => by simp [head b hb, chosen]
      rw [List.filter_cons_of_neg (by simp [chosen]), none, List.nil_append]

/-! ## Sizes -/

theorem length_eq_ncard (nodup : l.Nodup) : l.length = {a | a ∈ l}.ncard := by
  classical
  rw [← List.toFinset_card_of_nodup nodup, ← Set.ncard_coe_finset, List.coe_toFinset]

theorem ncard_eq_one_iff {s : Set α} {a : α} (mem : a ∈ s) : s.ncard = 1 ↔ ∀ b ∈ s, b = a := by
  rw [Set.ncard_eq_one]
  constructor
  · rintro ⟨only, rfl⟩ b other
    exact (Set.mem_singleton_iff.1 other).trans (Set.mem_singleton_iff.1 mem).symm
  · intro alike
    exact ⟨a, Set.eq_singleton_iff_unique_mem.2 ⟨mem, alike⟩⟩

end ArchLint
