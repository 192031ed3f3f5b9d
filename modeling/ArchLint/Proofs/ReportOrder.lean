import ArchLint.Report

/-! # The order of reports

Diagnostics are compared by file, line, column and code, which does not tell all of them apart. So the
order of a report is settled by two things together: the comparison, and the order in which those that
compare equal arrived.

* `Std.TransCmp` for paths and diagnostics — the comparisons are total preorders.
* `tiedWith` — what compares equal to an element, in order.
* `tiedWith_mergeSort`, `eq_of_tiedWith_eq` — a stable sort keeps what is tied, and sorted lists that
  agree on it are equal.
* `Report.sort_congr` — what a sorted report depends on.
-/

namespace ArchLint

/-! ## Comparisons -/

instance : Std.TransOrd Path.Component :=
  inferInstanceAs (Std.TransCmp
    (compareLex (compareOn Path.Component.rank) (compareOn Path.Component.label)))

instance : Std.TransCmp Path.order :=
  inferInstanceAs (Std.TransCmp (compareOn Path.components))

instance : Std.TransCmp Diagnostic.order :=
  have : Std.TransCmp fun a b : Diagnostic => Path.order a.location.file b.location.file :=
    inferInstanceAs (Std.TransCmp (compareOn fun d : Diagnostic => Path.components d.location.file))
  inferInstanceAs (Std.TransCmp (compareLex _ _))

theorem Diagnostic.order_file {a b : Diagnostic} (tie : a.order b = .eq) :
    Path.order a.location.file b.location.file = .eq := by
  simp only [Diagnostic.order, compareLex_eq_eq] at tie
  exact tie.1

theorem Diagnostic.order_code {a b : Diagnostic} (tie : a.order b = .eq) : a.code = b.code := by
  simp only [Diagnostic.order, compareLex_eq_eq, compareOn] at tie
  exact Std.LawfulEqOrd.eq_of_compare tie.2.2.2

/-! ## Stable sorting -/

section StableSort

variable {α : Type} (cmp : α → α → Ordering)

/-- What compares equal to `x`, in order. -/
def tiedWith (x : α) (l : List α) : List α :=
  l.filter fun y => cmp x y == .eq

variable {cmp}

theorem mem_tiedWith {x y : α} {l : List α} : y ∈ tiedWith cmp x l ↔ y ∈ l ∧ cmp x y = .eq := by
  simp [tiedWith]

variable [Std.TransCmp cmp]

theorem mem_tiedWith_self {x : α} {l : List α} : x ∈ tiedWith cmp x l ↔ x ∈ l := by
  simp [mem_tiedWith, Std.ReflCmp.compare_self]

theorem tiedWith_eq_nil_or {x : α} {l l' : List α} (apart : ∀ y ∈ l, ∀ z ∈ l', cmp y z ≠ .eq) :
    tiedWith cmp x l = [] ∨ tiedWith cmp x l' = [] := by
  by_cases none : tiedWith cmp x l = []
  · exact .inl none
  -- With a tie on each side, the two would be tied with each other through `x`.
  · obtain ⟨y, hy⟩ := List.exists_mem_of_ne_nil _ none
    refine .inr (List.eq_nil_iff_forall_not_mem.2 fun z hz => ?_)
    rw [mem_tiedWith] at hy hz
    exact apart y hy.1 z hz.1 (Std.TransCmp.eq_trans (Std.OrientedCmp.eq_symm hy.2) hz.2)

theorem isLE_total (a b : α) : ((cmp a b).isLE || (cmp b a).isLE) = true := by
  rw [@Std.OrientedCmp.eq_swap _ cmp _ b a]
  cases cmp a b <;> rfl

theorem pairwise_mergeSort_isLE (l : List α) :
    (l.mergeSort fun a b => (cmp a b).isLE).Pairwise fun a b => (cmp a b).isLE :=
  List.pairwise_mergeSort (fun _ _ _ => Std.TransCmp.isLE_trans) isLE_total l

/-- Sorting keeps the order of what is tied. -/
theorem tiedWith_mergeSort (x : α) (l : List α) :
    tiedWith cmp x (l.mergeSort fun a b => (cmp a b).isLE) = tiedWith cmp x l := by
  -- The tied elements of `l` are sorted, so sorting `l` keeps them as a sublist.
  have sorted : (tiedWith cmp x l).Pairwise fun a b => (cmp a b).isLE := by
    apply List.pairwise_of_forall_mem_list
    intro a ha b hb
    have hxa := (mem_tiedWith.1 ha).2
    have hxb := (mem_tiedWith.1 hb).2
    rw [Std.TransCmp.congr_left (Std.OrientedCmp.eq_symm hxa), hxb]
    rfl
  have kept : (tiedWith cmp x l).Sublist (l.mergeSort fun a b => (cmp a b).isLE) :=
    List.sublist_mergeSort (fun _ _ _ => Std.TransCmp.isLE_trans) isLE_total sorted
      List.filter_sublist
  have again : tiedWith cmp x (tiedWith cmp x l) = tiedWith cmp x l := by
    simp [tiedWith, List.filter_filter]
  have tied := kept.filter fun y => cmp x y == .eq
  rw [← tiedWith, ← tiedWith, again] at tied
  -- It is the whole of what is tied, since sorting is a permutation and keeps its length.
  refine (tied.eq_of_length ?_).symm
  exact ((List.mergeSort_perm l _).filter _).length_eq.symm

/-- Two sorted lists are equal if they agree on what is tied with any element. -/
theorem eq_of_tiedWith_eq {l l' : List α} (sorted : l.Pairwise fun a b => (cmp a b).isLE)
    (sorted' : l'.Pairwise fun a b => (cmp a b).isLE)
    (ties : ∀ x, tiedWith cmp x l = tiedWith cmp x l') : l = l' := by
  induction l generalizing l' with
  | nil =>
    cases l' with
    | nil => rfl
    | cons b l' =>
      have : b ∈ tiedWith cmp b (b :: l') := mem_tiedWith_self.2 List.mem_cons_self
      rw [← ties b] at this
      cases this
  | cons a l ih =>
    cases l' with
    | nil =>
      have : a ∈ tiedWith cmp a (a :: l) := mem_tiedWith_self.2 List.mem_cons_self
      rw [ties a] at this
      cases this
    | cons b l' =>
      -- Each head occurs in the other list, so the heads are tied and, being first, equal.
      have ha : a ∈ tiedWith cmp a (b :: l') := by
        rw [← ties a]
        exact mem_tiedWith_self.2 List.mem_cons_self
      have hb : b ∈ tiedWith cmp b (a :: l) := by
        rw [ties b]
        exact mem_tiedWith_self.2 List.mem_cons_self
      rw [mem_tiedWith_self] at ha hb
      have hab : (cmp a b).isLE := by
        rcases List.mem_cons.1 hb with rfl | hb
        · simp [Std.ReflCmp.compare_self]
        · exact List.rel_of_pairwise_cons sorted hb
      have hba : (cmp b a).isLE := by
        rcases List.mem_cons.1 ha with rfl | ha
        · simp [Std.ReflCmp.compare_self]
        · exact List.rel_of_pairwise_cons sorted' ha
      have tie : cmp a b = .eq := by
        rw [@Std.OrientedCmp.eq_swap _ cmp _ b a] at hba
        exact Ordering.eq_eq_of_isLE_of_isLE_swap hab hba
      have heads := ties a
      simp only [tiedWith, List.filter_cons, tie, Std.ReflCmp.compare_self, beq_self_eq_true,
        if_true, List.cons.injEq] at heads
      obtain ⟨rfl, -⟩ := heads
      refine congrArg (a :: ·) (ih sorted.of_cons sorted'.of_cons fun x => ?_)
      -- With the heads equal, each `x` loses the same head on both sides or none.
      have tails := ties x
      simp only [tiedWith, List.filter_cons] at tails ⊢
      split at tails
      · exact (List.cons.inj tails).2
      · exact tails

end StableSort

/-- A sorted report depends on the number of files and, for every diagnostic, on what is tied with it. -/
theorem Report.sort_congr {r r' : Report} (files : r.filesChecked = r'.filesChecked)
    (ties : ∀ d, tiedWith Diagnostic.order d r.diagnostics =
      tiedWith Diagnostic.order d r'.diagnostics) : r.sort = r'.sort := by
  simp only [Report.sort, Report.mk.injEq]
  refine ⟨?_, files⟩
  apply eq_of_tiedWith_eq (pairwise_mergeSort_isLE _) (pairwise_mergeSort_isLE _)
  intro d
  rw [tiedWith_mergeSort, tiedWith_mergeSort, ties d]

end ArchLint
