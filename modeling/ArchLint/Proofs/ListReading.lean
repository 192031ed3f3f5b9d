import Mathlib.Data.List.Forall2

/-! # Lists written and read item by item

A list is read when every item of it is. What is read then are the readings of its items, in their order.

* `eq_map_of_cons` — a list that is written item by item.
* `mapM_cons_eq_some` — a list and its first item.
* `length_of_mapM`, `mem_iff_of_mapM` — how much is read, and what.
* `mapM_congr`, `mapM_mono` — readers that agree on the items of a list, and readers that read more.
* `mapM_eq_of_forall₂` — two lists whose items are read alike.
* `mapM_bind_mapM` — what is read and then read once more.
-/

namespace ArchLint

variable {α β : Type} {f g : α → Option β} {l : List α} {l' : List β}

theorem eq_map_of_cons {write : List α → List β} {item : α → β} (nil : write [] = [])
    (cons : ∀ a as, write (a :: as) = item a :: write as) (as : List α) :
    write as = as.map item := by
  induction as with
  | nil => exact nil
  | cons a as ih => rw [cons, ih, List.map_cons]

theorem mapM_cons_eq_some {a : α} : (a :: l).mapM f = some l' ↔
    ∃ b, f a = some b ∧ ∃ bs, l.mapM f = some bs ∧ b :: bs = l' := by
  simp only [List.mapM_cons, Option.bind_eq_bind, Option.bind_eq_some_iff, Option.pure_def,
    Option.some_inj]

theorem length_of_mapM (h : l.mapM f = some l') : l'.length = l.length := by
  induction l generalizing l' with
  | nil =>
    cases h
    rfl
  | cons a l ih =>
    obtain ⟨b, -, bs, images, rfl⟩ := mapM_cons_eq_some.1 h
    rw [List.length_cons, List.length_cons, ih images]

theorem mem_iff_of_mapM (h : l.mapM f = some l') {b : β} : b ∈ l' ↔ ∃ a ∈ l, f a = some b := by
  induction l generalizing l' with
  | nil =>
    cases h
    simp
  | cons a l ih =>
    obtain ⟨b', image, bs, images, rfl⟩ := mapM_cons_eq_some.1 h
    simp [image, ih images, eq_comm]

theorem mapM_congr (h : ∀ a ∈ l, f a = g a) : l.mapM f = l.mapM g := by
  induction l with
  | nil => rfl
  | cons a l ih =>
    rw [List.mapM_cons, List.mapM_cons, h a (.head _), ih fun b hb => h b (.tail _ hb)]

theorem mapM_eq_of_forall₂ {γ : Type} {g : γ → Option β} {m : List γ}
    (h : List.Forall₂ (fun a c => f a = g c) l m) : l.mapM f = m.mapM g := by
  induction h with
  | nil => rfl
  | cons same _ ih => rw [List.mapM_cons, List.mapM_cons, same, ih]

theorem mapM_bind_mapM {γ : Type} {g : β → Option γ} :
    (l.mapM f).bind (fun bs => bs.mapM g) = l.mapM fun a => (f a).bind g := by
  induction l with
  | nil => rfl
  | cons a l ih =>
    rw [List.mapM_cons, List.mapM_cons, ← ih]
    cases f a with
    | none => rfl
    | some b =>
      cases l.mapM f with
      | none => cases image : g b <;> simp [image]
      | some bs => simp [List.mapM_cons]

theorem mapM_mono (h : ∀ a ∈ l, ∀ b, f a = some b → g a = some b) (images : l.mapM f = some l') :
    l.mapM g = some l' := by
  induction l generalizing l' with
  | nil => exact images
  | cons a l ih =>
    obtain ⟨b, image, bs, rest, rfl⟩ := mapM_cons_eq_some.1 images
    have rest' := ih (fun c hc => h c (.tail _ hc)) rest
    exact mapM_cons_eq_some.2 ⟨b, h a (.head _) b image, bs, rest', rfl⟩

end ArchLint
