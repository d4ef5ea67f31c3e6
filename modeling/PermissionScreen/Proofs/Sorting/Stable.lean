import Mathlib.Data.List.Basic

/-!
Stable sorting.

A sort is stable if it leaves elements that the order does not tell apart as they were. For an order
in which any two elements can be compared there is then no choice left: a list has one stable sort
(`StablySorts.unique`), and merging finds it (`stablySorts_mergeSort`).
-/

namespace PermissionScreen

/-- What an order of elements has to satisfy for a sort to make sense: it can be read from both
sides, and it is transitive, also through elements that it does not tell apart. -/
structure OrdersAll {α : Type} (compare : α → α → Ordering) : Prop where
  swap : ∀ a b, compare b a = (compare a b).swap
  trans : ∀ {a b c order}, compare a b = order → compare b c = order → compare a c = order
  through : ∀ {a b c}, compare a b = .eq → compare a c = compare b c

/-- The elements of a list in the order of a comparison. Of those that it does not tell apart none
is moved before another. -/
structure StablySorts {α : Type} (compare : α → α → Ordering) (elements sorted : List α) :
    Prop where
  perm : sorted.Perm elements
  ordered : sorted.Pairwise fun a b => (compare a b).isLE
  stable : ∀ a, sorted.filter (compare a · = .eq) = elements.filter (compare a · = .eq)

section Sorts

variable {α : Type} {compare : α → α → Ordering} [Std.TransCmp compare]
  {elements sorted other : List α}

theorem ordersAll (compare : α → α → Ordering) [Std.TransCmp compare] : OrdersAll compare where
  swap _ _ := Std.OrientedCmp.eq_swap
  trans {a b c order} first second := by
    cases order with
    | lt => exact Std.TransCmp.lt_trans first second
    | eq => exact Std.TransCmp.eq_trans first second
    | gt => exact Std.TransCmp.gt_trans first second
  through := Std.TransCmp.congr_left

theorem mem_iff_of_filter_eq
    (same : ∀ a, sorted.filter (compare a · = .eq) = other.filter (compare a · = .eq)) (a : α) :
    a ∈ sorted ↔ a ∈ other := by
  have inBoth := congrArg (a ∈ ·) (same a)
  simpa [Std.ReflCmp.compare_self] using inBoth

/-- Nothing in an ordered list comes before its first element. -/
theorem isLE_of_mem_of_ordered {a b : α}
    (ordered : (a :: sorted).Pairwise fun a b => (compare a b).isLE) (mem : b ∈ a :: sorted) :
    (compare a b).isLE := by
  rcases List.mem_cons.mp mem with rfl | mem
  · exact Std.ReflCmp.isLE_rfl
  · exact List.rel_of_pairwise_cons ordered mem

/-- Ordered lists are equal if they have the same elements of each kind, in the same order: the
first element of each is of the same kind as that of the other. -/
theorem eq_of_filter_eq (left : sorted.Pairwise fun a b => (compare a b).isLE)
    (right : other.Pairwise fun a b => (compare a b).isLE)
    (same : ∀ a, sorted.filter (compare a · = .eq) = other.filter (compare a · = .eq)) :
    sorted = other := by
  induction sorted generalizing other with
  | nil =>
    refine (List.eq_nil_iff_forall_not_mem.mpr fun a mem => ?_).symm
    exact List.not_mem_nil ((mem_iff_of_filter_eq same a).mpr mem)
  | cons a rest ih =>
    obtain _ | ⟨b, rest'⟩ := other
    · exact absurd ((mem_iff_of_filter_eq same a).mp List.mem_cons_self) List.not_mem_nil
    have kind : compare a b = .eq := Std.OrientedCmp.isLE_antisymm
      (isLE_of_mem_of_ordered left ((mem_iff_of_filter_eq same b).mpr List.mem_cons_self))
      (isLE_of_mem_of_ordered right ((mem_iff_of_filter_eq same a).mp List.mem_cons_self))
    have first := same a
    rw [List.filter_cons_of_pos (by simp [Std.ReflCmp.compare_self]),
      List.filter_cons_of_pos (by simpa using kind)] at first
    obtain ⟨rfl, _⟩ := List.cons_eq_cons.mp first
    refine List.cons_eq_cons.mpr ⟨rfl, ih left.of_cons right.of_cons fun c => ?_⟩
    have both := same c
    by_cases kind : compare c a = .eq
    · rw [List.filter_cons_of_pos (by simpa using kind),
        List.filter_cons_of_pos (by simpa using kind)] at both
      exact (List.cons_eq_cons.mp both).2
    · rwa [List.filter_cons_of_neg (by simpa using kind),
        List.filter_cons_of_neg (by simpa using kind)] at both

/-- A list has one stable sort. -/
theorem StablySorts.unique (sorts : StablySorts compare elements sorted)
    (sorts' : StablySorts compare elements other) : sorted = other :=
  eq_of_filter_eq sorts.ordered sorts'.ordered fun a =>
    (sorts.stable a).trans (sorts'.stable a).symm

/-- What holds of any two elements that the order does not tell apart, the first one before the
second, holds in a stable sort as well. -/
theorem StablySorts.pairwise {R : α → α → Prop} (sorts : StablySorts compare elements sorted)
    (before : elements.Pairwise fun a b => compare a b = .eq → R a b) :
    sorted.Pairwise fun a b => compare a b = .eq → R a b := by
  rw [List.pairwise_iff_forall_sublist] at before ⊢
  intro a b inOrder kind
  refine before ?_ kind
  have ofKind : [a, b].filter (compare a · = .eq) = [a, b] := by
    simp [Std.ReflCmp.compare_self, kind]
  have inKind := inOrder.filter (compare a · = .eq)
  rw [ofKind, sorts.stable a] at inKind
  exact inKind.trans List.filter_sublist

/-- Merging sorts stably. -/
theorem stablySorts_mergeSort (compare : α → α → Ordering) [Std.TransCmp compare]
    (elements : List α) :
    StablySorts compare elements (elements.mergeSort fun a b => (compare a b).isLE) := by
  have trans : ∀ a b c : α, (compare a b).isLE → (compare b c).isLE → (compare a c).isLE :=
    fun _ _ _ => Std.TransCmp.isLE_trans
  have total : ∀ a b : α, ((compare a b).isLE || (compare b a).isLE) = true := by
    intro a b
    rw [(ordersAll compare).swap a b]
    cases compare a b <;> rfl
  have perm := List.mergeSort_perm elements fun a b => (compare a b).isLE
  refine ⟨perm, List.pairwise_mergeSort trans total elements, fun a => ?_⟩
  -- The elements of one kind are in order, so that merging keeps them as they are.
  have kind : (elements.filter (compare a · = .eq)).Pairwise fun b c => (compare b c).isLE := by
    refine List.pairwise_of_forall_mem_list fun b left c right => ?_
    have first : compare a b = .eq := of_decide_eq_true (List.mem_filter.mp left).2
    have second : compare a c = .eq := of_decide_eq_true (List.mem_filter.mp right).2
    rw [← Std.TransCmp.congr_left first, second]
    rfl
  have kept := (List.sublist_mergeSort trans total kind List.filter_sublist).filter
    (compare a · = .eq)
  rw [List.filter_filter] at kept
  simp only [Bool.and_self] at kept
  exact (kept.eq_of_length (perm.filter _).length_eq.symm).symm

end Sorts

end PermissionScreen
