import Mathlib.Data.List.Sort
import PermissionScreen.Proofs.Observable.Course

/-!
The numbers of subscriptions.

Observers stand in the order of their numbers, and the next number is above all of them. So a number
is not given twice: who unsubscribes does not come back under it, and who subscribes has a number that
nobody had. All this is kept at each stage of a course, whatever observers do.

* `Course.ordered`: the numbers stay in order.
* `Course.observer_cases`: an observer was there at the start, or has a number that is new.
* `Course.subscribed_of_last`: who is subscribed at the end under an old number has been so from the
  start.
-/

namespace PermissionScreen

variable {σ α : Type}

/-- The observers stand in the order of their numbers, below the next one. So it is while there are
none, and every step keeps it. -/
structure Observable.Ordered (observable : Observable σ α) : Prop where
  ascending : (observable.observers.map (·.subscription)).Pairwise (· < ·)
  below : ∀ observer ∈ observable.observers,
    observer.subscription < observable.nextSubscription

namespace Observable

variable {observable : Observable σ α}

theorem hasSubscription_iff {subscription : Subscription} :
    observable.hasSubscription subscription ↔
      ∃ observer ∈ observable.observers, observer.subscription = subscription := by
  simp [hasSubscription]

theorem ordered_of_observers_eq_nil (none : observable.observers = []) : observable.Ordered :=
  ⟨by simp [none], by simp [none]⟩

/-- Who subscribes comes last, under the next number. -/
theorem Ordered.subscribe (ordered : observable.Ordered)
    (observer : Subscription → α → Reaction σ α) :
    (observable.subscribe observer).2.Ordered where
  ascending := by
    simp only [Observable.subscribe, List.map_append, List.map_cons, List.map_nil,
      List.pairwise_append, List.pairwise_singleton, true_and]
    refine ⟨ordered.ascending, ?_⟩
    simpa using ordered.below
  below := by
    intro other mem
    rcases List.mem_append.mp mem with old | new
    · exact Nat.lt_succ_of_lt (ordered.below other old)
    · rw [List.mem_singleton.mp new]
      exact Nat.lt_succ_self _

theorem Ordered.unsubscribe (ordered : observable.Ordered) (subscription : Subscription) :
    (observable.unsubscribe subscription).2.Ordered where
  ascending := ordered.ascending.sublist (List.filter_sublist.map _)
  below observer mem := ordered.below observer (List.mem_of_mem_filter mem)

end Observable

/-! ### One stage -/

section Next

variable {stage next : Stage σ α}

/-- What a step does to the observable: it adds an observer, removes one, or leaves the observers as
they are. -/
theorem Stage.Next.observable_cases (step : stage.Next next) :
    (∃ observer, next.world.observable = (stage.world.observable.subscribe observer).2) ∨
      (∃ subscription,
        next.world.observable = (stage.world.observable.unsubscribe subscription).2) ∨
      (next.world.observable.observers = stage.world.observable.observers ∧
        next.world.observable.nextSubscription = stage.world.observable.nextSubscription) := by
  cases step with
  | subscribe => exact .inl ⟨_, rfl⟩
  | unsubscribe => exact .inr (.inl ⟨_, rfl⟩)
  | _ => exact .inr (.inr ⟨rfl, rfl⟩)

theorem Stage.Next.ordered (step : stage.Next next) (ordered : stage.world.observable.Ordered) :
    next.world.observable.Ordered := by
  rcases step.observable_cases with ⟨observer, eq⟩ | ⟨subscription, eq⟩ | ⟨observers, number⟩
  · rw [eq]
    exact ordered.subscribe observer
  · rw [eq]
    exact ordered.unsubscribe subscription
  · exact ⟨observers ▸ ordered.ascending, by rw [observers, number]; exact ordered.below⟩

theorem Stage.Next.nextSubscription_le (step : stage.Next next) :
    stage.world.observable.nextSubscription ≤ next.world.observable.nextSubscription := by
  rcases step.observable_cases with ⟨observer, eq⟩ | ⟨subscription, eq⟩ | ⟨_, number⟩
  · rw [eq]
    exact Nat.le_succ _
  · rw [eq]
    exact Nat.le_refl _
  · exact Nat.le_of_eq number.symm

/-- An observer has been there before, or subscribes under the next number. -/
theorem Stage.Next.observer_cases (step : stage.Next next) {observer : Observer σ α}
    (mem : observer ∈ next.world.observable.observers) :
    observer ∈ stage.world.observable.observers ∨
      observer.subscription = stage.world.observable.nextSubscription := by
  rcases step.observable_cases with ⟨added, eq⟩ | ⟨subscription, eq⟩ | ⟨observers, _⟩
  · rw [eq] at mem
    rcases List.mem_append.mp mem with old | new
    · exact .inl old
    · exact .inr (by rw [List.mem_singleton.mp new])
  · rw [eq] at mem
    exact .inl (List.mem_of_mem_filter mem)
  · exact .inl (observers ▸ mem)

end Next

/-! ### A course of stages -/

namespace Course

variable {start last stage : Stage σ α} {stages : List (Stage σ α)}

theorem ordered (course : Course start stages last) (ordered : start.world.observable.Ordered) :
    last.world.observable.Ordered := by
  induction course with
  | here => exact ordered
  | step step _ ih => exact ih (step.ordered ordered)

theorem nextSubscription_le (course : Course start stages last) :
    start.world.observable.nextSubscription ≤ last.world.observable.nextSubscription := by
  induction course with
  | here => exact Nat.le_refl _
  | step step _ ih => exact Nat.le_trans step.nextSubscription_le ih

/-- An observer was there at the start, or has a number that is new since then. -/
theorem observer_cases (course : Course start stages last) {observer : Observer σ α}
    (mem : observer ∈ last.world.observable.observers) :
    observer ∈ start.world.observable.observers ∨
      start.world.observable.nextSubscription ≤ observer.subscription := by
  induction course with
  | here => exact .inl mem
  | step step _ ih =>
    rcases ih mem with old | new
    · rcases step.observer_cases old with old | number
      · exact .inl old
      · exact .inr (Nat.le_of_eq number.symm)
    · exact .inr (Nat.le_trans step.nextSubscription_le new)

/-- Who is subscribed at the end under a number that was given before the start has been subscribed
from the start. -/
theorem subscribed_of_last (course : Course start stages last) {subscription : Subscription}
    (given : subscription < start.world.observable.nextSubscription)
    (subscribed : last.world.observable.hasSubscription subscription) :
    start.world.observable.hasSubscription subscription := by
  obtain ⟨observer, mem, rfl⟩ := Observable.hasSubscription_iff.mp subscribed
  rcases course.observer_cases mem with old | new
  · exact Observable.hasSubscription_iff.mpr ⟨observer, old, rfl⟩
  · exact absurd given (Nat.not_lt.mpr new)

end Course

end PermissionScreen
