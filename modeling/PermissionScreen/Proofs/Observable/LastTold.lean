import PermissionScreen.Observable.Habit
import PermissionScreen.Proofs.Observable.Numbering

/-!
What an observer is told last.

The value that is set last is the one that stays. It is told to all who observe, but this need not be
the last that they are told: when it is set, others may still be in the course of being told, and
these go on when it has been. Who had been told all of them by then is left with the value that
stays; who had not is left with the outermost that was still to come (`last_told`).
-/

namespace PermissionScreen

variable {σ α : Type}

/-- The values that are told under a number, in order. -/
def toldTo (subscription : Subscription) (told : List (Delivery α)) : List α :=
  (told.filter (·.subscription = subscription)).map (·.value)

/-- The values that are still to be told under a number, the outermost last. -/
def due (subscription : Subscription) : List (Task σ α) → List α
  | [] => []
  | .react _ :: rest => due subscription rest
  | .tell value observers :: rest =>
      ((observers.filter (·.subscription = subscription)).map fun _ => value) ++
        due subscription rest

/-- Of the values set in the course of some stages, `latest` is set last, while the tasks `rest`
wait. -/
def SetsLast (stages : List (Stage σ α)) (latest : α) (rest : List (Task σ α)) : Prop :=
  ∃ before world next after,
    stages = before ++ ⟨world, .react (.set latest next) :: rest⟩ :: after ∧
      ∀ stage ∈ after, stage.setting? = none

theorem toldTo_append (subscription : Subscription) (front back : List (Delivery α)) :
    toldTo subscription (front ++ back) = toldTo subscription front ++ toldTo subscription back := by
  rw [toldTo, List.filter_append, List.map_append]
  rfl

/-! ### While no value is set -/

section Quiet

variable {stage next start last : Stage σ α} {stages : List (Stage σ α)}

/-- Unless it sets a value, a step tells what is due next, if anything, and the rest stays due. -/
theorem Stage.Next.due_eq (step : stage.Next next) (quiet : stage.setting? = none)
    (subscription : Subscription) :
    due subscription stage.tasks =
      toldTo subscription stage.delivery?.toList ++ due subscription next.tasks := by
  cases step with
  | set => cases quiet
  | @tell world value observer observers rest =>
    rw [Stage.delivery?, Option.toList_some, toldTo, due, due, due]
    by_cases same : observer.subscription = subscription
    · rw [List.filter_cons_of_pos (by simpa using same), List.filter_cons_of_pos (by simpa using same)]
      rfl
    · rw [List.filter_cons_of_neg (by simpa using same), List.filter_cons_of_neg (by simpa using same)]
      rfl
  | _ => rfl

theorem Stage.Next.value_eq (step : stage.Next next) (quiet : stage.setting? = none) :
    next.world.observable.value = stage.world.observable.value := by
  cases step with
  | set => cases quiet
  | _ => rfl

/-- As long as no value is set, what is told is what was due. -/
theorem Course.due_eq (course : Course start stages last)
    (quiet : ∀ stage ∈ stages, stage.setting? = none) (subscription : Subscription) :
    due subscription start.tasks =
      toldTo subscription (deliveries stages) ++ due subscription last.tasks := by
  induction course with
  | here => rfl
  | @step stage next last stages step _ ih =>
    have first : deliveries (stage :: stages) = stage.delivery?.toList ++ deliveries stages := by
      cases told : stage.delivery? <;> simp [deliveries, told]
    have rest := ih fun stage mem => quiet stage (List.mem_cons_of_mem _ mem)
    rw [step.due_eq (quiet stage List.mem_cons_self), rest, first, toldTo_append,
      List.append_assoc]

theorem Course.value_eq (course : Course start stages last)
    (quiet : ∀ stage ∈ stages, stage.setting? = none) :
    last.world.observable.value = start.world.observable.value := by
  induction course with
  | here => rfl
  | step step _ ih =>
    rw [ih fun stage mem => quiet stage (List.mem_cons_of_mem _ mem)]
    exact step.value_eq (quiet _ List.mem_cons_self)

end Quiet

/-! ### The value that is set last -/

/-- If a value is set in the course of some stages, one is set last. -/
theorem exists_setsLast {stages : List (Stage σ α)} {stage : Stage σ α} (mem : stage ∈ stages)
    (sets : stage.setting?.isSome) : ∃ latest rest, SetsLast stages latest rest := by
  -- The last stage that sets a value is the first one from behind.
  have some : (stages.reverse.find? (·.setting?.isSome)).isSome :=
    List.find?_isSome.mpr ⟨stage, List.mem_reverse.mpr mem, sets⟩
  obtain ⟨final, found⟩ := Option.isSome_iff_exists.mp some
  obtain ⟨isSet, after, before, eq, quiet⟩ := List.find?_eq_some_iff_append.mp found
  have eq : stages = before.reverse ++ final :: after.reverse := by
    rw [← List.reverse_reverse stages, eq]
    simp
  have quiet : ∀ stage ∈ after.reverse, stage.setting? = none := by
    intro stage mem
    simpa using quiet stage (List.mem_reverse.mp mem)
  match final, isSet with
  | ⟨world, .react (.set latest next) :: rest⟩, _ =>
    exact ⟨latest, rest, before.reverse, world, next, after.reverse, eq, quiet⟩

/-- Who is subscribed when the last value is set is told it, and then what was still due. -/
theorem Course.toldTo_of_set {world world' : World σ α} {latest : α} {next : Reaction σ α}
    {rest : List (Task σ α)} {after : List (Stage σ α)}
    (course : Course ⟨world, .react (.set latest next) :: rest⟩
      (⟨world, .react (.set latest next) :: rest⟩ :: after) ⟨world', []⟩)
    (quiet : ∀ stage ∈ after, stage.setting? = none) {subscription : Subscription}
    (subscribed : world.observable.hasSubscription subscription) :
    (toldTo subscription (deliveries after)).getLast? =
      some ((due subscription rest).getLast?.getD latest) := by
  cases course with
  | step step course =>
    cases step
    let own := world.observable.observers.filter (·.subscription = subscription)
    have told : own.map (fun _ => latest) ++ due subscription rest =
        toldTo subscription (deliveries after) := by
      simpa [due, own] using course.due_eq quiet subscription
    have some : (own.map fun _ => latest).getLast? = some latest := by
      obtain ⟨observer, mem, same⟩ := Observable.hasSubscription_iff.mp subscribed
      have mem : observer ∈ own := List.mem_filter.mpr ⟨mem, decide_eq_true same⟩
      rw [List.getLast?_map, List.getLast?_eq_some_getLast (List.ne_nil_of_mem mem)]
      rfl
    rw [← told, List.getLast?_append, some]
    cases (due subscription rest).getLast? <;> rfl

/-- **What is told last.** When a set call returns, the value of the observable is the one that was
set last. Who was subscribed before and still is has been told last the outermost of the values that
it was still to be told when that one was set; that one, if no other was due. -/
theorem last_told {depth : Nat} {value : α} {world world' : World σ α}
    {tellings : List (Telling α)} (ordered : world.observable.Ordered)
    (returned : World.setWithin depth value world = some (world', tellings)) :
    ∃ stages latest rest,
      Course ⟨world, [.react (.set value .done)]⟩ stages ⟨world', []⟩ ∧
        deliveries stages = chronicle tellings 1 ∧
          SetsLast stages latest rest ∧
            world'.observable.value = some latest ∧
              ∀ observer ∈ world.observable.observers, observer ∈ world'.observable.observers →
                (toldTo observer.subscription (chronicle tellings 1)).getLast? =
                  some ((due observer.subscription rest).getLast?.getD latest) := by
  obtain ⟨stages, course, told⟩ := takesCourse_setWithin depth returned .done []
  have course := course.append (.step .done .here)
  have told : deliveries (stages ++ [⟨world', [.react .done]⟩]) = chronicle tellings 1 := by
    rw [deliveries_append, told]
    exact List.append_nil _
  generalize stages ++ [⟨world', [.react .done]⟩] = stages at course told
  -- The first stage sets the value itself, so there is a last one that sets a value.
  have sets : ∃ latest rest, SetsLast stages latest rest := by
    cases course with
    | step step course => exact exists_setsLast List.mem_cons_self rfl
  obtain ⟨latest, rest, before, middle, next, after, rfl, quiet⟩ := sets
  obtain ⟨first, second⟩ := course.of_append
  refine ⟨_, latest, rest, course, told, ⟨before, middle, next, after, rfl, quiet⟩, ?_, ?_⟩
  · cases second with
    | step step second =>
      rw [second.value_eq quiet]
      cases step
      rfl
  · intro observer mem mem'
    -- Its number is old, so it cannot have come back under it: it observes when the last is set.
    have given := Nat.lt_of_lt_of_le (ordered.below observer mem) first.nextSubscription_le
    have subscribed := second.subscribed_of_last given
      (Observable.hasSubscription_iff.mpr ⟨observer, mem', rfl⟩)
    rw [← told, deliveries_append, deliveries_cons_react, toldTo_append, List.getLast?_append,
      second.toldTo_of_set quiet subscribed]
    rfl

/-- An observer that sets the next number up to two, and behind it one that only notes. -/
def overtakenWorld : World Notes Int where
  observable :=
    let first := (({} : Observable Notes Int).subscribe (Habit.observer "bump" (.bump 2))).2
    (first.subscribe (Habit.observer "plain" .plain)).2
  ambient := []

/-- One is set, and in the course of it two, which stays. The second observer is told two, and then
one, which it was still to be told. -/
def overtakenTellings : List (Telling Int) := [⟨1, 1, [[⟨1, 2, []⟩, ⟨2, 2, []⟩]]⟩, ⟨2, 1, []⟩]

/-- What comes of it. -/
def overtakenResult : World Notes Int :=
  { overtakenWorld.withValue 2 with
    ambient := [("bump", 1), ("bump", 2), ("plain", 2), ("plain", 1)] }

theorem ordered_overtakenWorld : overtakenWorld.observable.Ordered :=
  ((Observable.ordered_of_observers_eq_nil rfl).subscribe _).subscribe _

theorem setWithin_overtakenWorld :
    World.setWithin 2 1 overtakenWorld = some (overtakenResult, overtakenTellings) := rfl

theorem last_told_overtakenWorld :
    overtakenWorld.observable.Ordered ∧
      World.setWithin 2 1 overtakenWorld = some (overtakenResult, overtakenTellings) ∧
        ∃ stages latest rest,
          Course ⟨overtakenWorld, [.react (.set 1 .done)]⟩ stages ⟨overtakenResult, []⟩ ∧
            deliveries stages = chronicle overtakenTellings 1 ∧
              SetsLast stages latest rest ∧
                overtakenResult.observable.value = some latest ∧
                  ∀ observer ∈ overtakenWorld.observable.observers,
                    observer ∈ overtakenResult.observable.observers →
                      (toldTo observer.subscription (chronicle overtakenTellings 1)).getLast? =
                        some ((due observer.subscription rest).getLast?.getD latest) :=
  ⟨ordered_overtakenWorld, setWithin_overtakenWorld,
    last_told ordered_overtakenWorld setWithin_overtakenWorld⟩

/-- What an observer is told last need not be the value that stays. -/
theorem not_last_told_current :
    ¬ ∀ (depth : Nat) (value : Int) (world world' : World Notes Int)
        (tellings : List (Telling Int)), world.observable.Ordered →
      World.setWithin depth value world = some (world', tellings) →
        ∀ observer ∈ world.observable.observers, observer ∈ world'.observable.observers →
          (toldTo observer.subscription (chronicle tellings 1)).getLast? =
            world'.observable.value := by
  intro current
  let plain : Observer Notes Int := ⟨2, Habit.observer "plain" .plain 2⟩
  have mem : plain ∈ overtakenWorld.observable.observers := .tail _ (.head _)
  have same : (toldTo 2 (chronicle overtakenTellings 1)).getLast? = some 2 :=
    current 2 1 _ _ _ ordered_overtakenWorld setWithin_overtakenWorld plain mem mem
  exact absurd same (by decide)

end PermissionScreen
