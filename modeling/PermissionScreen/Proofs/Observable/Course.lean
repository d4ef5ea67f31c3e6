import PermissionScreen.Observable.Basic

/-!
What happens in the course of setting a value, stage by stage.

Observers are told a value one after the other, and what one of them does comes before the next is
told. So at each stage there are tasks still to be done, and only the first of them is worked on: the
rest of what an observer does, or the telling of those who have not been told. A task that sets a
value puts the telling of it in front of all others.

* `Course.unique`: there is one course up to the stage with no tasks left.
* `Course.split`: what is put in front of some tasks is done before they are gone on with.
* `takesCourse_setWithin`: a value that is set takes this course, and what is told in it is what is
  kept of it, in the same order.
-/

namespace PermissionScreen

/-- Something still to be done. -/
inductive Task (σ α : Type) where
  /-- The rest of what an observer does. -/
  | react (reaction : Reaction σ α)
  /-- The telling of a value to the observers who have not been told it. -/
  | tell (value : α) (due : List (Observer σ α))

/-- How things stand: the world, and the tasks, of which the first is worked on. -/
structure Stage (σ α : Type) where
  world : World σ α
  tasks : List (Task σ α)

/-- An observer is told a value, while that many values are being told. -/
structure Delivery (α : Type) where
  level : Nat
  subscription : Subscription
  value : α
  deriving DecidableEq, Repr

/-- The world with another value to be observed. -/
def World.withValue {σ α : Type} (world : World σ α) (value : α) : World σ α :=
  { world with observable := { world.observable with value := some value } }

variable {σ α : Type}

/-- How many values are being told. -/
def level : List (Task σ α) → Nat
  | [] => 0
  | .react _ :: rest => level rest
  | .tell _ _ :: rest => level rest + 1

theorem level_append (front back : List (Task σ α)) :
    level (front ++ back) = level front + level back := by
  induction front with
  | nil => simp [level]
  | cons task rest ih =>
    cases task with
    | react reaction => exact ih
    | tell value due =>
      rw [List.cons_append, level, level, ih]
      omega

namespace Stage

/-- The value that is about to be set. -/
def setting? : Stage σ α → Option α
  | ⟨_, .react (.set value _) :: _⟩ => some value
  | _ => none

/-- The telling that is about to happen. -/
def delivery? : Stage σ α → Option (Delivery α)
  | ⟨_, .tell value (observer :: _) :: rest⟩ =>
      some ⟨level rest + 1, observer.subscription, value⟩
  | _ => none

/-- What becomes of a stage when its first task is worked on. -/
inductive Next : Stage σ α → Stage σ α → Prop where
  | done {world rest} : Next ⟨world, .react .done :: rest⟩ ⟨world, rest⟩
  | subscribe {world observer next rest} :
      Next ⟨world, .react (.subscribe observer next) :: rest⟩
        ⟨{ world with observable := (world.observable.subscribe observer).2 },
          .react (next (world.observable.subscribe observer).1) :: rest⟩
  | unsubscribe {world subscription next rest} :
      Next ⟨world, .react (.unsubscribe subscription next) :: rest⟩
        ⟨{ world with observable := (world.observable.unsubscribe subscription).2 },
          .react (next (world.observable.unsubscribe subscription).1) :: rest⟩
  | set {world value next rest} :
      Next ⟨world, .react (.set value next) :: rest⟩
        ⟨world.withValue value, .tell value world.observable.observers :: .react next :: rest⟩
  | read {world next rest} :
      Next ⟨world, .react (.read next) :: rest⟩
        ⟨world, .react (next world.observable.value) :: rest⟩
  | affect {world change next rest} :
      Next ⟨world, .react (.affect change next) :: rest⟩
        ⟨{ world with ambient := change world.ambient }, .react next :: rest⟩
  | told {world value rest} : Next ⟨world, .tell value [] :: rest⟩ ⟨world, rest⟩
  | tell {world value observer due rest} :
      Next ⟨world, .tell value (observer :: due) :: rest⟩
        ⟨world, .react (observer.react value) :: .tell value due :: rest⟩

/-- There is one way to go on. -/
theorem Next.unique {stage next other : Stage σ α} (step : Next stage next)
    (step' : Next stage other) : next = other := by
  cases step <;> cases step' <;> rfl

/-- Only the first task is worked on; those behind it stay as they are. -/
theorem Next.behind {world : World σ α} {task : Task σ α} {front rest : List (Task σ α)}
    {next : Stage σ α} (step : Next ⟨world, task :: (front ++ rest)⟩ next) :
    ∃ newFront, next.tasks = newFront ++ rest := by
  cases step with
  | done => exact ⟨front, rfl⟩
  | @subscribe _ observer go => exact ⟨.react _ :: front, rfl⟩
  | unsubscribe => exact ⟨.react _ :: front, rfl⟩
  | set => exact ⟨.tell _ _ :: .react _ :: front, rfl⟩
  | read => exact ⟨.react _ :: front, rfl⟩
  | affect => exact ⟨.react _ :: front, rfl⟩
  | told => exact ⟨front, rfl⟩
  | tell => exact ⟨.react _ :: .tell _ _ :: front, rfl⟩

end Stage

/-- The stages from one on up to another, which is not counted among them. -/
inductive Course : Stage σ α → List (Stage σ α) → Stage σ α → Prop where
  | here {stage} : Course stage [] stage
  | step {stage next last stages} :
      stage.Next next → Course next stages last → Course stage (stage :: stages) last

/-- What is told in the course of some stages. -/
def deliveries (stages : List (Stage σ α)) : List (Delivery α) :=
  stages.filterMap Stage.delivery?

@[simp] theorem deliveries_append (front back : List (Stage σ α)) :
    deliveries (front ++ back) = deliveries front ++ deliveries back :=
  List.filterMap_append

@[simp] theorem deliveries_cons_react (world : World σ α) (reaction : Reaction σ α)
    (rest : List (Task σ α)) (stages : List (Stage σ α)) :
    deliveries (⟨world, .react reaction :: rest⟩ :: stages) = deliveries stages :=
  rfl

@[simp] theorem deliveries_cons_tell (world : World σ α) (value : α) (observer : Observer σ α)
    (due : List (Observer σ α)) (rest : List (Task σ α)) (stages : List (Stage σ α)) :
    deliveries (⟨world, .tell value (observer :: due) :: rest⟩ :: stages) =
      ⟨level rest + 1, observer.subscription, value⟩ :: deliveries stages :=
  rfl

namespace Course

variable {start middle last : Stage σ α} {stages front back : List (Stage σ α)}

theorem append (first : Course start front middle) (second : Course middle back last) :
    Course start (front ++ back) last := by
  induction first with
  | here => exact second
  | step step _ ih => exact .step step (ih second)

/-- A course can be taken up from any of its stages. -/
theorem of_append {stage : Stage σ α} (course : Course start (front ++ stage :: back) last) :
    Course start front stage ∧ Course stage (stage :: back) last := by
  induction front generalizing start with
  | nil =>
    cases course with
    | step step rest => exact ⟨.here, .step step rest⟩
  | cons first front ih =>
    cases course with
    | step step rest =>
      obtain ⟨before, after⟩ := ih rest
      exact ⟨.step step before, after⟩

/-- With no tasks left there is no way to go on, so what is done up to then is determined. -/
theorem unique {world world' : World σ α} {others : List (Stage σ α)}
    (course : Course start stages ⟨world, []⟩) (other : Course start others ⟨world', []⟩) :
    stages = others ∧ world = world' := by
  generalize final : (⟨world, []⟩ : Stage σ α) = last at course
  induction course generalizing others with
  | here =>
    subst final
    cases other with
    | here => exact ⟨rfl, rfl⟩
    | step step _ => cases step
  | step step _ ih =>
    cases other with
    | here =>
      cases step
    | step step' other =>
      obtain rfl := step.unique step'
      obtain ⟨rfl, same⟩ := ih other final
      exact ⟨rfl, same⟩

/-- Tasks that stand behind others wait until these are done. -/
theorem split {world : World σ α} (top rest : List (Task σ α))
    (course : Course ⟨world, top ++ rest⟩ stages last) (low : last.tasks.length ≤ rest.length) :
    ∃ inner later world',
      stages = inner ++ later ∧ Course ⟨world, top ++ rest⟩ inner ⟨world', rest⟩ ∧
        Course ⟨world', rest⟩ later last ∧
          ∀ stage ∈ inner, ∃ above, above ≠ [] ∧ stage.tasks = above ++ rest := by
  -- The induction is on the stages: a step that sets a value puts more tasks on top.
  induction stages generalizing world top with
  | nil =>
    cases course
    have none : top = [] := by
      rw [List.length_append] at low
      exact List.eq_nil_of_length_eq_zero (by omega)
    subst none
    exact ⟨[], [], world, rfl, .here, .here, fun _ mem => absurd mem List.not_mem_nil⟩
  | cons stage stages ih =>
    cases top with
    | nil =>
      exact ⟨[], stage :: stages, world, rfl, .here, course,
        fun _ mem => absurd mem List.not_mem_nil⟩
    | cons task top =>
      cases course with
      | @step _ next _ _ step course =>
        obtain ⟨newTop, tasks⟩ := step.behind
        obtain ⟨world', tasks'⟩ := next
        obtain rfl : tasks' = newTop ++ rest := tasks
        obtain ⟨inner, later, world'', rfl, done, course, waiting⟩ := ih newTop course
        refine ⟨_ :: inner, later, world'', rfl, .step step done, course, ?_⟩
        intro stage mem
        rcases List.mem_cons.mp mem with rfl | mem
        · exact ⟨task :: top, List.cons_ne_nil _ _, rfl⟩
        · exact waiting stage mem

end Course

/-! ### The course of setting a value -/

mutual

/-- What a telling keeps of what has been told, in order, given how many values were being told. -/
def Telling.chronicle : Telling α → Nat → List (Delivery α)
  | ⟨subscription, value, nested⟩, level =>
      ⟨level, subscription, value⟩ :: chronicles nested (level + 1)

/-- What the tellings of a value keep. -/
def chronicle : List (Telling α) → Nat → List (Delivery α)
  | [], _ => []
  | telling :: later, level => telling.chronicle level ++ chronicle later level

/-- What the tellings of several values keep. -/
def chronicles : List (List (Telling α)) → Nat → List (Delivery α)
  | [], _ => []
  | tellings :: later, level => chronicle tellings level ++ chronicles later level

end

section Adequacy

variable {setValue : α → World σ α → Option (World σ α × List (Telling α))}

/-- A way to set values that takes the course of the stages. -/
def TakesCourse (setValue : α → World σ α → Option (World σ α × List (Telling α))) : Prop :=
  ∀ {value world world' tellings}, setValue value world = some (world', tellings) →
    ∀ next rest, ∃ stages,
      Course ⟨world, .react (.set value next) :: rest⟩ stages ⟨world', .react next :: rest⟩ ∧
        deliveries stages = chronicle tellings (level rest + 1)

theorem course_react (takes : TakesCourse setValue) {reaction : Reaction σ α}
    {world world' : World σ α} {nested : List (List (Telling α))}
    (reacted : World.react setValue reaction world = some (world', nested))
    (rest : List (Task σ α)) :
    ∃ stages, Course ⟨world, .react reaction :: rest⟩ stages ⟨world', rest⟩ ∧
      deliveries stages = chronicles nested (level rest + 1) := by
  induction reaction generalizing world nested with
  | done =>
    cases reacted
    exact ⟨_, .step .done .here, rfl⟩
  | subscribe observer next _ ih =>
    obtain ⟨stages, course, told⟩ := ih _ reacted
    exact ⟨_, .step .subscribe course, told⟩
  | unsubscribe subscription next ih =>
    obtain ⟨stages, course, told⟩ := ih _ reacted
    exact ⟨_, .step .unsubscribe course, told⟩
  | read next ih =>
    obtain ⟨stages, course, told⟩ := ih _ reacted
    exact ⟨_, .step .read course, told⟩
  | affect change next ih =>
    obtain ⟨stages, course, told⟩ := ih reacted
    exact ⟨_, .step .affect course, told⟩
  | set value next ih =>
    rw [World.react, Option.bind_eq_bind, Option.bind_eq_some_iff] at reacted
    obtain ⟨⟨middle, tellings⟩, isSet, reacted⟩ := reacted
    rw [Option.bind_eq_bind, Option.bind_eq_some_iff] at reacted
    obtain ⟨⟨final, later⟩, reacted, result⟩ := reacted
    cases result
    obtain ⟨front, first, toldFirst⟩ := takes isSet next rest
    obtain ⟨back, second, toldSecond⟩ := ih reacted
    exact ⟨front ++ back, first.append second,
      by rw [deliveries_append, toldFirst, toldSecond, chronicles]⟩

theorem course_tell (takes : TakesCourse setValue) {value : α} {due : List (Observer σ α)}
    {world world' : World σ α} {tellings : List (Telling α)}
    (told : World.tell setValue value due world = some (world', tellings))
    (rest : List (Task σ α)) :
    ∃ stages, Course ⟨world, .tell value due :: rest⟩ stages ⟨world', rest⟩ ∧
      deliveries stages = chronicle tellings (level rest + 1) := by
  induction due generalizing world tellings with
  | nil =>
    cases told
    exact ⟨_, .step .told .here, rfl⟩
  | cons observer due ih =>
    rw [World.tell, Option.bind_eq_bind, Option.bind_eq_some_iff] at told
    obtain ⟨⟨middle, nested⟩, reacted, told⟩ := told
    rw [Option.bind_eq_bind, Option.bind_eq_some_iff] at told
    obtain ⟨⟨final, later⟩, told, result⟩ := told
    cases result
    obtain ⟨front, first, toldFirst⟩ := course_react takes reacted (.tell value due :: rest)
    obtain ⟨back, second, toldSecond⟩ := ih told
    refine ⟨_ :: (front ++ back), .step .tell (first.append second), ?_⟩
    rw [deliveries_cons_tell, deliveries_append, toldFirst, toldSecond]
    rfl

/-- To any depth, a value that is set takes the course of the stages. -/
theorem takesCourse_setWithin (depth : Nat) :
    TakesCourse (World.setWithin (σ := σ) (α := α) depth) := by
  induction depth with
  | zero => intro _ _ _ _ isSet; cases isSet
  | succ depth ih =>
    intro value world world' tellings isSet next rest
    obtain ⟨stages, course, told⟩ := course_tell ih isSet (.react next :: rest)
    exact ⟨_, .step .set course, told⟩

end Adequacy

end PermissionScreen
