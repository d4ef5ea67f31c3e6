import PermissionScreen.Proofs.Observable.Numbering

/-!
Who is told a value.

A value is told to those who observe when it is set: to each of them once, in order, whatever they
subscribe, unsubscribe or set when they are told. A value that is set by one of them is told to all
who observe then before the next of them has its turn. It does not matter how deep values nest: what
holds of the outermost is true of each (`set_tells_observers`).
-/

namespace PermissionScreen

variable {σ α : Type}

/-- In the course of some stages a value is told, at a level, to those who observed when it was
set. -/
structure Delivers (observable : Observable σ α) (value : α) (level : Nat)
    (stages : List (Stage σ α)) : Prop where
  /-- Those who are told are those who observed, in the same order. -/
  own : (deliveries stages).filter (·.level = level) =
    observable.observers.map fun observer => ⟨level, observer.subscription, value⟩
  /-- They are told in the order in which they subscribed, nobody twice. -/
  ascending : (((deliveries stages).filter (·.level = level)).map (·.subscription)).Pairwise (· < ·)
  /-- Who is removed in the meantime is told all the same. -/
  removed : ∀ {observer stage}, observer ∈ observable.observers → stage ∈ stages →
    observer ∉ stage.world.observable.observers →
      ⟨level, observer.subscription, value⟩ ∈ deliveries stages
  /-- Who is added in the meantime is not told. -/
  added : ∀ {observer stage}, stage ∈ stages → observer ∈ stage.world.observable.observers →
    observer ∉ observable.observers →
      ∀ delivery ∈ deliveries stages, delivery.level = level →
        delivery.subscription ≠ observer.subscription
  /-- After each has been told, and before the next is told, only values are told that have been
  set in the meantime. -/
  between : ∃ nested : List (List (Delivery α)),
    nested.length = observable.observers.length ∧
      deliveries stages =
        (List.zipWith (fun observer inner => ⟨level, observer.subscription, value⟩ :: inner)
          observable.observers nested).flatten ∧
        ∀ inner ∈ nested, ∀ delivery ∈ inner, level < delivery.level
  /-- In the meantime nothing is told of values that were set before. -/
  inside : ∀ delivery ∈ deliveries stages, level ≤ delivery.level

/-! ### One value -/

/-- Where some tasks wait behind others, what is told is told above their level. -/
theorem level_lt_of_waiting {rest : List (Task σ α)} {stages : List (Stage σ α)}
    (waiting : ∀ stage ∈ stages, ∃ above, above ≠ [] ∧ stage.tasks = above ++ rest) :
    ∀ delivery ∈ deliveries stages, level rest < delivery.level := by
  intro delivery mem
  obtain ⟨⟨world, tasks⟩, inCourse, told⟩ := List.mem_filterMap.mp mem
  obtain ⟨above, nonempty, eq⟩ := waiting _ inCourse
  obtain ⟨task, above, rfl⟩ := List.exists_cons_of_ne_nil nonempty
  subst eq
  cases task with
  | react reaction => cases told
  | tell value due =>
    cases due with
    | nil => cases told
    | cons observer due =>
      cases told
      show level rest < level (above ++ rest) + 1
      rw [level_append]
      omega

/-- The observers that are due are told in order. What is told between one and the next is told at
a higher level. -/
theorem Course.deliveries_tell {value : α} {due : List (Observer σ α)} {rest : List (Task σ α)}
    {world world' : World σ α} {stages : List (Stage σ α)}
    (course : Course ⟨world, .tell value due :: rest⟩ stages ⟨world', rest⟩)
    (waiting : ∀ stage ∈ stages, ∃ above, above ≠ [] ∧ stage.tasks = above ++ rest) :
    ∃ nested : List (List (Delivery α)),
      nested.length = due.length ∧
        deliveries stages =
          (List.zipWith (fun observer inner =>
            ⟨level rest + 1, observer.subscription, value⟩ :: inner) due nested).flatten ∧
          ∀ inner ∈ nested, ∀ delivery ∈ inner, level rest + 1 < delivery.level := by
  induction due generalizing world stages with
  | nil =>
    cases course with
    | step step course =>
      cases step
      cases course with
      | here => exact ⟨[], rfl, rfl, fun _ mem => absurd mem List.not_mem_nil⟩
      | step step course =>
        -- The tasks that wait cannot be gone on with.
        obtain ⟨above, nonempty, eq⟩ :=
          waiting _ (List.mem_cons_of_mem _ List.mem_cons_self)
        exact absurd (List.self_eq_append_left.mp eq) nonempty
  | cons observer due ih =>
    cases course with
    | step step course =>
      cases step
      obtain ⟨inner, later, middle, rfl, _, course, above⟩ :=
        Course.split [.react (observer.react value)] (.tell value due :: rest) course (by simp)
      obtain ⟨nested, length, told, higher⟩ := ih course fun stage mem =>
        waiting stage (List.mem_cons_of_mem _ (List.mem_append_right _ mem))
      refine ⟨deliveries inner :: nested, by simp [length], ?_, ?_⟩
      · rw [deliveries_cons_tell, deliveries_append, told]
        rfl
      · intro part mem
        rcases List.mem_cons.mp mem with rfl | mem
        · exact level_lt_of_waiting above
        · exact higher part mem

/-- Of what is told with parts of a higher level in between, the level tells what is its own. -/
theorem filter_level_flatten {level : Nat} {value : α} {observers : List (Observer σ α)}
    {nested : List (List (Delivery α))} (length : nested.length = observers.length)
    (higher : ∀ inner ∈ nested, ∀ delivery ∈ inner, level < delivery.level) :
    ((List.zipWith (fun observer inner => ⟨level, observer.subscription, value⟩ :: inner)
        observers nested).flatten).filter (·.level = level) =
      observers.map fun observer => ⟨level, observer.subscription, value⟩ := by
  induction observers generalizing nested with
  | nil => rfl
  | cons observer observers ih =>
    cases nested with
    | nil => cases length
    | cons inner nested =>
      have none : inner.filter (·.level = level) = [] := by
        refine List.filter_eq_nil_iff.mpr fun delivery mem => ?_
        have := higher inner List.mem_cons_self delivery mem
        rw [decide_eq_true_eq]
        omega
      have rest := ih (Nat.succ.inj length) fun part mem =>
        higher part (List.mem_cons_of_mem _ mem)
      rw [List.zipWith_cons_cons, List.flatten_cons, List.filter_append,
        List.filter_cons_of_pos (by simp), none, rest]
      rfl

/-- A set call that returns delivers its value as it should. -/
theorem Course.delivers {world world' : World σ α} {value : α} {next : Reaction σ α}
    {rest : List (Task σ α)} {stages : List (Stage σ α)} (ordered : world.observable.Ordered)
    (course : Course ⟨world.withValue value, .tell value world.observable.observers ::
      .react next :: rest⟩ stages ⟨world', .react next :: rest⟩)
    (waiting : ∀ stage ∈ stages,
      ∃ above, above ≠ [] ∧ stage.tasks = above ++ .react next :: rest) :
    Delivers world.observable value (level rest + 1)
      (⟨world, .react (.set value next) :: rest⟩ :: stages) := by
  let first : Stage σ α := ⟨world, .react (.set value next) :: rest⟩
  have full : Course first (first :: stages) ⟨world', .react next :: rest⟩ := .step .set course
  obtain ⟨nested, length, told, higher⟩ := course.deliveries_tell waiting
  have inside := level_lt_of_waiting waiting
  have same : deliveries (first :: stages) = deliveries stages := deliveries_cons_react _ _ _ _
  rw [← same] at told inside
  have own : (deliveries (first :: stages)).filter (·.level = level rest + 1) =
      world.observable.observers.map fun observer =>
        ⟨level rest + 1, observer.subscription, value⟩ := by
    rw [told]
    exact filter_level_flatten length higher
  refine ⟨own, ?_, ?_, ?_, ⟨nested, length, told, higher⟩, inside⟩
  · rw [own, List.map_map]
    exact ordered.ascending
  · intro observer stage mem _ _
    refine List.mem_of_mem_filter (p := (·.level = level rest + 1)) ?_
    rw [own]
    exact List.mem_map_of_mem mem
  · intro observer stage mem present new delivery isTold atLevel same
    have isOwn : delivery ∈ (deliveries (first :: stages)).filter (·.level = level rest + 1) :=
      List.mem_filter.mpr ⟨isTold, decide_eq_true atLevel⟩
    rw [own] at isOwn
    obtain ⟨old, inStart, rfl⟩ := List.mem_map.mp isOwn
    -- Who is added in the meantime has a number above those that are told.
    obtain ⟨front, back, eq⟩ := List.append_of_mem mem
    rcases (eq ▸ full).of_append.1.observer_cases present with present | number
    · exact new present
    · have given := ordered.below old inStart
      exact absurd same (Nat.ne_of_lt (Nat.lt_of_lt_of_le given number))

/-! ### All values that are set -/

/-- **Who is told.** A set call that returns takes one course, in which all values are set that its
observers set, to any depth. Each of them comes back to where it was set, and until then it is told
to those who observed when it was set. -/
theorem set_tells_observers {depth : Nat} {value : α} {world world' : World σ α}
    {tellings : List (Telling α)} (ordered : world.observable.Ordered)
    (returned : World.setWithin depth value world = some (world', tellings)) :
    ∃! stages, Course ⟨world, [.react (.set value .done)]⟩ stages ⟨world', []⟩ ∧
      deliveries stages = chronicle tellings 1 ∧
        ∀ before stage after nested next rest, stages = before ++ stage :: after →
          stage.tasks = .react (.set nested next) :: rest →
            ∃ inner later final, stage :: after = inner ++ later ∧
              Course stage inner ⟨final, .react next :: rest⟩ ∧
                Delivers stage.world.observable nested (level rest + 1) inner := by
  obtain ⟨stages, course, told⟩ := takesCourse_setWithin depth returned .done []
  have course := course.append (.step .done .here)
  refine ⟨_, ⟨course, ?_, ?_⟩, fun others other => (course.unique other.1).1.symm⟩
  · rw [deliveries_append, told]
    exact List.append_nil _
  · rintro before ⟨middle, tasks⟩ after nested next rest eq rfl
    obtain ⟨first, second⟩ := (eq ▸ course).of_append
    have ordered := first.ordered ordered
    cases second with
    | step step second =>
      cases step
      obtain ⟨inner, later, final, rfl, done, _, waiting⟩ :=
        Course.split [.tell nested _] (.react next :: rest) second (by simp)
      exact ⟨_ :: inner, later, final, rfl, .step .set done, Course.delivers ordered done waiting⟩

/-- An observer that does nothing. -/
def idle : Subscription → Int → Reaction Unit Int := fun _ _ => .done

/-- An observer that removes the second one, adds another, and sets the next number up to two. -/
def meddler : Subscription → Int → Reaction Unit Int := fun _ value =>
  .unsubscribe 2 fun _ => .subscribe idle fun _ =>
    if value < 2 then .set (value + 1) .done else .done

def meddledWorld : World Unit Int where
  observable := ((({} : Observable Unit Int).subscribe meddler).2.subscribe idle).2
  ambient := ()

/-- The second observer has been removed by the time at which it is told one. The third one has been
added, and is told two. -/
def meddledTellings : List (Telling Int) := [⟨1, 1, [[⟨1, 2, []⟩, ⟨3, 2, []⟩]]⟩, ⟨2, 1, []⟩]

/-- What comes of it. -/
def meddledResult : World Unit Int where
  observable := ⟨some 2, [⟨1, meddler 1⟩, ⟨3, idle 3⟩, ⟨4, idle 4⟩], 5⟩
  ambient := ()

theorem ordered_meddledWorld : meddledWorld.observable.Ordered :=
  ((Observable.ordered_of_observers_eq_nil rfl).subscribe _).subscribe _

theorem setWithin_meddledWorld :
    World.setWithin 2 1 meddledWorld = some (meddledResult, meddledTellings) := rfl

theorem set_tells_observers_meddledWorld :
    meddledWorld.observable.Ordered ∧
      World.setWithin 2 1 meddledWorld = some (meddledResult, meddledTellings) ∧
        ∃! stages, Course ⟨meddledWorld, [.react (.set 1 .done)]⟩ stages ⟨meddledResult, []⟩ ∧
          deliveries stages = chronicle meddledTellings 1 ∧
            ∀ before stage after nested next rest, stages = before ++ stage :: after →
              stage.tasks = .react (.set nested next) :: rest →
                ∃ inner later final, stage :: after = inner ++ later ∧
                  Course stage inner ⟨final, .react next :: rest⟩ ∧
                    Delivers stage.world.observable nested (level rest + 1) inner :=
  ⟨ordered_meddledWorld, setWithin_meddledWorld,
    set_tells_observers ordered_meddledWorld setWithin_meddledWorld⟩

end PermissionScreen
