import PermissionScreen.Observable.Habit
import PermissionScreen.Proofs.Observable.Numbering
import PermissionScreen.Proofs.Width

/-!
Observers of a number that set numbers up to a limit.

A number that is set may make an observer set the next one, which is told to all who observe then, and
so on in each of them. Two things bring this to an end at the right number.

* Who sets numbers stays subscribed: an observer removes nobody but itself, and those who remove
  themselves set nothing (`Peopled`). So each set call ends at the greatest limit, unless its own
  number is greater (`setWithin_settles`, by the distance to that limit).
* A number is set only below a limit, and it is the next one, so that it does not go beyond
  (`Reaction.Within`, kept by each step).

`updates_settle` puts them together.
-/

namespace PermissionScreen

/-! ### The greatest of some numbers -/

theorem foldl_max_le_iff {numbers : List Int} {first top : Int} :
    numbers.foldl max first ≤ top ↔ first ≤ top ∧ ∀ number ∈ numbers, number ≤ top := by
  induction numbers generalizing first with
  | nil => simp
  | cons number rest ih =>
    rw [List.foldl_cons, ih, Int.max_le, List.forall_mem_cons, and_assoc]

theorem le_foldl_max (numbers : List Int) (first : Int) : first ≤ numbers.foldl max first :=
  (foldl_max_le_iff.mp (Int.le_refl _)).1

theorem le_foldl_max_of_mem {numbers : List Int} {number : Int} (mem : number ∈ numbers)
    (first : Int) : number ≤ numbers.foldl max first :=
  (foldl_max_le_iff.mp (Int.le_refl _)).2 number mem

/-- Below one of the numbers it makes no difference to go up by one. -/
theorem foldl_max_add_one {numbers : List Int} {number first : Int} (mem : number ∈ numbers)
    (below : first < number) : numbers.foldl max (first + 1) = numbers.foldl max first := by
  apply Int.le_antisymm
  · refine foldl_max_le_iff.mpr ⟨?_, fun other mem => le_foldl_max_of_mem mem first⟩
    have := le_foldl_max_of_mem mem first
    omega
  · refine foldl_max_le_iff.mpr ⟨?_, fun other mem => le_foldl_max_of_mem mem (first + 1)⟩
    have := le_foldl_max numbers (first + 1)
    omega

/-! ### Who observes -/

/-- An observer of a habit, as it is subscribed under a number. -/
structure Member where
  subscription : Subscription
  name : String
  habit : Habit
  deriving DecidableEq, Repr

namespace Member

def observer (member : Member) : Observer Notes Int :=
  ⟨member.subscription, member.habit.observer member.name member.subscription⟩

/-- Whether it sets numbers. -/
def sets (member : Member) : Bool := member.habit.limit?.isSome

end Member

/-- The limits of those who set numbers. -/
def limits (members : List Member) : List Int := members.filterMap (·.habit.limit?)

theorem limits_filter_sets (members : List Member) :
    limits (members.filter Member.sets) = limits members := by
  rw [limits, List.filterMap_filter, limits]
  refine List.filterMap_congr fun member _ => ?_
  cases none : member.habit.limit? <;> simp [Member.sets, none]

/-- A member whose number no other has that sets numbers, and whose limit is one of theirs. -/
structure Counted (setters : List Member) (member : Member) : Prop where
  apart : ∀ setter ∈ setters, setter.subscription = member.subscription → setter = member
  limit_mem : ∀ limit ∈ member.habit.limit?, limit ∈ limits setters

/-- Everybody who observes has a habit, and those who set numbers are these. -/
structure Peopled (setters : List Member) (observable : Observable Notes Int) : Prop where
  ordered : observable.Ordered
  members : ∃ members : List Member, observable.observers = members.map Member.observer ∧
    members.filter Member.sets = setters

namespace Peopled

variable {setters : List Member} {observable : Observable Notes Int}

/-- The value does not matter. -/
theorem withValue (peopled : Peopled setters observable) (value : Option Int) :
    Peopled setters { observable with value } :=
  ⟨⟨peopled.ordered.ascending, peopled.ordered.below⟩, peopled.members⟩

/-- An observer that only notes may join. -/
theorem subscribe_plain (peopled : Peopled setters observable) (name : String) :
    Peopled setters (observable.subscribe (Habit.plain.observer name)).2 := by
  obtain ⟨members, observers, eq⟩ := peopled.members
  refine ⟨peopled.ordered.subscribe _,
    members ++ [⟨observable.nextSubscription, name, .plain⟩], ?_, ?_⟩
  · rw [List.map_append, ← observers]
    rfl
  · rw [List.filter_append, eq, List.filter_cons_of_neg Bool.false_ne_true, List.filter_nil,
      List.append_nil]

/-- Who does not set numbers may leave. -/
theorem unsubscribe (peopled : Peopled setters observable) {subscription : Subscription}
    (other : ∀ setter ∈ setters, setter.subscription ≠ subscription) :
    Peopled setters (observable.unsubscribe subscription).2 := by
  obtain ⟨members, observers, rfl⟩ := peopled.members
  refine ⟨peopled.ordered.unsubscribe _, members.filter (·.subscription ≠ subscription), ?_, ?_⟩
  · rw [Observable.unsubscribe, observers, List.filter_map]
    rfl
  · rw [List.filter_filter]
    refine List.filter_congr fun member mem => ?_
    cases sets : member.sets with
    | false => rfl
    | true =>
      have := other member (List.mem_filter.mpr ⟨mem, sets⟩)
      simpa using this

/-- Observers have numbers of their own, so each of them is counted. -/
theorem counted {members : List Member} {member : Member} (ordered : observable.Ordered)
    (observers : observable.observers = members.map Member.observer) (mem : member ∈ members) :
    Counted (members.filter Member.sets) member where
  apart setter isSetter same := by
    have ascending := ordered.ascending
    rw [observers, List.map_map] at ascending
    have distinct : (members.map Member.subscription).Nodup := ascending.imp Nat.ne_of_lt
    exact List.inj_on_of_nodup_map distinct (List.mem_of_mem_filter isSetter) mem same
  limit_mem limit isLimit := by
    rw [limits_filter_sets]
    exact List.mem_filterMap.mpr ⟨member, mem, isLimit⟩

theorem sets_of_mem (peopled : Peopled setters observable) {setter : Member}
    (mem : setter ∈ setters) : setter.sets = true := by
  obtain ⟨members, _, rfl⟩ := peopled.members
  exact (List.mem_filter.mp mem).2

end Peopled

/-! ### A set call comes to its end -/

/-- Setting this number comes to an end, where the greatest of it and the limits stays. -/
def Settles (setters : List Member)
    (setValue : Int → World Notes Int → Option (World Notes Int × List (Telling Int)))
    (value : Int) : Prop :=
  ∀ world : World Notes Int, Peopled setters world.observable → ∃ world' tellings,
    setValue value world = some (world', tellings) ∧ Peopled setters world'.observable ∧
      world'.observable.value = some ((limits setters).foldl max value)

/-- What becomes of a world in which some members are told a number: if one of them has a limit
above it, the greatest limit stays, and otherwise the value that there was. -/
structure Tells (setters told : List Member) (value : Int) (world world' : World Notes Int) :
    Prop where
  peopled : Peopled setters world'.observable
  value_eq : world'.observable.value = some ((limits setters).foldl max value) ∨
    world'.observable.value = world.observable.value ∧ ∀ limit ∈ limits told, limit ≤ value

section Settling

variable {setters : List Member} {value : Int} {world : World Notes Int}
  {setValue : Int → World Notes Int → Option (World Notes Int × List (Telling Int))}

/-- What a member does when it is told a number comes to an end. -/
theorem react_settles {member : Member} (counted : Counted setters member)
    (settles : ∀ limit ∈ limits setters, value < limit → Settles setters setValue (value + 1))
    (peopled : Peopled setters world.observable) :
    ∃ world' nested,
      World.react setValue (member.observer.react value) world = some (world', nested) ∧
        Tells setters [member] value world world' := by
  obtain ⟨subscription, name, habit⟩ := member
  cases habit with
  | plain => exact ⟨_, _, rfl, peopled, .inr ⟨rfl, by simp [limits, Habit.limit?]⟩⟩
  | once =>
    refine ⟨_, _, rfl, peopled.unsubscribe ?_, .inr ⟨rfl, by simp [limits, Habit.limit?]⟩⟩
    -- A setter under this number would be this member, which sets nothing.
    intro setter mem same
    have sets := peopled.sets_of_mem mem
    rw [counted.apart setter mem same] at sets
    exact Bool.false_ne_true sets
  | spawner =>
    exact ⟨_, _, rfl, peopled.subscribe_plain _, .inr ⟨rfl, by simp [limits, Habit.limit?]⟩⟩
  | bump limit =>
    let noted : World Notes Int := { world with ambient := world.ambient ++ [(name, value)] }
    have mem : limit ∈ limits setters := counted.limit_mem limit rfl
    by_cases below : value < limit
    · obtain ⟨world', tellings, isSet, peopled', value_eq⟩ := settles limit mem below noted peopled
      refine ⟨world', [tellings], ?_, peopled', .inl ?_⟩
      · simp only [Member.observer, Habit.observer, note, below, if_true, World.react]
        rw [isSet]
        rfl
      · rw [value_eq, foldl_max_add_one mem below]
    · refine ⟨noted, [], ?_, peopled, .inr ⟨rfl, ?_⟩⟩
      · simp only [Member.observer, Habit.observer, note, below, if_false, World.react, noted]
      · simpa [limits, Habit.limit?] using below

/-- So does the telling of a number. -/
theorem tell_settles {due : List Member} (counted : ∀ member ∈ due, Counted setters member)
    (settles : ∀ limit ∈ limits setters, value < limit → Settles setters setValue (value + 1))
    (peopled : Peopled setters world.observable) :
    ∃ world' tellings,
      World.tell setValue value (due.map Member.observer) world = some (world', tellings) ∧
        Tells setters due value world world' := by
  induction due generalizing world with
  | nil => exact ⟨world, [], rfl, peopled, .inr ⟨rfl, by simp [limits]⟩⟩
  | cons member due ih =>
    obtain ⟨middle, nested, reacted, first⟩ :=
      react_settles (counted member List.mem_cons_self) settles peopled
    obtain ⟨world', later, told, rest⟩ :=
      ih (fun other mem => counted other (List.mem_cons_of_mem _ mem)) first.peopled
    refine ⟨world', ⟨member.subscription, value, nested⟩ :: later, ?_, rest.peopled, ?_⟩
    · simp only [List.map_cons, World.tell, reacted, told, Option.bind_eq_bind, Option.bind_some]
      rfl
    · -- The value is that of the last set call, if there was one.
      rcases rest.value_eq with settled | ⟨kept, below⟩
      · exact .inl settled
      · rw [kept]
        rcases first.value_eq with settled | ⟨kept, belowFirst⟩
        · exact .inl settled
        refine .inr ⟨kept, fun limit mem => ?_⟩
        have split : limits ([member] ++ due) = limits [member] ++ limits due :=
          List.filterMap_append
        rcases List.mem_append.mp (split ▸ mem) with own | others
        · exact belowFirst limit own
        · exact below limit others

/-- Numbers that nest up to the greatest limit come to an end, by the distance to it. -/
theorem setWithin_settles {depth : Nat} (deep : nestingDepth (limits setters) value ≤ depth) :
    Settles setters (World.setWithin depth) value := by
  induction depth generalizing value with
  | zero => exact absurd deep (by simp [nestingDepth])
  | succ depth ih =>
    intro world peopled
    have settles : ∀ limit ∈ limits setters, value < limit →
        Settles setters (World.setWithin depth) (value + 1) := by
      intro limit mem below
      apply ih
      have top := le_foldl_max_of_mem mem value
      rw [nestingDepth] at deep
      rw [nestingDepth, foldl_max_add_one mem below]
      omega
    obtain ⟨members, observers, rfl⟩ := peopled.members
    obtain ⟨world', tellings, told, ends⟩ := tell_settles
      (fun member mem => Peopled.counted peopled.ordered observers mem) settles
      (show Peopled _ (world.withValue value).observable from peopled.withValue (some value))
    refine ⟨world', tellings, ?_, ends.peopled, ?_⟩
    · rw [World.setWithin, observers]
      exact told
    · rcases ends.value_eq with settled | ⟨kept, below⟩
      · exact settled
      · rw [kept]
        refine congrArg some (Int.le_antisymm (le_foldl_max _ _) (foldl_max_le_iff.mpr ?_))
        rw [limits_filter_sets]
        exact ⟨Int.le_refl _, below⟩

end Settling

/-! ### Which numbers are set -/

section Within

variable {σ α : Type} {allowed : α → Prop}

/-- Told an allowed value, everybody sets allowed values only. -/
def Reaction.Within (allowed : α → Prop) : Reaction σ α → Prop
  | .done => True
  | .subscribe observer next =>
      (∀ subscription value, allowed value → (observer subscription value).Within allowed) ∧
        ∀ subscription, (next subscription).Within allowed
  | .unsubscribe _ next => ∀ found, (next found).Within allowed
  | .set value next => allowed value ∧ next.Within allowed
  | .read next => ∀ value, (next value).Within allowed
  | .affect _ next => next.Within allowed

def Observer.Within (allowed : α → Prop) (observer : Observer σ α) : Prop :=
  ∀ value, allowed value → (observer.react value).Within allowed

def Task.Within (allowed : α → Prop) : Task σ α → Prop
  | .react reaction => reaction.Within allowed
  | .tell value due => allowed value ∧ ∀ observer ∈ due, observer.Within allowed

/-- Nothing that is still to be done at a stage sets a value that is not allowed, and no observer
does when it is told an allowed one. -/
structure Stage.Within (allowed : α → Prop) (stage : Stage σ α) : Prop where
  observers : ∀ observer ∈ stage.world.observable.observers, observer.Within allowed
  tasks : ∀ task ∈ stage.tasks, task.Within allowed

theorem Stage.Within.setting {stage : Stage σ α} (within : stage.Within allowed) {value : α}
    (sets : stage.setting? = some value) : allowed value := by
  match stage, sets with
  | ⟨_, .react (.set _ _) :: _⟩, rfl => exact (within.tasks _ List.mem_cons_self).1

theorem Stage.Next.within {stage next : Stage σ α} (step : stage.Next next)
    (within : stage.Within allowed) : next.Within allowed := by
  obtain ⟨observers, tasks⟩ := within
  cases step with
  | done => exact ⟨observers, (List.forall_mem_cons.mp tasks).2⟩
  | subscribe =>
    obtain ⟨⟨joins, goesOn⟩, rest⟩ := List.forall_mem_cons.mp tasks
    refine ⟨?_, List.forall_mem_cons.mpr ⟨goesOn _, rest⟩⟩
    exact List.forall_mem_append.mpr ⟨observers, List.forall_mem_singleton.mpr (joins _)⟩
  | unsubscribe =>
    obtain ⟨goesOn, rest⟩ := List.forall_mem_cons.mp tasks
    exact ⟨fun observer mem => observers observer (List.mem_of_mem_filter mem),
      List.forall_mem_cons.mpr ⟨goesOn _, rest⟩⟩
  | set =>
    obtain ⟨⟨isAllowed, goesOn⟩, rest⟩ := List.forall_mem_cons.mp tasks
    exact ⟨observers, List.forall_mem_cons.mpr
      ⟨⟨isAllowed, observers⟩, List.forall_mem_cons.mpr ⟨goesOn, rest⟩⟩⟩
  | read =>
    obtain ⟨goesOn, rest⟩ := List.forall_mem_cons.mp tasks
    exact ⟨observers, List.forall_mem_cons.mpr ⟨goesOn _, rest⟩⟩
  | affect =>
    obtain ⟨goesOn, rest⟩ := List.forall_mem_cons.mp tasks
    exact ⟨observers, List.forall_mem_cons.mpr ⟨goesOn, rest⟩⟩
  | told => exact ⟨observers, (List.forall_mem_cons.mp tasks).2⟩
  | tell =>
    obtain ⟨⟨isAllowed, due⟩, rest⟩ := List.forall_mem_cons.mp tasks
    obtain ⟨first, due⟩ := List.forall_mem_cons.mp due
    exact ⟨observers, List.forall_mem_cons.mpr
      ⟨first _ isAllowed, List.forall_mem_cons.mpr ⟨⟨isAllowed, due⟩, rest⟩⟩⟩

theorem Course.within {start last : Stage σ α} {stages : List (Stage σ α)}
    (course : Course start stages last) (within : start.Within allowed) :
    ∀ stage ∈ stages, stage.Within allowed := by
  induction course with
  | here => exact fun _ mem => absurd mem List.not_mem_nil
  | step step _ ih => exact List.forall_mem_cons.mpr ⟨within, ih (step.within within)⟩

end Within

/-- An observer of a habit sets numbers up to its limit only. -/
theorem Member.within {member : Member} {least top : Int}
    (bounded : ∀ limit ∈ member.habit.limit?, limit ≤ top) :
    member.observer.Within fun number => least ≤ number ∧ number ≤ top := by
  obtain ⟨subscription, name, habit⟩ := member
  intro value ⟨above, below⟩
  cases habit with
  | plain => trivial
  | once => exact fun _ => trivial
  | spawner => exact ⟨fun _ _ _ => trivial, fun _ => trivial⟩
  | bump limit =>
    have bound := bounded limit rfl
    simp only [Member.observer, Habit.observer, note, Reaction.Within]
    split
    · exact ⟨by omega, trivial⟩
    · trivial

/-! ### Both together -/

/-- What setting a number comes to where members observe. -/
structure UpdatesSettle (members : List Member) (world : World Notes Int) (value : Int)
    (world' : World Notes Int) : Prop where
  /-- The greatest of the number and the limits stays. -/
  value_eq : world'.observable.value = some ((limits members).foldl max value)
  /-- It takes finitely many stages, in which no number is set beyond it. No calculation needs more
  bits than the number and the limits. -/
  course : ∃ stages, Course ⟨world, [.react (.set value .done)]⟩ stages ⟨world', []⟩ ∧
    (∀ stage ∈ stages, ∀ number, stage.setting? = some number →
      value ≤ number ∧ number ≤ (limits members).foldl max value) ∧
    ∀ bits, (∀ number ∈ value :: limits members, FitsWord bits number) →
      ∀ stage ∈ stages, ∀ number, stage.setting? = some number → FitsWord bits number

/-- **Updates settle.** Whatever value there was and whoever observes, at any depth that the limits
can need, setting a number comes to its end, and not in a number that none of them asked for. -/
theorem updates_settle {members : List Member} {world : World Notes Int} {value : Int}
    {depth : Nat} (ordered : world.observable.Ordered)
    (observers : world.observable.observers = members.map Member.observer)
    (deep : nestingDepth (limits members) value ≤ depth) :
    ∃ world' tellings, World.setWithin depth value world = some (world', tellings) ∧
      UpdatesSettle members world value world' := by
  have peopled : Peopled (members.filter Member.sets) world.observable :=
    ⟨ordered, members, observers, rfl⟩
  rw [← limits_filter_sets] at deep
  obtain ⟨world', tellings, returned, _, value_eq⟩ := setWithin_settles deep world peopled
  rw [limits_filter_sets] at value_eq
  refine ⟨world', tellings, returned, value_eq, ?_⟩
  obtain ⟨stages, course⟩ :
      ∃ stages, Course ⟨world, [.react (.set value .done)]⟩ stages ⟨world', []⟩ := by
    obtain ⟨_, course, _⟩ := takesCourse_setWithin depth returned .done []
    exact ⟨_, course.append (.step .done .here)⟩
  have within : Stage.Within (fun number => value ≤ number ∧
      number ≤ (limits members).foldl max value) ⟨world, [.react (.set value .done)]⟩ := by
    refine ⟨?_, List.forall_mem_singleton.mpr
      ⟨⟨Int.le_refl _, le_foldl_max _ _⟩, trivial⟩⟩
    intro observer mem
    obtain ⟨member, isMember, rfl⟩ := List.mem_map.mp (observers ▸ mem)
    exact Member.within fun limit isLimit =>
      le_foldl_max_of_mem (List.mem_filterMap.mpr ⟨member, isMember, isLimit⟩) _
  have between : ∀ stage ∈ stages, ∀ number, stage.setting? = some number →
      value ≤ number ∧ number ≤ (limits members).foldl max value :=
    fun stage mem _ => (course.within within stage mem).setting
  refine ⟨stages, course, between, ?_⟩
  intro bits fits stage mem number sets
  obtain ⟨above, below⟩ := between stage mem number sets
  obtain ⟨fitsValue, fitsLimits⟩ := List.forall_mem_cons.mp fits
  have top : (limits members).foldl max value ≤ (BitVec.intMax bits).toInt :=
    foldl_max_le_iff.mpr ⟨fitsValue.2, fun limit mem => (fitsLimits limit mem).2⟩
  exact ⟨Int.le_trans fitsValue.1 above, Int.le_trans below top⟩

/-- Every habit, and two limits. -/
def busyMembers : List Member :=
  [⟨1, "once", .once⟩, ⟨2, "low", .bump 1⟩, ⟨3, "spawner", .spawner⟩, ⟨4, "high", .bump 3⟩,
    ⟨5, "plain", .plain⟩]

def busyWorld : World Notes Int where
  observable := ⟨some 9, busyMembers.map Member.observer, 6⟩
  ambient := []

theorem ordered_busyWorld : busyWorld.observable.Ordered := ⟨by decide, by decide⟩

theorem updates_settle_busyWorld :
    busyWorld.observable.Ordered ∧
      busyWorld.observable.observers = busyMembers.map Member.observer ∧
        nestingDepth (limits busyMembers) 0 ≤ 4 ∧
          ∃ world' tellings, World.setWithin 4 0 busyWorld = some (world', tellings) ∧
            UpdatesSettle busyMembers busyWorld 0 world' :=
  ⟨ordered_busyWorld, rfl, by decide, updates_settle ordered_busyWorld rfl (by decide)⟩

example : (World.setWithin 4 0 busyWorld).map (·.1.observable.value) = some (some 3) := rfl

end PermissionScreen
