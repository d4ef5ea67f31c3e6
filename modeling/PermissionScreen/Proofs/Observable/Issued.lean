import PermissionScreen.Proofs.Observable.Delivery

/-!
Which numbers of subscriptions have been given out, and which have been taken back.

Both are read off the stages of a run: a number is given out where somebody subscribes, and taken
back where an unsubscription finds somebody. What has been done up to a stage accounts for the
observers that stand there (`Accounts`): they are those whose number has been given out and not taken
back, in that order. Each step keeps the accounts (`Stage.Next.accounts`), on whatever level of
nesting it is made, and so does a run (`Course.accounts`).

`numbers_subscriptions`: what follows for everything that can be done with one observable. An
observer does the same whenever it is told the same value. One that remembers what it did before is
no exception: let each value that is set say when that is, and no observer is told one of them twice.
-/

namespace PermissionScreen

variable {σ α : Type}

namespace Stage

/-- The number that is given out, if somebody is about to subscribe. -/
def issued? : Stage σ α → Option Subscription
  | ⟨world, .react (.subscribe observer _) :: _⟩ => some (world.observable.subscribe observer).1
  | _ => none

/-- The number that is taken back, if somebody who observes is about to be removed. -/
def revoked? : Stage σ α → Option Subscription
  | ⟨world, .react (.unsubscribe subscription _) :: _⟩ =>
      if (world.observable.unsubscribe subscription).1 then some subscription else none
  | _ => none

end Stage

/-- The numbers that are given out in the course of some stages. -/
def issued (stages : List (Stage σ α)) : List Subscription := stages.filterMap Stage.issued?

/-- The numbers that are taken back in the course of some stages. -/
def revoked (stages : List (Stage σ α)) : List Subscription := stages.filterMap Stage.revoked?

theorem issued_snoc (stages : List (Stage σ α)) (stage : Stage σ α) :
    issued (stages ++ [stage]) = issued stages ++ stage.issued?.toList := by
  cases found : stage.issued? <;> simp [issued, found]

theorem revoked_snoc (stages : List (Stage σ α)) (stage : Stage σ α) :
    revoked (stages ++ [stage]) = revoked stages ++ stage.revoked?.toList := by
  cases found : stage.revoked? <;> simp [revoked, found]

namespace Observable

variable {observable : Observable σ α} {subscription : Subscription}

/-- The numbers of the observers, in order. -/
def numbers (observable : Observable σ α) : List Subscription :=
  observable.observers.map (·.subscription)

theorem mem_numbers_iff : subscription ∈ observable.numbers ↔
    (observable.unsubscribe subscription).1 = true := by
  rw [unsubscribe, hasSubscription_iff, numbers, List.mem_map]

theorem numbers_subscribe (observer : Subscription → α → Reaction σ α) :
    (observable.subscribe observer).2.numbers =
      observable.numbers ++ [observable.nextSubscription] := by
  simp [numbers, subscribe]

theorem numbers_unsubscribe (subscription : Subscription) :
    (observable.unsubscribe subscription).2.numbers =
      observable.numbers.filter (· ≠ subscription) := by
  simp [numbers, unsubscribe, List.filter_map, Function.comp_def]

/-- Where numbers are distinct, an unsubscription that finds somebody removes that one observer. -/
theorem Ordered.unsubscribe_removes (ordered : observable.Ordered)
    (found : (observable.unsubscribe subscription).1 = true) :
    ∃ front observer back, observable.observers = front ++ observer :: back ∧
      observer.subscription = subscription ∧
        (observable.unsubscribe subscription).2.observers = front ++ back := by
  obtain ⟨observer, mem, rfl⟩ := hasSubscription_iff.mp found
  obtain ⟨front, back, eq⟩ := List.append_of_mem mem
  have ascending := ordered.ascending
  rw [eq, List.map_append, List.map_cons, List.pairwise_append, List.pairwise_cons] at ascending
  obtain ⟨_, ⟨above, _⟩, below⟩ := ascending
  refine ⟨front, observer, back, eq, rfl, ?_⟩
  have keepFront : front.filter (·.subscription ≠ observer.subscription) = front := by
    refine List.filter_eq_self.mpr fun other mem => decide_eq_true (Nat.ne_of_lt ?_)
    exact below _ (List.mem_map_of_mem mem) _ List.mem_cons_self
  have keepBack : back.filter (·.subscription ≠ observer.subscription) = back := by
    refine List.filter_eq_self.mpr fun other mem => decide_eq_true (Nat.ne_of_gt ?_)
    exact above _ (List.mem_map_of_mem mem)
  simp only [Observable.unsubscribe, eq]
  rw [List.filter_append, keepFront, List.filter_cons_of_neg (by simp), keepBack]

/-- An unsubscription that finds nobody changes nothing. -/
theorem observers_unsubscribe_of_not_found
    (lost : (observable.unsubscribe subscription).1 = false) :
    (observable.unsubscribe subscription).2.observers = observable.observers := by
  refine List.filter_eq_self.mpr fun observer mem => decide_eq_true ?_
  rintro rfl
  have found : observable.hasSubscription observer.subscription :=
    hasSubscription_iff.mpr ⟨observer, mem, rfl⟩
  exact Bool.false_ne_true (lost.symm.trans found)

end Observable

/-- The numbers that have been given out and those that have been taken back account for the
observers that there are. -/
structure Accounts (given taken : List Subscription) (observable : Observable σ α) : Prop where
  /-- The numbers that have been given out are one, two, three and so on. -/
  given_eq : given = List.range' 1 given.length
  next_eq : observable.nextSubscription = given.length + 1
  /-- Only numbers that had been given out have been taken back. -/
  taken_given : ∀ subscription ∈ taken, subscription ∈ given
  numbers_eq : observable.numbers = given.filter (· ∉ taken)
  count : observable.observers.length + taken.length = given.length

namespace Accounts

variable {given taken : List Subscription} {observable : Observable σ α}
  {subscription : Subscription}

theorem of_fresh (none : observable.observers = []) (first : observable.nextSubscription = 1) :
    Accounts [] [] observable where
  given_eq := rfl
  next_eq := first
  taken_given _ mem := absurd mem List.not_mem_nil
  numbers_eq := by simp [Observable.numbers, none]
  count := by simp [none]

theorem mem_numbers_iff (accounts : Accounts given taken observable) :
    subscription ∈ observable.numbers ↔ subscription ∈ given ∧ subscription ∉ taken := by
  rw [accounts.numbers_eq, List.mem_filter, decide_eq_true_eq]

theorem given_lt (accounts : Accounts given taken observable) (mem : subscription ∈ given) :
    subscription < observable.nextSubscription := by
  rw [accounts.given_eq, List.mem_range'_1] at mem
  rw [accounts.next_eq, Nat.add_comm]
  exact mem.2

theorem given_ascending (accounts : Accounts given taken observable) :
    given.Pairwise (· < ·) := by
  rw [accounts.given_eq]
  exact List.pairwise_lt_range'

theorem ordered (accounts : Accounts given taken observable) : observable.Ordered where
  ascending := by
    change observable.numbers.Pairwise (· < ·)
    rw [accounts.numbers_eq]
    exact accounts.given_ascending.filter _
  below observer mem := by
    have number : observer.subscription ∈ observable.numbers := List.mem_map_of_mem mem
    exact accounts.given_lt (accounts.mem_numbers_iff.mp number).1

/-- Who subscribes is given a number that nobody has had. -/
theorem subscribe (accounts : Accounts given taken observable)
    (observer : Subscription → α → Reaction σ α) :
    Accounts (given ++ [observable.nextSubscription]) taken (observable.subscribe observer).2 where
  given_eq := by
    rw [List.length_append, List.length_singleton, List.range'_concat, ← accounts.given_eq,
      accounts.next_eq, Nat.one_mul, Nat.add_comm 1]
  next_eq := by
    rw [List.length_append, List.length_singleton, ← accounts.next_eq]
    rfl
  taken_given other mem := List.mem_append_left _ (accounts.taken_given other mem)
  numbers_eq := by
    have new : observable.nextSubscription ∉ taken := fun mem =>
      Nat.lt_irrefl _ (accounts.given_lt (accounts.taken_given _ mem))
    rw [Observable.numbers_subscribe, List.filter_append, ← accounts.numbers_eq,
      List.filter_cons_of_pos (by simpa using new), List.filter_nil]
  count := by
    have count := accounts.count
    simp only [Observable.subscribe, List.length_append, List.length_singleton]
    omega

/-- Who is found and removed has its number taken back. -/
theorem unsubscribe (accounts : Accounts given taken observable)
    (found : (observable.unsubscribe subscription).1 = true) :
    Accounts given (taken ++ [subscription]) (observable.unsubscribe subscription).2 where
  given_eq := accounts.given_eq
  next_eq := accounts.next_eq
  taken_given other mem := by
    rcases List.mem_append.mp mem with old | now
    · exact accounts.taken_given other old
    · rw [List.mem_singleton.mp now]
      exact (accounts.mem_numbers_iff.mp (Observable.mem_numbers_iff.mpr found)).1
  numbers_eq := by
    rw [Observable.numbers_unsubscribe, accounts.numbers_eq, List.filter_filter]
    refine List.filter_congr fun other _ => ?_
    simp [and_comm]
  count := by
    obtain ⟨front, observer, back, eq, _, removed⟩ := accounts.ordered.unsubscribe_removes found
    have count := accounts.count
    rw [eq] at count
    rw [removed]
    simp only [List.length_append, List.length_cons, List.length_nil] at count ⊢
    omega

/-- Only the observers and the next number are accounted for. -/
theorem congr {other : Observable σ α} (accounts : Accounts given taken observable)
    (observers : other.observers = observable.observers)
    (number : other.nextSubscription = observable.nextSubscription) :
    Accounts given taken other where
  given_eq := accounts.given_eq
  next_eq := number.trans accounts.next_eq
  taken_given := accounts.taken_given
  numbers_eq := by rw [Observable.numbers, observers, ← accounts.numbers_eq, Observable.numbers]
  count := by rw [observers, accounts.count]

end Accounts

/-! ### A run keeps the accounts -/

section Run

variable {history stages : List (Stage σ α)} {stage next start last : Stage σ α}

theorem Stage.Next.accounts (step : stage.Next next)
    (accounts : Accounts (issued history) (revoked history) stage.world.observable) :
    Accounts (issued (history ++ [stage])) (revoked (history ++ [stage]))
      next.world.observable := by
  rw [issued_snoc, revoked_snoc]
  cases step with
  | subscribe =>
    simp only [Stage.issued?, Stage.revoked?, Option.toList_some, Option.toList_none,
      List.append_nil]
    exact accounts.subscribe _
  | @unsubscribe world subscription =>
    simp only [Stage.issued?, Stage.revoked?, Option.toList_none, List.append_nil]
    cases found : (world.observable.unsubscribe subscription).1 with
    | true => exact accounts.unsubscribe found
    | false =>
      rw [if_neg Bool.false_ne_true, Option.toList_none, List.append_nil]
      exact accounts.congr (Observable.observers_unsubscribe_of_not_found found) rfl
  | _ =>
    simp only [Stage.issued?, Stage.revoked?, Option.toList_none, List.append_nil]
    exact accounts.congr rfl rfl

theorem Course.accounts (course : Course start stages last)
    (accounts : Accounts (issued history) (revoked history) start.world.observable) :
    Accounts (issued (history ++ stages)) (revoked (history ++ stages))
      last.world.observable := by
  induction course generalizing history with
  | here => rwa [List.append_nil]
  | step step _ ih =>
    rw [List.append_cons]
    exact ih (step.accounts accounts)

/-- A run can be broken off at any of its stages. -/
theorem Course.brokenOff {before after : List (Stage σ α)} (course : Course start stages last)
    (eq : stages ++ [last] = before ++ stage :: after) : Course start before stage := by
  induction before generalizing start stages with
  | nil =>
    cases course with
    | here =>
      obtain rfl := (List.cons.inj eq).1
      exact .here
    | step step course =>
      obtain rfl := (List.cons.inj eq).1
      exact .here
  | cons first before ih =>
    cases course with
    | here => exact absurd (List.cons.inj eq).2.symm (by simp)
    | step step course =>
      obtain ⟨rfl, tail⟩ := List.cons.inj eq
      exact .step step (ih course tail)

end Run

/-- What a program starts with that has an observable which nobody has observed so far. -/
def Stage.opening (initial : Option α) (ambient : σ) (program : Reaction σ α) : Stage σ α :=
  ⟨⟨{ value := initial }, ambient⟩, [.react program]⟩

/-- How the observers at a stage come from what has been done before. -/
structure NumbersAt (before : List (Stage σ α)) (observable : Observable σ α) : Prop where
  /-- The observers stand in the order of their numbers, below the next one. -/
  ordered : observable.Ordered
  /-- Their number is that of the subscriptions less that of the successful unsubscriptions. -/
  count : observable.observers.length + (revoked before).length = (issued before).length
  /-- An unsubscription finds somebody if the number has been given out and not taken back. -/
  found_iff : ∀ subscription, (observable.unsubscribe subscription).1 = true ↔
    subscription ∈ issued before ∧ subscription ∉ revoked before
  /-- Then it removes the observer of that number, and the others stay in order. -/
  removes : ∀ subscription, (observable.unsubscribe subscription).1 = true →
    ∃ front observer back, observable.observers = front ++ observer :: back ∧
      observer.subscription = subscription ∧
        (observable.unsubscribe subscription).2.observers = front ++ back
  /-- Otherwise it removes nobody. -/
  keeps : ∀ subscription, (observable.unsubscribe subscription).1 = false →
    (observable.unsubscribe subscription).2.observers = observable.observers

theorem Accounts.numbersAt {before : List (Stage σ α)} {observable : Observable σ α}
    (accounts : Accounts (issued before) (revoked before) observable) :
    NumbersAt before observable where
  ordered := accounts.ordered
  count := accounts.count
  found_iff _ := Observable.mem_numbers_iff.symm.trans accounts.mem_numbers_iff
  removes _ found := accounts.ordered.unsubscribe_removes found
  keeps _ lost := Observable.observers_unsubscribe_of_not_found lost

/-- How subscriptions are numbered in the course of some stages. -/
structure NumbersSubscriptions (stages : List (Stage σ α)) (last : Stage σ α) : Prop where
  /-- Each subscription has a number above those of all before. -/
  ascending : (issued stages).Pairwise (· < ·)
  /-- The numbers do not go beyond 64 bits as long as there are not more of them than that. -/
  fits : (issued stages).length < UInt64.size →
    ∀ subscription ∈ issued stages, subscription < UInt64.size
  /-- At each stage the observers are accounted for. -/
  numbersAt : ∀ before stage after, stages ++ [last] = before ++ stage :: after →
    NumbersAt before stage.world.observable

/-- **Numbers of subscriptions.** Whatever a program and the observers that it subscribes do, at any
depth and whether it comes to its end or not, no number is given out twice, and one that is taken
back takes its observer with it and nobody else. A program that comes to its end has such a
course. -/
theorem numbers_subscriptions (initial : Option α) (ambient : σ) (program : Reaction σ α) :
    (∀ stages last, Course (.opening initial ambient program) stages last →
      NumbersSubscriptions stages last) ∧
    ∀ depth world nested,
      World.react (World.setWithin depth) program ⟨{ value := initial }, ambient⟩ =
          some (world, nested) →
        ∃ stages, Course (.opening initial ambient program) stages ⟨world, []⟩ := by
  have fresh : Accounts (issued ([] : List (Stage σ α))) (revoked ([] : List (Stage σ α)))
      (Stage.opening initial ambient program).world.observable := .of_fresh rfl rfl
  constructor
  · intro stages last course
    have accounts := course.accounts fresh
    refine ⟨accounts.given_ascending, fun few subscription mem => ?_, ?_⟩
    · have below := accounts.given_lt mem
      rw [accounts.next_eq] at below
      exact Nat.lt_of_le_of_lt (Nat.le_of_lt_succ below) few
    · intro before stage after eq
      exact ((course.brokenOff eq).accounts fresh).numbersAt
  · intro depth world nested returned
    obtain ⟨stages, course, _⟩ := course_react (takesCourse_setWithin depth) returned []
    exact ⟨stages, course⟩

/-- Subscribes the observer that removes the second one, and a second one, and sets one. Then it
removes the second one, which has gone. -/
def meddledProgram : Reaction Unit Int :=
  .subscribe meddler fun _ => .subscribe idle fun second =>
    .set 1 (.unsubscribe second fun _ => .done)

theorem numbers_subscriptions_meddledProgram :
    World.react (World.setWithin 2) meddledProgram ⟨{ value := none }, ()⟩ =
        some (meddledResult, [meddledTellings]) ∧
      ∃ stages, Course (.opening none () meddledProgram) stages ⟨meddledResult, []⟩ ∧
        NumbersSubscriptions stages ⟨meddledResult, []⟩ := by
  have ran : World.react (World.setWithin 2) meddledProgram ⟨{ value := none }, ()⟩ =
      some (meddledResult, [meddledTellings]) := rfl
  obtain ⟨numbered, comesToEnd⟩ := numbers_subscriptions none () meddledProgram
  obtain ⟨stages, course⟩ := comesToEnd _ _ _ ran
  exact ⟨ran, stages, course, numbered _ _ course⟩

end PermissionScreen
