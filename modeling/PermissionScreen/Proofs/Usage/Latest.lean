import Mathlib.Data.List.Forall2
import Mathlib.Data.List.MinMax
import PermissionScreen.Proofs.Usage.Recorded

/-!
When records are of the latest use.

Of the times of a group the one that is told last is recorded, and this need not be the latest: a
report may follow one that is newer, and it may tell the uses of a group in any order. Records are
of the latest uses exactly if these are told last, and they are the same for all orders of the
reports exactly if of each group only one time is told (`latest_recorded_iff`).
-/

namespace PermissionScreen

/-! ### Reports in another order -/

/-- Reports in another order, each with its uses in another order. -/
def Reordered (usages others : List AppUsage) : Prop :=
  ∃ shuffled, usages.Perm shuffled ∧
    List.Forall₂ (fun app other => other.package = app.package ∧ app.groups.Perm other.groups)
      shuffled others

section Reordered

variable {usages others : List AppUsage} {package : String} {since : Int} {group : String}
  {time : Int64}

theorem timesTold_perm_of_forall₂
    (shuffled : List.Forall₂ (fun app other : AppUsage =>
      other.package = app.package ∧ app.groups.Perm other.groups) usages others) :
    (timesTold usages package group).Perm (timesTold others package group) := by
  induction shuffled with
  | nil => exact .nil
  | @cons app other usages others reports _ ih =>
    obtain ⟨named, uses⟩ := reports
    rw [← List.singleton_append, timesTold_append, ← List.singleton_append (l := others),
      timesTold_append]
    refine List.Perm.append ?_ ih
    by_cases own : app.package = package
    · simpa [timesTold, named, own] using (uses.filter _).map _
    · simp [timesTold, named, own]

/-- In another order reports tell the same times. -/
theorem Reordered.timesCounted_perm (reordered : Reordered usages others) :
    (timesCounted usages package since group).Perm (timesCounted others package since group) := by
  obtain ⟨shuffled, perm, reports⟩ := reordered
  have told : (timesTold usages package group).Perm (timesTold shuffled package group) :=
    (perm.filter _).flatMap_right _
  exact (told.trans (timesTold_perm_of_forall₂ reports)).filter _

/-- Any time that counts can be told last. -/
theorem exists_reordered_of_mem (mem : time ∈ timesCounted usages package since group) :
    ∃ others, Reordered usages others ∧
      (timesCounted others package since group).getLast? = some time := by
  obtain ⟨told, counts⟩ := mem_timesCounted_iff.mp mem
  obtain ⟨app, mem, named, use⟩ := mem_timesTold_iff.mp told
  let last : AppUsage := { app with groups := app.groups.erase ⟨group, time⟩ ++ [⟨group, time⟩] }
  refine ⟨usages.erase app ++ [last], ⟨usages.erase app ++ [app], ?_, ?_⟩, ?_⟩
  · exact (List.perm_cons_erase mem).trans (List.perm_append_singleton _ _).symm
  · refine List.rel_append (List.forall₂_same.mpr fun _ _ => ⟨rfl, .refl _⟩) (.cons ⟨rfl, ?_⟩ .nil)
    exact (List.perm_cons_erase use).trans (List.perm_append_singleton _ _).symm
  · have ends : timesCounted [last] package since group =
        timesCounted [{ app with groups := app.groups.erase ⟨group, time⟩ }] package since group ++
          [time] := by
      simp [timesCounted, timesTold, last, named, counts]
    rw [timesCounted_append, ends, ← List.append_assoc, List.getLast?_concat]

/-- Lists of the same elements end in the same way if all elements are equal. -/
theorem getLast?_eq_of_perm {α : Type} {elements others : List α} (perm : elements.Perm others)
    (equal : ∀ a ∈ elements, ∀ b ∈ elements, a = b) : others.getLast? = elements.getLast? := by
  cases last : elements.getLast? with
  | none =>
    rw [List.getLast?_eq_none_iff] at last ⊢
    rwa [last, List.nil_perm] at perm
  | some a =>
    have mem : a ∈ elements := List.mem_of_getLast? last
    cases last' : others.getLast? with
    | none =>
      rw [List.getLast?_eq_none_iff] at last'
      rw [last'] at perm
      exact absurd (perm.mem_iff.mp mem) List.not_mem_nil
    | some b =>
      rw [equal b (perm.mem_iff.mpr (List.mem_of_getLast? last')) a mem]

end Reordered

/-! ### The latest time -/

/-- The latest of some times. -/
def IsLatest (times : List Int64) (time : Int64) : Prop :=
  time ∈ times ∧ ∀ other ∈ times, other ≤ time

theorem IsLatest.unique {times : List Int64} {time other : Int64} (latest : IsLatest times time)
    (latest' : IsLatest times other) : time = other :=
  Int64.le_antisymm (latest'.2 time latest.1) (latest.2 other latest'.1)

theorem exists_isLatest {times : List Int64} (told : times ≠ []) : ∃ time, IsLatest times time := by
  obtain ⟨time, greatest⟩ :=
    Option.ne_none_iff_exists'.mp (mt (List.argmax_eq_none (f := Int64.toInt)).mp told)
  refine ⟨time, List.argmax_mem greatest, fun other mem => ?_⟩
  exact Int64.le_iff_toInt_le.mpr (List.le_of_mem_argmax mem greatest)

/-- What the records of some reports say of the latest uses. Of a group without a use that counts
there is no record. Of another it is the latest time exactly if the time that is told last is. The
order of the reports makes no difference exactly if of each group only one time is told. -/
structure LatestIfToldLast (usages : List AppUsage) (package : String) (since : Int)
    (records : Records) : Prop where
  none_iff : ∀ group, records.lastAccess group = none ↔ ¬ IsUsed usages package since group
  latest_iff : ∀ group,
    (∀ time, IsLatest (timesCounted usages package since group) time →
        records.lastAccess group = some time) ↔
      ∀ last ∈ (timesCounted usages package since group).getLast?,
        IsLatest (timesCounted usages package since group) last
  order_iff : (∀ others, Reordered usages others → ∀ group,
        (Records.extract others package since).lastAccess group = records.lastAccess group) ↔
      ∀ group, ∀ time ∈ timesCounted usages package since group,
        ∀ other ∈ timesCounted usages package since group, time = other

namespace Records

/-- **The latest use.** The records of some reports hold the latest use of a group exactly if the
reports tell it last. -/
theorem latest_recorded_iff (records : Records) (usages : List AppUsage) (package : String)
    (since : Int) :
    LatestIfToldLast usages package since (records.rebuild usages package since) where
  none_iff group := by
    rw [lastAccess_rebuild, isUsed_iff, List.getLast?_eq_none_iff, not_not]
  latest_iff group := by
    rw [lastAccess_rebuild]
    constructor
    · intro recorded last ends
      have told : timesCounted usages package since group ≠ [] :=
        List.ne_nil_of_mem (List.mem_of_getLast? ends)
      obtain ⟨time, latest⟩ := exists_isLatest told
      rw [Option.mem_def, recorded time latest, Option.some_inj] at ends
      exact ends ▸ latest
    · intro toldLast time latest
      obtain ⟨last, ends⟩ := Option.isSome_iff_exists.mp
        (List.getLast?_isSome.mpr (List.ne_nil_of_mem latest.1))
      rw [ends, latest.unique (toldLast last ends)]
  order_iff := by
    simp only [extract, lastAccess_rebuild]
    constructor
    · intro same group time mem other mem'
      obtain ⟨others, reordered, ends⟩ := exists_reordered_of_mem mem
      obtain ⟨others', reordered', ends'⟩ := exists_reordered_of_mem mem'
      rw [← Option.some_inj, ← ends, ← ends', same others reordered, same others' reordered']
    · intro equal others reordered group
      exact getLast?_eq_of_perm reordered.timesCounted_perm (equal group)

/-- A report that tells an earlier use of a group after a later one. -/
def staleReport : AppUsage := ⟨"app", [⟨"camera", 2000⟩, ⟨"camera", 1000⟩]⟩

/-- The same report the other way round. -/
def freshReport : AppUsage := ⟨"app", [⟨"camera", 1000⟩, ⟨"camera", 2000⟩]⟩

/-- It is not always the latest use that is recorded, nor are the records the same for all orders of
the reports. -/
theorem stale_recorded :
    (¬ ∀ usages package since group time, IsLatest (timesCounted usages package since group) time →
      (extract usages package since).lastAccess group = some time) ∧
    ¬ ∀ usages others package since group, Reordered usages others →
      (extract others package since).lastAccess group =
        (extract usages package since).lastAccess group := by
  constructor
  · intro latest
    have told : timesCounted [staleReport] "app" 0 "camera" = [2000, 1000] := by decide
    have greatest : IsLatest [2000, 1000] 2000 := by
      refine ⟨List.mem_cons_self, ?_⟩
      rw [List.forall_mem_cons, List.forall_mem_singleton]
      exact ⟨Int64.le_refl _, by decide⟩
    have recorded := latest [staleReport] "app" 0 "camera" 2000 (told ▸ greatest)
    revert recorded
    decide
  · intro same
    have reordered : Reordered [staleReport] [freshReport] :=
      ⟨[staleReport], .refl _, .cons ⟨rfl, .swap _ _ _⟩ .nil⟩
    have recorded := same _ _ "app" 0 "camera" reordered
    revert recorded
    decide

end Records

end PermissionScreen
