import Mathlib.Data.List.Basic
import PermissionScreen.Usage.Recency

/-!
How far back uses are looked at.

Uses count from some days before the time at which they are looked at, and the clock moves this on.
A source may be asked some time before its reports are looked at, and leave out what does not count
at that time: it does not count later either (`extract_loadUsages`). And as one day at least is
looked at, no use of the last 24 hours is left out that has a time after the epoch
(`counts_iff_of_recent`).
-/

namespace PermissionScreen

theorem lookbackBegin_mono {asked now : Int} (days : Nat) (le : asked ≤ now) :
    lookbackBegin asked days ≤ lookbackBegin now days := by
  unfold lookbackBegin
  omega

theorem lookbackBegin_nonneg (now : Int) (days : Nat) : 0 ≤ lookbackBegin now days :=
  Int.le_max_right _ _

theorem lookbackBegin_le {days : Nat} (now : Int) (oneDay : 1 ≤ days) :
    lookbackBegin now days ≤ max (now - dayMillis) 0 := by
  unfold lookbackBegin dayMillis
  omega

/-- A source that has reports gives reports. -/
theorem loadUsages_eq_nil_iff {usages : List AppUsage} {since : Int} :
    loadUsages usages since = [] ↔ usages = [] :=
  List.map_eq_nil_iff

namespace Records

variable {since later : Int} {package : String}

/-- Of a use that a source leaves out nothing counts later. -/
theorem counts_and_not_before (le : since ≤ later) (usage : GroupUsage) :
    (counts later usage && decide (since ≤ usage.lastAccess.toInt)) = counts later usage := by
  cases counted : counts later usage with
  | false => rfl
  | true =>
    have kept : later ≤ usage.lastAccess.toInt := by
      simp only [counts, Bool.and_eq_true, decide_eq_true_eq] at counted
      exact counted.2
    simpa using Int.le_trans le kept

theorem countedUsages_loadUsages (usages : List AppUsage) (le : since ≤ later) :
    countedUsages (loadUsages usages since) package later =
      countedUsages usages package later := by
  rw [countedUsages, loadUsages, List.filter_map, List.flatMap_map, List.filter_flatMap,
    countedUsages, List.filter_flatMap]
  refine List.flatMap_congr fun app _ => ?_
  rw [List.filter_filter]
  exact List.filter_congr fun usage _ => counts_and_not_before le usage

/-- Records are the same whether a source leaves out what is older than needed or not. -/
theorem extract_loadUsages (usages : List AppUsage) (package : String) (le : since ≤ later) :
    extract (loadUsages usages since) package later = extract usages package later := by
  rw [extract, rebuild, countedUsages_loadUsages usages le]
  rfl

/-- Of the uses of the last 24 hours those count that have a time after the epoch, however many days
are looked at. -/
theorem counts_iff_of_recent {now : Int} {days : Nat} {usage : GroupUsage} (oneDay : 1 ≤ days)
    (recent : now - dayMillis ≤ usage.lastAccess.toInt) :
    counts (lookbackBegin now days) usage ↔ 0 < usage.lastAccess.toInt := by
  have zero : usage.lastAccess = 0 ↔ usage.lastAccess.toInt = 0 := by
    rw [← Int64.toInt_inj]
    rfl
  have begin_le := lookbackBegin_le now oneDay
  have begin_nonneg := lookbackBegin_nonneg now days
  simp only [counts, Bool.and_eq_true, decide_eq_true_eq, Ne, zero]
  omega

end Records

end PermissionScreen
