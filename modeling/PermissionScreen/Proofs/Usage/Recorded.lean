import Mathlib.Data.List.Induction
import Mathlib.Data.Set.Card
import PermissionScreen.Usage.Records

/-!
What records say of the reports that they are made of.

Reports are gone through use by use, and each use that counts takes the place of what was recorded
of its group before. In the end there is left of each group the time that was told last
(`lastAccess_rebuild`), whatever was recorded before the reports came. `rebuild_records_last` says
so of the records as a whole: of which groups there are any, which times they hold, and what further
reports add.
-/

namespace PermissionScreen

/-- The times that the reports of a package tell of a group, in the order of the reports. -/
def timesTold (usages : List AppUsage) (package group : String) : List Int64 :=
  (usages.filter (·.package = package)).flatMap fun app =>
    (app.groups.filter (·.group = group)).map (·.lastAccess)

/-- Those of them that count: zero is no time, and times before `since` are too old. -/
def timesCounted (usages : List AppUsage) (package : String) (since : Int) (group : String) :
    List Int64 :=
  (timesTold usages package group).filter fun time => time ≠ 0 && since ≤ time.toInt

/-- Whether a report of a package tells a use of a group that counts. -/
def IsUsed (usages : List AppUsage) (package : String) (since : Int) (group : String) : Prop :=
  ∃ app ∈ usages, app.package = package ∧ ∃ usage ∈ app.groups,
    usage.group = group ∧ usage.lastAccess ≠ 0 ∧ since ≤ usage.lastAccess.toInt

section Times

variable {usages : List AppUsage} {package : String} {since : Int} {group : String} {time : Int64}

theorem mem_timesTold_iff :
    time ∈ timesTold usages package group ↔
      ∃ app ∈ usages, app.package = package ∧ ⟨group, time⟩ ∈ app.groups := by
  simp only [timesTold, List.mem_flatMap, List.mem_filter, List.mem_map, decide_eq_true_eq]
  constructor
  · rintro ⟨app, ⟨mem, named⟩, ⟨name, told⟩, ⟨use, rfl⟩, rfl⟩
    exact ⟨app, mem, named, use⟩
  · rintro ⟨app, mem, named, use⟩
    exact ⟨app, ⟨mem, named⟩, ⟨group, time⟩, ⟨use, rfl⟩, rfl⟩

theorem mem_timesCounted_iff :
    time ∈ timesCounted usages package since group ↔
      time ∈ timesTold usages package group ∧ time ≠ 0 ∧ since ≤ time.toInt := by
  simp [timesCounted]

theorem isUsed_iff :
    IsUsed usages package since group ↔ timesCounted usages package since group ≠ [] := by
  constructor
  · rintro ⟨app, mem, named, ⟨name, time⟩, use, rfl, counts⟩
    apply List.ne_nil_of_mem
    exact mem_timesCounted_iff.mpr ⟨mem_timesTold_iff.mpr ⟨app, mem, named, use⟩, counts⟩
  · intro told
    obtain ⟨time, mem⟩ := List.exists_mem_of_ne_nil _ told
    obtain ⟨mem, counts⟩ := mem_timesCounted_iff.mp mem
    obtain ⟨app, mem, named, use⟩ := mem_timesTold_iff.mp mem
    exact ⟨app, mem, named, ⟨group, time⟩, use, rfl, counts⟩

theorem timesTold_append (earlier later : List AppUsage) :
    timesTold (earlier ++ later) package group =
      timesTold earlier package group ++ timesTold later package group := by
  rw [timesTold, List.filter_append, List.flatMap_append]
  rfl

theorem timesCounted_append (earlier later : List AppUsage) :
    timesCounted (earlier ++ later) package since group =
      timesCounted earlier package since group ++ timesCounted later package since group := by
  rw [timesCounted, timesTold_append, List.filter_append]
  rfl

end Times

namespace Records

variable {package : String} {since : Int} {group : String}

/-! ### Uses recorded one after the other -/

theorem map_lastAccess_countedUsages (usages : List AppUsage) :
    ((countedUsages usages package since).filter (·.group = group)).map (·.lastAccess) =
      timesCounted usages package since group := by
  simp only [countedUsages, timesCounted, timesTold, List.filter_flatMap, List.map_flatMap,
    List.filter_map]
  refine List.flatMap_congr fun app _ => congrArg (List.map _) ?_
  rw [List.filter_filter, List.filter_filter]
  refine List.filter_congr fun usage _ => ?_
  rw [Bool.and_comm]
  rfl

/-- One use takes the place of what was recorded of its group; so of many uses the last one stays,
and what was recorded of a group without one. -/
theorem lastAccess_insertAll (records : Records) (usages : List GroupUsage) (group : String) :
    (records.insertAll usages).lastAccess group =
      ((usages.filter (·.group = group)).map (·.lastAccess)).getLast?.or
        (records.lastAccess group) := by
  induction usages using List.reverseRecOn with
  | nil => rfl
  | append_singleton usages usage ih =>
    have step : records.insertAll (usages ++ [usage]) =
        (records.insertAll usages).insert usage.group usage.lastAccess := by
      simp only [insertAll, List.foldl_append, List.foldl_cons, List.foldl_nil]
    rw [step, lastAccess_insert, ih]
    by_cases same : usage.group = group
    · simp [same]
    · simp [same, Ne.symm same]

/-- Of each group the time is recorded that is told last of those that count. -/
theorem lastAccess_rebuild (records : Records) (usages : List AppUsage) :
    (records.rebuild usages package since).lastAccess group =
      (timesCounted usages package since group).getLast? := by
  rw [rebuild, lastAccess_insertAll, map_lastAccess_countedUsages, clear, lastAccess_empty,
    Option.or_none]

theorem isSome_lastAccess_iff (records : Records) :
    (records.lastAccess group).isSome ↔ group ∈ records.entries.map Prod.fst := by
  simp [lastAccess]

/-- There are as many records as groups that have one. -/
theorem size_eq_ncard (records : Records) :
    records.size = {group | (records.lastAccess group).isSome}.ncard := by
  have groups : {group | (records.lastAccess group).isSome} =
      ((records.entries.map Prod.fst).toFinset : Set String) := by
    ext group
    simp only [Set.mem_ofPred_eq, isSome_lastAccess_iff, List.coe_toFinset]
  rw [groups, Set.ncard_coe_finset, List.toFinset_card_of_nodup records.distinct, List.length_map]
  rfl

/-- Records that were made of the reports of a package, from `since` on, and of nothing else. -/
structure MadeOf (usages : List AppUsage) (package : String) (since : Int) (records : Records) :
    Prop where
  /-- A group has a record if a report of the package tells a use of it that counts. -/
  recorded : ∀ group, (records.lastAccess group).isSome ↔ IsUsed usages package since group
  /-- Of the times that count the one that is told last is recorded. -/
  last : ∀ group, records.lastAccess group = (timesCounted usages package since group).getLast?
  size : records.size = {group | IsUsed usages package since group}.ncard
  isEmpty : records.isEmpty ↔ ∀ group, ¬ IsUsed usages package since group

theorem madeOf_rebuild (records : Records) (usages : List AppUsage) (package : String)
    (since : Int) : MadeOf usages package since (records.rebuild usages package since) := by
  have last : ∀ group, (records.rebuild usages package since).lastAccess group =
      (timesCounted usages package since group).getLast? := fun _ =>
    records.lastAccess_rebuild usages
  have recorded : ∀ group, ((records.rebuild usages package since).lastAccess group).isSome ↔
      IsUsed usages package since group := by
    intro group
    rw [last, isUsed_iff, List.getLast?_isSome]
  have size : (records.rebuild usages package since).size =
      {group | IsUsed usages package since group}.ncard := by
    rw [size_eq_ncard]
    simp only [recorded]
  refine ⟨recorded, last, size, ?_⟩
  simp only [← recorded, isSome_lastAccess_iff, isEmpty, List.isEmpty_iff]
  rw [← List.eq_nil_iff_forall_not_mem, List.map_eq_nil_iff]

/-- **Records made anew.** Whatever was recorded before, records that are rebuilt are made of the
reports, as if they had just been extracted from them; and reports that follow others override what
those say. -/
theorem rebuild_records_last (records : Records) (package : String) (since : Int) :
    (∀ usages, records.rebuild usages package since = extract usages package since ∧
      MadeOf usages package since (records.rebuild usages package since)) ∧
    ∀ earlier later group,
      (records.rebuild (earlier ++ later) package since).lastAccess group =
        ((extract later package since).lastAccess group).or
          ((extract earlier package since).lastAccess group) := by
  constructor
  · intro usages
    exact ⟨rfl, records.madeOf_rebuild usages package since⟩
  · intro earlier later group
    rw [lastAccess_rebuild, extract, extract, lastAccess_rebuild, lastAccess_rebuild,
      timesCounted_append, List.getLast?_append]

end Records

end PermissionScreen
