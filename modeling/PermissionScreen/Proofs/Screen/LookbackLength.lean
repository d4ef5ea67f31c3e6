import PermissionScreen.Proofs.Screen.LocalTime
import PermissionScreen.Proofs.Screen.Summaries
import PermissionScreen.Proofs.Usage.Lookback
import PermissionScreen.Proofs.Usage.Recorded

/-!
How many days are looked back does not show.

The line below the title of a group tells only of an access of the last 24 hours. These are looked
at however many days the settings say, as long as it is one; older accesses are recorded or not, and
not told of in either case. If the reports tell of each group once, an older access cannot take the
place of a recent one, and the sections are the same for all lengths
(`sections_lookback_irrelevant`).
-/

namespace PermissionScreen

/-- The groups that the reports of a package tell of, in the order of the reports. -/
def groupsTold (usages : List AppUsage) (package : String) : List String :=
  (usages.filter (·.package = package)).flatMap fun app => app.groups.map (·.group)

/-! ### What is recorded of the last 24 hours -/

section Recent

variable {usages : List AppUsage} {package : String} {days : Nat}

theorem length_timesTold (usages : List AppUsage) (package group : String) :
    (timesTold usages package group).length = (groupsTold usages package).count group := by
  rw [timesTold, groupsTold, List.length_flatMap, List.count_flatMap]
  refine congrArg List.sum (List.map_congr_left fun app _ => ?_)
  rw [List.length_map, Function.comp_apply, List.count_eq_countP, List.countP_map,
    List.countP_eq_length_filter]
  rfl

theorem filter_getLast?_of_length_le_one {α : Type} {elements : List α}
    (one : elements.length ≤ 1) (p q : α → Bool) :
    (elements.filter p).getLast?.filter q = (elements.filter fun a => p a && q a).getLast? := by
  match elements, one with
  | [], _ => rfl
  | [a], _ => cases first : p a <;> cases second : q a <;> simp [first, second]

/-- The access that is recorded of a group, if it is one of the last 24 hours. -/
def Records.recentAccess (records : Records) (now : Int) (group : String) : Option Int64 :=
  (records.lastAccess group).filter fun time => now - dayMillis ≤ time.toInt

theorem Records.recentAccess_eq {records : Records} {group : String} {time : Int64} (now : Int)
    (recorded : records.lastAccess group = some time) :
    records.recentAccess now group =
      if now - dayMillis ≤ time.toInt then some time else none := by
  simp only [recentAccess, recorded, Option.filter_some, decide_eq_true_eq]

/-- Of the last 24 hours every access is recorded that was after the epoch. -/
theorem recentAccess_extract (now : Int) (distinct : (groupsTold usages package).Nodup)
    (oneDay : 1 ≤ days) (group : String) :
    (Records.extract usages package (lookbackBegin now days)).recentAccess now group =
      ((timesTold usages package group).filter fun time =>
        0 < time.toInt && now - dayMillis ≤ time.toInt).getLast? := by
  have one : (timesTold usages package group).length ≤ 1 := by
    rw [length_timesTold]
    exact List.nodup_iff_count_le_one.mp distinct group
  rw [Records.recentAccess, Records.extract, Records.lastAccess_rebuild, timesCounted,
    filter_getLast?_of_length_le_one one]
  refine congrArg List.getLast? (List.filter_congr fun time _ => ?_)
  by_cases recent : now - dayMillis ≤ time.toInt
  · have counts : Records.counts (lookbackBegin now days) ⟨group, time⟩ ↔ 0 < time.toInt :=
      Records.counts_iff_of_recent oneDay recent
    rw [decide_eq_true recent, Bool.and_true, Bool.and_true, Bool.eq_iff_iff, decide_eq_true_eq]
    exact counts
  · rw [decide_eq_false recent, Bool.and_false, Bool.and_false]

end Recent

/-! ### What is told of it -/

theorem isRecent_classify_iff (zone : Zone) (now time : Int) (isSensor : Bool) :
    (classify zone now (some time) isSensor).isRecent ↔ now - dayMillis ≤ time := by
  rw [Recency.isRecent_iff, classify_eq_notRecent_iff, Int.not_lt]

namespace Scene

variable {scene other : Scene}

/-- An access that is older is told of like none. -/
theorem recency_eq_recent (scene : Scene) (zone : Zone) (group : String) :
    scene.recency zone group =
      classify zone scene.now ((scene.records.recentAccess scene.now group).map Int64.toInt)
        (scene.config.isSensor group) := by
  cases recorded : scene.records.lastAccess group with
  | none => simp only [recency, Records.recentAccess, recorded, Option.filter_none]
  | some time =>
    rw [recency, Records.recentAccess_eq _ recorded, recorded]
    split
    · rfl
    · next old => exact (classify_eq_notRecent_iff _ _ _ _).mpr (Int.not_le.mp old)

/-- The time of an older one is not told. -/
theorem accessTime_eq_recent (scene : Scene) (zone : Zone) (group : String) :
    scene.accessTime zone group =
      ((scene.records.recentAccess scene.now group).map fun time =>
        scene.config.clockStyle.textAt time.toInt scene.config.offsetSeconds).getD "" := by
  cases recorded : scene.records.lastAccess group with
  | none =>
    simp only [accessTime, Records.recentAccess, recorded, Option.filter_none]
    rfl
  | some time =>
    have isRecent : (scene.recency zone group).isRecent ↔ scene.now - dayMillis ≤ time.toInt := by
      rw [recency, recorded]
      exact isRecent_classify_iff _ _ _ _
    rw [Records.recentAccess_eq _ recorded]
    simp only [accessTime, recorded, isRecent]
    split <;> rfl

theorem groupSummary_congr_recent {config : Config} {args : Args} {records records' : Records}
    {now : Int} {group : String}
    (same : records.recentAccess now group = records'.recentAccess now group)
    (subtitle : Subtitle) :
    (⟨config, args, records', now⟩ : Scene).groupSummary group subtitle =
      (⟨config, args, records, now⟩ : Scene).groupSummary group subtitle := by
  simp only [groupSummary, recency_eq_recent, accessTime_eq_recent, same]

/-- Scenes of one screen that tell the same of all groups have the same sections. -/
theorem SameScreen.sections_congr (same : SameScreen scene other)
    (told : ∀ group subtitle,
      other.groupSummary group subtitle = scene.groupSummary group subtitle) (groups : Groups) :
    other.sections groups = scene.sections groups := by
  have own : SameScreen scene scene := ⟨rfl, rfl⟩
  have retold : Entry.retold other = Entry.retold scene := by
    funext entry
    unfold Entry.retold
    cases entry.kind <;> simp only [told]
  calc
    other.sections groups = (scene.sections groups).map (Section.retold other) :=
      same.sections_eq_retold groups
    _ = (scene.sections groups).map (Section.retold scene) := by
      refine List.map_congr_left fun shown _ => ?_
      rw [Section.retold, Section.retold, retold]
    _ = scene.sections groups := (own.sections_eq_retold groups).symm

/-- Once uses are recorded, the number of days is not asked for any more. -/
theorem sections_withLookback (config : Config) (days : UInt32) (args : Args) (records : Records)
    (now : Int) (groups : Groups) :
    (⟨{ config with lookbackDays := days }, args, records, now⟩ : Scene).sections groups =
      (⟨config, args, records, now⟩ : Scene).sections groups := by
  rw [sections_eq, sections_eq]
  rfl

end Scene

/-- The scene that reports make, seen at some time. -/
def Scene.ofReports (config : Config) (args : Args) (usages : List AppUsage) (now : Int) : Scene :=
  ⟨config, args,
    Records.extract usages args.package (lookbackBegin now config.lookbackDays.toNat), now⟩

/-- **The length does not show.** If the reports of the app tell of each group at most once, the
sections are the same for any two lengths of a day or more. For a recent access is left out exactly
if its time is not after the epoch. -/
theorem sections_lookback_irrelevant :
    (∀ (config : Config) (days : UInt32) (args : Args) (usages : List AppUsage) (now : Int)
        (groups : Groups),
      (groupsTold usages args.package).Nodup → 1 ≤ config.lookbackDays → 1 ≤ days →
        (Scene.ofReports { config with lookbackDays := days } args usages now).sections groups =
          (Scene.ofReports config args usages now).sections groups) ∧
    ∀ (zone : Zone) (now : Int) (days : UInt32) (usage : GroupUsage) (isSensor : Bool), 1 ≤ days →
      (classify zone now (some usage.lastAccess.toInt) isSensor).isRecent →
        (Records.counts (lookbackBegin now days.toNat) usage = false ↔
          usage.lastAccess.toInt ≤ 0) := by
  constructor
  · intro config days args usages now groups distinct oneDay oneDay'
    let before := Scene.ofReports config args usages now
    let after : Scene := ⟨config, args,
      Records.extract usages args.package (lookbackBegin now days.toNat), now⟩
    have same : Scene.SameScreen before after := ⟨rfl, rfl⟩
    have recent : ∀ group,
        before.records.recentAccess now group = after.records.recentAccess now group := by
      intro group
      have recorded := recentAccess_extract now distinct (UInt32.le_iff_toNat_le.mp oneDay)
      have recorded' := recentAccess_extract now distinct (UInt32.le_iff_toNat_le.mp oneDay')
      exact (recorded group).trans (recorded' group).symm
    calc
      (Scene.ofReports { config with lookbackDays := days } args usages now).sections groups =
          after.sections groups := Scene.sections_withLookback config days args _ now groups
      _ = before.sections groups :=
        same.sections_congr (fun group => Scene.groupSummary_congr_recent (recent group)) groups
  · intro zone now days usage isSensor oneDay recent
    rw [isRecent_classify_iff] at recent
    have oneDay := UInt32.le_iff_toNat_le.mp oneDay
    rw [← Bool.not_eq_true, Records.counts_iff_of_recent oneDay recent, Int.not_lt]

/-- Reports of a use an hour ago and of one ten days ago, at half past three in the afternoon. -/
def pastReports : List AppUsage :=
  [⟨"app", [⟨"camera", 1710081000000⟩, ⟨"phone", 1709220600000⟩]⟩]

/-- The older use is recorded if a month is looked back, and makes no difference. -/
theorem sections_lookback_irrelevant_pastReports :
    let args := Args.ofPackage "app" 0 1
    let groups := Groups.empty.set .allowed [⟨"camera", .plain, true⟩, ⟨"phone", .plain, true⟩]
    let day := Scene.ofReports {} args pastReports 1710084600000
    let month := Scene.ofReports { lookbackDays := 30 } args pastReports 1710084600000
    (groupsTold pastReports args.package).Nodup ∧ (1 : UInt32) ≤ ({} : Config).lookbackDays ∧
      (1 : UInt32) ≤ 30 ∧ month.records ≠ day.records ∧
      month.sections groups = day.sections groups ∧
      (classify (.fixed 0) 1710084600000 (some (1710081000000 : Int64).toInt) true).isRecent ∧
      (Records.counts (lookbackBegin 1710084600000 (30 : UInt32).toNat)
          ⟨"camera", 1710081000000⟩ = false ↔ (1710081000000 : Int64).toInt ≤ 0) :=
  ⟨by decide, by decide, by decide, by decide,
    sections_lookback_irrelevant.1 {} 30 (Args.ofPackage "app" 0 1) pastReports 1710084600000 _
      (by decide) (by decide) (by decide), by decide,
    sections_lookback_irrelevant.2 (.fixed 0) 1710084600000 30 ⟨"camera", 1710081000000⟩ true
      (by decide) (by decide)⟩

end PermissionScreen
