import Mathlib.Order.Bounds.Basic
import PermissionScreen.Usage.Recency

/-!
Where a local day starts.

As long as clocks are never put back, local time goes on with time, and an instant belongs to the
day of `now` or to a later one exactly if it does not come before the local midnight
(`midnight_le_wallClock_iff`). A midnight that clocks show is therefore the first instant of its
day. If clocks are put forward over it, the day starts with the jump, and no reading of midnight is
left to find that out: the offset of `now` gives an instant before the jump, that belongs to the day
before.

* `startsToday_shifting`: what this means for a zone whose clocks are put forward once.
* `not_today_iff_localDay`: a sensor can be said to have been used today although that was
  yesterday.
-/

namespace PermissionScreen
namespace Zone

variable {zone : Zone} {now time second : Int}

/-- What clocks show when the local day of `now` starts, in seconds. -/
def midnightWall (zone : Zone) (now : Int) : Int := zone.localDay now * daySeconds

/-- Whether clocks show the start of the local day of `now`. -/
def ShowsMidnight (zone : Zone) (now : Int) : Prop := zone.readings (zone.midnightWall now) ≠ []

/-- Whether the start of the local day of `now` can be looked up, if clocks show it. -/
def FindsMidnight (zone : Zone) (now : Int) : Prop :=
  zone.ShowsMidnight now → (zone.earliest? (zone.midnightWall now)).isSome = true

/-! ### Clocks that are never put back -/

/-- Whether the offset of a zone never becomes smaller. -/
def NeverPutBack (zone : Zone) : Prop :=
  ∀ ⦃first second : Int⦄, first ≤ second → zone.offsetAt first ≤ zone.offsetAt second

/-- The local time at an instant has come to a local time that is read at `second` if that second
has come. -/
theorem le_wallClock_iff (forward : zone.NeverPutBack) :
    second + zone.offsetAt second ≤ zone.wallClock time ↔ second * 1000 ≤ time := by
  unfold wallClock
  constructor
  · intro le
    by_contra before
    have earlier : zone.offsetAt (time / 1000) ≤ zone.offsetAt second := forward (by omega)
    omega
  · intro le
    have later : zone.offsetAt second ≤ zone.offsetAt (time / 1000) := forward (by omega)
    omega

theorem wallClock_mono (forward : zone.NeverPutBack) (past : time ≤ now) :
    zone.wallClock time ≤ zone.wallClock now := by
  have later : zone.offsetAt (time / 1000) ≤ zone.offsetAt (now / 1000) := forward (by omega)
  unfold wallClock
  omega

theorem localDay_mono (forward : zone.NeverPutBack) (past : time ≤ now) :
    zone.localDay time ≤ zone.localDay now :=
  Int.ediv_le_ediv (by decide) (wallClock_mono forward past)

/-- An instant does not belong to a day before that of `now` if its local time has come to the start
of that day. -/
theorem midnightWall_le_wallClock_iff :
    zone.midnightWall now ≤ zone.wallClock time ↔ zone.localDay now ≤ zone.localDay time :=
  (Int.le_ediv_iff_mul_le (by decide)).symm

/-- An instant that has passed belongs to the day of `now` if its local time has come to the start
of that day. -/
theorem localDay_eq_iff (forward : zone.NeverPutBack) (past : time ≤ now) :
    zone.localDay time = zone.localDay now ↔ zone.midnightWall now ≤ zone.wallClock time := by
  rw [midnightWall_le_wallClock_iff]
  have := localDay_mono forward past
  omega

/-- The second at which clocks show midnight is the first of its day. -/
theorem isLeast_of_midnight (forward : zone.NeverPutBack)
    (reads : second + zone.offsetAt second = zone.midnightWall now) :
    IsLeast {time | zone.localDay time = zone.localDay now} (second * 1000) := by
  constructor
  · have shows : zone.wallClock (second * 1000) = zone.midnightWall now := by
      rw [← reads, wallClock, Int.mul_ediv_cancel _ (by decide)]
    change zone.wallClock (second * 1000) / daySeconds = zone.localDay now
    rw [shows]
    exact Int.mul_ediv_cancel _ (by decide)
  · intro time ofDay
    rw [← le_wallClock_iff forward, reads, midnightWall_le_wallClock_iff]
    exact ofDay.ge

end Zone

/-- A sensor was used today if it was not used before the local midnight. -/
theorem classify_eq_sensorToday_iff {zone : Zone} {now time : Int}
    (recent : now - dayMillis ≤ time) :
    classify zone now (some time) true = .sensorToday ↔ zone.localMidnight now ≤ time := by
  simp only [classify, Bool.not_true, Bool.false_eq_true, if_false]
  rw [if_neg (by omega)]
  split <;> simp [*]

/-! ### Clocks that are put forward once -/

namespace Zone

variable {moment before after now time : Int}

theorem neverPutBack_shifting (moment : Int) (forward : before < after) :
    (shifting moment before after).NeverPutBack := by
  intro first second le
  simp only [offsetAt]
  split <;> split <;> omega

/-- Midnight is not shown if the jump goes over it. -/
theorem not_showsMidnight_iff :
    ¬ (shifting moment before after).ShowsMidnight now ↔
      moment + before ≤ (shifting moment before after).midnightWall now ∧
        (shifting moment before after).midnightWall now < moment + after := by
  simp only [ShowsMidnight, not_not, readings, List.append_eq_nil_iff, List.filter_eq_nil_iff,
    List.mem_singleton, decide_eq_true_eq, forall_eq]
  omega

/-- The local midnight is looked up if clocks show it. -/
theorem localMidnight_of_showsMidnight {zone : Zone} (finds : zone.FindsMidnight now)
    (shows : zone.ShowsMidnight now) :
    ∃ second, second + zone.offsetAt second = zone.midnightWall now ∧
      zone.localMidnight now = second * 1000 := by
  obtain ⟨second, found⟩ := Option.isSome_iff_exists.mp (finds shows)
  refine ⟨second, offsetAt_of_earliest? found, ?_⟩
  rw [midnightWall] at found
  simp only [localMidnight, found]

/-- A midnight that no clock shows is when clocks would have shown it by the offset of `now`. -/
theorem localMidnight_of_not_showsMidnight {zone : Zone} (skipped : ¬ zone.ShowsMidnight now) :
    zone.localMidnight now =
      (zone.midnightWall now - zone.offsetAt (now / 1000)) * 1000 := by
  have none : zone.earliest? (zone.localDay now * daySeconds) = none := by
    have empty : zone.readings (zone.localDay now * daySeconds) = [] := not_not.mp skipped
    simp [earliest?, empty]
  simp only [localMidnight, none, midnightWall]

/-- If the jump goes over the midnight of `now`, it has been made. -/
theorem moment_le_of_not_showsMidnight
    (skipped : ¬ (shifting moment before after).ShowsMidnight now) : moment * 1000 ≤ now := by
  have jump := (not_showsMidnight_iff.mp skipped).1
  by_contra early
  have begun : (shifting moment before after).midnightWall now ≤
      (shifting moment before after).wallClock now :=
    midnightWall_le_wallClock_iff.mpr le_rfl
  have shows : (shifting moment before after).wallClock now = now / 1000 + before := by
    rw [wallClock, offsetAt, if_pos (by omega)]
  omega

/-- If the jump goes over midnight, the day starts with it. -/
theorem isLeast_of_not_showsMidnight (forward : before < after)
    (skipped : ¬ (shifting moment before after).ShowsMidnight now) :
    IsLeast {time | (shifting moment before after).localDay time =
      (shifting moment before after).localDay now} (moment * 1000) := by
  obtain ⟨above, below⟩ := not_showsMidnight_iff.mp skipped
  have kept := neverPutBack_shifting moment forward
  constructor
  · refine (localDay_eq_iff kept (moment_le_of_not_showsMidnight skipped)).mpr ?_
    have shows : (shifting moment before after).wallClock (moment * 1000) = moment + after := by
      rw [wallClock, offsetAt, Int.mul_ediv_cancel _ (by decide), if_neg (lt_irrefl _)]
    omega
  · intro time ofDay
    have begun : (shifting moment before after).midnightWall now ≤
        (shifting moment before after).wallClock time :=
      midnightWall_le_wallClock_iff.mpr ofDay.ge
    by_contra early
    have shows : (shifting moment before after).wallClock time = time / 1000 + before := by
      rw [wallClock, offsetAt, if_pos (by omega)]
    omega

/-- If the jump goes over midnight, it comes after the local midnight. -/
theorem localMidnight_of_jump
    (skipped : ¬ (shifting moment before after).ShowsMidnight now) :
    (shifting moment before after).localMidnight now =
        ((shifting moment before after).midnightWall now - after) * 1000 ∧
      (shifting moment before after).localMidnight now < moment * 1000 := by
  have made := moment_le_of_not_showsMidnight skipped
  have offset : (shifting moment before after).offsetAt (now / 1000) = after := by
    rw [offsetAt, if_neg (by omega)]
  have below := (not_showsMidnight_iff.mp skipped).2
  rw [localMidnight_of_not_showsMidnight skipped, offset]
  omega

end Zone

/-- When a day starts, and when a sensor counts as used today, in a zone whose offset is `after`
from a jump at `moment` on. -/
structure StartsToday (zone : Zone) (moment after now : Int) : Prop where
  /-- A local midnight that clocks show is the first instant of its day. -/
  shown : zone.ShowsMidnight now →
    IsLeast {time | zone.localDay time = zone.localDay now} (zone.localMidnight now)
  /-- Then a sensor was used today if it was used on the day of `now`. -/
  shown_today : zone.ShowsMidnight now → ∀ time, now - dayMillis ≤ time → time ≤ now →
    (classify zone now (some time) true = .sensorToday ↔ zone.localDay time = zone.localDay now)
  /-- If no clock shows midnight, the day starts with the jump. The local midnight is when clocks
  would have shown it by the later offset, before the jump. -/
  skipped : ¬ zone.ShowsMidnight now →
    IsLeast {time | zone.localDay time = zone.localDay now} (moment * 1000) ∧
      zone.localMidnight now = (zone.midnightWall now - after) * 1000 ∧
        zone.localMidnight now < moment * 1000
  /-- Then a sensor counts as used today also if it was used between the two. -/
  skipped_today : ¬ zone.ShowsMidnight now → ∀ time, now - dayMillis ≤ time → time ≤ now →
    (classify zone now (some time) true = .sensorToday ↔
      zone.localDay time = zone.localDay now ∨
        zone.localMidnight now ≤ time ∧ time < moment * 1000)

/-- **Local midnight where clocks are put forward.** It is the start of the local day, unless the
jump goes over it: then it comes before the jump, with which the day starts. -/
theorem startsToday_shifting {moment before after now : Int} (forward : before < after)
    (finds : (Zone.shifting moment before after).FindsMidnight now) :
    StartsToday (.shifting moment before after) moment after now where
  shown shows := by
    obtain ⟨second, reads, midnight⟩ := Zone.localMidnight_of_showsMidnight finds shows
    rw [midnight]
    exact Zone.isLeast_of_midnight (Zone.neverPutBack_shifting moment forward) reads
  shown_today shows time recent past := by
    obtain ⟨second, reads, midnight⟩ := Zone.localMidnight_of_showsMidnight finds shows
    have kept := Zone.neverPutBack_shifting moment forward
    rw [classify_eq_sensorToday_iff recent, midnight, Zone.localDay_eq_iff kept past, ← reads,
      Zone.le_wallClock_iff kept]
  skipped skips :=
    ⟨Zone.isLeast_of_not_showsMidnight forward skips, Zone.localMidnight_of_jump skips⟩
  skipped_today skips time recent past := by
    obtain ⟨starts, least⟩ := Zone.isLeast_of_not_showsMidnight forward skips
    have before := (Zone.localMidnight_of_jump skips).2
    have kept := Zone.neverPutBack_shifting moment forward
    rw [classify_eq_sensorToday_iff recent]
    constructor
    · intro le
      by_cases early : time < moment * 1000
      · exact .inr ⟨le, early⟩
      · refine .inl (le_antisymm (Zone.localDay_mono kept past) ?_)
        exact starts.ge.trans (Zone.localDay_mono kept (not_lt.mp early))
    · rintro (ofDay | ⟨le, _⟩)
      · exact before.le.trans (least ofDay)
      · exact le

/-- A zone whose clocks go from midnight to one on the tenth of March 2024. -/
def jumpingZone : Zone := .shifting 1710028800 0 3600

theorem findsMidnight_jumpingZone : jumpingZone.FindsMidnight 1710064800000 := by
  unfold Zone.FindsMidnight Zone.ShowsMidnight
  decide

theorem startsToday_jumpingZone :
    (0 : Int) < 3600 ∧ jumpingZone.FindsMidnight 1710064800000 ∧
      StartsToday jumpingZone 1710028800 3600 1710064800000 :=
  ⟨by decide, findsMidnight_jumpingZone,
    startsToday_shifting (by decide) findsMidnight_jumpingZone⟩

/-- At ten on the day of the jump, a sensor that was used half an hour before it counts as used
today. -/
theorem not_today_iff_localDay :
    ¬ ∀ (moment before after now time : Int), before < after →
      (Zone.shifting moment before after).FindsMidnight now →
        now - dayMillis ≤ time → time ≤ now →
          (classify (.shifting moment before after) now (some time) true = .sensorToday ↔
            (Zone.shifting moment before after).localDay time =
              (Zone.shifting moment before after).localDay now) := by
  intro agrees
  have today := agrees 1710028800 0 3600 1710064800000 1710027000000 (by decide)
    findsMidnight_jumpingZone (by decide) (by decide)
  revert today
  decide

end PermissionScreen
