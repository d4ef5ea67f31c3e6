import PermissionScreen.Config
import PermissionScreen.Proofs.Screen.LocalTime
import PermissionScreen.Proofs.Usage.Lookback
import PermissionScreen.Proofs.Width

/-!
Times and offsets as words hold them.

The offset in the settings is calculated in 32 bits, and times are calculated here in whole numbers. A
machine has 64 bits for a time in milliseconds; a zone takes offsets of less than a day, a span of time
has a longest one, and calendars end. Settings that are accepted keep within all of these, for every
time that a calendar can name (`staysInWords`): what is checked is enough for what is calculated.
-/

namespace PermissionScreen

/-- The longest span of time, in milliseconds. -/
def longestSpan : Int := 9223372036854775807

namespace Config

variable {config : Config}

/-- Settings are accepted if a day at least is looked at, and the offset is at most 18 hours. -/
theorem problem?_eq_none_iff (noMinimum : config.utcOffsetMinutes ≠ Int32.minValue) :
    config.problem? = none ↔ 1 ≤ config.lookbackDays.toNat ∧
      -1080 ≤ config.utcOffsetMinutes.toInt ∧ config.utcOffsetMinutes.toInt ≤ 1080 := by
  have noDay : config.lookbackDays = 0 ↔ ¬ 1 ≤ config.lookbackDays.toNat := by
    rw [← UInt32.toNat_inj, UInt32.toNat_zero]
    omega
  have tooFar : maxOffsetMinutes < config.utcOffsetMinutes.abs ↔
      ¬ (-1080 ≤ config.utcOffsetMinutes.toInt ∧ config.utcOffsetMinutes.toInt ≤ 1080) := by
    rw [Int32.lt_iff_toInt_lt, toInt_abs noMinimum, show maxOffsetMinutes.toInt = 1080 from rfl]
    omega
  rw [problem?]
  split
  case isTrue zero => exact iff_of_false nofun fun inRange => noDay.mp zero inRange.1
  case isFalse positive =>
    split
    case isTrue far => exact iff_of_false nofun fun inRange => tooFar.mp far inRange.2
    case isFalse near =>
      exact iff_of_true rfl ⟨not_not.mp (mt noDay.mpr positive), not_not.mp (mt tooFar.mpr near)⟩

/-- The zone has the offset of the settings. -/
theorem zone_of_accepted (noMinimum : config.utcOffsetMinutes ≠ Int32.minValue)
    (accepted : config.problem? = none) :
    config.zone = .fixed (config.utcOffsetMinutes.toInt * 60) := by
  obtain ⟨_, least, greatest⟩ := (problem?_eq_none_iff noMinimum).mp accepted
  have seconds : (config.utcOffsetMinutes * 60).toInt = config.utcOffsetMinutes.toInt * 60 := by
    refine toInt_mul_of_fitsWord (fitsWord_32_iff.mpr ?_)
    rw [show (60 : Int32).toInt = 60 from rfl]
    omega
  rw [zone, offsetSeconds, seconds, if_pos (by unfold daySeconds; omega)]

end Config

theorem isNameable_iff {time : Int} :
    isNameable time = true ↔ -8334601228800000 ≤ time ∧ time ≤ 8210266876799999 := by
  simp only [isNameable, Bool.and_eq_true, decide_eq_true_eq]
  exact Iff.rfl

namespace Zone

/-- A local day is over after the seconds of a day. -/
theorem wallClock_lt_midnightWall_add (zone : Zone) (now : Int) :
    zone.wallClock now < zone.midnightWall now + daySeconds := by
  unfold midnightWall localDay daySeconds
  omega

variable {offset now : Int}

/-- In a zone of one offset the local midnight lies in the 24 hours up to `now`. -/
theorem localMidnight_fixed_near :
    now - dayMillis < (fixed offset).localMidnight now ∧ (fixed offset).localMidnight now ≤ now := by
  have shows : (fixed offset).wallClock now = now / 1000 + offset := rfl
  have begun : (fixed offset).midnightWall now ≤ (fixed offset).wallClock now :=
    midnightWall_le_wallClock_iff.mpr le_rfl
  have stillDay := wallClock_lt_midnightWall_add (fixed offset) now
  unfold daySeconds at stillDay
  unfold dayMillis
  rw [localMidnight_fixed]
  omega

/-- There it is looked up, if a calendar can name it. -/
theorem earliest?_fixed_midnight (nameable : isNameable ((fixed offset).localMidnight now) = true) :
    (fixed offset).earliest? ((fixed offset).midnightWall now) =
      some ((fixed offset).midnightWall now - offset) := by
  rw [localMidnight_fixed] at nameable
  simp [earliest?, readings, nameable]

end Zone

/-- What is calculated at a time for a screen with some settings. -/
structure StaysInWords (config : Config) (now : Int) : Prop where
  /-- The seconds of the offset fit, and a zone takes them. -/
  offset_fits : FitsWord 32 (config.utcOffsetMinutes.toInt * 60)
  offset_taken : -daySeconds < config.utcOffsetMinutes.toInt * 60 ∧
    config.utcOffsetMinutes.toInt * 60 < daySeconds
  /-- So the zone is the one in the settings, and not the one without an offset in its place. -/
  zone_eq : config.zone = .fixed (config.utcOffsetMinutes.toInt * 60)
  /-- Any number of days makes up a span of time. -/
  days_fit : ∀ days : UInt32, FitsWord 64 (days.toNat * daySeconds) ∧
    days.toNat * dayMillis ≤ longestSpan
  since_fits : ∀ days : UInt32, FitsWord 64 (now - days.toNat * dayMillis)
  yesterday_fits : FitsWord 64 (now - dayMillis)
  /-- The local time, the local midnight as clocks show it, and when they do. -/
  wallClock_fits : FitsWord 64 (config.zone.wallClock now)
  midnightWall_fits : FitsWord 64 (config.zone.midnightWall now)
  midnight_fits : FitsWord 64 (config.zone.localMidnight now)
  /-- A local midnight that a calendar can name is looked up and not made up. -/
  midnight_found : isNameable (config.zone.localMidnight now) = true →
    config.zone.earliest? (config.zone.midnightWall now) =
      some (config.zone.midnightWall now - config.utcOffsetMinutes.toInt * 60)
  /-- The local time of any access. -/
  access_fits : ∀ time : Int64, FitsWord 64 (config.zone.wallClock time.toInt)
  /-- Uses of the last 24 hours are looked at, or those since the epoch. -/
  since_le : lookbackBegin now config.lookbackDays.toNat ≤ max 0 (now - 86400000)

/-- Where uses start to count. -/
structure CountsSince : Prop where
  eq : ∀ (now : Int) (days : Nat), lookbackBegin now days = max 0 (now - 86400000 * days)
  /-- Later, it is not earlier. -/
  mono : ∀ (days : Nat) {now later : Int}, now ≤ later →
    lookbackBegin now days ≤ lookbackBegin later days
  /-- Who looks back further does not start later. -/
  anti : ∀ (now : Int) {few many : Nat}, few ≤ many →
    lookbackBegin now many ≤ lookbackBegin now few

theorem countsSince : CountsSince where
  eq now days := by
    rw [lookbackBegin, dayMillis, Int.max_comm, Int.mul_comm]
  mono days _ _ le := lookbackBegin_mono days le
  anti now few many le := by
    simp only [lookbackBegin, dayMillis]
    omega

theorem staysInWords {config : Config} {now : Int}
    (noMinimum : config.utcOffsetMinutes ≠ Int32.minValue) (accepted : config.problem? = none)
    (nameable : isNameable now = true) : StaysInWords config now := by
  have zone_eq := Config.zone_of_accepted noMinimum accepted
  obtain ⟨oneDay, least, greatest⟩ := (Config.problem?_eq_none_iff noMinimum).mp accepted
  obtain ⟨first, last⟩ := isNameable_iff.mp nameable
  have wallClock : ∀ time : Int,
      config.zone.wallClock time = time / 1000 + config.utcOffsetMinutes.toInt * 60 := by
    intro time
    rw [zone_eq]
    rfl
  refine ⟨fitsWord_32_iff.mpr ?offset, ?taken, zone_eq, fun days => ⟨fitsWord_64_iff.mpr ?days, ?span⟩,
    fun days => fitsWord_64_iff.mpr ?since, fitsWord_64_iff.mpr ?yesterday,
    fitsWord_64_iff.mpr ?wallClock, fitsWord_64_iff.mpr ?midnightWall,
    fitsWord_64_iff.mpr ?midnight, ?found, fun time => fitsWord_64_iff.mpr ?access, ?begin⟩
  case offset => omega
  case taken => unfold daySeconds; omega
  case days =>
    have := days.toNat_lt
    unfold daySeconds
    omega
  case span =>
    have := days.toNat_lt
    unfold dayMillis longestSpan
    omega
  case since =>
    have := days.toNat_lt
    unfold dayMillis
    omega
  case yesterday => unfold dayMillis; omega
  case wallClock =>
    rw [wallClock]
    omega
  case midnightWall =>
    have begun : config.zone.midnightWall now ≤ config.zone.wallClock now :=
      Zone.midnightWall_le_wallClock_iff.mpr le_rfl
    have stillDay := config.zone.wallClock_lt_midnightWall_add now
    rw [wallClock] at begun stillDay
    unfold daySeconds at stillDay
    omega
  case midnight =>
    have near : now - dayMillis < config.zone.localMidnight now ∧
        config.zone.localMidnight now ≤ now := by
      rw [zone_eq]
      exact Zone.localMidnight_fixed_near
    unfold dayMillis at near
    omega
  case found =>
    rw [zone_eq]
    exact Zone.earliest?_fixed_midnight
  case access =>
    have := fitsWord_64_iff.mp (fitsWord_int64 time)
    rw [wallClock]
    omega
  case begin =>
    have := lookbackBegin_le now oneDay
    rwa [max_comm] at this

/-- **Words are wide enough.** The offset can be compared without its sign unless it is the least
number of 32 bits, and settings are accepted just if a day at least is looked at and the offset is at
most 18 hours. Then all that is calculated for a screen stays within its words, for every time that a
calendar can name, and uses count from where they should. -/
theorem accepted_stays_in_words (config : Config)
    (noMinimum : config.utcOffsetMinutes ≠ Int32.minValue) :
    FitsWord 32 config.utcOffsetMinutes.toInt.natAbs ∧
      (config.problem? = none ↔ 1 ≤ config.lookbackDays.toNat ∧
        -1080 ≤ config.utcOffsetMinutes.toInt ∧ config.utcOffsetMinutes.toInt ≤ 1080) ∧
      (config.problem? = none → ∀ now, isNameable now = true → StaysInWords config now) ∧
      CountsSince := by
  refine ⟨fitsWord_32_iff.mpr ?_, Config.problem?_eq_none_iff noMinimum,
    fun accepted now nameable => staysInWords noMinimum accepted nameable, countsSince⟩
  have fits := fitsWord_32_iff.mp (fitsWord_int32 config.utcOffsetMinutes)
  have least : config.utcOffsetMinutes.toInt ≠ -2147483648 := fun eq =>
    noMinimum (Int32.toInt_inj.mp eq)
  omega

/-- An offset that is not accepted may be another one in 32 bits. -/
example : ({ utcOffsetMinutes := 71582789 } : Config).offsetSeconds = 44 := by decide

/-- Eighteen hours west, with the longest look back. -/
def farConfig : Config := { utcOffsetMinutes := -1080, lookbackDays := 4294967295 }

/-- A day after the first instant that a calendar can name. -/
theorem accepted_stays_in_words_farConfig :
    farConfig.utcOffsetMinutes ≠ Int32.minValue ∧ farConfig.problem? = none ∧
      isNameable (-8334601142400000) = true ∧ StaysInWords farConfig (-8334601142400000) :=
  ⟨by decide, by decide, by decide,
    (accepted_stays_in_words farConfig (by decide)).2.2.1 (by decide) _ (by decide)⟩

example : farConfig.zone.localMidnight (-8334601142400000) = -8334601164000000 := by decide

end PermissionScreen
