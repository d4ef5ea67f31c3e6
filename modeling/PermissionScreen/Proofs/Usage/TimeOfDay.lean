import PermissionScreen.Usage.ClockText

/-!
What the text of a time of day says.

A reader of a clock knows nothing of how its text is made: the hour stands before the colon and the
minute behind it, and a clock of twelve hours adds which half of the day it is (`Reads`). Such a text
has one reading at most (`Reads.unique`), and what a clock says is read as the minute that it is
(`reads_text`). So both clocks tell the same instants apart.
-/

namespace PermissionScreen

/-- Digits, and the number for which they stand. -/
structure StandsFor (digits : List Char) (number : Nat) : Prop where
  isDigit : ∀ c ∈ digits, c.isDigit = true
  value : Nat.ofDigitChars 10 digits 0 = number

/-- A minute, always in two digits. -/
structure IsMinute (digits : List Char) (minute : Nat) : Prop extends StandsFor digits minute where
  length_eq : digits.length = 2
  lt : minute < 60

/-- The half of the day. -/
inductive DayHalf where
  | morning
  | afternoon
  deriving DecidableEq, Repr

namespace DayHalf

/-- What stands for it behind the time. -/
def mark : DayHalf → List Char
  | morning => [' ', 'A', 'M']
  | afternoon => [' ', 'P', 'M']

/-- The hours that have gone when it starts. -/
def hours : DayHalf → Nat
  | morning => 0
  | afternoon => 12

theorem length_mark (half : DayHalf) : half.mark.length = 3 := by cases half <;> rfl

theorem mark_injective {half half' : DayHalf} (same : half.mark = half'.mark) : half = half' := by
  revert same
  cases half <;> cases half' <;> decide

end DayHalf

/-- The minute of the day for which a text stands on a clock. -/
inductive ClockStyle.Reads : ClockStyle → List Char → Nat → Prop where
  /-- The hour is written in two digits. -/
  | twentyFourHour {digits minuteDigits : List Char} {hour minute : Nat} :
      StandsFor digits hour → digits.length = 2 → hour < 24 → IsMinute minuteDigits minute →
      Reads .twentyFourHour (digits ++ ':' :: minuteDigits) (hour * 60 + minute)
  /-- The hour is one to twelve, without a zero in front. At twelve the half of the day begins. -/
  | twelveHour {digits minuteDigits : List Char} {hour minute : Nat} {half : DayHalf} :
      StandsFor digits hour → digits.head? ≠ some '0' → 1 ≤ hour → hour ≤ 12 →
      IsMinute minuteDigits minute →
      Reads .twelveHour (digits ++ ':' :: (minuteDigits ++ half.mark))
        ((hour % 12 + half.hours) * 60 + minute)

namespace ClockStyle

/-- A text has one reading. -/
theorem Reads.unique {style : ClockStyle} {text : List Char} {minute minute' : Nat}
    (reads : style.Reads text minute) (reads' : style.Reads text minute') : minute = minute' := by
  -- What stands behind the hour has the same length in both readings.
  generalize same : text = text' at reads'
  cases reads with
  | @twentyFourHour digits minutes hour minute stands length lt isMinute =>
    cases reads' with
    | @twentyFourHour digits' minutes' _ _ stands' length' _ isMinute' =>
      obtain ⟨rfl, tail⟩ := List.append_inj same (length.trans length'.symm)
      obtain rfl := (List.cons.inj tail).2
      rw [← stands.value, ← stands'.value, ← isMinute.value, ← isMinute'.value]
  | @twelveHour digits minutes hour minute half stands _ _ _ isMinute =>
    cases reads' with
    | @twelveHour digits' minutes' _ _ half' stands' _ _ _ isMinute' =>
      obtain ⟨rfl, tail⟩ := List.append_inj' same
        (by simp [isMinute.length_eq, isMinute'.length_eq, DayHalf.length_mark])
      obtain ⟨rfl, mark⟩ := List.append_inj (List.cons.inj tail).2
        (isMinute.length_eq.trans isMinute'.length_eq.symm)
      obtain rfl := DayHalf.mark_injective mark
      rw [← stands.value, ← stands'.value, ← isMinute.value, ← isMinute'.value]

/-! ### The texts that are made -/

theorem standsFor_toDigits (n : Nat) : StandsFor (Nat.toDigits 10 n) n where
  isDigit _ mem := Nat.isDigit_of_mem_toDigits (by decide) (by decide) mem
  value := Nat.ofDigitChars_ten_toDigits

theorem toList_twoDigits (n : Nat) :
    (twoDigits n).toList = (if n < 10 then ['0'] else []) ++ Nat.toDigits 10 n := by
  unfold twoDigits
  rw [String.toList_append, Nat.toString_eq_ofList_toDigits, String.toList_ofList]
  split <;> rfl

theorem standsFor_twoDigits (n : Nat) : StandsFor (twoDigits n).toList n := by
  have stands := standsFor_toDigits n
  rw [toList_twoDigits]
  split
  · exact ⟨by simpa using stands.isDigit, stands.value⟩
  · exact stands

theorem length_twoDigits {n : Nat} (small : n < 100) : (twoDigits n).toList.length = 2 := by
  rw [toList_twoDigits]
  split
  · rw [Nat.toDigits_of_lt_base ‹_›]
    rfl
  · rw [Nat.toDigits_of_base_le (by decide) (by omega), Nat.toDigits_of_lt_base (by omega)]
    rfl

theorem isMinute_twoDigits {minute : Nat} (lt : minute < 60) :
    IsMinute (twoDigits minute).toList minute where
  toStandsFor := standsFor_twoDigits minute
  length_eq := length_twoDigits (by omega)
  lt := lt

/-- The digits of an hour do not start with zero. -/
theorem head?_toDigits_ne {hour : Nat} (positive : 1 ≤ hour) (le : hour ≤ 12) :
    (Nat.toDigits 10 hour).head? ≠ some '0' := by
  have all : ∀ hour ≤ 12, 1 ≤ hour → (Nat.toDigits 10 hour).head? ≠ some '0' := by decide
  exact all hour le positive

/-- The text of a minute of the day is read as that minute. -/
theorem reads_text (style : ClockStyle) {minute : Nat} (ofDay : minute < 1440) :
    style.Reads (style.text minute).toList minute := by
  have minutes := isMinute_twoDigits (Nat.mod_lt minute (show 0 < 60 by decide))
  cases style with
  | twentyFourHour =>
    have reads := Reads.twentyFourHour (standsFor_twoDigits (minute / 60))
      (length_twoDigits (by omega)) (by omega) minutes
    rw [show minute / 60 * 60 + minute % 60 = minute by omega] at reads
    simpa [text] using reads
  | twelveHour =>
    let hour := if minute / 60 % 12 = 0 then 12 else minute / 60 % 12
    let half := if minute / 60 < 12 then DayHalf.morning else .afternoon
    have positive : 1 ≤ hour := by simp only [hour]; split <;> omega
    have le : hour ≤ 12 := by simp only [hour]; split <;> omega
    have reads : Reads .twelveHour
        (Nat.toDigits 10 hour ++ ':' :: ((twoDigits (minute % 60)).toList ++ half.mark))
        ((hour % 12 + half.hours) * 60 + minute % 60) :=
      .twelveHour (standsFor_toDigits hour) (head?_toDigits_ne positive le) positive le minutes
    have eq : (hour % 12 + half.hours) * 60 + minute % 60 = minute := by
      simp only [hour, half]
      split <;> split <;> simp only [DayHalf.hours] <;> omega
    have written : (text .twelveHour minute).toList =
        Nat.toDigits 10 hour ++ ':' :: ((twoDigits (minute % 60)).toList ++ half.mark) := by
      simp only [text, String.toList_append, Nat.toString_eq_ofList_toDigits, String.toList_ofList]
      simp only [hour, half]
      split <;> split <;> simp [DayHalf.mark]
    rwa [eq, ← written] at reads

theorem reads_iff (style : ClockStyle) {minute other : Nat} (ofDay : minute < 1440) :
    style.Reads (style.text minute).toList other ↔ other = minute := by
  constructor
  · intro reads
    exact reads.unique (reads_text style ofDay)
  · rintro rfl
    exact reads_text style ofDay

theorem textAt_of_isNameable (style : ClockStyle) {time : Int} (nameable : isNameable time = true)
    (offset : Int) : style.textAt time offset = style.text (localMinute time offset) := by
  rw [textAt, if_pos nameable]

end ClockStyle

/-- The local minute of the day, rounded down at each step, before the epoch as well. -/
theorem localMinute_eq_iff {time offset : Int} {minute : Nat} :
    minute = localMinute time offset ↔ (minute : Int) = (time / 1000 + offset) / 60 % 1440 := by
  unfold localMinute
  omega

/-- What both clocks say at two instants where local clocks are `offset` seconds ahead. -/
structure ClocksAgree (offset time other : Int) : Prop where
  /-- The text of either clock is well formed, and it stands for the local minute and no other. -/
  reads_iff : ∀ (style : ClockStyle) (minute : Nat),
    style.Reads (style.textAt time offset).toList minute ↔
      (minute : Int) = (time / 1000 + offset) / 60 % 1440
  /-- Either clock tells two instants apart if their local minutes differ. -/
  textAt_eq_iff : ∀ style : ClockStyle,
    style.textAt time offset = style.textAt other offset ↔
      (time / 1000 + offset) / 60 % 1440 = (other / 1000 + offset) / 60 % 1440
  /-- So one clock tells apart what the other does. -/
  styles : ClockStyle.textAt .twelveHour time offset = ClockStyle.textAt .twelveHour other offset ↔
    ClockStyle.textAt .twentyFourHour time offset = ClockStyle.textAt .twentyFourHour other offset

/-- **Both clocks name the local minute.** It does not matter how far local clocks are ahead, or
whether the instants lie before the epoch or within a second. -/
theorem clocksAgree {offset time other : Int} (nameable : isNameable time = true)
    (otherNameable : isNameable other = true) : ClocksAgree offset time other := by
  have reads : ∀ (style : ClockStyle) {time : Int}, isNameable time = true → ∀ minute : Nat,
      style.Reads (style.textAt time offset).toList minute ↔
        (minute : Int) = (time / 1000 + offset) / 60 % 1440 := by
    intro style time nameable minute
    rw [style.textAt_of_isNameable nameable, style.reads_iff (localMinute_lt time offset),
      localMinute_eq_iff]
  have same : ∀ style : ClockStyle, style.textAt time offset = style.textAt other offset ↔
      (time / 1000 + offset) / 60 % 1440 = (other / 1000 + offset) / 60 % 1440 := by
    intro style
    constructor
    · intro eq
      have own := (reads style nameable _).mpr (localMinute_eq_iff.mp rfl)
      rw [eq, reads style otherNameable] at own
      exact (localMinute_eq_iff.mp rfl).symm.trans own
    · intro eq
      have minutes : localMinute time offset = localMinute other offset := by
        rw [localMinute_eq_iff, ← eq]
        exact localMinute_eq_iff.mp rfl
      rw [style.textAt_of_isNameable nameable, style.textAt_of_isNameable otherNameable, minutes]
  exact ⟨fun style => reads style nameable, same, (same _).trans (same _).symm⟩

/-- Where local clocks are nineteen minutes and 32 seconds ahead, it is nineteen minutes past
midnight one millisecond before the epoch and one before the end of the day that follows. -/
theorem clocksAgree_beforeEpoch :
    isNameable (-1) = true ∧ isNameable 86399999 = true ∧ ClocksAgree 1172 (-1) 86399999 :=
  ⟨by decide, by decide, clocksAgree (by decide) (by decide)⟩

example : ClockStyle.textAt .twelveHour (-1) 1172 = "12:19 AM" := by decide

end PermissionScreen
