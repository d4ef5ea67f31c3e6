import PermissionScreen.Usage.Zone

/-!
The time of day as text, by a clock of twelve hours or of twenty-four.
-/

namespace PermissionScreen

inductive ClockStyle where
  | twelveHour
  | twentyFourHour
  deriving DecidableEq, Repr

/-- A number below hundred in two digits. -/
def twoDigits (n : Nat) : String := (if n < 10 then "0" else "") ++ toString n

/-- The time of day, given in minutes since midnight. -/
def ClockStyle.text : ClockStyle → Nat → String
  | .twentyFourHour, minute => twoDigits (minute / 60) ++ ":" ++ twoDigits (minute % 60)
  | .twelveHour, minute =>
      let hour := minute / 60 % 12
      toString (if hour = 0 then 12 else hour) ++ ":" ++ twoDigits (minute % 60) ++
        if minute / 60 < 12 then " AM" else " PM"

/-- The local minute of the day. -/
def localMinute (time offset : Int) : Nat := ((time / 1000 + offset) / 60 % 1440).toNat

/-- The local time of day of an instant; nothing if no calendar can name it. -/
def ClockStyle.textAt (style : ClockStyle) (time offset : Int) : String :=
  if isNameable time then style.text (localMinute time offset) else ""

theorem localMinute_lt (time offset : Int) : localMinute time offset < 1440 := by
  unfold localMinute
  omega

end PermissionScreen
