import PermissionScreen.Usage.Records
import PermissionScreen.Usage.Zone

/-!
How long ago a group was used. Only the last 24 hours count; for a sensor they are told apart by
the local midnight, for other groups they are not.
-/

namespace PermissionScreen

inductive Recency where
  | sensorToday
  | sensorYesterday
  | contentProviderRecent
  | notRecent
  deriving DecidableEq, Repr

namespace Recency

def isRecent : Recency → Bool
  | .notRecent => false
  | _ => true

/-- The recency in words. -/
def description : Recency → String
  | .sensorToday => "Sensor today"
  | .sensorYesterday => "Sensor yesterday"
  | .contentProviderRecent => "Recent"
  | .notRecent => "Not recent"

end Recency

/-- The recency of the last access to a group, for a clock and zone. -/
def classify (zone : Zone) (now : Int) (lastAccess : Option Int) (isSensor : Bool) : Recency :=
  match lastAccess with
  | none => .notRecent
  | some time =>
      if time < now - dayMillis then .notRecent
      else if !isSensor then .contentProviderRecent
      else if zone.localMidnight now ≤ time then .sensorToday
      else .sensorYesterday

theorem classify_eq_notRecent_iff (zone : Zone) (now time : Int) (isSensor : Bool) :
    classify zone now (some time) isSensor = .notRecent ↔ time < now - dayMillis := by
  simp only [classify]
  split
  · simp [*]
  · cases isSensor
    · simp [*]
    · simp only [*, Bool.not_true, Bool.false_eq_true, if_false]
      split <;> simp

end PermissionScreen
