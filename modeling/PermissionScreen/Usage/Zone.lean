/-!
Time zones. An instant is counted in milliseconds since the epoch, an offset in seconds east of
it. A zone has one offset, or one up to some second and another from then on. A local time may then
be read twice, or not at all: its readings are the seconds at which clocks show it
(`mem_readings_iff`). A calendar ends, and a local time near its end may have readings that it
cannot name.
-/

namespace PermissionScreen

/-- The seconds of a day. -/
def daySeconds : Int := 86400

/-- The instants that a calendar can name. -/
def firstInstant : Int := -8334601228800000

def lastInstant : Int := 8210266876799999

/-- Whether a calendar can name an instant. -/
def isNameable (time : Int) : Bool := firstInstant ≤ time && time ≤ lastInstant

inductive Zone where
  | fixed (offset : Int)
  /-- The offset is `before` for seconds before `at` and `after` from then on. -/
  | shifting (moment before after : Int)
  deriving DecidableEq, Repr

namespace Zone

/-- The offset at a second. -/
def offsetAt : Zone → Int → Int
  | .fixed offset, _ => offset
  | .shifting moment before after, second => if second < moment then before else after

/-- The seconds at which local clocks show `wall`, in order. What clocks show is given as a count of
seconds since they showed the epoch. -/
def readings : Zone → Int → List Int
  | .fixed offset, wall => [wall - offset]
  | .shifting moment before after, wall =>
      [wall - before].filter (· < moment) ++ [wall - after].filter (moment ≤ ·)

/-- The earliest second at which local clocks show `wall`. There is none if a calendar cannot name
all of them. -/
def earliest? (zone : Zone) (wall : Int) : Option Int :=
  if (zone.readings wall).all fun second => isNameable (second * 1000) then
    (zone.readings wall).head?
  else none

/-- What local clocks show at an instant, in seconds. -/
def wallClock (zone : Zone) (now : Int) : Int :=
  now / 1000 + zone.offsetAt (now / 1000)

/-- The number of the local day of an instant. -/
def localDay (zone : Zone) (now : Int) : Int := zone.wallClock now / daySeconds

/-- The instant at which the local day of `now` starts. If clocks jump over midnight, or a calendar
cannot name it, the offset of `now` says when it would have been. -/
def localMidnight (zone : Zone) (now : Int) : Int :=
  let midnight := zone.localDay now * daySeconds
  match zone.earliest? midnight with
  | some second => second * 1000
  | none => (midnight - zone.offsetAt (now / 1000)) * 1000

theorem mem_readings_iff {zone : Zone} {wall second : Int} :
    second ∈ zone.readings wall ↔ second + zone.offsetAt second = wall := by
  cases zone with
  | fixed offset =>
    simp only [readings, offsetAt, List.mem_singleton]
    omega
  | shifting moment before after =>
    simp only [readings, offsetAt, List.mem_append, List.mem_filter, List.mem_singleton,
      decide_eq_true_eq]
    split <;> omega

theorem earliest?_mem {zone : Zone} {wall second : Int} (h : zone.earliest? wall = some second) :
    second ∈ zone.readings wall := by
  unfold earliest? at h
  split at h
  · exact List.mem_of_head? h
  · simp at h

theorem offsetAt_of_earliest? {zone : Zone} {wall second : Int}
    (h : zone.earliest? wall = some second) : second + zone.offsetAt second = wall :=
  mem_readings_iff.1 (earliest?_mem h)

end Zone
end PermissionScreen
