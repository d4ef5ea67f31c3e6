/-!
When an app used its groups. Reports come from the system, several for one app and several uses of
one group among them; the records keep one time for each group of one app.
-/

namespace PermissionScreen

/-- A use of a group: when it was last accessed, in milliseconds since the epoch. Zero stands for
no access. -/
structure GroupUsage where
  group : String
  lastAccess : Int64 := 0
  deriving DecidableEq, Repr

/-- A report of the uses of an app. -/
structure AppUsage where
  package : String
  groups : List GroupUsage := []
  deriving DecidableEq, Repr

/-- The milliseconds of a day. -/
def dayMillis : Int := 86400000

/-- The time from which uses count: some days back, but not before the epoch. -/
def lookbackBegin (now : Int) (days : Nat) : Int := max (now - days * dayMillis) 0

/-- Puts a time for a group into a list with one time for each group. -/
def putTime (group : String) (time : Int64) : List (String × Int64) → List (String × Int64)
  | [] => [(group, time)]
  | entry :: rest =>
      if entry.1 = group then (group, time) :: rest else entry :: putTime group time rest

theorem map_fst_putTime (group : String) (time : Int64) (entries : List (String × Int64)) :
    (putTime group time entries).map Prod.fst =
      if group ∈ entries.map Prod.fst then entries.map Prod.fst
      else entries.map Prod.fst ++ [group] := by
  induction entries with
  | nil => simp [putTime]
  | cons entry rest ih =>
    unfold putTime
    split
    · simp_all
    · rename_i h
      simp only [List.map_cons, ih, List.mem_cons, Ne.symm h, false_or]
      split <;> simp

/-- The time of the last access to each group that has one. -/
structure Records where
  entries : List (String × Int64)
  distinct : (entries.map Prod.fst).Nodup

namespace Records

def empty : Records := ⟨[], List.nodup_nil⟩

instance : DecidableEq Records := fun left right =>
  decidable_of_iff (left.entries = right.entries)
    ⟨fun h => by cases left; cases right; congr, fun h => h ▸ rfl⟩

/-- Records a time for a group, in place of the one recorded before. -/
def insert (records : Records) (group : String) (time : Int64) : Records where
  entries := putTime group time records.entries
  distinct := by
    rw [map_fst_putTime]
    split
    · exact records.distinct
    · rename_i h
      rw [List.nodup_append]
      refine ⟨records.distinct, by simp, ?_⟩
      rintro a ha b hb rfl
      simp only [List.mem_singleton] at hb
      exact h (hb ▸ ha)

/-- The time recorded for a group. -/
def lastAccess (records : Records) (group : String) : Option Int64 :=
  (records.entries.find? (·.1 = group)).map (·.2)

def size (records : Records) : Nat := records.entries.length

def isEmpty (records : Records) : Bool := records.entries.isEmpty

/-- Forgets everything. -/
def clear (_ : Records) : Records := empty

/-- Whether a use counts: it has a time, and not one before `since`. -/
def counts (since : Int) (usage : GroupUsage) : Bool :=
  usage.lastAccess ≠ 0 && since ≤ usage.lastAccess.toInt

/-- The uses of a package that count, in the order of the reports. -/
def countedUsages (usages : List AppUsage) (package : String) (since : Int) : List GroupUsage :=
  ((usages.filter (·.package = package)).flatMap (·.groups)).filter (counts since)

/-- Records uses one after the other; the last one of a group stays. -/
def insertAll (records : Records) (usages : List GroupUsage) : Records :=
  usages.foldl (fun records usage => records.insert usage.group usage.lastAccess) records

/-- Records the reports anew. -/
def rebuild (records : Records) (usages : List AppUsage) (package : String) (since : Int) :
    Records :=
  records.clear.insertAll (countedUsages usages package since)

/-- The records of the reports. -/
def extract (usages : List AppUsage) (package : String) (since : Int) : Records :=
  empty.rebuild usages package since

@[simp] theorem lastAccess_empty (group : String) : empty.lastAccess group = none := rfl

theorem lastAccess_insert (records : Records) (group other : String) (time : Int64) :
    (records.insert group time).lastAccess other =
      if other = group then some time else records.lastAccess other := by
  obtain ⟨entries, distinct⟩ := records
  simp only [lastAccess, insert]
  clear distinct
  induction entries with
  | nil =>
    by_cases h : other = group
    · simp [putTime, h]
    · simp [putTime, h, Ne.symm h]
  | cons entry rest ih =>
    by_cases same : entry.1 = group
    · by_cases h : other = group
      · simp [putTime, same, h]
      · simp [putTime, same, h, Ne.symm h]
    · by_cases h : entry.1 = other
      · have : other ≠ group := fun e => same (h.trans e)
        simp [putTime, h, this]
      · simpa [putTime, same, h] using ih

end Records

/-- The reports of a source that has them all at hand, less the uses before `since`. A report whose
uses are all dropped stays. -/
def loadUsages (usages : List AppUsage) (since : Int) : List AppUsage :=
  usages.map fun app =>
    { app with groups := app.groups.filter fun usage => since ≤ usage.lastAccess.toInt }

end PermissionScreen
