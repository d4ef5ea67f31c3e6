import PermissionScreen.Json.Record
import PermissionScreen.Proofs.Json.Writing

/-!
Taking records from objects.

An object gives a record if each field is given at most once, and if what it holds besides is sound
(`Gives`). Then there is no fault in the object as a whole, and the record is taken from it as soon as
each field is taken on its own (`decodeRecord_of_takes`). `Fields.Takes` says of some fields that they
are taken; it is put together along the way in which the fields are.
-/

namespace PermissionScreen.Json

variable {α β : Type} {names : List String} {name : String} {tree : Tree}
  {members : List (Option String × Tree)}

/-! ### Members -/

/-- Members of a record that has fields of these names: each has a name, and no field is given
twice. -/
structure Gives (names : List String) (members : List (Option String × Tree)) : Prop where
  named : ∀ member ∈ members, member.1.isSome = true
  once : ((members.filterMap Prod.fst).filter (· ∈ names)).Nodup

theorem names_cons (members : List (Option String × Tree)) :
    ((some name, tree) :: members).filterMap Prod.fst = name :: members.filterMap Prod.fst :=
  rfl

theorem findMember_eq_none_iff :
    findMember name members = none ↔ ∀ tree, (some name, tree) ∉ members := by
  induction members with
  | nil => simp [findMember]
  | cons member rest ih =>
    obtain ⟨candidate, value⟩ := member
    by_cases same : candidate = some name
    · subst same
      simp only [findMember, if_true, reduceCtorEq, false_iff, not_forall, not_not]
      exact ⟨value, List.mem_cons_self⟩
    · rw [findMember, if_neg same, Option.map_eq_none_iff, ih]
      refine forall_congr' fun tree => ?_
      rw [List.mem_cons, not_or, Prod.mk.injEq, and_iff_right]
      exact fun eq => same eq.1.symm

theorem mem_of_findMember {position : Nat} (found : findMember name members = some (position, tree)) :
    (some name, tree) ∈ members := by
  induction members generalizing position with
  | nil => exact absurd found nofun
  | cons member rest ih =>
    obtain ⟨candidate, value⟩ := member
    by_cases same : candidate = some name
    · rw [findMember, if_pos same, Option.some.injEq, Prod.mk.injEq] at found
      rw [same, ← found.2]
      exact List.mem_cons_self
    · rw [findMember, if_neg same] at found
      obtain ⟨⟨before, behind⟩, later, eq⟩ := Option.map_eq_some_iff.mp found
      obtain ⟨_, rfl⟩ := Prod.mk.inj eq
      exact List.mem_cons_of_mem _ (ih later)

/-- A field that is given once has one value. -/
theorem Gives.eq_of_mem (gives : Gives names members) (known : name ∈ names) {other : Tree}
    (first : (some name, tree) ∈ members) (second : (some name, other) ∈ members) :
    tree = other := by
  have once := gives.once
  clear gives
  induction members with
  | nil => exact absurd first List.not_mem_nil
  | cons member rest ih =>
    obtain ⟨candidate, value⟩ := member
    have inRest : ∀ {tree}, (some name, tree) ∈ rest →
        name ∈ (rest.filterMap Prod.fst).filter (· ∈ names) := by
      intro tree mem
      exact List.mem_filter.mpr ⟨List.mem_filterMap.mpr ⟨_, mem, rfl⟩, by simpa using known⟩
    cases candidate with
    | none =>
      have first := (List.mem_cons.mp first).resolve_left nofun
      have second := (List.mem_cons.mp second).resolve_left nofun
      exact ih first second once
    | some candidate =>
      rw [names_cons] at once
      by_cases same : candidate = name
      · subst same
        rw [List.filter_cons_of_pos (by simpa using known), List.nodup_cons] at once
        have unique : ∀ {tree}, (some candidate, tree) ∈ (some candidate, value) :: rest →
            tree = value := by
          intro tree mem
          rcases List.mem_cons.mp mem with eq | mem
          · exact (Prod.mk.inj eq).2
          · exact absurd (inRest mem) once.1
        rw [unique first, unique second]
      · have skip : ∀ {tree}, (some name, tree) ∈ (some candidate, value) :: rest →
            (some name, tree) ∈ rest := by
          intro tree mem
          refine (List.mem_cons.mp mem).resolve_left fun eq => same ?_
          exact (Option.some.inj (Prod.mk.inj eq).1).symm
        refine ih (skip first) (skip second) (once.sublist ?_)
        exact (List.sublist_cons_self _ _).filter _

/-- It is found by its name. -/
theorem Gives.exists_findMember (gives : Gives names members) (known : name ∈ names)
    (mem : (some name, tree) ∈ members) :
    ∃ position, findMember name members = some (position, tree) := by
  cases found : findMember name members with
  | none => exact absurd mem (findMember_eq_none_iff.mp found tree)
  | some member =>
    obtain ⟨position, other⟩ := member
    rw [gives.eq_of_mem known mem (mem_of_findMember found)]
    exact ⟨position, rfl⟩

/-- An object has no fault of its own if each of its members has a name, no field is given twice, and
all of it is sound. -/
theorem checkMembers_eq_value {seen : List String} {position : Nat}
    (named : ∀ member ∈ members, member.1.isSome = true)
    (once : ((members.filterMap Prod.fst).filter (· ∈ names)).Nodup)
    (new : ∀ name ∈ members.filterMap Prod.fst, name ∉ seen)
    (sound : membersSound members = true) :
    checkMembers names seen true position members = .value () := by
  induction members generalizing seen position with
  | nil => rfl
  | cons member rest ih =>
    obtain ⟨candidate, value⟩ := member
    obtain ⟨candidate, rfl⟩ := Option.isSome_iff_exists.mp (named _ List.mem_cons_self)
    rw [names_cons] at once new
    obtain ⟨valueSound, sound⟩ := (Bool.and_eq_true _ _).mp sound
    have named : ∀ member ∈ rest, member.1.isSome = true :=
      fun member mem => named member (List.mem_cons_of_mem _ mem)
    have fresh := fun name mem => new name (List.mem_cons_of_mem _ mem)
    rw [checkMembers, if_neg (new candidate List.mem_cons_self)]
    by_cases known : candidate ∈ names
    · rw [List.filter_cons_of_pos (by simpa using known), List.nodup_cons] at once
      rw [if_pos known]
      refine ih named once.2 (fun name mem old => ?_) sound
      rcases List.mem_cons.mp old with rfl | old
      · exact once.1 (List.mem_filter.mpr ⟨mem, by simpa using known⟩)
      · exact fresh name mem old
    · rw [List.filter_cons_of_neg (by simpa using known)] at once
      rw [if_neg known, if_pos valueSound]
      exact ih named once fresh sound

/-! ### Fields -/

namespace Fields

/-- A value is taken for these fields from the members of an object. -/
def Takes (fields : Fields α) (members : List (Option String × Tree)) (value : α) : Prop :=
  fields.ofMembers members = .value value

theorem Takes.map {fields : Fields α} {value : α} (takes : fields.Takes members value)
    (f : α → β) : (f <$> fields).Takes members (f value) :=
  congrArg (Outcome.map f) takes

theorem Takes.seq {functions : Fields (α → β)} {fields : Fields α} {f : α → β} {value : α}
    (first : functions.Takes members f) (second : fields.Takes members value) :
    (functions <*> fields).Takes members (f value) := by
  show Outcome.map _ ((functions.ofMembers members).both (fields.ofMembers members)) = _
  rw [first, second]
  rfl

variable {decode : Decoder α} {absent absentItem : Option α} {value : α}

theorem takes_of_mem (gives : Gives names members) (known : name ∈ names)
    (mem : (some name, tree) ∈ members) (decodes : decode tree = .ok value) :
    (single name decode absent absentItem).Takes members value := by
  obtain ⟨position, found⟩ := gives.exists_findMember known mem
  simp only [Takes, single, found, decodes]
  rfl

theorem takes_of_absent (missing : ∀ tree, (some name, tree) ∉ members) :
    (single name decode (some value) absentItem).Takes members value := by
  simp only [Takes, single, findMember_eq_none_iff.mpr missing]

/-- A family of fields is taken field by field. -/
theorem takes_family {κ : Type} [DecidableEq κ] {keys : List κ} {field : κ → Fields α}
    {default values : κ → α} (each : ∀ key ∈ keys, (field key).Takes members (values key))
    (others : ∀ key, key ∉ keys → values key = default key) :
    (family keys field default).Takes members values := by
  induction keys generalizing values with
  | nil =>
    obtain rfl : values = default := funext fun key => others key List.not_mem_nil
    rfl
  | cons key rest ih =>
    let later := fun other => if other ∈ rest then values other else default other
    have rest_takes : (family rest field default).Takes members later := by
      refine ih (fun other mem => ?_) fun other absent => if_neg absent
      show (field other).Takes members (if other ∈ rest then values other else default other)
      rw [if_pos mem]
      exact each other (List.mem_cons_of_mem _ mem)
    have first := each key List.mem_cons_self
    show Outcome.map _ (((field key).ofMembers members).both
      ((family rest field default).ofMembers members)) = _
    rw [first, rest_takes]
    refine congrArg Outcome.value (funext fun other => ?_)
    by_cases same : other = key
    · simp [same]
    · by_cases mem : other ∈ rest
      · simp [same, later, mem]
      · have neither : other ∉ key :: rest := by simp [same, mem]
        simp [same, later, mem, others other neither]

end Fields

/-- A record is taken from an object that gives it, if its fields are. -/
theorem decodeRecord_of_takes {kind : String} {fields : Fields α} {value : α}
    (gives : Gives fields.names members) (sound : membersSound members = true)
    (takes : fields.Takes members value) :
    decodeRecord kind fields (.object members true) = .ok value := by
  have whole : checkMembers fields.names [] true 0 members = .value () :=
    checkMembers_eq_value gives.named gives.once (fun _ _ => List.not_mem_nil) sound
  simp only [decodeRecord, whole]
  rw [show fields.ofMembers members = .value value from takes]
  rfl

/-- What is decoded from a value is decoded from every text that spells it. -/
theorem decodeDocument_of_spelled {decode : Decoder α} {text : String} {value : α}
    (spelled : Spelled tree text) (decodes : decode tree = .ok value) :
    decodeDocument decode (Document.ofText text) = .ok value := by
  rw [ofText_of_spelled spelled, decodeDocument, decodes]
  rfl

end PermissionScreen.Json
