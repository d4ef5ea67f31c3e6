import PermissionScreen.Proofs.Json.Records
import PermissionScreen.Proofs.Sorting.Keyed

/-!
Values that are recovered from what is written for them.

`Recovers` says of a decoder that it takes a value out of a tree that is written for it. It is proved
for texts, truth values and whole numbers, and carried over to lists, choices and records; what stands
for the fields of a record is put together field by field (`Fields.Mirrors`).
-/

namespace PermissionScreen.Json

variable {α β : Type}

/-- A tree that can be written, and from which the value is decoded. -/
structure Recovers (decode : Decoder α) (tree : Tree) (value : α) : Prop where
  written : tree.Written
  decodes : decode tree = .ok value

/-! ### Single values -/

theorem recovers_text (value : String) : Recovers decodeText (.text value) value :=
  ⟨.text value, rfl⟩

theorem recovers_bool (value : Bool) : Recovers decodeBool (.bool value) value :=
  ⟨.bool value, rfl⟩

/-- Whole numbers between bounds that 64 bits hold. -/
theorem recovers_whole {ofInt : Int → α} {least greatest whole : Int} {expected : String}
    (narrow : Int64.minValue.toInt ≤ least ∧ greatest < UInt64.size) (lower : least ≤ whole)
    (upper : whole ≤ greatest) :
    Recovers (fun tree => (decodeWhole least greatest expected tree).map ofInt) (.int whole)
      (ofInt whole) where
  written := .int (Int.le_trans narrow.1 lower) (Int.lt_of_le_of_lt upper narrow.2)
  decodes := by
    have inside : decodeWhole least greatest expected (.int whole) = .ok whole :=
      if_pos ⟨lower, upper⟩
    rw [inside]
    rfl

theorem recovers_int32 (value : Int32) : Recovers decodeInt32 (.int value.toInt) value := by
  have recovers : Recovers decodeInt32 (.int value.toInt) (.ofInt value.toInt) :=
    recovers_whole (by decide) value.le_toInt (Int.le_of_lt_add_one value.toInt_lt)
  rwa [Int32.ofInt_toInt] at recovers

theorem recovers_int64 (value : Int64) : Recovers decodeInt64 (.int value.toInt) value := by
  have recovers : Recovers decodeInt64 (.int value.toInt) (.ofInt value.toInt) :=
    recovers_whole (by decide) value.le_toInt (Int.le_of_lt_add_one value.toInt_lt)
  rwa [Int64.ofInt_toInt] at recovers

theorem recovers_uint32 (value : UInt32) : Recovers decodeUInt32 (.int value.toNat) value := by
  have upper : (value.toNat : Int) < UInt32.size := Int.ofNat_lt.mpr value.toNat_lt
  have recovers : Recovers decodeUInt32 (.int value.toNat) (.ofNat (value.toNat : Int).toNat) :=
    recovers_whole (by decide) (Int.natCast_nonneg _) (Int.le_sub_one_of_lt upper)
  rwa [Int.toNat_natCast, UInt32.ofNat_toNat] at recovers

theorem recovers_count {count : Nat} (fits : count < UInt64.size) :
    Recovers decodeCount (.int count) count :=
  recovers_whole (by decide) (Int.natCast_nonneg _) (Int.le_sub_one_of_lt (Int.ofNat_lt.mpr fits))

/-- A value of which something is made. -/
theorem Recovers.map {decode : Decoder α} {tree : Tree} {value : α}
    (recovers : Recovers decode tree value) (f : α → β) :
    Recovers (fun tree => (decode tree).map f) tree (f value) where
  written := recovers.written
  decodes := by
    rw [recovers.decodes]
    rfl

/-- A value in place of which there could be nothing. -/
theorem Recovers.some {decode : Decoder α} {tree : Tree} {value : α}
    (recovers : Recovers decode tree value) (present : tree ≠ .null) :
    Recovers (decodeOption decode) tree (some value) where
  written := recovers.written
  decodes := by
    have decodes := recovers.decodes
    unfold decodeOption
    split
    case h_1 => exact absurd rfl present
    case h_2 => rw [decodes]; rfl

theorem recovers_none (decode : Decoder α) : Recovers (decodeOption decode) .null none :=
  ⟨.null, rfl⟩

/-! ### Lists and maps -/

theorem mapM_map_eq_ok {γ : Type} {f : α → γ} {decode : γ → Except Fault β} {g : α → β}
    {values : List α} (each : ∀ value ∈ values, decode (f value) = .ok (g value)) :
    (values.map f).mapM decode = .ok (values.map g) := by
  induction values with
  | nil => rfl
  | cons value rest ih =>
    have first := each value List.mem_cons_self
    have behind := ih fun other mem => each other (List.mem_cons_of_mem _ mem)
    rw [List.map_cons, List.mapM_cons, first, behind]
    rfl

theorem Recovers.list {decode : Decoder α} {encode : α → Tree} {values : List α}
    (each : ∀ value ∈ values, Recovers decode (encode value) value) :
    Recovers (decodeList decode) (.list (values.map encode)) values where
  written := .list fun item mem => by
    obtain ⟨value, inList, rfl⟩ := List.mem_map.mp mem
    exact (each value inList).written
  decodes := by
    have items : (values.map encode).mapM decode = .ok (values.map id) :=
      mapM_map_eq_ok fun value mem => (each value mem).decodes
    rw [Tree.list, decodeList, items, List.map_id]
    rfl

theorem recovers_map {κ : Type} (name : κ → String) (encode : α → Tree)
    {decodeKey : String → Except Fault κ} {decode : Decoder α} {entries : List (κ × α)}
    (eachKey : ∀ entry ∈ entries, decodeKey (name entry.1) = .ok entry.1)
    (each : ∀ entry ∈ entries, Recovers decode (encode entry.2) entry.2) :
    Recovers (decodeMap decodeKey decode)
      (.record (entries.map fun entry => (name entry.1, encode entry.2))) entries where
  written := .record fun member mem => by
    obtain ⟨entry, listed, rfl⟩ := List.mem_map.mp mem
    exact (each entry listed).written
  decodes := by
    simp only [Tree.record, decodeMap, List.map_map]
    rw [mapM_map_eq_ok (g := id) fun entry mem => ?_]
    · rw [List.map_id]
      rfl
    · simp only [Function.comp_apply, eachKey entry mem, (each entry mem).decodes]
      rfl

/-! ### Choices -/

section Choices

variable {variants : List (Variant α)} {variant : Variant α} {name : String} {value : α}

/-- Where names are distinct, a variant is found by its name. -/
theorem findVariant_of_mem (distinct : (variants.map Variant.name).Nodup)
    (mem : variant ∈ variants) : findVariant variants variant.name = .ok variant := by
  rw [findVariant, (find?_key_eq_some_iff distinct).mpr ⟨mem, rfl⟩]

/-- A choice that is its name alone. -/
theorem Recovers.unit (distinct : (variants.map Variant.name).Nodup)
    (mem : .unit name value ∈ variants) : Recovers (decodeChoice variants) (.text name) value where
  written := .text name
  decodes := by
    have found : findVariant variants name = .ok (.unit name value) :=
      findVariant_of_mem distinct mem
    rw [decodeChoice, decodeName, found]
    rfl

/-- A choice between names. -/
theorem recovers_name {all : List α} {nameOf : α → String} (distinct : (all.map nameOf).Nodup)
    (mem : value ∈ all) :
    Recovers (decodeChoice (all.map fun value => .unit (nameOf value) value))
      (.text (nameOf value)) value := by
  refine .unit ?_ (List.mem_map_of_mem mem)
  rwa [List.map_map]

/-- A choice that carries data. -/
theorem Recovers.carrying {tree : Tree} (distinct : (variants.map Variant.name).Nodup)
    (mem : variant ∈ variants) (recovers : Recovers variant.decode tree value) :
    Recovers (decodeChoice variants) (.record [(variant.name, tree)]) value where
  written := .record fun member mem => by
    obtain rfl := List.mem_singleton.mp mem
    exact recovers.written
  decodes := by
    have found := findVariant_of_mem distinct mem
    simp only [Tree.record, List.map_cons, List.map_nil, decodeChoice, found]
    show (variant.decode tree >>= _) = _
    rw [recovers.decodes]
    rfl

end Choices

/-! ### Records -/

/-- Members that all have a name. -/
def named (members : List (String × Tree)) : List (Option String × Tree) :=
  members.map fun member => (some member.1, member.2)

theorem mem_named_iff {members : List (String × Tree)} {name : String} {tree : Tree} :
    (some name, tree) ∈ named members ↔ (name, tree) ∈ members := by
  simp [named]

theorem gives_named {names : List String} {members : List (String × Tree)}
    (distinct : (members.map Prod.fst).Nodup) : Gives names (named members) where
  named member mem := by
    obtain ⟨plain, _, rfl⟩ := List.mem_map.mp mem
    rfl
  once := by
    have written : (named members).filterMap Prod.fst = members.map Prod.fst := by
      simp [named, List.filterMap_map]
    rw [written]
    exact distinct.filter _

theorem membersSound_named {members : List (String × Tree)}
    (written : ∀ member ∈ members, member.2.Written) : membersSound (named members) = true := by
  refine membersSound_iff.mpr fun member mem => ?_
  obtain ⟨plain, listed, rfl⟩ := List.mem_map.mp mem
  exact (written plain listed).phrased.isSound

namespace Fields

/-- The members that are written for some fields. Each stands for a field of its own, in their order,
and the value is taken from them even where those of other fields stand around them. -/
structure Mirrors (fields : Fields α) (members : List (String × Tree)) (value : α) : Prop where
  names : (members.map Prod.fst).Sublist fields.names
  written : ∀ member ∈ members, member.2.Written
  takes {all : List (String × Tree)} : fields.names.Nodup → (all.map Prod.fst).Nodup →
    (∀ name ∈ fields.names, ∀ tree, (name, tree) ∈ all ↔ (name, tree) ∈ members) →
    fields.Takes (named all) value

variable {name : String} {decode : Decoder α} {absent absentItem : Option α} {tree : Tree}
  {value : α}

theorem mirrors_single (recovers : Recovers decode tree value) :
    (single name decode absent absentItem).Mirrors [(name, tree)] value where
  names := List.Sublist.refl _
  written member mem := by
    obtain rfl := List.mem_singleton.mp mem
    exact recovers.written
  takes {all} _ distinct agree := by
    have known : name ∈ [name] := List.mem_singleton_self name
    have mem : (some name, tree) ∈ named all :=
      mem_named_iff.mpr ((agree name known tree).mpr (List.mem_singleton_self _))
    exact takes_of_mem (gives_named distinct) known mem recovers.decodes

/-- A field may be left out if there is a value that stands for a missing one. -/
theorem mirrors_nothing : (single name decode (some value) absentItem).Mirrors [] value where
  names := List.nil_sublist _
  written := nofun
  takes _ _ agree := takes_of_absent fun tree mem => by
    have known : name ∈ [name] := List.mem_singleton_self name
    exact absurd ((agree name known tree).mp (mem_named_iff.mp mem)) List.not_mem_nil

theorem Mirrors.map {fields : Fields α} {members : List (String × Tree)}
    (mirrors : fields.Mirrors members value) (f : α → β) :
    (f <$> fields).Mirrors members (f value) where
  names := mirrors.names
  written := mirrors.written
  takes unique distinct agree := (mirrors.takes unique distinct agree).map f

theorem Mirrors.seq {functions : Fields (α → β)} {fields : Fields α} {f : α → β}
    {front back : List (String × Tree)} (first : functions.Mirrors front f)
    (second : fields.Mirrors back value) :
    (functions <*> fields).Mirrors (front ++ back) (f value) where
  names := by
    rw [List.map_append]
    exact first.names.append second.names
  written := List.forall_mem_append.mpr ⟨first.written, second.written⟩
  takes {all} unique distinct agree := by
    obtain ⟨inFront, inBack, apart⟩ := List.nodup_append.mp unique
    -- A name of a field on the one side is not the name of a member on the other.
    have ofFront : ∀ name ∈ functions.names, ∀ tree, (name, tree) ∉ back := by
      intro name known tree mem
      exact apart name known name (second.names.subset (List.mem_map_of_mem mem)) rfl
    have ofBack : ∀ name ∈ fields.names, ∀ tree, (name, tree) ∉ front := by
      intro name known tree mem
      exact apart name (first.names.subset (List.mem_map_of_mem mem)) name known rfl
    refine (first.takes inFront distinct fun name known tree => ?_).seq
      (second.takes inBack distinct fun name known tree => ?_)
    · rw [agree name (List.mem_append_left _ known), List.mem_append,
        or_iff_left (ofFront name known tree)]
    · rw [agree name (List.mem_append_right _ known), List.mem_append,
        or_iff_right (ofBack name known tree)]

/-- The first field of a record, and each one after it. -/
theorem mirrors_first (f : α → β) (recovers : Recovers decode tree value) :
    (f <$> single name decode absent absentItem).Mirrors [(name, tree)] (f value) :=
  (mirrors_single recovers).map f

theorem Mirrors.next {functions : Fields (α → β)} {f : α → β} {front : List (String × Tree)}
    (first : functions.Mirrors front f) (recovers : Recovers decode tree value) :
    (functions <*> single name decode absent absentItem).Mirrors (front ++ [(name, tree)])
      (f value) :=
  first.seq (mirrors_single recovers)

/-- A record is recovered from the members that are written for its fields. -/
theorem Mirrors.recovers {kind : String} {fields : Fields α} {members : List (String × Tree)}
    (mirrors : fields.Mirrors members value) (unique : fields.names.Nodup) :
    Recovers (decodeRecord kind fields) (.record members) value where
  written := .record mirrors.written
  decodes := by
    have distinct := unique.sublist mirrors.names
    have takes := mirrors.takes unique distinct fun _ _ _ => Iff.rfl
    exact decodeRecord_of_takes (gives_named distinct) (membersSound_named mirrors.written) takes

end Fields

end PermissionScreen.Json
