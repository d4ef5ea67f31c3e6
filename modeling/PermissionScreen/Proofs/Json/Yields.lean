import PermissionScreen.Json.Record

/-!
What holds of everything that is decoded.

`Yields` says that whatever a decoder gives has a property, whichever tree it is given. It is carried
over from the parts to lists, choices and records.
-/

namespace PermissionScreen.Json

variable {α β : Type} {P : α → Prop} {Q : β → Prop}

namespace Outcome

theorem map_eq_value_iff {outcome : Outcome α} {f : α → β} {b : β} :
    outcome.map f = .value b ↔ ∃ a, outcome = .value a ∧ f a = b := by
  cases outcome <;> simp [map]

theorem both_eq_value_iff {left : Outcome α} {right : Outcome β} {pair : α × β} :
    left.both right = .value pair ↔ left = .value pair.1 ∧ right = .value pair.2 := by
  cases left <;> cases right <;> simp [both, Prod.ext_iff]
  split <;> simp

theorem ofExcept_eq_value_iff {position : Nat} {result : Except Fault α} {a : α} :
    ofExcept position result = .value a ↔ result = .ok a := by
  cases result <;> simp [ofExcept]

theorem toExcept_eq_ok_iff {outcome : Outcome α} {a : α} :
    outcome.toExcept = .ok a ↔ outcome = .value a := by
  cases outcome <;> simp [toExcept]

end Outcome

theorem map_eq_ok_iff {result : Except Fault α} {f : α → β} {b : β} :
    result.map f = .ok b ↔ ∃ a, result = .ok a ∧ f a = b := by
  cases result <;> simp [Except.map]

theorem bind_eq_ok_iff {result : Except Fault α} {f : α → Except Fault β} {b : β} :
    (result >>= f) = .ok b ↔ ∃ a, result = .ok a ∧ f a = .ok b := by
  cases result <;> simp [bind, Except.bind]

/-- Whatever is decoded has the property. -/
def Yields (decode : Decoder α) (P : α → Prop) : Prop :=
  ∀ tree value, decode tree = .ok value → P value

theorem yields_count : Yields decodeCount (· < UInt64.size) := by
  intro tree count decoded
  obtain ⟨whole, taken, rfl⟩ := map_eq_ok_iff.mp decoded
  unfold decodeWhole at taken
  split at taken
  · split at taken
    case isTrue inside =>
      obtain rfl := Except.ok.inj taken
      omega
    case isFalse => exact absurd taken nofun
  · exact absurd taken nofun

theorem Yields.list {decode : Decoder α} (yields : Yields decode P) :
    Yields (decodeList decode) fun values => ∀ value ∈ values, P value := by
  have items : ∀ (trees : List Tree) values, trees.mapM decode = .ok values →
      ∀ value ∈ values, P value := by
    intro trees
    induction trees with
    | nil =>
      intro values decoded
      rw [List.mapM_nil] at decoded
      obtain rfl := Except.ok.inj decoded
      exact nofun
    | cons tree rest ih =>
      intro values decoded
      rw [List.mapM_cons] at decoded
      obtain ⟨first, ofFirst, decoded⟩ := bind_eq_ok_iff.mp decoded
      obtain ⟨others, ofRest, decoded⟩ := bind_eq_ok_iff.mp decoded
      obtain rfl := Except.ok.inj decoded
      exact List.forall_mem_cons.mpr ⟨yields tree first ofFirst, ih others ofRest⟩
  intro tree values decoded
  unfold decodeList at decoded
  split at decoded
  · obtain ⟨found, ofItems, decoded⟩ := bind_eq_ok_iff.mp decoded
    split at decoded
    · obtain rfl := Except.ok.inj decoded
      exact items _ found ofItems
    · exact absurd decoded nofun
  · exact absurd decoded nofun

theorem mem_of_findVariant {variants : List (Variant α)} {name : String} {variant : Variant α}
    (found : findVariant variants name = .ok variant) : variant ∈ variants := by
  unfold findVariant at found
  split at found
  · rename_i first eq
    obtain rfl := Except.ok.inj found
    exact List.mem_of_find?_eq_some eq
  · exact absurd found nofun

/-- A choice has what each of its variants has. -/
theorem Yields.choice {variants : List (Variant α)}
    (each : ∀ variant ∈ variants, Yields variant.decode P) : Yields (decodeChoice variants) P := by
  intro tree value decoded
  unfold decodeChoice at decoded
  split at decoded
  · obtain ⟨variant, found, decoded⟩ := bind_eq_ok_iff.mp decoded
    split at decoded
    · exact each variant (mem_of_findVariant found) _ value decoded
    · exact absurd decoded nofun
  · obtain ⟨variant, found, decoded⟩ := bind_eq_ok_iff.mp decoded
    obtain ⟨carried, ofTree, decoded⟩ := bind_eq_ok_iff.mp decoded
    split at decoded
    · obtain rfl := Except.ok.inj decoded
      exact each variant (mem_of_findVariant found) _ carried ofTree
    · exact absurd decoded nofun
  · exact absurd decoded nofun

/-! ### Records -/

/-- Whatever is taken for these fields has the property. -/
structure Fields.Yields (fields : Fields α) (P : α → Prop) : Prop where
  ofMembers : ∀ members value, fields.ofMembers members = .value value → P value
  ofItems : ∀ expected before items value,
    fields.ofItems expected before items = .value value → P value

namespace Fields

theorem yields_true (fields : Fields α) : fields.Yields fun _ => True :=
  ⟨fun _ _ _ => trivial, fun _ _ _ _ _ => trivial⟩

theorem yields_required {name : String} {decode : Decoder α} (yields : Json.Yields decode P) :
    (required name decode).Yields P where
  ofMembers members value taken := by
    simp only [required, single] at taken
    cases found : findMember name members with
    | none => rw [found] at taken; exact absurd taken nofun
    | some member =>
      rw [found] at taken
      exact yields _ value (Outcome.ofExcept_eq_value_iff.mp taken)
  ofItems expected before items value taken := by
    simp only [required, single] at taken
    cases found : items[before]? with
    | none => rw [found] at taken; exact absurd taken nofun
    | some tree =>
      rw [found] at taken
      exact yields _ value (Outcome.ofExcept_eq_value_iff.mp taken)

theorem Yields.map {fields : Fields α} {f : α → β} (yields : fields.Yields P)
    (carries : ∀ value, P value → Q (f value)) : (f <$> fields).Yields Q where
  ofMembers members value taken := by
    obtain ⟨found, first, rfl⟩ := Outcome.map_eq_value_iff.mp taken
    exact carries found (yields.ofMembers members found first)
  ofItems expected before items value taken := by
    obtain ⟨found, first, rfl⟩ := Outcome.map_eq_value_iff.mp taken
    exact carries found (yields.ofItems expected before items found first)

theorem Yields.seq {functions : Fields (α → β)} {fields : Fields α}
    (first : functions.Yields fun f => ∀ value, P value → Q (f value))
    (second : fields.Yields P) : (functions <*> fields).Yields Q where
  ofMembers members value taken := by
    obtain ⟨pair, both, rfl⟩ := Outcome.map_eq_value_iff.mp taken
    obtain ⟨left, right⟩ := Outcome.both_eq_value_iff.mp both
    exact first.ofMembers _ _ left _ (second.ofMembers _ _ right)
  ofItems expected before items value taken := by
    obtain ⟨pair, both, rfl⟩ := Outcome.map_eq_value_iff.mp taken
    obtain ⟨left, right⟩ := Outcome.both_eq_value_iff.mp both
    exact first.ofItems _ _ _ _ left _ (second.ofItems _ _ _ _ right)

/-- A field of which nothing has to be known. -/
theorem Yields.seq_any {functions : Fields (α → β)} {fields : Fields α}
    (first : functions.Yields fun f => ∀ value, Q (f value)) : (functions <*> fields).Yields Q := by
  refine seq (P := fun _ => True) ⟨?_, ?_⟩ fields.yields_true
  · intro members f taken value _
    exact first.ofMembers members f taken value
  · intro expected before items f taken value _
    exact first.ofItems expected before items f taken value

end Fields

theorem Yields.record {kind : String} {fields : Fields α} (yields : fields.Yields P) :
    Yields (decodeRecord kind fields) P := by
  intro tree value decoded
  unfold decodeRecord at decoded
  split at decoded
  · obtain ⟨pair, both, rfl⟩ := map_eq_ok_iff.mp decoded
    have taken := Outcome.both_eq_value_iff.mp (Outcome.toExcept_eq_ok_iff.mp both)
    exact yields.ofMembers _ _ taken.2
  · obtain ⟨pair, both, rfl⟩ := map_eq_ok_iff.mp decoded
    have taken := Outcome.both_eq_value_iff.mp (Outcome.toExcept_eq_ok_iff.mp both)
    exact yields.ofItems _ _ _ _ taken.2
  · exact absurd decoded nofun

end PermissionScreen.Json
