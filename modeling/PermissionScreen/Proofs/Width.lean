/-!
Which numbers a signed word holds. A calculation that stays among them comes to the same in words as
in whole numbers.
-/

namespace PermissionScreen

/-- Whether a signed word of so many bits holds a number. -/
def FitsWord (bits : Nat) (number : Int) : Prop :=
  (BitVec.intMin bits).toInt ≤ number ∧ number ≤ (BitVec.intMax bits).toInt

instance (bits : Nat) (number : Int) : Decidable (FitsWord bits number) :=
  inferInstanceAs (Decidable (_ ∧ _))

theorem fitsWord_32_iff {number : Int} :
    FitsWord 32 number ↔ -2147483648 ≤ number ∧ number ≤ 2147483647 :=
  Iff.rfl

theorem fitsWord_64_iff {number : Int} :
    FitsWord 64 number ↔ -9223372036854775808 ≤ number ∧ number ≤ 9223372036854775807 :=
  Iff.rfl

theorem fitsWord_int32 (word : Int32) : FitsWord 32 word.toInt :=
  ⟨word.minValue_le_toInt, word.toInt_le⟩

theorem fitsWord_int64 (word : Int64) : FitsWord 64 word.toInt :=
  ⟨word.minValue_le_toInt, word.toInt_le⟩

/-- A product that fits is what is calculated. -/
theorem toInt_mul_of_fitsWord {left right : Int32}
    (fits : FitsWord 32 (left.toInt * right.toInt)) :
    (left * right).toInt = left.toInt * right.toInt := by
  obtain ⟨least, greatest⟩ := fitsWord_32_iff.mp fits
  rw [Int32.toInt_mul]
  exact Int.bmod_eq_of_le (by omega) (by omega)

/-- Every number but the least has the one without its sign. -/
theorem toInt_abs {word : Int32} (noMinimum : word ≠ Int32.minValue) :
    word.abs.toInt = word.toInt.natAbs := by
  have bits : word.toBitVec ≠ BitVec.intMin 32 := fun eq => noMinimum (Int32.toBitVec_inj.mp eq)
  have abs : word.abs.toInt = word.toBitVec.abs.toInt := rfl
  rw [abs, BitVec.toInt_abs_eq_natAbs, if_neg bits]
  rfl

end PermissionScreen
