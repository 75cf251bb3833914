import Mathlib.Data.Nat.ModEq

/-! End-around carry. Sums of digits to a base, with the overflow added back in at the low end until
one digit is left. That digit is the sum modulo `base - 1`, where zero is left only of the sum zero. -/

namespace Bbsim.Foundation

variable {base value digit other : Nat}

/-- One round: the overflow is added to the low digit. -/
def carry (base value : Nat) : Nat := value / base + value % base

theorem carry_modEq (positive : 0 < base) : carry base value ≡ value [MOD base - 1] := by
  have split : value = carry base value + (base - 1) * (value / base) := by
    obtain ⟨below, rfl⟩ : ∃ below, base = below + 1 := ⟨base - 1, by omega⟩
    have whole := Nat.div_add_mod value (below + 1)
    rw [Nat.add_one_sub_one, carry]
    rw [Nat.add_mul, Nat.one_mul] at whole
    omega
  calc carry base value
    _ ≡ carry base value + (base - 1) * (value / base) [MOD base - 1] :=
      (Nat.add_modulus_mul_modEq_iff.mpr rfl).symm
    _ = value := split.symm

theorem carry_lt (digits : 2 ≤ base) (large : base ≤ value) : carry base value < value := by
  have overflow : 0 < value / base := Nat.div_pos large (by omega)
  have whole := Nat.div_add_mod value base
  have twice : 2 * (value / base) ≤ base * (value / base) := Nat.mul_le_mul_right _ digits
  unfold carry
  omega

theorem carry_eq_zero_iff : carry base value = 0 ↔ value = 0 := by
  constructor
  · intro zero
    obtain ⟨overflow, low⟩ := Nat.add_eq_zero_iff.mp zero
    have whole := Nat.div_add_mod value base
    rw [overflow, low] at whole
    omega
  · rintro rfl
    simp [carry]

/-- The digit that is left of a value. -/
structure IsFolded (base value digit : Nat) : Prop where
  small : digit < base
  residue : digit ≡ value [MOD base - 1]
  zero : digit = 0 ↔ value = 0

theorem isFolded_of_lt (small : value < base) : IsFolded base value value :=
  ⟨small, rfl, Iff.rfl⟩

/-- The invariant of the rounds. -/
theorem IsFolded.of_carry (folded : IsFolded base (carry base value) digit) :
    IsFolded base value digit :=
  ⟨folded.small, folded.residue.trans (carry_modEq (Nat.zero_lt_of_lt folded.small)),
    folded.zero.trans carry_eq_zero_iff⟩

/-- A value that is left over with its complement is all ones. -/
theorem IsFolded.complement (digits : 2 ≤ base) (folded : IsFolded base value digit)
    (left : IsFolded base (value + (base - 1 - digit)) other) : other = base - 1 := by
  have small := folded.small
  have whole : value + (base - 1 - digit) ≡ 0 [MOD base - 1] := by
    calc value + (base - 1 - digit)
      _ ≡ digit + (base - 1 - digit) [MOD base - 1] := folded.residue.symm.add_right _
      _ = base - 1 := by omega
      _ ≡ 0 [MOD base - 1] := by rw [Nat.ModEq, Nat.mod_self, Nat.zero_mod]
  obtain ⟨rounds, multiple⟩ := Nat.modEq_zero_iff_dvd.mp (left.residue.trans whole)
  -- the other multiple below the base is zero, which is left of zero only
  have nonzero : other ≠ 0 := by
    intro isZero
    have empty := left.zero.mp isZero
    have digitZero := folded.zero.mpr (by omega)
    omega
  have bound := left.small
  obtain rfl | more : rounds = 1 ∨ rounds = 0 ∨ 2 ≤ rounds := by omega
  · omega
  · obtain rfl | more := more
    · omega
    · have twice : (base - 1) * 2 ≤ (base - 1) * rounds := Nat.mul_le_mul_left _ more
      omega

end Bbsim.Foundation
