import Mathlib

/-! Decimals written one after the other. Numbers are printed without a separator and the text is
read back as one number. Nothing says where one number ends, so that digits can be taken from the
front of the second one and put behind the first. -/

namespace Bbsim.Foundation

def digitCount (number : Nat) : Nat := (Nat.toDigits 10 number).length

theorem digitCount_pos (number : Nat) : 0 < digitCount number := Nat.length_toDigits_pos

variable {number count : Nat}

theorem digitCount_le_iff (positive : 0 < count) :
    digitCount number ≤ count ↔ number < 10 ^ count :=
  Nat.length_toDigits_le_iff (by decide) positive

theorem lt_pow_digitCount (number : Nat) : number < 10 ^ digitCount number :=
  (digitCount_le_iff (digitCount_pos number)).mp (Nat.le_refl _)

/-- There is no leading zero. -/
theorem pow_le_of_lt_digitCount (positive : 0 < count) (more : count < digitCount number) :
    10 ^ count ≤ number := by
  by_contra small
  exact Nat.not_le.mpr more ((digitCount_le_iff positive).mpr (Nat.not_le.mp small))

theorem digitCount_of_lt_ten {number : Nat} (small : number < 10) : digitCount number = 1 := by
  have one := (digitCount_le_iff (by decide)).mpr (show number < 10 ^ 1 from small)
  have positive := digitCount_pos number
  omega

def joined (front back : Nat) : Nat := front * 10 ^ digitCount back + back

theorem joined_digit (front : Nat) {digit : Nat} (small : digit < 10) :
    joined front digit = front * 10 + digit := by
  rw [joined, digitCount_of_lt_ten small, Nat.pow_one]

/-- A block of digits in front stays in front. -/
theorem joined_block (block digits front back : Nat) :
    joined (block * 10 ^ digits + front) back =
      block * 10 ^ (digits + digitCount back) + joined front back := by
  rw [joined, joined, Nat.pow_add]
  ring

theorem joined_lt {front digits : Nat} (small : front < 10 ^ digits) (back : Nat) :
    joined front back < 10 ^ (digits + digitCount back) := by
  have backBound := lt_pow_digitCount back
  calc joined front back
    _ < front * 10 ^ digitCount back + 10 ^ digitCount back := Nat.add_lt_add_left backBound _
    _ = (front + 1) * 10 ^ digitCount back := by rw [Nat.add_mul, Nat.one_mul]
    _ ≤ 10 ^ digits * 10 ^ digitCount back := Nat.mul_le_mul_right _ small
    _ = _ := (Nat.pow_add ..).symm

/-- Digits from the front of `back` are put behind `front`. -/
structure Shifts (front back otherFront otherBack : Nat) : Prop where
  fewer : digitCount otherBack < digitCount back
  front : otherFront = front * 10 ^ (digitCount back - digitCount otherBack) +
    back / 10 ^ digitCount otherBack
  back : otherBack = back % 10 ^ digitCount otherBack

variable {front back otherFront otherBack : Nat}

/-- At least one digit that is not zero is shifted. -/
theorem Shifts.front_pos (shifts : Shifts front back otherFront otherBack) :
    0 < back / 10 ^ digitCount otherBack :=
  Nat.div_pos (pow_le_of_lt_digitCount (digitCount_pos _) shifts.fewer) (by positivity)

/-- Where `back` has one digit more, just that digit is shifted. -/
theorem Shifts.one_digit (shifts : Shifts front back otherFront otherBack)
    (one : digitCount back = digitCount otherBack + 1) :
    ∃ digit, 1 ≤ digit ∧ digit < 10 ∧ otherFront = front * 10 + digit := by
  refine ⟨back / 10 ^ digitCount otherBack, shifts.front_pos, ?_, ?_⟩
  · apply Nat.div_lt_of_lt_mul
    have bound := lt_pow_digitCount back
    rw [one] at bound
    exact bound
  · have front := shifts.front
    rw [one, Nat.add_sub_cancel_left, Nat.pow_one] at front
    exact front

private theorem place_unique {base high low otherHigh otherLow : Nat} (bound : low < base)
    (otherBound : otherLow < base) (same : high * base + low = otherHigh * base + otherLow) :
    high = otherHigh ∧ low = otherLow := by
  have positive : 0 < base := Nat.zero_lt_of_lt bound
  have first := (Nat.div_mod_unique positive).mpr ⟨Nat.add_comm low (base * high), bound⟩
  have second := (Nat.div_mod_unique positive).mpr ⟨Nat.add_comm otherLow (base * otherHigh), otherBound⟩
  rw [Nat.mul_comm base high, same, ← Nat.mul_comm base otherHigh] at first
  exact ⟨first.1.symm.trans second.1, first.2.symm.trans second.2⟩

theorem joined_eq_of_same_count (count : digitCount back = digitCount otherBack)
    (same : joined front back = joined otherFront otherBack) :
    front = otherFront ∧ back = otherBack := by
  have bound := lt_pow_digitCount back
  have otherBound := lt_pow_digitCount otherBack
  rw [joined, joined, ← count] at same
  rw [← count] at otherBound
  exact place_unique bound otherBound same

theorem joined_eq_iff_shifts (fewer : digitCount otherBack < digitCount back) :
    joined front back = joined otherFront otherBack ↔ Shifts front back otherFront otherBack := by
  have bound := lt_pow_digitCount otherBack
  -- the text of the first pair, cut where the second one is cut
  have cut : joined front back =
      (front * 10 ^ (digitCount back - digitCount otherBack) + back / 10 ^ digitCount otherBack) *
        10 ^ digitCount otherBack + back % 10 ^ digitCount otherBack := by
    have power : 10 ^ digitCount back =
        10 ^ (digitCount back - digitCount otherBack) * 10 ^ digitCount otherBack := by
      rw [← Nat.pow_add]
      congr 1
      omega
    have whole := Nat.div_add_mod back (10 ^ digitCount otherBack)
    rw [joined, power, Nat.add_mul, Nat.mul_assoc, Nat.mul_comm (back / _), Nat.add_assoc, whole]
  rw [cut, joined]
  constructor
  · intro same
    obtain ⟨frontEq, backEq⟩ := place_unique (Nat.mod_lt back (by positivity)) bound same
    exact ⟨fewer, frontEq.symm, backEq.symm⟩
  · rintro ⟨-, frontEq, backEq⟩
    rw [← frontEq, ← backEq]

/-- Two pairs give the same number exactly if they are the same, or digits are shifted. -/
theorem joined_eq_iff {front back otherFront otherBack : Nat} :
    joined front back = joined otherFront otherBack ↔
      (front = otherFront ∧ back = otherBack) ∨ Shifts front back otherFront otherBack ∨
        Shifts otherFront otherBack front back := by
  constructor
  · intro same
    rcases Nat.lt_trichotomy (digitCount back) (digitCount otherBack) with more | count | fewer
    · exact .inr (.inr ((joined_eq_iff_shifts more).mp same.symm))
    · exact .inl (joined_eq_of_same_count count same)
    · exact .inr (.inl ((joined_eq_iff_shifts fewer).mp same))
  · rintro (⟨rfl, rfl⟩ | shifts | shifts)
    · rfl
    · exact (joined_eq_iff_shifts shifts.fewer).mpr shifts
    · exact ((joined_eq_iff_shifts shifts.fewer).mpr shifts).symm

/-- The number that is read of the decimals of a list. -/
def joinedAll (numbers : List Nat) : Nat := numbers.foldl joined 0

theorem toNat?_of_digits {text : String} (digits : ∀ char ∈ text.toList, char.isDigit = true)
    (nonempty : text ≠ "") : text.toNat? = some (Nat.ofDigitChars 10 text.toList 0) := by
  have plain : text.toList.filter (· != '_') = text.toList := by
    refine List.filter_eq_self.mpr fun char member => ?_
    have digit := digits char member
    rw [bne_iff_ne]
    rintro rfl
    cases digit
  rw [String.toNat?_eq_some_ofDigitChars (String.isNat_of_isDigit nonempty digits), plain]

theorem ofDigitChars_toString (number start : Nat) :
    Nat.ofDigitChars 10 (toString number).toList start = joined start number := by
  rw [Nat.toString_eq_repr, Nat.toList_repr, Nat.ofDigitChars_eq_ofDigitChars_zero,
    Nat.ofDigitChars_ten_toDigits, joined, digitCount, Nat.mul_comm]

theorem ofDigitChars_join (numbers : List Nat) (start : Nat) :
    Nat.ofDigitChars 10 (String.join (numbers.map toString)).toList start =
      numbers.foldl joined start := by
  rw [String.toList_join]
  induction numbers generalizing start with
  | nil => exact Nat.ofDigitChars_nil
  | cons number rest ih =>
    rw [List.map_cons, List.flatMap_cons, Nat.ofDigitChars_append, ofDigitChars_toString, ih,
      List.foldl_cons]

theorem isDigit_of_mem_toString {number : Nat} {char : Char} (member : char ∈ (toString number).toList) :
    char.isDigit = true := by
  rw [Nat.toString_eq_repr, Nat.toList_repr] at member
  exact Nat.isDigit_of_mem_toDigits (by decide) (by decide) member

theorem toString_length (number : Nat) : (toString number).toList.length = digitCount number := by
  rw [Nat.toString_eq_repr, Nat.toList_repr, digitCount]

/-- The text of some numbers is read as one number. -/
theorem toNat?_join {numbers : List Nat} (nonempty : numbers ≠ []) :
    (String.join (numbers.map toString)).toNat? = some (joinedAll numbers) := by
  rw [toNat?_of_digits, ofDigitChars_join, joinedAll]
  · intro char member
    rw [String.toList_join, List.mem_flatMap] at member
    obtain ⟨text, made, member⟩ := member
    obtain ⟨number, -, rfl⟩ := List.mem_map.mp made
    exact isDigit_of_mem_toString member
  · intro empty
    obtain ⟨number, rest, rfl⟩ := List.exists_cons_of_ne_nil nonempty
    have length := congrArg (fun text : String => text.toList.length) empty
    have positive := digitCount_pos number
    rw [List.map_cons, String.toList_join, List.flatMap_cons, List.length_append, toString_length] at length
    change _ = 0 at length
    omega

theorem toNat?_append (front back : Nat) :
    (toString front ++ toString back).toNat? = some (joined front back) := by
  have text : toString front ++ toString back = String.join ([front, back].map toString) := by
    simp [String.join]
  have zero : joined 0 front = front := by rw [joined, Nat.zero_mul, Nat.zero_add]
  rw [text, toNat?_join (List.cons_ne_nil _ _), joinedAll, List.foldl_cons, zero, List.foldl_cons,
    List.foldl_nil]

end Bbsim.Foundation
