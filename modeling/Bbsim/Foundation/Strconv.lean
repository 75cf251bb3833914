import Bbsim.Foundation.DecimalText

/-! Numbers that are read of texts. `ParseUint` and `Atoi` with base 10 and 64 bits. Both take
leading zeros; a sign is taken by `Atoi` only, and underscores by none. -/

namespace Bbsim.Foundation

def decimal (chars : List Char) : Option Nat :=
  if chars ≠ [] ∧ chars.all Char.isDigit = true then some (Nat.ofDigitChars 10 chars 0) else none

/-- `ParseUint` with this bit size. -/
def parseUint (bits : Nat) (text : String) : Option Nat :=
  (decimal text.toList).filter fun number => number < 2 ^ bits

def signed : List Char → Option Int
  | '-' :: digits => (decimal digits).map fun number => -number
  | '+' :: digits => (decimal digits).map Nat.cast
  | digits => (decimal digits).map Nat.cast

def atoi (text : String) : Option Int :=
  (signed text.toList).filter fun number => -2 ^ 63 ≤ number ∧ number < 2 ^ 63

theorem decimal_of_digits {text : String} (digits : ∀ char ∈ text.toList, char.isDigit = true)
    (nonempty : text ≠ "") : decimal text.toList = text.toNat? := by
  rw [toNat?_of_digits digits nonempty, decimal,
    if_pos ⟨by simpa using nonempty, List.all_eq_true.mpr digits⟩]

/-- No sign is a digit. -/
theorem signed_of_digits {chars : List Char} (digits : ∀ char ∈ chars, char.isDigit = true) :
    signed chars = (decimal chars).map Nat.cast := by
  unfold signed
  split
  · cases digits '-' (List.mem_cons_self ..)
  · cases digits '+' (List.mem_cons_self ..)
  · rfl

theorem atoi_of_digits {text : String} {number : Nat} (digits : ∀ char ∈ text.toList, char.isDigit = true)
    (nonempty : text ≠ "") (read : text.toNat? = some number) (small : number < 2 ^ 63) :
    atoi text = some number := by
  rw [atoi, signed_of_digits digits, decimal_of_digits digits nonempty, read, Option.map_some,
    Option.filter_some]
  exact if_pos (decide_eq_true ⟨by omega, by omega⟩)

theorem toString_ne_empty (number : Nat) : toString number ≠ "" := by
  intro empty
  have length := toString_length number
  rw [empty] at length
  exact (digitCount_pos number).ne length

theorem atoi_toString {number : Nat} (small : number < 2 ^ 63) : atoi (toString number) = some number :=
  atoi_of_digits (fun _ => isDigit_of_mem_toString) (toString_ne_empty number) (by simp) small

theorem parseUint_toString {bits number : Nat} (small : number < 2 ^ bits) :
    parseUint bits (toString number) = some number := by
  rw [parseUint, decimal_of_digits (fun _ => isDigit_of_mem_toString) (toString_ne_empty number),
    show (toString number).toNat? = some number by simp, Option.filter_some]
  exact if_pos (decide_eq_true small)

end Bbsim.Foundation
