import Mathlib.Data.List.Basic

/-! Zero padding. Bytes filled up with zeros to a minimal size. Padding twice is padding to the
greater size, and the padding of a message behind a header is that of its body. -/

namespace Bbsim.Foundation

def padTo (size : Nat) (bytes : List UInt8) : List UInt8 :=
  bytes ++ List.replicate (size - bytes.length) 0

@[simp] theorem padTo_length (size : Nat) (bytes : List UInt8) :
    (padTo size bytes).length = max size bytes.length := by
  rw [padTo, List.length_append, List.length_replicate]
  omega

theorem padTo_of_le {size : Nat} {bytes : List UInt8} (long : size ≤ bytes.length) :
    padTo size bytes = bytes := by
  rw [padTo, Nat.sub_eq_zero_of_le long, List.replicate_zero, List.append_nil]

theorem padTo_append (header body : List UInt8) (size : Nat) :
    padTo (header.length + size) (header ++ body) = header ++ padTo size body := by
  rw [padTo, padTo, List.append_assoc, List.length_append, Nat.add_sub_add_left]

theorem padTo_padTo {small large : Nat} (less : small ≤ large) (bytes : List UInt8) :
    padTo large (padTo small bytes) = padTo large bytes := by
  rw [padTo, padTo_length, padTo, padTo, List.append_assoc, List.replicate_append_replicate]
  congr 2
  omega

/-- The bytes are written over those at the offset. -/
def overwrite (data : List UInt8) (offset : Nat) (bytes : List UInt8) : List UInt8 :=
  data.take offset ++ bytes ++ data.drop (offset + bytes.length)

/-- What is written behind all that was written so far extends it. -/
theorem overwrite_padTo {size : Nat} {written bytes : List UInt8}
    (fits : written.length + bytes.length ≤ size) :
    overwrite (padTo size written) written.length bytes = padTo size (written ++ bytes) := by
  have rest : (padTo size written).drop (written.length + bytes.length) =
      List.replicate (size - (written.length + bytes.length)) 0 := by
    rw [padTo, List.drop_append, List.drop_replicate, List.drop_eq_nil_of_le (Nat.le_add_right _ _),
      List.nil_append]
    congr 1
    omega
  have before : (padTo size written).take written.length = written := by
    rw [padTo, List.take_left]
  rw [overwrite, before, rest, padTo, List.length_append]

end Bbsim.Foundation
