import Mathlib.Data.List.Basic
import Mathlib.Tactic.Ring

/-! Big-endian numbers and length-prefixed records. A record is `header + n` bytes behind a two-byte
count of the `n` bytes that follow its header. -/

namespace Bbsim.Foundation

/-- The low `size` bytes of a number, most significant first. -/
def bigEndian : Nat → Nat → List UInt8
  | 0, _ => []
  | size + 1, value => bigEndian size (value / 256) ++ [UInt8.ofNat value]

@[simp] theorem bigEndian_length (size value : Nat) : (bigEndian size value).length = size := by
  induction size generalizing value with
  | zero => rfl
  | succ size ih => simp [bigEndian, ih]

/-- The two-byte form, as `binary.BigEndian.PutUint16` writes it. -/
def putUint16 (value : Nat) : List UInt8 :=
  [UInt8.ofNat (value / 256), UInt8.ofNat value]

def uint16 (high low : UInt8) : Nat :=
  high.toNat * 256 + low.toNat

@[simp] theorem putUint16_length (value : Nat) : (putUint16 value).length = 2 := rfl

theorem uint16_putUint16 (value : Nat) (small : value < 65536) :
    uint16 (UInt8.ofNat (value / 256)) (UInt8.ofNat value) = value := by
  simp only [uint16, UInt8.toNat_ofNat']
  omega

/-- A record behind its count. -/
def record (header : Nat) (payload : List UInt8) : List UInt8 :=
  putUint16 (payload.length - header) ++ payload

/-- Cut the first record off, or fail where the count promises more bytes than there are. -/
def readRecord (header : Nat) : List UInt8 → Option (List UInt8 × List UInt8)
  | high :: low :: data =>
    let size := header + uint16 high low
    if data.length < size then none else some (data.take size, data.drop size)
  | _ => none

variable {header : Nat}

theorem readRecord_shrinks {data payload rest : List UInt8}
    (found : readRecord header data = some (payload, rest)) : rest.length < data.length := by
  match data with
  | [] | [_] => simp [readRecord] at found
  | high :: low :: data =>
    simp only [readRecord] at found
    split at found
    · cases found
    · obtain ⟨-, rfl⟩ := Prod.mk.inj (Option.some.inj found)
      simp only [List.length_drop, List.length_cons]
      omega

/-- All records of a byte string that holds nothing else. -/
def readRecords (header : Nat) (data : List UInt8) : Option (List (List UInt8)) :=
  if data = [] then some []
  else match _found : readRecord header data with
    | none => none
    | some (payload, rest) => (readRecords header rest).map (payload :: ·)
termination_by data.length
decreasing_by exact readRecord_shrinks _found

@[simp] theorem readRecords_nil (header : Nat) : readRecords header [] = some [] := by
  simp [readRecords]

variable {payload : List UInt8}

section

variable (covers : header ≤ payload.length) (small : payload.length - header < 65536)
include covers small

theorem readRecord_record (rest : List UInt8) :
    readRecord header (record header payload ++ rest) = some (payload, rest) := by
  have size : header + (payload.length - header) = payload.length := by omega
  simp [record, putUint16, readRecord, uint16_putUint16 _ small, size]

theorem readRecords_record (rest : List UInt8) :
    readRecords header (record header payload ++ rest) =
      (readRecords header rest).map (payload :: ·) := by
  have found := readRecord_record covers small rest
  have present : record header payload ++ rest ≠ [] := by simp [record, putUint16]
  rw [readRecords, if_neg present]
  split
  · next missing => rw [found] at missing; cases missing
  · next other tail same =>
    rw [found] at same
    cases same
    rfl

end

/-- Records written one after the other are read back in order. -/
theorem readRecords_flatMap {payloads : List (List UInt8)}
    (covers : ∀ payload ∈ payloads, header ≤ payload.length)
    (small : ∀ payload ∈ payloads, payload.length - header < 65536) :
    readRecords header (payloads.flatMap (record header)) = some payloads := by
  induction payloads with
  | nil => simp
  | cons payload rest ih =>
    simp only [List.forall_mem_cons] at covers small
    rw [List.flatMap_cons, readRecords_record covers.1 small.1, ih covers.2 small.2]
    rfl

end Bbsim.Foundation
