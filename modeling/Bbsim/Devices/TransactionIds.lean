import Bbsim.Foundation.CyclicCounter

/-! Transaction ids of OMCI requests. The two counters of an ONU that `getNextTid` takes its ids
from. The normal one starts over where it reaches `0x8000`, the one for high priority overflows and
is lifted. -/

namespace Bbsim.Devices

open Foundation

/-- The counters of an ONU. -/
structure Tids where
  tid : UInt16
  hpTid : UInt16
deriving DecidableEq

namespace Tids

/-- As `CreateONU` sets them. -/
def create : Tids := ⟨0x1, 0x8000⟩

/-- The argument may be left out, and what follows the first one is not read. -/
def isHighPriority (highPriority : List Bool) : Bool := highPriority.head?.getD false

def nextHpTid (hpTid : UInt16) : UInt16 := if hpTid + 1 < 0x8000 then 0x8000 else hpTid + 1

def nextTid (tid : UInt16) : UInt16 := if tid + 1 ≥ 0x8000 then 1 else tid + 1

def getNextTid (tids : Tids) (highPriority : List Bool) : UInt16 × Tids :=
  if isHighPriority highPriority then (tids.hpTid, { tids with hpTid := nextHpTid tids.hpTid })
  else (tids.tid, { tids with tid := nextTid tids.tid })

/-- The ids of a sequence of calls, each with its kind. -/
def issued : Tids → List (List Bool) → List (Bool × UInt16)
  | _, [] => []
  | tids, call :: rest =>
    let (id, next) := tids.getNextTid call
    (isHighPriority call, id) :: next.issued rest

/-- The ids of one kind, in order. -/
def ofKind (high : Bool) (log : List (Bool × UInt16)) : List UInt16 :=
  (log.filter fun entry => entry.1 = high).map Prod.snd

/-- The calls of the other kind do not matter. -/
theorem ofKind_issued (tids : Tids) (calls : List (List Bool)) :
    (∃ count, ofKind false (tids.issued calls) = List.iterate nextTid tids.tid count) ∧
      ∃ count, ofKind true (tids.issued calls) = List.iterate nextHpTid tids.hpTid count := by
  induction calls generalizing tids with
  | nil => exact ⟨⟨0, rfl⟩, ⟨0, rfl⟩⟩
  | cons call rest ih =>
    rw [issued, getNextTid]
    cases kind : isHighPriority call with
    | false =>
      obtain ⟨⟨normal, sameNormal⟩, ⟨high, sameHigh⟩⟩ := ih { tids with tid := nextTid tids.tid }
      refine ⟨⟨normal + 1, ?_⟩, ⟨high, sameHigh⟩⟩
      rw [List.iterate, ← sameNormal]
      rfl
    | true =>
      obtain ⟨⟨normal, sameNormal⟩, ⟨high, sameHigh⟩⟩ := ih { tids with hpTid := nextHpTid tids.hpTid }
      refine ⟨⟨normal, sameNormal⟩, ⟨high + 1, ?_⟩⟩
      rw [List.iterate, ← sameHigh]
      rfl

private theorem nextTid_cycles : Cycles UInt16.toNat nextTid 1 32767 := by
  refine ⟨by decide, fun tid lower upper => ?_⟩
  have wrapping : (tid + 1).toNat = (tid.toNat + 1) % 65536 := UInt16.toNat_add tid 1
  have successor : (tid + 1).toNat = tid.toNat + 1 := by
    rw [wrapping]
    omega
  unfold nextTid
  split
  · next wraps =>
    have reached : 0x8000 ≤ (tid + 1).toNat := UInt16.le_iff_toNat_le.mp wraps
    have last : tid.toNat = 32767 := by omega
    rw [last]
    rfl
  · next stays =>
    have below : (tid + 1).toNat < 0x8000 := UInt16.lt_iff_toNat_lt.mp (UInt16.not_le.mp stays)
    rw [successor, Nat.mod_eq_of_lt (by omega)]
    omega

/-- The counter overflows 16 bits to 0, below its range. -/
theorem nextHpTid_cycles : Cycles UInt16.toNat nextHpTid 0x8000 0x8000 := by
  refine ⟨by decide, fun hpTid lower upper => ?_⟩
  have successor : (hpTid + 1).toNat = (hpTid.toNat + 1) % 65536 := UInt16.toNat_add hpTid 1
  unfold nextHpTid
  split
  · next wraps =>
    have below : (hpTid + 1).toNat < 0x8000 := UInt16.lt_iff_toNat_lt.mp wraps
    have last : hpTid.toNat = 65535 := by omega
    rw [last]
    rfl
  · next stays =>
    have reached : 0x8000 ≤ (hpTid + 1).toNat := UInt16.le_iff_toNat_le.mp (UInt16.not_lt.mp stays)
    rw [successor]
    omega

/-- In every sequence of calls on a new ONU the ids are in the range of their kind, and those of one
kind repeat only after a whole cycle. -/
theorem transaction_ids_cycle (calls : List (List Bool)) :
    (∀ id ∈ ofKind false (create.issued calls), 1 ≤ id.toNat ∧ id.toNat ≤ 0x7FFF) ∧
      (∀ id ∈ ofKind true (create.issued calls), 0x8000 ≤ id.toNat ∧ id.toNat ≤ 0xFFFF) ∧
      (∀ window, window <:+: ofKind false (create.issued calls) → window.length ≤ 32767 →
        window.Nodup) ∧
      ∀ window, window <:+: ofKind true (create.issued calls) → window.length ≤ 32768 →
        window.Nodup := by
  obtain ⟨⟨normal, sameNormal⟩, ⟨high, sameHigh⟩⟩ := create.ofKind_issued calls
  have lower : 1 ≤ create.tid.toNat := by decide
  have upper : create.tid.toNat < 1 + 32767 := by decide
  have highLower : 0x8000 ≤ create.hpTid.toNat := by decide
  have highUpper : create.hpTid.toNat < 0x8000 + 0x8000 := by decide
  rw [sameNormal, sameHigh]
  refine ⟨fun id member => ?_, fun id member => ?_, fun window within short => ?_,
    fun window within short => ?_⟩
  · have bounds := nextTid_cycles.bounds_of_mem lower upper member
    omega
  · have bounds := nextHpTid_cycles.bounds_of_mem highLower highUpper member
    omega
  · exact nextTid_cycles.nodup_of_infix lower upper within short
  · exact nextHpTid_cycles.nodup_of_infix highLower highUpper within short

end Tids

end Bbsim.Devices
