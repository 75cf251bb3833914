import Bbsim.Foundation.DecimalText
import Bbsim.Responders.Igmp

/-! GEM ports of services that have none. The IGMP messages of such a service carry a GEM port that
is made of the ids of the ONU: the decimals of the PON id and of the ONU id, read as one number of
32 bits. -/

namespace Bbsim.Responders.Igmp

open Foundation

/-- A number that is too large becomes the largest one. -/
theorem concatenated_toNat (ponPortId onuId : UInt32) :
    (concatenated ponPortId onuId).toNat = min (joined ponPortId.toNat onuId.toNat) 4294967295 := by
  rw [concatenated, toNat?_append, Option.getD_some, UInt32.toNat_ofNat']
  omega

theorem joined_eq_zero_iff {front back : Nat} : joined front back = 0 ↔ front = 0 ∧ back = 0 := by
  rw [joined, Nat.add_eq_zero_iff, Nat.mul_eq_zero, or_iff_left (by positivity)]

theorem concatenated_eq_zero_iff {ponPortId onuId : UInt32} :
    concatenated ponPortId onuId = 0 ↔ ponPortId = 0 ∧ onuId = 0 := by
  have zero : joined ponPortId.toNat onuId.toNat = 0 ↔ ponPortId = 0 ∧ onuId = 0 := by
    rw [joined_eq_zero_iff, ← UInt32.toNat_inj, ← UInt32.toNat_inj]
    rfl
  rw [← zero, ← UInt32.toNat_inj, concatenated_toNat]
  change min _ _ = 0 ↔ _
  omega

/-- Both numbers are too large for 32 bits, or the largest one. -/
def BothLarge (caller other : Caller) : Prop :=
  4294967295 ≤ joined caller.ponPortId.toNat caller.onuId.toNat ∧
    4294967295 ≤ joined other.ponPortId.toNat other.onuId.toNat

/-- The ids of one ONU become those of the other, if digits are shifted from the ONU id to the PON id. -/
def Shifted (caller other : Caller) : Prop :=
  Shifts caller.ponPortId.toNat caller.onuId.toNat other.ponPortId.toNat other.onuId.toNat

theorem concatenated_eq_iff {caller other : Caller} :
    concatenated caller.ponPortId caller.onuId = concatenated other.ponPortId other.onuId ↔
      (caller.ponPortId = other.ponPortId ∧ caller.onuId = other.onuId) ∨ Shifted caller other ∨
        Shifted other caller ∨ BothLarge caller other := by
  have texts := @joined_eq_iff caller.ponPortId.toNat caller.onuId.toNat other.ponPortId.toNat
    other.onuId.toNat
  rw [UInt32.toNat_inj, UInt32.toNat_inj] at texts
  rw [← UInt32.toNat_inj, concatenated_toNat, concatenated_toNat]
  have numbers : ∀ one two : Nat, min one 4294967295 = min two 4294967295 ↔
      one = two ∨ (4294967295 ≤ one ∧ 4294967295 ≤ two) := by
    intro one two
    omega
  rw [numbers, texts, or_assoc, or_assoc]
  rfl

/-- The GEM ports of the three kinds of messages. -/
def gemPorts (caller : Caller) (groupAddress : String) : List UInt32 :=
  [sendIGMPMembershipReportV2 caller groupAddress, sendIGMPMembershipReportV3 caller groupAddress,
    sendIGMPLeaveGroupV2 caller groupAddress].map PacketIndication.gemportId

theorem gemPorts_eq {caller : Caller} (none : caller.gemPortId = 0) (groupAddress : String) :
    gemPorts caller groupAddress = List.replicate 3 (concatenated caller.ponPortId caller.onuId) := by
  have fallback : gemPortOr caller.gemPortId caller.ponPortId caller.onuId =
      concatenated caller.ponPortId caller.onuId := if_pos none
  rw [gemPorts, ← fallback]
  rfl

/-- The ids of two ONUs for which the GEM ports are as they should be. -/
structure Distinguished (caller other : Caller) : Prop where
  nonzero : ¬ (caller.ponPortId = 0 ∧ caller.onuId = 0)
  otherNonzero : ¬ (other.ponPortId = 0 ∧ other.onuId = 0)
  shifted : ¬ Shifted caller other
  otherShifted : ¬ Shifted other caller
  large : ¬ BothLarge caller other

/-- All messages of an ONU carry one GEM port, and those of two ONUs are different and not zero exactly
if no digits can be shifted between their ids, no id is zero and not both numbers are too large. -/
theorem fallback_gem_ports_iff {caller other : Caller} (none : caller.gemPortId = 0)
    (otherNone : other.gemPortId = 0)
    (distinct : (caller.ponPortId, caller.onuId) ≠ (other.ponPortId, other.onuId))
    (groupAddress otherGroup : String) :
    (∃ gemPort otherGemPort, gemPorts caller groupAddress = List.replicate 3 gemPort ∧
      gemPorts other otherGroup = List.replicate 3 otherGemPort ∧
      ((gemPort ≠ 0 ∧ otherGemPort ≠ 0 ∧ gemPort ≠ otherGemPort) ↔ Distinguished caller other)) := by
  refine ⟨_, _, gemPorts_eq none groupAddress, gemPorts_eq otherNone otherGroup, ?_⟩
  have different : ¬ (caller.ponPortId = other.ponPortId ∧ caller.onuId = other.onuId) := by
    rintro ⟨pon, onu⟩
    exact distinct (Prod.ext pon onu)
  rw [Ne, Ne, Ne, concatenated_eq_zero_iff, concatenated_eq_zero_iff, concatenated_eq_iff,
    or_iff_right different, not_or, not_or]
  constructor
  · rintro ⟨nonzero, otherNonzero, shifted, otherShifted, large⟩
    exact ⟨nonzero, otherNonzero, shifted, otherShifted, large⟩
  · rintro ⟨nonzero, otherNonzero, shifted, otherShifted, large⟩
    exact ⟨nonzero, otherNonzero, shifted, otherShifted, large⟩

/-- A service without a GEM port. -/
def portless (ponPortId onuId : UInt32) : Caller where
  ponPortId := ponPortId
  onuId := onuId
  portNo := 256
  uniId := 0
  gemPortId := 0
  macAddress := [0x2e, 0, ponPortId.toUInt8, onuId.toUInt8, 0, 0]
  cTag := 900
  pbit := 0

/-- The first ONUs of the first two PONs. -/
theorem firstOnus_distinguished : ∃ gemPort otherGemPort,
    gemPorts (portless 0 1) "224.0.0.22" = List.replicate 3 gemPort ∧
      gemPorts (portless 1 1) "224.0.0.22" = List.replicate 3 otherGemPort ∧
      gemPort ≠ 0 ∧ otherGemPort ≠ 0 ∧ gemPort ≠ otherGemPort := by
  obtain ⟨gemPort, otherGemPort, first, second, exactly⟩ := @fallback_gem_ports_iff (portless 0 1)
    (portless 1 1) rfl rfl (by decide) "224.0.0.22" "224.0.0.22"
  refine ⟨gemPort, otherGemPort, first, second, exactly.mpr ⟨by decide, by decide, ?_, ?_, ?_⟩⟩
  · exact fun shifted => absurd shifted.fewer (by decide)
  · exact fun shifted => absurd shifted.fewer (by decide)
  · exact fun large => absurd large.1 (by decide)

/-- ONU 11 of the first PON has the GEM port of ONU 1 of the second one. -/
theorem eleventhOnu_confused :
    gemPorts (portless 0 11) "224.0.0.22" = [11, 11, 11] ∧
      gemPorts (portless 1 1) "224.0.0.22" = [11, 11, 11] := by
  have eleven : concatenated 0 11 = 11 := by
    rw [← UInt32.toNat_inj, concatenated_toNat]
    decide
  have first : concatenated 1 1 = 11 := by
    rw [← UInt32.toNat_inj, concatenated_toNat]
    decide
  constructor
  · rw [gemPorts_eq rfl, portless, eleven]
    rfl
  · rw [gemPorts_eq rfl, portless, first]
    rfl

end Bbsim.Responders.Igmp
