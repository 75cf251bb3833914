import Bbsim.Foundation.Padding
import Bbsim.Devices.EapolSafety

/-! EAPOL on the wire. The payload of an EAPOL frame as gopacket serializes and decodes it. No
length is corrected by the serializer, and the Ethernet layer fills short frames up with zeros,
which the decoder of the EAP layer takes for more type data; its contents end where the length says. -/

namespace Bbsim.Responders

open Foundation

def EapCode.toByte : EapCode → UInt8
  | .request => 1
  | .response => 2
  | .success => 3
  | .failure => 4
  | .other code => code

def EapType.toByte : EapType → UInt8
  | .none => 0
  | .identity => 1
  | .otp => 4
  | .other type => type

def EapolType.toByte : EapolType → UInt8
  | .eap => 0
  | .start => 1
  | .other type => type

/-- `EAP.SerializeTo`: without data the type is left out. -/
def Eap.serializeTo (eap : Eap) : List UInt8 :=
  [eap.code.toByte, eap.id] ++ putUint16 eap.length.toNat ++
    if eap.typeData = [] then [] else eap.type.toByte :: eap.typeData

def eapolVersion : UInt8 := 1

/-- What is behind the header of the smallest Ethernet frame. -/
def minimalPayload : Nat := 46

/-- The bytes behind the Ethernet header. -/
def serializeEapol (type : EapolType) (length : UInt16) (eap : Option Eap) : List UInt8 :=
  padTo minimalPayload
    ([eapolVersion, type.toByte] ++ putUint16 length.toNat ++ (eap.map Eap.serializeTo).getD [])

/-- An EAP layer that says how long it is, and whose code and type have names. -/
structure Eap.WellFormed (eap : Eap) : Prop where
  code : EapCode.ofByte eap.code.toByte = eap.code
  type : EapType.ofByte eap.type.toByte = eap.type
  data : eap.typeData ≠ []
  length : eap.length.toNat = 5 + eap.typeData.length

/-- The layer that arrives: the padding has become data. -/
def Eap.received (eap : Eap) : Eap :=
  { eap with
    typeData := eap.typeData ++ List.replicate (37 - eap.typeData.length) 0
    contents := eap.serializeTo }

namespace Eap

variable {eap : Eap}

theorem serializeTo_eq (data : eap.typeData ≠ []) :
    eap.serializeTo = eap.code.toByte :: eap.id :: UInt8.ofNat (eap.length.toNat / 256) ::
      UInt8.ofNat eap.length.toNat :: eap.type.toByte :: eap.typeData := by
  rw [serializeTo, if_neg data]
  rfl

private theorem decodeEAP_padded (formed : eap.WellFormed) :
    decodeEAP (eap.serializeTo ++ List.replicate (37 - eap.typeData.length) 0) =
      some eap.received := by
  have read := uint16_putUint16 eap.length.toNat eap.length.toNat_lt
  have length := formed.length
  rw [serializeTo_eq formed.data]
  simp only [List.cons_append, decodeEAP, read]
  rw [if_pos ⟨by omega, by simp only [List.length_cons, List.length_append]; omega⟩]
  have later : ¬ eap.length.toNat = 4 := by omega
  simp only [if_neg later, List.headD_cons, List.tail_cons, formed.code, formed.type,
    UInt16.ofNat_toNat, Option.some.injEq]
  have contents : (eap.code.toByte :: eap.id :: UInt8.ofNat (eap.length.toNat / 256) ::
      UInt8.ofNat eap.length.toNat :: eap.type.toByte ::
        (eap.typeData ++ List.replicate (37 - eap.typeData.length) 0)).take eap.length.toNat =
      eap.serializeTo := by
    rw [serializeTo_eq formed.data, length, Nat.add_comm]
    simp only [List.take_succ_cons, List.take_left']
  rw [contents]
  rfl

end Eap

/-- A frame is decoded as what went into it. -/
theorem decodeEAPOL_serializeEapol {eap : Eap} (formed : eap.WellFormed) (length : UInt16) :
    decodeEAPOL (serializeEapol .eap length (some eap)) = ⟨some .eap, some eap.received⟩ := by
  have size : ([eapolVersion, EapolType.eap.toByte] ++ putUint16 length.toNat ++
      eap.serializeTo).length = eap.typeData.length + 9 := by
    rw [Eap.serializeTo_eq formed.data]
    rfl
  have zeros : minimalPayload - (eap.typeData.length + 9) = 37 - eap.typeData.length := by
    rw [minimalPayload]
    omega
  rw [serializeEapol, Option.map_some, Option.getD_some, padTo, size, zeros]
  exact congrArg (EapolPacket.mk (some .eap)) (Eap.decodeEAP_padded formed)

end Bbsim.Responders
