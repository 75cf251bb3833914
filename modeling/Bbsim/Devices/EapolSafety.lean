import Bbsim.Foundation.Bytes
import Bbsim.Devices.Subscriber
import Bbsim.Responders.Md5

/-! Which EAPOL packets a service survives. `HandleNextPacket` serves both ends of the protocol. A
service passes no OpenOLT client, so that a packet of an authentication's client brings it down, as
does a packet without an EAP layer. -/

namespace Bbsim.Responders

open Foundation

def EapCode.ofByte (code : UInt8) : EapCode :=
  if code = 1 then .request
  else if code = 2 then .response
  else if code = 3 then .success
  else if code = 4 then .failure
  else .other code

def EapType.ofByte (type : UInt8) : EapType :=
  if type = 0 then .none
  else if type = 1 then .identity
  else if type = 4 then .otp
  else .other type

def EapolType.ofByte (type : UInt8) : EapolType :=
  if type = 0 then .eap
  else if type = 1 then .start
  else .other type

/-- No layer comes of a length that is too small or that the bytes do not have. -/
def decodeEAP : List UInt8 → Option Eap
  | code :: id :: high :: low :: rest =>
    let length := uint16 high low
    if 4 ≤ length ∧ length ≤ rest.length + 4 then
      some {
        code := .ofByte code
        id := id
        length := UInt16.ofNat length
        type := if length = 4 then .none else .ofByte (rest.headD 0)
        typeData := if length = 4 then [] else rest.tail
        contents := (code :: id :: high :: low :: rest).take length }
    else none
  | _ => none

/-- The layers of a frame's payload. Only the type EAP is followed by one. -/
def decodeEAPOL : List UInt8 → EapolPacket
  | _ :: type :: _ :: _ :: rest =>
    ⟨some (.ofByte type), if EapolType.ofByte type = .eap then decodeEAP rest else none⟩
  | _ => ⟨none, none⟩

/-- `GetPktType` finds an EAPOL packet. -/
def EapolPacket.isEapol (packet : EapolPacket) : Bool := packet.eap.isSome || packet.eapol.isSome

namespace Eapol

open Devices

variable {md5 : List UInt8 → List UInt8} {caller : Caller} {state : EapolState} {sends : Bool}

/-- The EAP layers that a client without OpenOLT client handles. -/
structure EapSurvived (state : EapolState) (eap : Eap) : Prop where
  /-- Responses are for the server, whose answers would need the client. -/
  noIdentity : ¬ (eap.code = .response ∧ eap.type = .identity)
  noChallenge : ¬ (eap.code = .response ∧ eap.type = .otp)
  /-- The challenge is cut out of the layer only where it is expected. -/
  long : eap.code = .request → eap.type = .otp → state = .responseIdentitySent →
    6 ≤ eap.contents.length

private theorem returns_getMD5Data {eap : Eap} :
    Returns (getMD5Data md5 eap) ↔ 6 ≤ eap.contents.length := by
  unfold getMD5Data
  split
  · next short => exact ⟨False.elim, fun long => absurd short (Nat.not_lt.mpr long)⟩
  · next long => exact ⟨fun _ => Nat.not_lt.mp long, fun _ => trivial⟩

theorem returns_handleEap_iff {eap : Eap} :
    Returns (handleEap md5 caller state sends eap) ↔ EapSurvived state eap := by
  unfold handleEap
  split
  · next code type =>
    refine iff_of_true ?_ ⟨by simp [code], by simp [code], by simp [type]⟩
    split <;> trivial
  · next code type =>
    refine iff_of_false ?_ fun survived => survived.noIdentity ⟨code, type⟩
    intro returns
    obtain ⟨_, returned⟩ := returns_iff.mp returns
    cases data : getMD5Data md5 eap <;> simp [data, Except.bind] at returned
  · next code type =>
    have others : EapSurvived state eap ↔
        (state = .responseIdentitySent → 6 ≤ eap.contents.length) :=
      ⟨fun survived => survived.long code type,
        fun long => ⟨by simp [code], by simp [code], fun _ _ => long⟩⟩
    rw [others]
    split
    · next expected =>
      rw [Returns, yields_map]
      exact returns_getMD5Data.trans ⟨fun long _ => long, fun long => long expected⟩
    · next unexpected =>
      exact iff_of_true trivial fun expected => absurd expected unexpected
  · next code type =>
    exact iff_of_false id fun survived => survived.noChallenge ⟨code, type⟩
  · next code type =>
    refine iff_of_true ?_ ⟨by simp [code], by simp [code], by simp [code]⟩
    split <;> trivial
  · next noIdentity noResponse noChallenge noAnswer noSuccess =>
    exact iff_of_true trivial ⟨fun response => noResponse response.1 response.2,
      fun response => noAnswer response.1 response.2,
      fun code type => (noChallenge code type).elim⟩

/-- The packets that a service survives. -/
def Survived (state : EapolState) (packet : EapolPacket) : Prop :=
  packet.eapol ≠ some .start ∧ ∃ eap, packet.eap = some eap ∧ EapSurvived state eap

theorem returns_handleNextPacket_iff {packet : EapolPacket} :
    Returns (handleNextPacket md5 caller state sends packet) ↔ Survived state packet := by
  obtain ⟨eapol, layer⟩ := packet
  cases layer with
  | none =>
    refine iff_of_false ?_ fun survived => ?_
    · rcases eapol with _ | (_ | _ | _) <;> exact id
    · obtain ⟨-, eap, present, -⟩ := survived
      cases present
  | some eap =>
    by_cases start : eapol = some .start
    · subst start
      exact iff_of_false id fun survived => survived.1 rfl
    · have passed : handleNextPacket md5 caller state sends ⟨eapol, some eap⟩ =
          handleEap md5 caller state sends eap := by
        rcases eapol with _ | (_ | _ | _) <;> first | rfl | exact absurd rfl start
      rw [passed, returns_handleEap_iff]
      constructor
      · intro survived
        exact ⟨start, eap, rfl, survived⟩
      · rintro ⟨-, _, same, survived⟩
        obtain rfl := Option.some.inj same
        exact survived

end Eapol

end Bbsim.Responders

namespace Bbsim.Devices

open Foundation Responders

/-- A service returns from an EAPOL packet in any state exactly if the packet is no EAPOL Start, has an
EAP layer, is no response, and is long enough where a challenge is expected. -/
theorem handleEapolPacket_returns_iff (subscriber : Subscriber) (md5 : List UInt8 → List UInt8)
    (intfId onuId : UInt32) (sends : Bool) (packet : EapolPacket) :
    Returns (subscriber.handleEapolPacket md5 intfId onuId sends packet) ↔
      Eapol.Survived subscriber.service.eapolState packet := by
  rw [Subscriber.handleEapolPacket, Returns, yields_map]
  exact Eapol.returns_handleNextPacket_iff

/-- The payload of a request for the identity. -/
def requestIdentity : List UInt8 := [1, 0, 0, 5, 1, 7, 0, 5, 1]

private theorem decodeEAPOL_requestIdentity : decodeEAPOL requestIdentity =
    ⟨some .eap, some ⟨.request, 7, 5, .identity, [], [1, 7, 0, 5, 1]⟩⟩ := by
  decide +kernel

theorem requestIdentity_survived :
    (decodeEAPOL requestIdentity).isEapol = true ∧
      Returns (Subscriber.fresh.handleEapolPacket md5 0 1 true
        (decodeEAPOL requestIdentity)) := by
  rw [decodeEAPOL_requestIdentity]
  have survived : Eapol.EapSurvived Subscriber.fresh.service.eapolState
      ⟨.request, 7, 5, .identity, [], [1, 7, 0, 5, 1]⟩ :=
    ⟨by decide, by decide, by simp⟩
  exact ⟨rfl, (handleEapolPacket_returns_iff _ _ _ _ _ _).mpr
    ⟨by decide, _, rfl, survived⟩⟩

/-- An EAPOL Start, as a client sends it, comes back to a service. -/
theorem eapolStart_crashes :
    (decodeEAPOL [1, 1, 0, 0]).isEapol = true ∧
      Subscriber.fresh.handleEapolPacket md5 0 1 true (decodeEAPOL [1, 1, 0, 0]) =
        .error .nilClient :=
  ⟨rfl, rfl⟩

end Bbsim.Devices
