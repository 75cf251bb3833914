import Bbsim.Devices.StateMachines
import Bbsim.Responders.Packets

/-! The EAPOL responder. The client side of an authentication, as the services run it: they have no
OpenOLT client, which the branches for the packets of a client need. -/

namespace Bbsim.Responders.Eapol

open Devices

inductive Fault where
  /-- Neither layer is there, which ends the process. -/
  | notEapol
  | nilClient
  | nilEap
  | sliceOutOfRange
deriving DecidableEq, Repr

/-- What a service passes on. -/
structure Caller where
  onuId : UInt32
  ponPortId : UInt32
  gemPortId : UInt32
  portNo : UInt32
  uniId : UInt32
  serviceId : UInt32
  oltId : Int

/-- An event whose refusal is only logged. -/
def fire (state : EapolState) (event : EapolEvent) : EapolState := (state.after event).getD state

def updateAuthFailed (state : EapolState) : EapolState := fire state .authFailed

def password : List UInt8 := [0x70, 0x61, 0x73, 0x73, 0x77, 0x6f, 0x72, 0x64]

def user : List UInt8 := [0x75, 0x73, 0x65, 0x72]

def getMD5Data (md5 : List UInt8 → List UInt8) (eap : Eap) : Except Fault (List UInt8) :=
  if eap.contents.length < 6 then .error .sliceOutOfRange
  else .ok (md5 (eap.id :: password ++ eap.contents.drop 6))

def createEAPChallengeResponse (eapId : UInt8) (payload : List UInt8) : Eap where
  code := .response
  id := eapId
  length := 22
  type := .otp
  typeData := payload

def createEAPIdentityResponse (eapId : UInt8) : Eap where
  code := .response
  id := eapId
  length := 9
  type := .identity
  typeData := user

/-- The address is formed anew from the ids. -/
def createEAPOLPkt (eap : Eap) (serviceId uniId onuId intfId : UInt32) (oltId : Int) : Frame :=
  let mac := [0x2e, UInt8.ofInt oltId, intfId.toUInt8, onuId.toUInt8, uniId.toUInt8,
    serviceId.toUInt8]
  { srcMac := mac, dstMac := mac, payload := .eapol .eap eap.length (some eap) }

/-- The UNI id of the indication is a constant. -/
def sendEapolPktIn (intfId onuId : UInt32) (frame : Frame) (portNo gemid : UInt32) :
    PacketIndication where
  intfId := intfId
  gemportId := gemid
  portNo := portNo
  onuId := onuId
  uniId := 0
  frame := frame

/-- The indication that `SendEapStart` sends. -/
def eapStart (onuId ponPortId portNo : UInt32) (macAddress : Mac) (gemPort uniId : UInt32) :
    PacketIndication where
  intfId := ponPortId
  gemportId := gemPort
  portNo := portNo
  onuId := onuId
  uniId := uniId
  frame := {
    srcMac := macAddress
    dstMac := [0x01, 0x80, 0xC2, 0x00, 0x00, 0x03]
    payload := .eapol .start 0 none }

/-- The machine after `SendEapStart`, and whether the call succeeds. -/
def sendEapStart (state : EapolState) (sends : Bool) : EapolState × Bool :=
  if sends then
    match state.after .startSent with
    | some next => (next, true)
    | none => (state, false)
  else (updateAuthFailed state, false)

/-- A packet that comes at the wrong time ends an attempt that is not over. -/
def drop (state : EapolState) : EapolState :=
  if state ≠ .authFailed ∧ state ≠ .responseSuccessReceived then updateAuthFailed state else state

/-- The machine follows a response that could be sent. -/
def answer (state : EapolState) (sends : Bool) (event : EapolEvent) (response : PacketIndication) :
    EapolState × Option PacketIndication :=
  if sends then (fire state event, some response) else (updateAuthFailed state, none)

def Caller.response (caller : Caller) (eap : Eap) : PacketIndication :=
  sendEapolPktIn caller.ponPortId caller.onuId
    (createEAPOLPkt eap caller.serviceId caller.uniId caller.onuId caller.ponPortId caller.oltId)
    caller.portNo caller.gemPortId

def Caller.challengeResponse (caller : Caller) (eap : Eap) (data : List UInt8) : PacketIndication :=
  caller.response (createEAPChallengeResponse eap.id (0x10 :: data))

def handleEap (md5 : List UInt8 → List UInt8) (caller : Caller) (state : EapolState) (sends : Bool)
    (eap : Eap) : Except Fault (EapolState × Option PacketIndication) :=
  match eap.code, eap.type with
  | .request, .identity =>
    if state = .startSent then
      .ok (answer state sends .responseIdentitySent
        (caller.response (createEAPIdentityResponse eap.id)))
    else .ok (drop state, none)
  | .response, .identity => (getMD5Data md5 eap).bind fun _ => .error .nilClient
  | .request, .otp =>
    if state = .responseIdentitySent then
      (getMD5Data md5 eap).map fun data =>
        answer state sends .responseChallengeSent (caller.challengeResponse eap data)
    else .ok (drop state, none)
  | .response, .otp => .error .nilClient
  | .success, .none =>
    if state = .responseChallengeSent then .ok (fire state .responseSuccessReceived, none)
    else .ok (drop state, none)
  | _, _ => .ok (state, none)

def handleNextPacket (md5 : List UInt8 → List UInt8) (caller : Caller) (state : EapolState)
    (sends : Bool) (packet : EapolPacket) : Except Fault (EapolState × Option PacketIndication) :=
  match packet.eapol, packet.eap with
  | none, none => .error .notEapol
  | some .start, _ => .error .nilClient
  | _, none => .error .nilEap
  | _, some eap => handleEap md5 caller state sends eap

theorem handleNextPacket_eap (md5 : List UInt8 → List UInt8) (caller : Caller) (state : EapolState)
    (sends : Bool) (eap : Eap) :
    handleNextPacket md5 caller state sends ⟨some .eap, some eap⟩ =
      handleEap md5 caller state sends eap := rfl

end Bbsim.Responders.Eapol
