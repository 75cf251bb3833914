import Bbsim.Devices.Subscriber
import Bbsim.Responders.DhcpServer

/-! The ONUs of BBR. BBR keeps an ONU of its own for each ONU of the BBSim it drives. Its message
loop answers for VOLTHA: it plays the authenticator of EAPOL, installs the DHCP flow and relays DHCP
between the PON and the NNI. -/

namespace Bbsim.Bbr

open Foundation Devices Responders

/-- The states that BBR's events lead through once the ONU is up. -/
inductive ReflectorState where
  | eapolFlowSent
  | dhcpFlowSent
deriving DecidableEq, Repr

/-- The layers that are looked for in a packet. -/
inductive PacketIn where
  | eapol (packet : EapolPacket)
  | dhcp (packet : Dhcp.NniPacket)

/-- What travels on the channel of an ONU of BBR once it is up. -/
inductive ReflectorMessage where
  | sendDhcpFlow
  | onuPacketIn (onuId intfId portNo : UInt32) (packet : PacketIn)

inductive PacketOut where
  | eapol (frame : Frame)
  | dhcp (packet : Dhcp.NniPacket)

/-- The calls of the OpenOLT client. -/
inductive OpenOltCall where
  | flowAdd (flow : Flow)
  | onuPacketOut (intfId onuId portNo gemportId : UInt32) (packet : PacketOut)
  | uplinkPacketOut (packet : Dhcp.NniPacket)

/-- How the message loop of BBR comes to grief. -/
inductive ReflectorFault where
  | nilUni
  | noService
  | eapol (fault : Eapol.Fault)
  | cannotUntag
  | noDhcpType
  /-- The loop waits for a reader of `DoneChannel`. -/
  | doneChannelFull

structure ReflectorOnu where
  id : UInt32
  ponPortId : UInt32
  internalState : ReflectorState
  uniPorts : List UniPort
  channel : List ReflectorMessage
  /-- The messages sent on `DoneChannel`: one is taken, another fits, and the third waits for ever. -/
  done : Nat

namespace ReflectorOnu

variable (onu : ReflectorOnu) (md5 : List UInt8 → List UInt8)

/-- The `send_dhcp_flow` event, with the message of its callback; a refusal is only logged. -/
def eventSendDhcpFlow : ReflectorOnu :=
  if onu.internalState = .eapolFlowSent then
    { onu with internalState := .dhcpFlowSent, channel := onu.channel ++ [.sendDhcpFlow] }
  else onu

/-- The flows of an ONU have its id for every number. -/
def flow (classifier : Classifier) : Flow where
  flowId := onu.id.toUInt64
  flowType := .downstream
  accessIntfId := onu.ponPortId.toInt32
  onuId := onu.id.toInt32
  uniId := 0
  portNo := onu.id
  gemportId := onu.id.toInt32
  allocId := onu.id.toInt32
  replicateFlow := false
  pbitToGemport := ∅
  classifier := classifier

/-- The tag is the one of the first service on the first UNI. -/
def sendDhcpFlow : Except ReflectorFault (List OpenOltCall) :=
  match onu.uniPorts with
  | ⟨_, _, _, _, hsia :: _, _⟩ :: _ =>
    .ok [.flowAdd (onu.flow ⟨0x0800, UInt32.ofInt hsia.cTag, 0, 255, 68, 67⟩)]
  | _ => .error .noService

def createEAPChallengeRequest (eapId : UInt8) (payload : List UInt8) : Eap where
  code := .request
  id := eapId
  length := 22
  type := .otp
  typeData := payload

def createEAPIdentityRequest (eapId : UInt8) : Eap where
  code := .request
  id := eapId
  length := 9
  type := .identity
  typeData := Eapol.user

/-- A Success has the data of an identity. -/
def createEAPSuccess (eapId : UInt8) : Eap where
  code := .success
  id := eapId
  length := 9
  type := .none
  typeData := Eapol.user

/-- The ids of the service and of the OLT are constants in BBR. -/
def eapolPacketOut (uniId onuId intfId : UInt32) (eap : Eap) : OpenOltCall :=
  .onuPacketOut intfId onuId onuId 1 (.eapol (Eapol.createEAPOLPkt eap 0 uniId onuId intfId 0))

/-- `HandleNextPacket` with the state machine of an ONU of BBR: the branches of a client find no state
of theirs, and their events are unknown to it. -/
def handleEapolPacket (onuId intfId uniId : UInt32) (packet : EapolPacket) :
    Except Eapol.Fault (ReflectorOnu × List OpenOltCall) :=
  match packet.eapol, packet.eap with
  | none, none => .error .notEapol
  | some .start, _ => .ok (onu, [eapolPacketOut uniId onuId intfId (createEAPIdentityRequest 1)])
  | _, none => .error .nilEap
  | _, some eap =>
    match eap.code, eap.type with
    | .response, .identity =>
      (Eapol.getMD5Data md5 eap).map fun data =>
        (onu, [eapolPacketOut uniId onuId intfId (createEAPChallengeRequest eap.id (0x10 :: data))])
    | .response, .otp =>
      .ok (onu.eventSendDhcpFlow, [eapolPacketOut uniId onuId intfId (createEAPSuccess eap.id)])
    | _, _ => .ok (onu, [])

/-- `HandleNextBbrPacket`. A packet on its way to the server gets two tags whatever it had. -/
def handleNextBbrPacket (packet : Dhcp.NniPacket) :
    Except ReflectorFault (ReflectorOnu × List OpenOltCall) :=
  match packet.tags with
  | [] => .error .cannotUntag
  | _ :: tags =>
    match Dhcp.getDhcpMessageType packet.layer with
    | none => .error .noDhcpType
    | some type =>
      if packet.layer.operation = .reply then
        let call := .onuPacketOut onu.ponPortId onu.id onu.id 1 (.dhcp { packet with tags := tags })
        .ok (if type = .ack then { onu with done := onu.done + 1 } else onu, [call])
      else .ok (onu, [.uplinkPacketOut { packet with tags := 900 :: 900 :: tags }])

/-- The port numbers of BBR's own UNIs are never set. -/
def findUniByPortNo (portNo : UInt32) : Option UniPort :=
  onu.uniPorts.find? fun uni => uni.portNo = portNo

/-- `ProcessOnuMessages` on one message, where every call succeeds. -/
def process : ReflectorMessage → Except ReflectorFault (ReflectorOnu × List OpenOltCall)
  | .sendDhcpFlow => onu.sendDhcpFlow.map fun calls => (onu, calls)
  | .onuPacketIn onuId intfId portNo (.eapol packet) =>
    match onu.findUniByPortNo portNo with
    | none => .error .nilUni
    | some uni => (onu.handleEapolPacket md5 onuId intfId uni.id packet).mapError .eapol
  | .onuPacketIn _ _ _ (.dhcp packet) => onu.handleNextBbrPacket packet

/-- A turn of the loop, with the message that is next. -/
def turn : Option (Except ReflectorFault (ReflectorOnu × List OpenOltCall)) :=
  match onu.channel with
  | [] => none
  | message :: later =>
    if onu.done > 2 then some (.error .doneChannelFull)
    else some ({ onu with channel := later }.process md5 message)

end ReflectorOnu

end Bbsim.Bbr
