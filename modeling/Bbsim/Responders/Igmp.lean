import Bbsim.Responders.Packets

/-! The IGMP responder. Reports and leave messages of a service, and the answers to membership
queries. -/

namespace Bbsim.Responders.Igmp

/-- What a service or the API passes on. -/
structure Caller where
  ponPortId : UInt32
  onuId : UInt32
  portNo : UInt32
  uniId : UInt32
  gemPortId : UInt32
  macAddress : Mac
  cTag : Int
  pbit : UInt8

def createIGMPV3MembershipReportPacket (groupAddress : String) : Igmp :=
  ⟨.membershipReportV3, groupAddress, 3⟩

def createIGMPV2MembershipReportPacket (groupAddress : String) : Igmp :=
  ⟨.membershipReportV2, groupAddress, 2⟩

def createIGMPV2LeaveRequestPacket (groupAddress : String) : Igmp := ⟨.leaveGroup, groupAddress, 2⟩

def serializeIgmpPacket (cTag : Int) (srcMac : Mac) (pbit : UInt8) (layer : Igmp) : Frame where
  srcMac := srcMac
  dstMac := broadcast
  payload := .igmp (vlanIdentifier cTag) pbit layer

/-- `strconv.ParseUint(fmt.Sprintf("%d%d", ponPortId, onuId), 10, 32)`, which gives the largest value
where the number is too large. -/
def concatenated (ponPortId onuId : UInt32) : UInt32 :=
  UInt32.ofNat (min ((toString ponPortId.toNat ++ toString onuId.toNat).toNat?.getD 0) 4294967295)

/-- A service that has no GEM port yet gets one made of the ids. -/
def gemPortOr (gemPortId ponPortId onuId : UInt32) : UInt32 :=
  if gemPortId = 0 then concatenated ponPortId onuId else gemPortId

/-- The three kinds of messages go out in the same way. The group is written as an IPv4 address; with
any other text the serialization fails, and the source returns its error and sends nothing. -/
def Caller.send (caller : Caller) (layer : Igmp) : PacketIndication where
  intfId := caller.ponPortId
  gemportId := gemPortOr caller.gemPortId caller.ponPortId caller.onuId
  portNo := caller.portNo
  onuId := caller.onuId
  uniId := caller.uniId
  frame := serializeIgmpPacket caller.cTag caller.macAddress caller.pbit layer

def sendIGMPLeaveGroupV2 (caller : Caller) (groupAddress : String) : PacketIndication :=
  caller.send (createIGMPV2LeaveRequestPacket groupAddress)

def sendIGMPMembershipReportV2 (caller : Caller) (groupAddress : String) : PacketIndication :=
  caller.send (createIGMPV2MembershipReportPacket groupAddress)

def sendIGMPMembershipReportV3 (caller : Caller) (groupAddress : String) : PacketIndication :=
  caller.send (createIGMPV3MembershipReportPacket groupAddress)

inductive Fault where
  /-- The layer is of neither version, and the nil message is used. -/
  | nilIgmp
deriving DecidableEq, Repr

/-- What `HandleNextPacket` finds in a packet: its VLAN, the IGMP layer, and in that a message. -/
structure IgmpPacket where
  vlan : Option UInt16
  layer : Option (Option IgmpType)

/-- A query is answered with a report for each group that was joined on the VLAN. -/
def handleNextPacket (caller : Caller) (groupAddresses : List (String × Int)) (packet : IgmpPacket) :
    Except Fault (List PacketIndication) :=
  match packet.vlan, packet.layer with
  | none, _ => .ok []
  | _, none => .ok []
  | _, some none => .error .nilIgmp
  | some vlan, some (some type) =>
    if type = .membershipQuery then
      .ok ((groupAddresses.filter fun group => group.2 = (vlan.toNat : Int)).map fun group =>
        sendIGMPMembershipReportV2 { caller with cTag := group.2 } group.1)
    else .ok []

end Bbsim.Responders.Igmp
