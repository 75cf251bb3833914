import Bbsim.Devices.StateMachines
import Bbsim.Responders.Packets

/-! The DHCP responder. The client side of an address assignment. What is on the wire does not
depend on the state machine: every Offer is answered with a Request, and the machine is told
afterwards. -/

namespace Bbsim.Responders.Dhcp

open Devices

/-- What a service passes on. -/
structure Caller where
  onuId : UInt32
  ponPortId : UInt32
  portNo : UInt32
  tag : Int
  gemPortId : UInt32
  uniId : UInt32
  hwAddress : Mac
  pbit : UInt8

/-- An event whose refusal is only logged. -/
def fire (state : DhcpState) (event : DhcpEvent) : DhcpState := (state.after event).getD state

def updateDhcpFailed (state : DhcpState) : DhcpState := fire state .failed

/-- The decimals of the six bytes one after the other, which is a number that fits an `int`. -/
def macAddressToTxId (mac : Mac) : UInt32 :=
  UInt32.ofNat ((String.join (mac.map fun byte => toString byte.toNat)).toNat?.getD 0)

def createDefaultDHCPReq (mac : Mac) (options : List DhcpOption) : DhcpLayer where
  operation := .request
  xid := macAddressToTxId mac
  clientHwAddr := mac
  options := options

/-- Subnet mask, broadcast address, time offset, router, domain name, DNS, domain search, host name,
NetBIOS name server and scope, MTU, classless static route, NTP servers. -/
def defaultParamsRequestList : List UInt8 := [1, 28, 2, 3, 15, 6, 119, 12, 44, 47, 26, 121, 42]

def hostname (gemPortId intfId onuId : UInt32) : List UInt8 :=
  s!"{gemPortId}.{intfId}.{onuId}.bbsim.onf.org".toUTF8.toList

def createDefaultOpts (gemPortId intfId onuId : UInt32) : List DhcpOption :=
  [⟨.hostname, hostname gemPortId intfId onuId⟩, ⟨.paramsRequest, defaultParamsRequestList⟩]

def DhcpMsgType.code : DhcpMsgType → UInt8
  | .discover => 1
  | .offer => 2
  | .request => 3
  | .ack => 5
  | .release => 7

def messageType (type : DhcpMsgType) : DhcpOption := ⟨.messageType, [DhcpMsgType.code type]⟩

def createDHCPDisc (intfId onuId gemPort : UInt32) (macAddress : Mac) : DhcpLayer :=
  createDefaultDHCPReq macAddress
    (messageType .discover :: createDefaultOpts gemPort intfId onuId ++
      [⟨.clientId, 1 :: macAddress⟩])

def createDHCPReq (intfId onuId : UInt32) (macAddress : Mac) (offeredIp : List UInt8)
    (gemPortId : UInt32) : DhcpLayer :=
  createDefaultDHCPReq macAddress
    (createDefaultOpts gemPortId intfId onuId ++
      [messageType .request, ⟨.serverId, [182, 21, 0, 128]⟩,
        ⟨.clientId, [0xcd, 0x28, 0xcb, 0xcc, 0x00, 0x01, 0x00, 0x01, 0x23, 0xed, 0x11, 0xec, 0x4e,
          0xfc, 0xcd, 0x28, intfId.toUInt8, onuId.toUInt8]⟩,
        ⟨.requestIp, offeredIp⟩])

def serializeDHCPPacket (tag : Int) (srcMac : Mac) (layer : DhcpLayer) (pbit : UInt8) : Frame where
  srcMac := srcMac
  dstMac := broadcast
  payload := .dhcp (vlanIdentifier tag) pbit layer

/-- The first option of the type decides. -/
def getDhcpMessageType (layer : DhcpLayer) : Option DhcpMsgType :=
  (layer.options.find? fun option => option.type = .messageType).bind fun option =>
    [DhcpMsgType.discover, .offer, .request, .ack, .release].find? fun type =>
      option.data = [DhcpMsgType.code type]

def Caller.sendDHCPPktIn (caller : Caller) (layer : DhcpLayer) : PacketIndication where
  intfId := caller.ponPortId
  gemportId := caller.gemPortId
  portNo := caller.portNo
  onuId := caller.onuId
  uniId := caller.uniId
  frame := serializeDHCPPacket caller.tag caller.hwAddress layer caller.pbit

def Caller.discovery (caller : Caller) : PacketIndication :=
  caller.sendDHCPPktIn
    (createDHCPDisc caller.ponPortId caller.onuId caller.gemPortId caller.hwAddress)

def Caller.request (caller : Caller) (offeredIp : List UInt8) : PacketIndication :=
  caller.sendDHCPPktIn
    (createDHCPReq caller.ponPortId caller.onuId caller.hwAddress offeredIp caller.gemPortId)

/-- The machine after `SendDHCPDiscovery`, and whether the call succeeds. `sends` is false also where
the packet cannot be serialised. -/
def sendDHCPDiscovery (state : DhcpState) (sends : Bool) : DhcpState × Bool :=
  if sends then
    match state.after .discoverySent with
    | some next => (next, true)
    | none => (state, false)
  else (updateDhcpFailed state, false)

/-- An Offer is answered whatever the state is. -/
def handleOffer (caller : Caller) (state : DhcpState) (sends : Bool) (offeredIp : List UInt8) :
    DhcpState × Option PacketIndication :=
  if sends then (fire state .requestSent, some (caller.request offeredIp))
  -- both `sendDHCPRequest` and its caller report the failure
  else (updateDhcpFailed (updateDhcpFailed state), none)

/-- A packet without a DHCP layer is `none`. -/
def handleNextPacket (caller : Caller) (state : DhcpState) (sends : Bool)
    (packet : Option DhcpLayer) : DhcpState × Option PacketIndication :=
  match packet with
  | none => (updateDhcpFailed state, none)
  | some layer =>
    match getDhcpMessageType layer with
    | none => (updateDhcpFailed state, none)
    | some type =>
      if layer.operation = .reply then
        match type with
        | .offer => handleOffer caller state sends layer.yourClientIp
        | .ack => (fire state .ackReceived, none)
        | _ => (state, none)
      else (state, none)

end Bbsim.Responders.Dhcp
