/-! Packets of the responders. The layers that the EAPOL, DHCP and IGMP responders read and build,
and the packet indications that carry them to VOLTHA. -/

namespace Bbsim.Responders

/-- `net.HardwareAddr`. -/
abbrev Mac := List UInt8

inductive EapCode where
  | request
  | response
  | success
  | failure
  | other (code : UInt8)
deriving DecidableEq, Repr

inductive EapType where
  | none
  | identity
  | otp
  | other (type : UInt8)
deriving DecidableEq, Repr

structure Eap where
  code : EapCode
  id : UInt8
  length : UInt16
  type : EapType
  typeData : List UInt8
  /-- The bytes of a layer that was received. -/
  contents : List UInt8 := []
deriving DecidableEq

inductive EapolType where
  | eap
  | start
  | other (type : UInt8)
deriving DecidableEq, Repr

/-- What `extractEAPOL` and `extractEAP` find in a packet. -/
structure EapolPacket where
  eapol : Option EapolType
  eap : Option Eap
deriving DecidableEq

inductive DhcpOp where
  | request
  | reply
  | other (operation : UInt8)
deriving DecidableEq, Repr

inductive DhcpOpt where
  | hostname
  | requestIp
  | messageType
  | serverId
  | paramsRequest
  | clientId
  | other (option : UInt8)
deriving DecidableEq, Repr

structure DhcpOption where
  type : DhcpOpt
  data : List UInt8
deriving DecidableEq

/-- `layers.DHCPv4`. -/
structure DhcpLayer where
  operation : DhcpOp
  xid : UInt32
  clientHwAddr : Mac
  clientIp : List UInt8 := []
  yourClientIp : List UInt8 := []
  options : List DhcpOption
deriving DecidableEq

inductive DhcpMsgType where
  | discover
  | offer
  | request
  | ack
  | release
deriving DecidableEq, Repr

inductive IgmpType where
  | membershipQuery
  | membershipReportV2
  | membershipReportV3
  | leaveGroup
  | other (type : UInt8)
deriving DecidableEq, Repr

structure Igmp where
  type : IgmpType
  groupAddress : String
  version : UInt8
deriving DecidableEq

inductive Payload where
  | eapol (type : EapolType) (length : UInt16) (eap : Option Eap)
  | dhcp (vlan : UInt16) (priority : UInt8) (layer : DhcpLayer)
  | igmp (vlan : UInt16) (priority : UInt8) (layer : Igmp)
deriving DecidableEq

structure Frame where
  srcMac : Mac
  dstMac : Mac
  payload : Payload
deriving DecidableEq

/-- `openolt.PacketIndication`, on a PON interface. -/
structure PacketIndication where
  intfId : UInt32
  gemportId : UInt32
  portNo : UInt32
  onuId : UInt32
  uniId : UInt32
  frame : Frame
deriving DecidableEq

def broadcast : Mac := [0xff, 0xff, 0xff, 0xff, 0xff, 0xff]

/-- `uint16(tag)` of an `int`. -/
def vlanIdentifier (tag : Int) : UInt16 := UInt16.ofInt tag

end Bbsim.Responders
