import Bbsim.Devices.Flow
import Bbsim.Devices.StateMachines

/-! Messages of an ONU. What travels on the channel of an ONU, with the data its message loop reads. -/

namespace Bbsim.Devices

inductive PacketType where
  | unknown
  | eapol
  | dhcp
  | igmp
  | icmp
deriving DecidableEq, Repr

/-- `OnuPacketMessage`. -/
structure PacketMessage where
  portNo : UInt32
  gemPortId : UInt32
  type : PacketType
  macAddress : List UInt8
deriving DecidableEq

/-- The OMCI requests that `handleOmciRequest` tells apart by their effect on the ONU's ports, its
state machine and the resources of its PON. -/
inductive OmciRequest where
  | mibReset
  | setUniAdminState (entity : UInt16) (adminState : UInt8)
  | setPotsAdminState (entity : UInt16) (adminState : UInt8)
  | setTCont (entity allocId : UInt16)
  | createGemPort (entity : UInt16)
  | deleteGemPort (entity : UInt16)
  | startSoftwareDownload
  | downloadSection
  /-- With the verdict of `handleEndSoftwareDownloadRequest` on the image. -/
  | endSoftwareDownload (success : Bool)
  | activateSoftware
  | commitSoftware
  /-- Any other request; a Set, Create or Delete changes the MIB. -/
  | other (changesMib : Bool)
deriving DecidableEq

inductive Message where
  | onuDiscIndication
  | onuIndication (operState : PortState)
  | omci (request : OmciRequest)
  | uniStatusAlarm (entity : UInt16) (raiseOmciAlarm : Bool)
  | flowAdd (flow : Flow)
  | flowRemoved (flow : Flow)
  | onuPacketOut (packet : PacketMessage)

namespace Message

/-- The flow a message adds or removes. -/
def flow? : Message → Option Flow
  | .flowAdd flow => some flow
  | .flowRemoved flow => some flow
  | _ => none

def isFlowUpdate (message : Message) : Bool := message.flow?.isSome

end Message

end Bbsim.Devices
