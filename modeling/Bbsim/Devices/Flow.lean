import Bbsim.Foundation.FiniteMap

/-! Flows. The fields of `openolt.Flow` that BBSim reads. -/

namespace Bbsim.Devices

open Foundation

inductive FlowType where
  | upstream
  | downstream
  | multicast
  | other (name : String)
deriving DecidableEq

structure Classifier where
  ethType : UInt32
  oVid : UInt32
  iVid : UInt32
  oPbits : UInt32
  srcPort : UInt32
  dstPort : UInt32
deriving DecidableEq

structure Flow where
  flowId : UInt64
  flowType : FlowType
  accessIntfId : Int32
  onuId : Int32
  uniId : Int32
  portNo : UInt32
  gemportId : Int32
  allocId : Int32
  replicateFlow : Bool
  pbitToGemport : FiniteMap UInt32 UInt32
  classifier : Classifier

namespace Flow

/-- An OLT trap flow, which no ONU hears of. -/
def isOltFlow (flow : Flow) : Bool := flow.accessIntfId = -1

def ponId (flow : Flow) : UInt32 := flow.accessIntfId.toUInt32
def onuIndex (flow : Flow) : UInt32 := flow.onuId.toUInt32

/-- The GEM ports the flow refers to, as the resource tables key them. -/
def gemPorts (flow : Flow) : List Int32 :=
  if flow.replicateFlow then flow.pbitToGemport.entries.map fun entry => entry.2.toInt32
  else [flow.gemportId]

/-- The GEM port an ONU uses for the flow: that of priority 0 where flows are replicated. -/
def onuGemPort (flow : Flow) : UInt32 :=
  if flow.replicateFlow then (flow.pbitToGemport.lookup 0).getD 0 else flow.gemportId.toUInt32

/-- EAPOL trap flow: EtherType 0x888E on the untagged VLAN. -/
def isEapol (flow : Flow) : Bool :=
  flow.classifier.ethType = 0x888e ∧ flow.classifier.oVid = 4091

/-- DHCP trap flow: IPv4 from the client to the server port. -/
def isDhcp (flow : Flow) : Bool :=
  flow.classifier.ethType = 0x0800 ∧ flow.classifier.srcPort = 68 ∧ flow.classifier.dstPort = 67

end Flow

end Bbsim.Devices
