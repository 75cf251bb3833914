import Bbsim.Devices.Service

/-! Ports of an ONU. Ethernet UNIs with their services, and POTS ports. Every accepted change of the
operational state sends an alarm to the ONU. -/

namespace Bbsim.Devices

structure UniPort where
  id : UInt32
  meId : UInt16
  portNo : UInt32
  operState : PortState
  services : List Service
  /-- Goroutines of `HandlePackets`: one for each time the port came up, and none ever ends, as
  `PacketCh` is made with the port and never closed. -/
  packetLoops : Nat
deriving DecidableEq

namespace UniPort

def alarm (uni : UniPort) (raiseOmciAlarm : Bool) : Message :=
  .uniStatusAlarm uni.meId raiseOmciAlarm

/-- `none` where the event is not accepted. -/
def enable (uni : UniPort) : Option UniPort :=
  (uni.operState.after .enable).map fun state =>
    { uni with
      operState := state
      packetLoops := uni.packetLoops + 1
      services := uni.services.map Service.initService }

def disable (uni : UniPort) : Option UniPort :=
  (uni.operState.after .disable).map fun state =>
    { uni with operState := state, services := uni.services.map Service.disable }

def addGemPortToService (uni : UniPort) (gemPort ethType oVlan iVlan : UInt32) : UniPort :=
  { uni with services := uni.services.map (Service.addGemPort gemPort ethType oVlan iVlan) }

def storePortNo (uni : UniPort) (portNo : UInt32) : UniPort := { uni with portNo := portNo }

def handleAuth (uni : UniPort) : UniPort :=
  { uni with services := uni.services.map Service.handleAuth }

def handleDhcp (uni : UniPort) (oPbit : UInt8) (oVid : Int) : UniPort :=
  { uni with services := uni.services.map (Service.handleDhcp oPbit oVid) }

def respond (index : Nat) (change : Service → Service) (uni : UniPort) : UniPort :=
  { uni with services := uni.services.modify index change }

/-- What `handleFlowAdd` does with the UNI of the flow. -/
def handleFlow (flow : Flow) (uni : UniPort) : UniPort :=
  let uni := (uni.addGemPortToService flow.onuGemPort flow.classifier.ethType flow.classifier.oVid
    flow.classifier.iVid).storePortNo flow.portNo
  if flow.isEapol then uni.handleAuth
  else if flow.isDhcp then
    uni.handleDhcp flow.classifier.oPbits.toUInt8 flow.classifier.oVid.toNat
  else uni

@[simp] theorem handleFlow_packetLoops (flow : Flow) (uni : UniPort) :
    (uni.handleFlow flow).packetLoops = uni.packetLoops := by
  unfold handleFlow
  dsimp only
  split
  · rfl
  · split <;> rfl

/-- The services whose `Channel` the handling of the flow sends on. -/
def startedServices (uni : UniPort) (flow : Flow) : List Service :=
  if flow.isEapol then uni.services.filter Service.startsAuth
  else if flow.isDhcp then
    uni.services.filter fun service =>
      service.startsDhcp flow.classifier.oPbits.toUInt8 flow.classifier.oVid.toNat
  else []

/-- The positions of the services whose `PacketCh` `HandlePackets` sends the packet on. -/
def packetServiceIndices (uni : UniPort) (packet : PacketMessage) : List Nat :=
  match packet.type with
  | .eapol | .dhcp =>
    (uni.services.findIdx? fun service => service.hwAddress = packet.macAddress).toList
  | .igmp =>
    (List.range uni.services.length).filter fun index => uni.services[index]?.any Service.needsIgmp
  | .unknown | .icmp => []

def packetServices (uni : UniPort) (packet : PacketMessage) : List Service :=
  (uni.packetServiceIndices packet).filterMap fun index => uni.services[index]?

/-- The services with a membership, while the UNI is up. -/
def memberships (uni : UniPort) : Nat :=
  if uni.operState = .up then
    uni.services.countP fun service => service.needsIgmp ∧ service.internalState = .initialized ∧
      service.groupAddresses ≠ []
  else 0

end UniPort

structure PotsPort where
  id : UInt32
  meId : UInt16
  operState : PortState
deriving DecidableEq

namespace PotsPort

def alarm (pots : PotsPort) (raiseOmciAlarm : Bool) : Message :=
  .uniStatusAlarm pots.meId raiseOmciAlarm

def enable (pots : PotsPort) : Option PotsPort :=
  (pots.operState.after .enable).map fun state => { pots with operState := state }

def disable (pots : PotsPort) : Option PotsPort :=
  (pots.operState.after .disable).map fun state => { pots with operState := state }

end PotsPort

end Bbsim.Devices
