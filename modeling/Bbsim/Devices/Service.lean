import Bbsim.Devices.Message

/-! Services. A subscriber service of a UNI with its three state machines and its two channels. -/

namespace Bbsim.Devices

/-- An unbuffered channel as a sender finds it. Both channels of a service are made in the callback
that starts the goroutines ranging over them, and closed and set to nil in one callback. -/
inductive Endpoint where
  /-- A send waits for ever. -/
  | nil
  | served
deriving DecidableEq, Repr

structure Service where
  id : UInt32
  name : String
  hwAddress : List UInt8
  cTag : Int
  sTag : Int
  needsEapol : Bool
  needsDhcp : Bool
  needsIgmp : Bool
  usPonCTagPriority : UInt8
  usPonSTagPriority : UInt8
  gemPort : UInt32
  groupAddresses : List String
  internalState : ServiceState
  eapolState : EapolState
  dhcpState : DhcpState
  channel : Endpoint
  packetCh : Endpoint
deriving DecidableEq

def fttbDpuMgmtServiceName : String := "DPU_MGMT_TRAFFIC"

namespace Service

/-- `NewService`. -/
def create (id : UInt32) (name : String) (hwAddress : List UInt8) (cTag sTag : Int)
    (needsEapol needsDhcp needsIgmp : Bool) (usPonCTagPriority usPonSTagPriority : UInt8) :
    Service where
  id := id
  name := name
  hwAddress := hwAddress
  cTag := cTag
  sTag := sTag
  needsEapol := needsEapol
  needsDhcp := needsDhcp
  needsIgmp := needsIgmp
  usPonCTagPriority := usPonCTagPriority
  usPonSTagPriority := usPonSTagPriority
  gemPort := 0
  groupAddresses := []
  internalState := .created
  eapolState := .created
  dhcpState := .created
  channel := .nil
  packetCh := .nil

def initService (service : Service) : Service :=
  match service.internalState.after .init with
  | none => service
  | some state =>
    { service with internalState := state, packetCh := .served, channel := .served }

def disable (service : Service) : Service :=
  match service.internalState.after .disable with
  | none => service
  | some state =>
    { service with
      internalState := state
      eapolState := .created
      dhcpState := .created
      packetCh := .nil
      channel := .nil
      gemPort := 0
      groupAddresses := [] }

/-- The EAPOL flow starts the service: the callback before the transition sends on `channel`. -/
def startsAuth (service : Service) : Bool :=
  service.needsEapol && (service.eapolState.after .startAuth).isSome

def handleAuth (service : Service) : Service :=
  if service.needsEapol then
    { service with eapolState := (service.eapolState.after .startAuth).getD service.eapolState }
  else service

/-- Tag and priority a DHCP flow is compared with. -/
def dhcpTag (service : Service) : Int × UInt8 :=
  if service.name = fttbDpuMgmtServiceName then (service.sTag, service.usPonSTagPriority)
  else (service.cTag, service.usPonCTagPriority)

/-- The DHCP flow is for this service. -/
def matchesDhcp (service : Service) (oPbit : UInt8) (oVid : Int) : Bool :=
  service.dhcpTag.1 = oVid ∧ (service.dhcpTag.2 = oPbit ∨ oPbit = 255)

def startsDhcp (service : Service) (oPbit : UInt8) (oVid : Int) : Bool :=
  service.matchesDhcp oPbit oVid && service.needsDhcp && (service.dhcpState.after .start).isSome

def handleDhcp (oPbit : UInt8) (oVid : Int) (service : Service) : Service :=
  if service.matchesDhcp oPbit oVid ∧ service.needsDhcp then
    { service with dhcpState := (service.dhcpState.after .start).getD service.dhcpState }
  else service

/-- What responders, timers and the API do to a service in between. -/
def respond (eapolState : EapolState) (dhcpState : DhcpState) (groupAddresses : List String)
    (service : Service) : Service :=
  { service with eapolState := eapolState, dhcpState := dhcpState, groupAddresses := groupAddresses }

/-- One turn of the loop of `addGemPortToService`. -/
def addGemPort (gemPort ethType oVlan iVlan : UInt32) (service : Service) : Service :=
  if (ethType = 0x888e ∧ service.needsEapol) ∨
      (ethType = 0x0800 ∧ service.needsDhcp ∧ service.cTag = oVlan.toNat) ∨
      (service.cTag = iVlan.toNat ∧ service.sTag = oVlan.toNat) then
    { service with gemPort := gemPort }
  else service

end Service

end Bbsim.Devices
