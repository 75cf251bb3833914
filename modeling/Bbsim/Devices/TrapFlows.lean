import Mathlib.Data.List.Forall2
import Bbsim.Devices.OnuMessages
import Bbsim.Devices.Subscriber

/-! Trap flows. A trap flow gives a GEM port to some services of its UNI and starts some services,
by two separate searches. `addGemPortToService` looks for a DHCP service by its C-tag, `HandleDhcp`
by its S-tag if it is the management service of a DPU. -/

namespace Bbsim.Devices

open Responders

/-- What a flow does to a service of its UNI. -/
def Service.handleFlow (flow : Flow) (service : Service) : Service :=
  let service := service.addGemPort flow.onuGemPort flow.classifier.ethType flow.classifier.oVid
    flow.classifier.iVid
  if flow.isEapol then service.handleAuth
  else if flow.isDhcp then
    service.handleDhcp flow.classifier.oPbits.toUInt8 flow.classifier.oVid.toNat
  else service

theorem UniPort.handleFlow_services (flow : Flow) (uni : UniPort) :
    (uni.handleFlow flow).services = uni.services.map (Service.handleFlow flow) := by
  unfold UniPort.handleFlow Service.handleFlow
  by_cases eapol : flow.isEapol
  · simp [eapol, addGemPortToService, storePortNo, handleAuth, Function.comp_def]
  · by_cases dhcp : flow.isDhcp
    · simp [eapol, dhcp, addGemPortToService, storePortNo, handleDhcp, Function.comp_def]
    · simp [eapol, dhcp, addGemPortToService, storePortNo]

namespace Flow

/-- The flow is to start the authentication of the service. -/
def StartsAuth (flow : Flow) (service : Service) : Prop :=
  flow.isEapol = true ∧ service.needsEapol = true

/-- The priority of the flow, in all its bits. -/
def HasPbits (flow : Flow) (priority : UInt8) : Prop :=
  priority.toNat = flow.classifier.oPbits.toNat ∨ flow.classifier.oPbits = 255

/-- The flow is to start DHCP on the service. -/
def StartsDhcp (flow : Flow) (service : Service) : Prop :=
  flow.isDhcp = true ∧ service.needsDhcp = true ∧
    service.dhcpTag.1 = flow.classifier.oVid.toNat ∧ flow.HasPbits service.dhcpTag.2

/-- The service gets the GEM port of a DHCP flow, or has it. -/
def HasGem (flow : Flow) (service : Service) : Prop :=
  service.cTag = flow.classifier.oVid.toNat ∨
    (service.cTag = flow.classifier.iVid.toNat ∧ service.sTag = flow.classifier.oVid.toNat) ∨
      service.gemPort = flow.onuGemPort

/-- Where the code starts DHCP, the priority is not a matter of the bits it drops, and the GEM port has
been found as well. -/
def Consistent (flow : Flow) (service : Service) : Prop :=
  flow.isDhcp = true → service.needsDhcp = true →
    service.matchesDhcp flow.classifier.oPbits.toUInt8 flow.classifier.oVid.toNat = true →
      flow.HasPbits service.dhcpTag.2 ∧ flow.HasGem service

end Flow

/-- What a flow is to do to a service: `before` and `now` are the service, and a packet it sends first
has the GEM port of the flow. -/
structure StartedRight (flow : Flow) (caller : Service → Subscriber) (before now : Service) : Prop where
  auth : now.eapolState = .authStarted ↔ flow.StartsAuth before
  dhcp : now.dhcpState = .started ↔ flow.StartsDhcp before
  authGem : now.eapolState = .authStarted →
    ∀ packet, ((caller now).handleEapolStart true).2 = some packet → packet.gemportId = flow.onuGemPort
  dhcpGem : now.dhcpState = .started →
    ∀ packet, ((caller now).handleDHCPStart true).2 = some packet → packet.gemportId = flow.onuGemPort

namespace Service

variable {flow : Flow} {service : Service}

private theorem not_isDhcp_of_isEapol (eapol : flow.isEapol = true) : flow.isDhcp = false := by
  unfold Flow.isEapol at eapol
  unfold Flow.isDhcp
  simp only [decide_eq_true_eq] at eapol
  simp [eapol.1]

/-- The flow starts DHCP on the service as the code sees it. -/
def startedDhcp (flow : Flow) (service : Service) : Prop :=
  flow.isDhcp = true ∧ service.needsDhcp = true ∧
    service.matchesDhcp flow.classifier.oPbits.toUInt8 flow.classifier.oVid.toNat = true

/-- The GEM port that the service has after the flow. -/
def flowGem (flow : Flow) (service : Service) : UInt32 :=
  (service.addGemPort flow.onuGemPort flow.classifier.ethType flow.classifier.oVid
    flow.classifier.iVid).gemPort

theorem addGemPort_eq (service : Service) (gemPort ethType oVlan iVlan : UInt32) :
    service.addGemPort gemPort ethType oVlan iVlan =
      { service with gemPort := (service.addGemPort gemPort ethType oVlan iVlan).gemPort } := by
  unfold addGemPort
  split <;> rfl

theorem handleAuth_eq (initial : service.eapolState = .created) :
    service.handleAuth =
      { service with eapolState := if service.needsEapol then .authStarted else .created } := by
  unfold handleAuth
  split
  · rw [initial]
    rfl
  · rw [← initial]

theorem handleDhcp_eq (initial : service.dhcpState = .created) (oPbit : UInt8) (oVid : Int) :
    service.handleDhcp oPbit oVid =
      { service with
        dhcpState := if service.matchesDhcp oPbit oVid ∧ service.needsDhcp then .started else .created } := by
  unfold handleDhcp
  split
  · rw [initial]
    rfl
  · rw [← initial]

theorem matchesDhcp_withGem (service : Service) (gemPort : UInt32) (oPbit : UInt8) (oVid : Int) :
    matchesDhcp { service with gemPort := gemPort } oPbit oVid = service.matchesDhcp oPbit oVid := rfl

instance (flow : Flow) (service : Service) : Decidable (flow.StartsAuth service) :=
  inferInstanceAs (Decidable (_ ∧ _))

instance (flow : Flow) (service : Service) : Decidable (startedDhcp flow service) :=
  inferInstanceAs (Decidable (_ ∧ _))

/-- A flow gives a GEM port, and starts the machines it is for. -/
theorem handleFlow_eq (auth : service.eapolState = .created) (dhcp : service.dhcpState = .created) :
    service.handleFlow flow =
      { service with
        gemPort := service.flowGem flow
        eapolState := if flow.StartsAuth service then .authStarted else .created
        dhcpState := if startedDhcp flow service then .started else .created } := by
  unfold handleFlow
  rw [addGemPort_eq]
  by_cases eapol : flow.isEapol = true
  · have other := not_isDhcp_of_isEapol eapol
    rw [if_pos eapol, handleAuth_eq]
    · simp [Flow.StartsAuth, startedDhcp, eapol, other, dhcp, flowGem]
    · exact auth
  · by_cases isDhcp : flow.isDhcp = true
    · rw [if_neg eapol, if_pos isDhcp, handleDhcp_eq, matchesDhcp_withGem]
      · simp [Flow.StartsAuth, startedDhcp, eapol, isDhcp, auth, flowGem, and_comm]
      · exact dhcp
    · rw [if_neg eapol, if_neg isDhcp]
      simp [Flow.StartsAuth, startedDhcp, eapol, isDhcp, auth, dhcp, flowGem]

private theorem flowGem_of_startsAuth (starts : flow.StartsAuth service) :
    service.flowGem flow = flow.onuGemPort := by
  obtain ⟨eapol, needed⟩ := starts
  unfold Flow.isEapol at eapol
  have type := (of_decide_eq_true eapol).1
  rw [flowGem, addGemPort, if_pos (.inl ⟨type, needed⟩)]

theorem flowGem_of_startedDhcp_iff (started : startedDhcp flow service) :
    service.flowGem flow = flow.onuGemPort ↔ flow.HasGem service := by
  obtain ⟨dhcp, needed, -⟩ := started
  unfold Flow.isDhcp at dhcp
  have type := (of_decide_eq_true dhcp).1
  unfold flowGem addGemPort Flow.HasGem
  rw [type]
  split
  · next given =>
    refine iff_of_true rfl ?_
    rcases given with ⟨wrong, -⟩ | ⟨-, -, tag⟩ | tags
    · exact absurd wrong (by decide)
    · exact .inl tag
    · exact .inr (.inl tags)
  · next missed =>
    simp only [not_or, not_and] at missed
    refine ⟨fun same => .inr (.inr same), ?_⟩
    rintro (tag | ⟨inner, outer⟩ | same)
    · exact absurd tag (missed.2.1 trivial needed)
    · exact absurd outer (missed.2.2 inner)
    · exact same

/-- The code's comparison of priorities accepts all that it should. -/
theorem narrow_of_hasPbits {priority : UInt8} (has : flow.HasPbits priority) :
    priority = flow.classifier.oPbits.toUInt8 ∨ flow.classifier.oPbits.toUInt8 = 255 := by
  rcases has with same | any
  · left
    rw [← UInt8.toNat_inj, UInt32.toNat_toUInt8, ← same]
    exact (Nat.mod_eq_of_lt priority.toNat_lt).symm
  · right
    rw [any]
    rfl

theorem startedDhcp_of_startsDhcp (starts : flow.StartsDhcp service) : startedDhcp flow service := by
  obtain ⟨dhcp, needed, tag, priority⟩ := starts
  exact ⟨dhcp, needed, decide_eq_true ⟨tag, narrow_of_hasPbits priority⟩⟩

/-- A service in its initial states is started as it should be exactly if the flow is consistent for
it. -/
theorem startedRight_iff (caller : Service → Subscriber) (same : ∀ service, (caller service).service = service)
    (auth : service.eapolState = .created) (dhcp : service.dhcpState = .created) :
    StartedRight flow caller service (service.handleFlow flow) ↔ flow.Consistent service := by
  have authStarted : (service.handleFlow flow).eapolState = .authStarted ↔ flow.StartsAuth service := by
    rw [handleFlow_eq auth dhcp]
    simp
  have dhcpStarted : (service.handleFlow flow).dhcpState = .started ↔ startedDhcp flow service := by
    rw [handleFlow_eq auth dhcp]
    simp
  have gem : (caller (service.handleFlow flow)).service.gemPort = service.flowGem flow := by
    rw [same, handleFlow_eq auth dhcp]
  constructor
  · intro right isDhcp needed matched
    have started : startedDhcp flow service := ⟨isDhcp, needed, matched⟩
    have now := dhcpStarted.mpr started
    refine ⟨(right.dhcp.mp now).2.2.2, ?_⟩
    exact (flowGem_of_startedDhcp_iff started).mp (gem.symm.trans (right.dhcpGem now _ rfl))
  · intro consistent
    refine ⟨authStarted, ?_, ?_, ?_⟩
    · refine dhcpStarted.trans ⟨fun started => ?_, startedDhcp_of_startsDhcp⟩
      obtain ⟨isDhcp, needed, matched⟩ := started
      exact ⟨isDhcp, needed, (of_decide_eq_true matched).1, (consistent isDhcp needed matched).1⟩
    · rintro now packet ⟨⟩
      exact gem.trans (flowGem_of_startsAuth (authStarted.mp now))
    · rintro now packet ⟨⟩
      have started := dhcpStarted.mp now
      have consistent := consistent started.1 started.2.1 started.2.2
      exact gem.trans ((flowGem_of_startedDhcp_iff started).mpr consistent.2)

end Service

/-- A flow whose priority fits a byte, on a UNI whose DPU management services have the outer VLAN of
the flow in both tags. -/
theorem Flow.consistent_of_tags {flow : Flow} {service : Service}
    (fits : flow.classifier.oPbits.toNat < 256)
    (tags : service.name = fttbDpuMgmtServiceName → service.cTag = service.sTag) :
    flow.Consistent service := by
  intro _ _ matched
  obtain ⟨tag, priority⟩ := of_decide_eq_true matched
  refine ⟨?_, .inl ?_⟩
  · rcases priority with same | any
    · left
      rw [same, UInt32.toNat_toUInt8, Nat.mod_eq_of_lt fits]
    · right
      rw [← UInt8.toNat_inj, UInt32.toNat_toUInt8, Nat.mod_eq_of_lt fits] at any
      exact UInt32.toNat_inj.mp any
  · rw [← tag, Service.dhcpTag]
    split
    · next managed => exact tags managed
    · rfl

/-- A flow for a UNI of initialized services that have started nothing starts the services that it
should, with its GEM port on their first packets, exactly if it is consistent for each of them. Other
UNIs keep what they have. -/
theorem trap_flow_starts_iff {onu : Onu} {flow : Flow} {index : Nat} {uni : UniPort}
    (oltId : Int) (groupVlan : String → Int)
    (found : onu.findUniById flow.uniId.toUInt32 = some index) (port : onu.uniPorts[index]? = some uni)
    (idle : ∀ service ∈ uni.services, service.internalState = .initialized ∧
      service.eapolState = .created ∧ service.dhcpState = .created) :
    ∃ after served, onu.handleFlowAdd flow = .ok after ∧ after.uniPorts[index]? = some served ∧
      (∀ other, other ≠ index → after.uniPorts[other]? = onu.uniPorts[other]?) ∧
      (List.Forall₂ (StartedRight flow (Subscriber.of oltId groupVlan after served)) uni.services
          served.services ↔
        ∀ service ∈ uni.services, flow.Consistent service) := by
  refine ⟨_, uni.handleFlow flow, by rw [Onu.handleFlowAdd, found], ?_, ?_, ?_⟩
  · simp [port]
  · intro other ne
    simp [ne.symm]
  · rw [UniPort.handleFlow_services, List.forall₂_map_right_iff, List.forall₂_same]
    refine forall₂_congr fun service member => ?_
    obtain ⟨-, auth, dhcp⟩ := idle service member
    exact Service.startedRight_iff _ (fun _ => rfl) auth dhcp


/-- A UNI with one initialized service. -/
def uniWith (service : Service) : UniPort where
  id := 0
  meId := 257
  portNo := 16
  operState := .up
  services := [service.initService]
  packetLoops := 1

def onuWith (service : Service) : Onu := .create 1 0 0 [] [uniWith service] [] 10

/-- The management service of a DPU with S-tag 60. -/
def dpuService (cTag : Int) : Service :=
  .create 0 fttbDpuMgmtServiceName [0x2e, 0, 0, 1, 0, 0] cTag 60 false true false 0 0

/-- A DHCP trap flow for VLAN 60. -/
def dpuFlow : Flow where
  flowId := 1
  flowType := .upstream
  accessIntfId := 0
  onuId := 1
  uniId := 0
  portNo := 256
  gemportId := 1024
  allocId := 1024
  replicateFlow := false
  pbitToGemport := ∅
  classifier := ⟨0x0800, 60, 0, 255, 68, 67⟩

theorem trap_flow_starts_dpu : ∃ after served, (onuWith (dpuService 60)).handleFlowAdd dpuFlow = .ok after ∧
    after.uniPorts[0]? = some served ∧
    List.Forall₂ (StartedRight dpuFlow (Subscriber.of 0 (fun _ => 900) after served))
      (uniWith (dpuService 60)).services served.services := by
  obtain ⟨after, served, added, port, -, right⟩ := trap_flow_starts_iff 0 (fun _ => 900)
    (show (onuWith (dpuService 60)).findUniById dpuFlow.uniId.toUInt32 = some 0 from rfl) rfl (by decide)
  refine ⟨after, served, added, port, right.mpr fun service member => ?_⟩
  obtain rfl := List.mem_singleton.mp member
  exact Flow.consistent_of_tags (by decide) fun _ => rfl

/-- With another C-tag DHCP starts on the old GEM port. -/
theorem dpu_starts_without_gem : ∃ after served service packet,
    (onuWith (dpuService 7)).handleFlowAdd dpuFlow = .ok after ∧
    after.uniPorts[0]? = some served ∧ served.services = [service] ∧ service.dhcpState = .started ∧
    ((Subscriber.of 0 (fun _ => 900) after served service).handleDHCPStart true).2 = some packet ∧
    packet.gemportId = 0 ∧ dpuFlow.onuGemPort = 1024 :=
  ⟨_, _, _, _, rfl, rfl, rfl, rfl, rfl, rfl, rfl⟩

end Bbsim.Devices
