import Bbsim.Devices.Subscriber

/-! Prompts of a service. All that makes a service send a packet indication: messages on its two
channels, and the IGMP requests of the API. A prompt says what is sent and what becomes of the
service. -/

namespace Bbsim.Devices

open Foundation Responders

inductive IgmpAction where
  | join
  | leave
  | joinV3
deriving DecidableEq, Repr

inductive Prompt where
  /-- A `StartEAPOL` message on `Channel`. -/
  | startEapol (sends : Bool)
  /-- An EAPOL packet, with the ids of the message that brings it. -/
  | eapolPacket (intfId onuId : UInt32) (sends : Bool) (packet : EapolPacket)
  /-- A `StartDHCP` message on `Channel`. -/
  | startDhcp (sends : Bool)
  | dhcpPacket (sends : Bool) (packet : Option DhcpLayer)
  | igmpPacket (packet : Igmp.IgmpPacket)
  /-- A request of the API, with the VLAN it names unless that is 0. -/
  | igmpRequest (action : IgmpAction) (vlan : UInt32) (groupAddress : String)

def IgmpAction.send (caller : Igmp.Caller) (groupAddress : String) : IgmpAction → PacketIndication
  | .join => Igmp.sendIGMPMembershipReportV2 caller groupAddress
  | .leave => Igmp.sendIGMPLeaveGroupV2 caller groupAddress
  | .joinV3 => Igmp.sendIGMPMembershipReportV3 caller groupAddress

/-- `AddGroupAddress` and `RemoveGroupAddress`. -/
def IgmpAction.groups (groupAddress : String) (groups : List String) : IgmpAction → List String
  | .join | .joinV3 => if groupAddress ∈ groups then groups else groups ++ [groupAddress]
  | .leave => groups.filter (· ≠ groupAddress)

namespace Subscriber

def igmpRequest (subscriber : Subscriber) (action : IgmpAction) (vlan : UInt32)
    (groupAddress : String) : Subscriber × PacketIndication :=
  let cTag := if vlan ≠ 0 then (vlan.toNat : Int) else subscriber.service.cTag
  let groups := action.groups groupAddress subscriber.service.groupAddresses
  ({ subscriber with service := { subscriber.service with groupAddresses := groups } },
    action.send (subscriber.igmpCaller cTag) groupAddress)

/-- The service after the prompt, with all that it sends; `none` where nobody takes the prompt, or the
process ends. -/
def prompted (md5 : List UInt8 → List UInt8) (subscriber : Subscriber) :
    Prompt → Option (Subscriber × List PacketIndication)
  | .startEapol sends =>
    if subscriber.service.channel = .served then
      let (after, sent) := subscriber.handleEapolStart sends
      some (after, sent.toList)
    else none
  | .eapolPacket intfId onuId sends packet =>
    if subscriber.service.packetCh = .served then
      (subscriber.handleEapolPacket md5 intfId onuId sends packet).toOption.map
        fun (after, sent) => (after, sent.toList)
    else none
  | .startDhcp sends =>
    if subscriber.service.channel = .served then
      let (after, sent) := subscriber.handleDHCPStart sends
      some (after, sent.toList)
    else none
  | .dhcpPacket sends packet =>
    if subscriber.service.packetCh = .served then
      let (after, sent) := subscriber.handleDhcpPacket sends packet
      some (after, sent.toList)
    else none
  | .igmpPacket packet =>
    -- the UNI hands them to its IGMP services only
    if subscriber.service.packetCh = .served ∧ subscriber.service.needsIgmp then
      (subscriber.handleIgmpPacket packet).toOption.map fun sent => (subscriber, sent)
    else none
  | .igmpRequest action vlan groupAddress =>
    if subscriber.service.needsIgmp ∧ subscriber.service.internalState = .initialized then
      let (after, sent) := subscriber.igmpRequest action vlan groupAddress
      some (after, [sent])
    else none

/-- The packets that each kind of prompt has the service send. -/
inductive Sends (subscriber : Subscriber) : Prompt → PacketIndication → Prop where
  | eapStart (sends : Bool) : Sends subscriber (.startEapol sends) subscriber.eapStart
  | eapResponse {intfId onuId : UInt32} {sends : Bool} {packet : EapolPacket} (eap : Eap) :
      Sends subscriber (.eapolPacket intfId onuId sends packet)
        ((subscriber.eapolCaller intfId onuId).response eap)
  | discovery (sends : Bool) : Sends subscriber (.startDhcp sends) subscriber.dhcpCaller.discovery
  | request {sends : Bool} {packet : Option DhcpLayer} (offeredIp : List UInt8) :
      Sends subscriber (.dhcpPacket sends packet) (subscriber.dhcpCaller.request offeredIp)
  | report {packet : Igmp.IgmpPacket} (needed : subscriber.service.needsIgmp = true) (cTag : Int)
      (layer : Igmp) :
      Sends subscriber (.igmpPacket packet) ((subscriber.igmpCaller cTag).send layer)
  | igmp {action : IgmpAction} {vlan : UInt32} {groupAddress : String}
      (needed : subscriber.service.needsIgmp = true) (cTag : Int) (layer : Igmp) :
      Sends subscriber (.igmpRequest action vlan groupAddress)
        ((subscriber.igmpCaller cTag).send layer)

variable {subscriber after : Subscriber} {md5 : List UInt8 → List UInt8}
  {packets : List PacketIndication} {packet : PacketIndication}

/-- A packet that an EAPOL packet is answered with is a response of the caller. -/
theorem eapol_answer {caller : Eapol.Caller} {state next : EapolState} {sends : Bool}
    {incoming : EapolPacket}
    (handled : Eapol.handleNextPacket md5 caller state sends incoming = .ok (next, some packet)) :
    ∃ eap, packet = caller.response eap := by
  have answered : ∀ event eap, Eapol.answer state sends event (caller.response eap) =
      (next, some packet) → packet = caller.response eap := by
    intro event eap same
    unfold Eapol.answer at same
    split at same
    · exact (Option.some.inj (Prod.mk.inj same).2).symm
    · cases (Prod.mk.inj same).2
  unfold Eapol.handleNextPacket at handled
  split at handled
  · cases handled
  · cases handled
  · cases handled
  · unfold Eapol.handleEap at handled
    split at handled
    · split at handled
      · exact ⟨_, answered _ _ (Except.ok.inj handled)⟩
      · cases handled
    · cases found : Eapol.getMD5Data md5 _ <;> rw [found] at handled <;> cases handled
    · split at handled
      · cases found : Eapol.getMD5Data md5 _ <;> rw [found] at handled
        · cases handled
        · exact ⟨_, answered _ _ (Except.ok.inj handled)⟩
      · cases handled
    · cases handled
    · split at handled <;> cases handled
    · cases handled

private theorem dhcp_answer {caller : Dhcp.Caller} {state : DhcpState} {sends : Bool}
    {incoming : Option DhcpLayer}
    (handled : (Dhcp.handleNextPacket caller state sends incoming).2 = some packet) :
    ∃ offeredIp, packet = caller.request offeredIp := by
  unfold Dhcp.handleNextPacket at handled
  split at handled
  · cases handled
  · split at handled
    · cases handled
    · split at handled
      · split at handled
        · unfold Dhcp.handleOffer at handled
          split at handled
          · exact ⟨_, (Option.some.inj handled).symm⟩
          · cases handled
        · cases handled
        · cases handled
      · cases handled

private theorem igmp_answer {caller : Igmp.Caller} {groups : List (String × Int)}
    {incoming : Igmp.IgmpPacket}
    (handled : Igmp.handleNextPacket caller groups incoming = .ok packets)
    (sent : packet ∈ packets) :
    ∃ cTag layer, packet = Igmp.Caller.send { caller with cTag := cTag } layer := by
  unfold Igmp.handleNextPacket at handled
  split at handled
  · cases handled
    cases sent
  · cases handled
    cases sent
  · cases handled
  · split at handled
    · cases handled
      obtain ⟨group, -, rfl⟩ := List.mem_map.mp sent
      exact ⟨_, _, rfl⟩
    · cases handled
      cases sent

theorem sends_of_prompted {prompt : Prompt}
    (answered : subscriber.prompted md5 prompt = some (after, packets)) (sent : packet ∈ packets) :
    subscriber.Sends prompt packet := by
  cases prompt with
  | startEapol sends =>
    obtain ⟨-, same⟩ := Option.ite_none_right_eq_some.mp answered
    obtain ⟨-, rfl⟩ := Prod.mk.inj (Option.some.inj same)
    obtain ⟨-, same⟩ := Option.ite_none_right_eq_some.mp (Option.mem_toList.mp sent)
    obtain rfl := Option.some.inj same
    exact .eapStart sends
  | eapolPacket intfId onuId sends incoming =>
    obtain ⟨-, same⟩ := Option.ite_none_right_eq_some.mp answered
    obtain ⟨⟨next, reply⟩, handled, same⟩ := Option.map_eq_some_iff.mp same
    obtain ⟨rfl, rfl⟩ := Prod.mk.inj same
    obtain rfl := Option.mem_toList.mp sent
    have handled := eq_ok_of_toOption handled
    unfold handleEapolPacket at handled
    cases outcome : Eapol.handleNextPacket md5 (subscriber.eapolCaller intfId onuId)
        subscriber.service.eapolState sends incoming with
    | error fault =>
      rw [outcome] at handled
      cases handled
    | ok result =>
      obtain ⟨state, reply⟩ := result
      rw [outcome] at handled
      obtain ⟨-, rfl⟩ := Prod.mk.inj (Except.ok.inj handled)
      obtain ⟨eap, rfl⟩ := eapol_answer outcome
      exact .eapResponse eap
  | startDhcp sends =>
    obtain ⟨-, same⟩ := Option.ite_none_right_eq_some.mp answered
    obtain ⟨-, rfl⟩ := Prod.mk.inj (Option.some.inj same)
    obtain ⟨-, same⟩ := Option.ite_none_right_eq_some.mp (Option.mem_toList.mp sent)
    obtain rfl := Option.some.inj same
    exact .discovery sends
  | dhcpPacket sends incoming =>
    obtain ⟨-, same⟩ := Option.ite_none_right_eq_some.mp answered
    obtain ⟨-, rfl⟩ := Prod.mk.inj (Option.some.inj same)
    obtain ⟨offeredIp, rfl⟩ := dhcp_answer (Option.mem_toList.mp sent)
    exact .request offeredIp
  | igmpPacket incoming =>
    obtain ⟨⟨-, needed⟩, same⟩ := Option.ite_none_right_eq_some.mp answered
    obtain ⟨reports, handled, same⟩ := Option.map_eq_some_iff.mp same
    obtain ⟨-, rfl⟩ := Prod.mk.inj same
    obtain ⟨cTag, layer, rfl⟩ := igmp_answer (eq_ok_of_toOption handled) sent
    exact .report needed cTag layer
  | igmpRequest action vlan groupAddress =>
    obtain ⟨⟨needed, -⟩, same⟩ := Option.ite_none_right_eq_some.mp answered
    obtain ⟨-, rfl⟩ := Prod.mk.inj (Option.some.inj same)
    obtain rfl := List.mem_singleton.mp sent
    cases action <;> exact .igmp needed _ _

/-- The packet has the addresses and ids of the service. -/
structure Carries (subscriber : Subscriber) (packet : PacketIndication) : Prop where
  srcMac : packet.frame.srcMac = subscriber.service.hwAddress
  intfId : packet.intfId = subscriber.ponPortId
  onuId : packet.onuId = subscriber.onuId
  uniId : packet.uniId = subscriber.uniId
  portNo : packet.portNo = subscriber.portNo
  gemportId : packet.gemportId = subscriber.service.gemPort

/-- The address that the EAPOL responder forms for an answer. -/
def eapolMac (subscriber : Subscriber) (intfId onuId : UInt32) : Mac :=
  [0x2e, UInt8.ofInt subscriber.oltId, intfId.toUInt8, onuId.toUInt8, subscriber.uniId.toUInt8,
    subscriber.service.id.toUInt8]

/-- What a prompt needs for its packets to have the identity of the service. -/
def Own (subscriber : Subscriber) : Prompt → Prop
  | .startEapol _ | .startDhcp _ | .dhcpPacket _ _ => True
  | .eapolPacket intfId onuId _ _ =>
    intfId = subscriber.ponPortId ∧ onuId = subscriber.onuId ∧ subscriber.uniId = 0 ∧
      subscriber.eapolMac subscriber.ponPortId subscriber.onuId = subscriber.service.hwAddress
  | .igmpPacket _ | .igmpRequest _ _ _ =>
    subscriber.service.gemPort = 0 → Igmp.concatenated subscriber.ponPortId subscriber.onuId = 0

theorem carries_response_iff {intfId onuId : UInt32} (eap : Eap) :
    subscriber.Carries ((subscriber.eapolCaller intfId onuId).response eap) ↔
      intfId = subscriber.ponPortId ∧ onuId = subscriber.onuId ∧ subscriber.uniId = 0 ∧
        subscriber.eapolMac subscriber.ponPortId subscriber.onuId = subscriber.service.hwAddress := by
  constructor
  · rintro ⟨srcMac, rfl, rfl, uniId, -, -⟩
    exact ⟨rfl, rfl, uniId.symm, srcMac⟩
  · rintro ⟨rfl, rfl, first, same⟩
    exact ⟨same, rfl, rfl, first.symm, rfl, rfl⟩

theorem carries_igmp_iff (cTag : Int) (layer : Igmp) :
    subscriber.Carries ((subscriber.igmpCaller cTag).send layer) ↔
      (subscriber.service.gemPort = 0 →
        Igmp.concatenated subscriber.ponPortId subscriber.onuId = 0) := by
  have gem : ((subscriber.igmpCaller cTag).send layer).gemportId = subscriber.service.gemPort ↔
      (subscriber.service.gemPort = 0 →
        Igmp.concatenated subscriber.ponPortId subscriber.onuId = 0) := by
    change Igmp.gemPortOr subscriber.service.gemPort subscriber.ponPortId subscriber.onuId = _ ↔ _
    unfold Igmp.gemPortOr
    split
    · next none => rw [none, imp_iff_right rfl]
    · next assigned => exact ⟨fun _ none => absurd none assigned, fun _ => rfl⟩
  exact ⟨fun carries => gem.mp carries.gemportId, fun own => ⟨rfl, rfl, rfl, rfl, rfl, gem.mpr own⟩⟩

/-- A packet has the identity of its service exactly if its prompt is the service's own. -/
theorem carries_iff {prompt : Prompt} (sent : subscriber.Sends prompt packet) :
    subscriber.Carries packet ↔ subscriber.Own prompt := by
  cases sent with
  | eapStart sends | discovery sends | request offeredIp =>
    exact iff_of_true ⟨rfl, rfl, rfl, rfl, rfl, rfl⟩ trivial
  | eapResponse eap => exact carries_response_iff eap
  | report needed cTag layer | igmp needed cTag layer => exact carries_igmp_iff cTag layer

end Subscriber

end Bbsim.Devices
