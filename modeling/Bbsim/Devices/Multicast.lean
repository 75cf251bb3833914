import Mathlib.Data.List.TakeWhile
import Bbsim.Devices.OnuLive
import Bbsim.Devices.OpenOltRequests

/-! Packets for the multicast GEM port. `OnuPacketOut` on the multicast GEM port sends its packet to
every enabled ONU of the PON, in a message without a GEM port: the ONUs take it for one to the UNI
with the port number of the packet. -/

namespace Bbsim.Devices

open Foundation

namespace UniPort

/-- The services that get the packet. The loop stops at a service that does not receive. -/
def delivered (uni : UniPort) (packet : PacketMessage) : List Nat :=
  (uni.packetServiceIndices packet).takeWhile fun index =>
    uni.services[index]?.any fun service => service.packetCh = .served

variable {uni : UniPort} {packet : PacketMessage}

theorem lt_of_mem_packetServiceIndices {index : Nat}
    (member : index ∈ uni.packetServiceIndices packet) : index < uni.services.length := by
  unfold packetServiceIndices at member
  split at member
  · exact (List.findIdx?_eq_some_iff_getElem.mp (Option.mem_toList.mp member)).1
  · exact (List.findIdx?_eq_some_iff_getElem.mp (Option.mem_toList.mp member)).1
  · exact List.mem_range.mp (List.mem_filter.mp member).1
  · cases member
  · cases member

private theorem delivered_of_up (coherent : uni.Coherent) (up : uni.operState = .up) :
    uni.delivered packet = uni.packetServiceIndices packet := by
  refine List.takeWhile_eq_self_iff.mpr fun index member => ?_
  have there := List.getElem?_eq_getElem (lt_of_mem_packetServiceIndices member)
  have fits := coherent.services _ (List.mem_of_getElem? there)
  rw [there, Option.any_some, decide_eq_true_eq]
  exact (fits.packetCh_iff).mpr up

private theorem delivered_of_down (coherent : uni.Coherent) (down : uni.operState = .down) :
    uni.delivered packet = [] := by
  unfold delivered
  cases indices : uni.packetServiceIndices packet with
  | nil => rfl
  | cons first rest =>
    have inside : first < uni.services.length :=
      lt_of_mem_packetServiceIndices (by rw [indices]; exact .head _)
    have there := List.getElem?_eq_getElem inside
    have fits := coherent.services _ (List.mem_of_getElem? there)
    have deaf : uni.services[first].packetCh ≠ .served := by
      rw [ne_eq, fits.packetCh_iff, down]
      decide
    rw [List.takeWhile_cons_of_neg]
    simpa [there] using deaf

end UniPort

namespace Onu

/-- The services that get the packet, by UNI and position. The loop stops at a UNI that does not
receive. -/
def delivered (onu : Onu) (packet : PacketMessage) : List (Nat × Nat) :=
  ((onu.packetUniIndices packet).takeWhile fun index =>
      onu.uniPorts[index]?.any fun uni => 0 < uni.packetLoops).flatMap fun index =>
    ((onu.uniPorts[index]?.map fun uni => uni.delivered packet).getD []).map (index, ·)

variable {onu : Onu} {packet : PacketMessage}

/-- An initialised IGMP service with a membership, on a UNI that is up. -/
def isMember (onu : Onu) (uniIndex serviceIndex : Nat) : Bool :=
  onu.uniPorts[uniIndex]?.any fun uni => uni.operState = .up ∧
    uni.services[serviceIndex]?.any fun service => service.needsIgmp ∧
      service.internalState = .initialized ∧ service.groupAddresses ≠ []

/-- An IGMP service of the UNI that the port number selects, if that is up. -/
def isAddressed (onu : Onu) (portNo : UInt32) (uniIndex serviceIndex : Nat) : Bool :=
  (onu.uniPorts.findIdx? fun uni => uni.portNo = portNo) = some uniIndex ∧
    onu.uniPorts[uniIndex]?.any fun uni => uni.operState = .up ∧
      uni.services[serviceIndex]?.any Service.needsIgmp

/-- All IGMP services of the UNI that the port number selects have a membership, and no service of
another UNI has one, as far as the UNIs are up. -/
def Aimed (onu : Onu) (portNo : UInt32) : Prop :=
  ∀ index uni, onu.uniPorts[index]? = some uni → uni.operState = .up →
    ∀ service ∈ uni.services, service.needsIgmp = true →
      (service.groupAddresses ≠ [] ↔
        (onu.uniPorts.findIdx? fun uni => uni.portNo = portNo) = some index)

/-- An IGMP packet goes to the services of the UNI with its port number, while that UNI is up. -/
theorem delivered_eq (coherent : onu.Coherent) (unicast : packet.gemPortId ≠ multicastGemPortId)
    {index : Nat} {uni : UniPort}
    (selected : (onu.uniPorts.findIdx? fun uni => uni.portNo = packet.portNo) = some index)
    (present : onu.uniPorts[index]? = some uni) :
    onu.delivered packet =
      if uni.operState = .up then (uni.packetServiceIndices packet).map (index, ·) else [] := by
  have fits := coherent.unis uni (List.mem_of_getElem? present)
  rw [delivered, packetUniIndices, if_neg unicast, findUniByPortNo, selected]
  cases state : uni.operState with
  | up =>
    have received := fits.received state
    simp [present, received, UniPort.delivered_of_up fits state]
  | down =>
    cases received : decide (0 < uni.packetLoops) <;>
      simp [present, received, UniPort.delivered_of_down fits state]

theorem count_delivered (coherent : onu.Coherent) (unicast : packet.gemPortId ≠ multicastGemPortId)
    (igmp : packet.type = .igmp) (uniIndex serviceIndex : Nat) :
    (onu.delivered packet).count (uniIndex, serviceIndex) =
      if onu.isAddressed packet.portNo uniIndex serviceIndex then 1 else 0 := by
  cases selected : onu.uniPorts.findIdx? fun uni => uni.portNo = packet.portNo with
  | none =>
    simp [delivered, packetUniIndices, findUniByPortNo, if_neg unicast, selected, isAddressed]
  | some index =>
    obtain ⟨inside, -⟩ := List.findIdx?_eq_some_iff_getElem.mp selected
    have present := List.getElem?_eq_getElem inside
    have nodup : ((onu.uniPorts[index].packetServiceIndices packet).map (index, ·)).Nodup := by
      rw [UniPort.packetServiceIndices, igmp]
      exact (List.nodup_range.filter _).map fun _ _ same => (Prod.mk.inj same).2
    have addressed : onu.isAddressed packet.portNo uniIndex serviceIndex = true ↔
        onu.uniPorts[index].operState = .up ∧ (uniIndex, serviceIndex) ∈
          (onu.uniPorts[index].packetServiceIndices packet).map (index, ·) := by
      rw [UniPort.packetServiceIndices, igmp, isAddressed, selected, decide_eq_true_eq,
        Option.some.injEq]
      constructor
      · rintro ⟨rfl, up⟩
        simp only [present, Option.any_some, decide_eq_true_eq] at up
        have inside : serviceIndex < onu.uniPorts[index].services.length := by
          by_contra outside
          simp [List.getElem?_eq_none (not_lt.mp outside)] at up
        exact ⟨up.1, List.mem_map.mpr
          ⟨serviceIndex, List.mem_filter.mpr ⟨List.mem_range.mpr inside, up.2⟩, rfl⟩⟩
      · rintro ⟨up, member⟩
        obtain ⟨position, chosen, same⟩ := List.mem_map.mp member
        obtain ⟨rfl, rfl⟩ := Prod.mk.inj same
        have needed := (List.mem_filter.mp chosen).2
        simp only [present, Option.any_some, decide_eq_true_eq, true_and]
        exact ⟨up, needed⟩
    rw [delivered_eq coherent unicast selected present]
    split
    · next up => simp only [nodup.count, addressed, up, true_and]
    · next down => simp [addressed, down]

theorem addressed_eq_member_iff (coherent : onu.Coherent) (portNo : UInt32) :
    (∀ uniIndex serviceIndex,
      onu.isAddressed portNo uniIndex serviceIndex = onu.isMember uniIndex serviceIndex) ↔
      onu.Aimed portNo := by
  constructor
  · intro same index uni present up service member needed
    obtain ⟨position, there⟩ := List.mem_iff_getElem?.mp member
    have fits := coherent.unis uni (List.mem_of_getElem? present)
    have initialized : service.internalState = .initialized := (up ▸ fits.services service member).1
    have here := same index position
    unfold isAddressed isMember at here
    rw [present, Option.any_some, Option.any_some, there, Option.any_some, Option.any_some, needed,
      initialized, up] at here
    rw [Bool.eq_iff_iff] at here
    exact Iff.symm (by simpa using here)
  · intro aimed uniIndex serviceIndex
    unfold isAddressed isMember
    cases present : onu.uniPorts[uniIndex]? with
    | none => simp
    | some uni =>
      cases state : uni.operState with
      | down => simp [state]
      | up =>
        cases there : uni.services[serviceIndex]? with
        | none => simp [there]
        | some service =>
          have member := List.mem_of_getElem? there
          have fits := coherent.unis uni (List.mem_of_getElem? present)
          have initialized : service.internalState = .initialized :=
            (state ▸ fits.services service member).1
          cases needed : service.needsIgmp with
          | false => simp [there, needed]
          | true =>
            have joined := aimed uniIndex uni present state service member needed
            rw [Bool.eq_iff_iff]
            simpa [there, needed, initialized, state] using joined.symm

end Onu

def Message.packet? : Message → Option PacketMessage
  | .onuPacketOut packet => some packet
  | _ => none

namespace Olt

/-- The packets in messages that a channel has got. -/
def newPackets (before after : Onu) : List PacketMessage :=
  (after.pending.drop before.pending.length).filterMap Message.packet?

/-- The services of an ONU that get what came into its channel. -/
def delivered (before after : Olt) (position : Position) : List (Nat × Nat) :=
  match before.onuAt position, after.onuAt position with
  | some old, some new => (newPackets old new).flatMap new.delivered
  | _, _ => []

/-- The service is one that a multicast packet on the PON is for. -/
def isMember (olt : Olt) (pon : Nat) (position : Position) (uniIndex serviceIndex : Nat) : Bool :=
  position.1 = pon ∧ (olt.onuAt position).any fun onu =>
    onu.internalState = .enabled ∧ onu.isMember uniIndex serviceIndex

/-- Members get the packet once, and no other service gets it. -/
def DeliversExactly (olt after : Olt) (pon : Nat) : Prop :=
  ∀ position uniIndex serviceIndex,
    (delivered olt after position).count (uniIndex, serviceIndex) =
      if olt.isMember pon position uniIndex serviceIndex then 1 else 0

variable {olt : Olt}

/-- The packet is sent to all enabled ones of the targets. -/
theorem sendPacket_eq (packet : PacketMessage) {targets : List Position} (distinct : targets.Nodup)
    (ready : ∀ position ∈ targets, ∃ onu, olt.onuAt position = some onu ∧
      (onu.internalState = .enabled → onu.writable = true)) :
    ∃ after, sendPacket packet olt targets = .ok after ∧ ∀ position,
      after.onuAt position = (olt.onuAt position).map fun onu =>
        if position ∈ targets ∧ onu.internalState = .enabled then
          onu.enqueue [.onuPacketOut packet] else onu := by
  induction targets generalizing olt with
  | nil => exact ⟨olt, rfl, fun position => by simp⟩
  | cons target rest ih =>
    obtain ⟨apart, others⟩ := List.nodup_cons.mp distinct
    obtain ⟨onu, here, isOpen⟩ := ready target (.head _)
    have readyRest : ∀ position ∈ rest, ∃ onu, olt.onuAt position = some onu ∧
        (onu.internalState = .enabled → onu.writable = true) :=
      fun position member => ready position (.tail _ member)
    simp only [sendPacket, here]
    by_cases enabled : onu.internalState = .enabled
    · -- the others find what they had
      rw [if_pos enabled, Onu.send_of_writable (isOpen enabled)]
      have elsewhere (position : Position) (different : position ≠ target) :
          (olt.setOnu target (onu.enqueue [.onuPacketOut packet])).onuAt position =
            olt.onuAt position := by rw [onuAt_setOnu, if_neg different]
      obtain ⟨after, sent, onus⟩ := ih others fun position member => by
        rw [elsewhere position fun same => apart (same ▸ member)]
        exact readyRest position member
      refine ⟨after, sent, fun position => ?_⟩
      rw [onus position]
      by_cases same : position = target
      · subst same
        simp [onuAt_setOnu, here, apart, enabled]
      · simp [elsewhere position same, same]
    · rw [if_neg enabled]
      obtain ⟨after, sent, onus⟩ := ih others readyRest
      refine ⟨after, sent, fun position => ?_⟩
      rw [onus position]
      by_cases same : position = target
      · subst same
        simp [here, enabled]
      · simp [same]

/-- Every ONU of the PON is as its life so far leaves it. -/
def PonCoherent (olt : Olt) (pon : Nat) : Prop :=
  ∀ index onu, olt.onuAt (pon, index) = some onu → onu.Coherent

private theorem packetTargets_multicast (olt : Olt) (pon : Nat) {packet : OnuPacket}
    (multicast : packet.gemportId = multicastGemPortId) :
    ∃ targets, olt.packetTargets pon packet = some targets ∧ targets.Nodup ∧
      ∀ position, position ∈ targets ↔ position.1 = pon ∧ (olt.onuAt position).isSome = true := by
  refine ⟨_, if_pos multicast, ?_, fun position => ?_⟩
  · exact List.nodup_range.map fun _ _ same => (Prod.mk.inj same).2
  · obtain ⟨place, index⟩ := position
    simp only [List.mem_map, List.mem_range, Prod.mk.injEq, onuAt]
    cases port : olt.pons[pon]? with
    | none =>
      simp only [Option.map_none, Option.getD_none, Nat.not_lt_zero, false_and, exists_false,
        false_iff]
      rintro ⟨rfl, present⟩
      simp [port] at present
    | some ponPort =>
      constructor
      · rintro ⟨number, inside, rfl, rfl⟩
        simpa [port] using inside
      · rintro ⟨rfl, present⟩
        exact ⟨index, by simpa [port] using present, rfl, rfl⟩

variable {after : Olt} {targets : List Position} {packet : PacketMessage}

/-- What the ONU at a position gets of a packet that was sent. -/
theorem delivered_of_sent {position : Position} {onu : Onu} (here : olt.onuAt position = some onu)
    (live : position ∈ targets → onu.Live)
    (sent : after.onuAt position = (olt.onuAt position).map fun onu =>
      if position ∈ targets ∧ onu.internalState = .enabled then
        onu.enqueue [.onuPacketOut packet] else onu) :
    delivered olt after position =
      if position ∈ targets ∧ onu.internalState = .enabled then onu.delivered packet else [] := by
  rw [here, Option.map_some] at sent
  rw [delivered, here, sent]
  dsimp only
  split
  · next target =>
    have isOpen : onu.writable = true := live target.1 (by simp [target.2]) (by simp [target.2])
    have same : (onu.enqueue [.onuPacketOut packet]).delivered packet = onu.delivered packet := rfl
    simp [newPackets, Onu.pending_enqueue isOpen, Message.packet?, same]
  · simp [newPackets]

/-- The enabled ONUs of the PON get the packet as one for a port number. -/
theorem onuPacketOut_multicast {pon : Nat} {packet : OnuPacket} {mac : List UInt8}
    (found : olt.getPonById packet.intfId = some pon) (coherent : olt.PonCoherent pon)
    (multicast : packet.gemportId = multicastGemPortId) (igmp : packet.pktType = some .igmp)
    (addressed : packet.dstMac = some mac) :
    ∃ after, olt.onuPacketOut packet = .ok (after, .empty) ∧
      ∀ position onu, olt.onuAt position = some onu →
        delivered olt after position =
          if position.1 = pon ∧ onu.internalState = .enabled then
            onu.delivered ⟨packet.portNo, 0, .igmp, mac⟩ else [] := by
  obtain ⟨targets, chosen, distinct, members⟩ := olt.packetTargets_multicast pon multicast
  have live (position : Position) (onu : Onu) (here : olt.onuAt position = some onu)
      (target : position ∈ targets) : onu.Live := by
    obtain ⟨place, index⟩ := position
    obtain rfl : place = pon := ((members _).mp target).1
    exact (coherent index onu here).live
  obtain ⟨after, sent, onus⟩ := sendPacket_eq ⟨packet.portNo, 0, .igmp, mac⟩ distinct
    fun position target => by
      obtain ⟨onu, here⟩ := Option.isSome_iff_exists.mp ((members position).mp target).2
      exact ⟨onu, here, fun enabled =>
        live position onu here target (by simp [enabled]) (by simp [enabled])⟩
  refine ⟨after, ?_, fun position onu here => ?_⟩
  · simp only [onuPacketOut, found, chosen, igmp, addressed, sent]
    rfl
  · rw [delivered_of_sent here (live position onu here) (onus position)]
    simp [members, here]

/-- A packet for the multicast GEM port is delivered exactly if, on every enabled ONU of the PON, the
services with memberships are the IGMP services of the UNI that its port number selects. -/
theorem multicast_exact_iff {pon : Nat} {packet : OnuPacket} {mac : List UInt8}
    (found : olt.getPonById packet.intfId = some pon) (coherent : olt.PonCoherent pon)
    (multicast : packet.gemportId = multicastGemPortId) (igmp : packet.pktType = some .igmp)
    (addressed : packet.dstMac = some mac) :
    ∃ after, olt.onuPacketOut packet = .ok (after, .empty) ∧
      (DeliversExactly olt after pon ↔
        ∀ index onu, olt.onuAt (pon, index) = some onu → onu.internalState = .enabled →
          onu.Aimed packet.portNo) := by
  obtain ⟨after, returned, gets⟩ :=
    onuPacketOut_multicast found coherent multicast igmp addressed
  have counted (index : Nat) (onu : Onu) (here : olt.onuAt (pon, index) = some onu)
      (enabled : onu.internalState = .enabled) (uniIndex serviceIndex : Nat) :
      (delivered olt after (pon, index)).count (uniIndex, serviceIndex) =
        if onu.isAddressed packet.portNo uniIndex serviceIndex then 1 else 0 := by
    rw [gets _ onu here, if_pos ⟨rfl, enabled⟩]
    have unicast : (0 : UInt32) ≠ multicastGemPortId := by decide
    exact Onu.count_delivered (coherent index onu here) unicast rfl uniIndex serviceIndex
  refine ⟨after, returned, fun exactly index onu here enabled => ?_, fun aimed position j k => ?_⟩
  · refine (Onu.addressed_eq_member_iff (coherent index onu here) _).mp fun j k => ?_
    have once := exactly (pon, index) j k
    rw [counted index onu here enabled, isMember, here] at once
    cases gets : onu.isAddressed packet.portNo j k <;> cases joined : onu.isMember j k <;>
      simp [gets, joined, enabled] at once ⊢
  · cases here : olt.onuAt position with
    | none => simp [delivered, here, isMember]
    | some onu =>
      by_cases target : position.1 = pon ∧ onu.internalState = .enabled
      · obtain ⟨place, index⟩ := position
        obtain ⟨rfl, enabled⟩ := target
        have same := (Onu.addressed_eq_member_iff (coherent index onu here) _).mpr
          (aimed index onu here enabled) j k
        rw [counted index onu here enabled, same]
        simp [isMember, here, enabled]
      · have outside : olt.isMember pon position j k = false := by
          rw [isMember, here]
          refine decide_eq_false fun member => target ⟨member.1, ?_⟩
          exact (of_decide_eq_true member.2).1
        rw [gets _ onu here, if_neg target, outside]
        rfl

/-- A television service that has joined a group. -/
def joinedService : Service :=
  { eapolService with
    name := "mc"
    needsEapol := false
    needsDhcp := false
    needsIgmp := true
    groupAddresses := ["224.0.0.22"]
    internalState := .initialized
    channel := .served
    packetCh := .served }

/-- The UNI has port number 16. -/
def viewer : Onu :=
  { Onu.create 1 0 0 [0, 0, 0, 1] [⟨0, 257, 16, .up, [joinedService], 1⟩] [] 10 with
    internalState := .enabled, channel := some {} }

def viewerOlt : Olt where
  enablePerf := false
  flows := ∅
  gemPortIDs := ∅
  allocIDs := ∅
  pons := [⟨0, .enabled, [viewer], .empty⟩]

def igmpPacket (portNo : UInt32) : OnuPacket :=
  ⟨0, 0, portNo, multicastGemPortId, some .igmp, some [1, 0, 0x5e, 0, 0, 0x16]⟩

private theorem viewer_coherent : viewerOlt.PonCoherent 0 := by
  intro index onu here
  have member : onu ∈ [viewer] := List.mem_of_getElem? here
  obtain rfl := List.mem_singleton.mp member
  refine ⟨fun _ _ => rfl, fun uni listed => ?_⟩
  obtain rfl := List.mem_singleton.mp listed
  refine ⟨fun service served => ?_, fun _ => Nat.one_pos⟩
  obtain rfl := List.mem_singleton.mp served
  exact ⟨rfl, rfl, rfl⟩

/-- The packet has the port number of the viewer. -/
theorem multicast_exact_viewer : ∃ after,
    viewerOlt.onuPacketOut (igmpPacket 16) = .ok (after, .empty) ∧
      DeliversExactly viewerOlt after 0 := by
  obtain ⟨after, returned, exactly⟩ :=
    multicast_exact_iff (rfl : viewerOlt.getPonById (igmpPacket 16).intfId = some 0) viewer_coherent
      rfl rfl rfl
  refine ⟨after, returned, exactly.mpr ?_⟩
  intro index onu here _ uniIndex uni listed _ service served _
  obtain rfl : onu = viewer := List.mem_singleton.mp (List.mem_of_getElem? here)
  obtain ⟨inside, -⟩ := List.getElem?_eq_some_iff.mp listed
  obtain rfl : uniIndex = 0 := Nat.lt_one_iff.mp inside
  obtain rfl := Option.some.inj listed
  obtain rfl := List.mem_singleton.mp served
  exact iff_of_true (by decide) rfl

/-- With any other port number the viewer gets nothing. -/
theorem multicast_misses_viewer : ∃ after,
    viewerOlt.onuPacketOut (igmpPacket 0) = .ok (after, .empty) ∧
      viewerOlt.isMember 0 (0, 0) 0 0 = true ∧ delivered viewerOlt after (0, 0) = [] :=
  ⟨_, rfl, rfl, rfl⟩

end Olt

end Bbsim.Devices
