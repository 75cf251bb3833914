import Bbsim.Devices.UniMoves

/-! Deliveries to UNIs and services. The message loop of an ONU hands packets to the loops of its
UNIs, these hand them to the services, and flows start the services. All these channels are
unbuffered: a send without a receiver never returns. A UNI gets a loop each time it is enabled, and
loses one for good each time a loop forwards a packet to a service while the UNI is down. -/

namespace Bbsim.Devices

open Foundation

def multicastGemPortId : UInt32 := 4069

/-- The positions of the UNIs whose `PacketCh` the message loop sends the packet on. -/
def Onu.packetUniIndices (onu : Onu) (packet : PacketMessage) : List Nat :=
  if packet.gemPortId = multicastGemPortId then onu.findUniWithIgmpMembership
  else (onu.findUniByPortNo packet.portNo).toList

/-- The sends of the UNI's loop on a packet. -/
def UniPort.receivers (uni : UniPort) (packet : PacketMessage) : List Bool :=
  (uni.packetServices packet).map fun service => service.packetCh = .served

/-- The state of a service and its channels fit the state of its UNI. -/
def Service.Fits (service : Service) : PortState → Prop
  | .up => service.internalState = .initialized ∧ service.channel = .served ∧
      service.packetCh = .served
  | .down => service.internalState ≠ .initialized ∧ service.channel = .nil ∧ service.packetCh = .nil

structure UniPort.Coherent (uni : UniPort) : Prop where
  services : ∀ service ∈ uni.services, service.Fits uni.operState
  received : uni.operState = .up → 0 < uni.packetLoops

/-- A UNI as it is created, with its services. -/
structure UniPort.Fresh (uni : UniPort) : Prop where
  down : uni.operState = .down
  unreceived : uni.packetLoops = 0
  services : ∀ service ∈ uni.services, service.Fits .down

namespace Service

variable {service : Service} {state : PortState}

theorem fits_initService (fits : service.Fits .down) : service.initService.Fits .up := by
  have accepted : service.internalState.after .init = some .initialized := by
    cases before : service.internalState with
    | initialized => exact absurd before fits.1
    | created | disabled => rfl
  rw [initService, accepted]
  exact ⟨rfl, rfl, rfl⟩

theorem fits_disable (fits : service.Fits .up) : service.disable.Fits .down := by
  have accepted : service.internalState.after .disable = some .disabled := by
    rw [fits.1]
    rfl
  rw [disable, accepted]
  exact ⟨by simp, rfl, rfl⟩

/-- Only `initService` and `disable` touch what `Fits` is about. -/
theorem Fits.of_same {other : Service} (fits : service.Fits state)
    (internalState : other.internalState = service.internalState)
    (channel : other.channel = service.channel) (packetCh : other.packetCh = service.packetCh) :
    other.Fits state := by
  cases state with
  | up => exact ⟨internalState.trans fits.1, channel.trans fits.2.1, packetCh.trans fits.2.2⟩
  | down =>
    exact ⟨internalState ▸ fits.1, channel.trans fits.2.1, packetCh.trans fits.2.2⟩

variable (fits : service.Fits state)
include fits

theorem Fits.addGemPort (gemPort ethType oVlan iVlan : UInt32) :
    (service.addGemPort gemPort ethType oVlan iVlan).Fits state := by
  unfold Service.addGemPort
  split
  · exact fits.of_same rfl rfl rfl
  · exact fits

theorem Fits.handleAuth : service.handleAuth.Fits state := by
  unfold Service.handleAuth
  split
  · exact fits.of_same rfl rfl rfl
  · exact fits

theorem Fits.handleDhcp (oPbit : UInt8) (oVid : Int) :
    (service.handleDhcp oPbit oVid).Fits state := by
  unfold Service.handleDhcp
  split
  · exact fits.of_same rfl rfl rfl
  · exact fits

end Service

namespace UniPort

variable {uni : UniPort}

/-- The services change, and nothing else that `Coherent` is about. -/
theorem Coherent.of_services {other : UniPort} (coherent : uni.Coherent)
    (operState : other.operState = uni.operState) (packetLoops : other.packetLoops = uni.packetLoops)
    (services : ∀ service ∈ other.services, ∃ before ∈ uni.services,
      ∀ state, before.Fits state → service.Fits state) : other.Coherent := by
  constructor
  · intro service member
    obtain ⟨before, present, fits⟩ := services service member
    rw [operState]
    exact fits _ (coherent.services before present)
  · rw [operState, packetLoops]
    exact coherent.received

theorem handleFlow_operState (flow : Flow) : (uni.handleFlow flow).operState = uni.operState := by
  unfold handleFlow
  dsimp only
  split
  · rfl
  · split <;> rfl

theorem Coherent.handleFlow (coherent : uni.Coherent) (flow : Flow) :
    (uni.handleFlow flow).Coherent := by
  refine coherent.of_services (handleFlow_operState flow) (handleFlow_packetLoops flow uni) ?_
  intro service member
  unfold UniPort.handleFlow at member
  dsimp only at member
  split at member
  · simp only [handleAuth, addGemPortToService, storePortNo, List.map_map, List.mem_map] at member
    obtain ⟨before, present, rfl⟩ := member
    exact ⟨before, present, fun _ fits => (fits.addGemPort ..).handleAuth⟩
  · split at member
    · simp only [handleDhcp, addGemPortToService, storePortNo, List.map_map, List.mem_map] at member
      obtain ⟨before, present, rfl⟩ := member
      exact ⟨before, present, fun _ fits => (fits.addGemPort ..).handleDhcp ..⟩
    · simp only [addGemPortToService, storePortNo, List.mem_map] at member
      obtain ⟨before, present, rfl⟩ := member
      exact ⟨before, present, fun _ fits => fits.addGemPort ..⟩

/-- Some of the services are all reachable over one of their channels. -/
theorem Coherent.served_iff (coherent : uni.Coherent) {chosen : List Service}
    (inside : ∀ service ∈ chosen, service ∈ uni.services) {channel : Service → Endpoint}
    (served : ∀ service state, service.Fits state → (channel service = .served ↔ state = .up)) :
    (∀ receiver ∈ chosen.map fun service => decide (channel service = .served), receiver = true) ↔
      uni.operState = .up ∨ chosen = [] := by
  have each : ∀ service ∈ chosen, (channel service = .served ↔ uni.operState = .up) :=
    fun service member => served service _ (coherent.services service (inside service member))
  rw [List.forall_mem_map]
  simp only [decide_eq_true_eq]
  constructor
  · intro all
    cases chosen with
    | nil => exact .inr rfl
    | cons first rest => exact .inl ((each first (by simp)).mp (all first (by simp)))
  · rintro (up | rfl)
    · exact fun service member => (each service member).mpr up
    · simp

private theorem startedServices_subset (flow : Flow) : ∀ service ∈ uni.startedServices flow,
    service ∈ uni.services := by
  intro service member
  unfold startedServices at member
  split at member
  · exact (List.mem_filter.mp member).1
  · split at member
    · exact (List.mem_filter.mp member).1
    · cases member

theorem packetServices_subset (packet : PacketMessage) : ∀ service ∈ uni.packetServices packet,
    service ∈ uni.services := by
  intro service member
  obtain ⟨index, -, there⟩ := List.mem_filterMap.mp member
  exact List.mem_of_getElem? there

end UniPort

theorem Service.Fits.channel_iff (service : Service) (state : PortState) (fits : service.Fits state) :
    service.channel = .served ↔ state = .up := by
  cases state with
  | up => exact iff_of_true fits.2.1 rfl
  | down => simp [fits.2.1]

theorem Service.Fits.packetCh_iff (service : Service) (state : PortState)
    (fits : service.Fits state) : service.packetCh = .served ↔ state = .up := by
  cases state with
  | up => exact iff_of_true fits.2.2 rfl
  | down => simp [fits.2.2]

namespace UniMove

variable {uni other : UniPort}

private theorem coherent (moved : UniMove uni other) (coherent : uni.Coherent) : other.Coherent := by
  cases moved with
  | same => exact coherent
  | enable accepted =>
    obtain ⟨state, entered, rfl⟩ := Option.map_eq_some_iff.mp accepted
    cases before : uni.operState with
    | up =>
      rw [before] at entered
      cases entered
    | down =>
      obtain rfl : .up = state := Option.some.inj (by rw [before] at entered; exact entered)
      refine ⟨fun service member => ?_, fun _ => Nat.succ_pos _⟩
      obtain ⟨stopped, present, rfl⟩ := List.mem_map.mp member
      exact Service.fits_initService (before ▸ coherent.services stopped present)
  | disable accepted =>
    obtain ⟨state, entered, rfl⟩ := Option.map_eq_some_iff.mp accepted
    cases before : uni.operState with
    | down =>
      rw [before] at entered
      cases entered
    | up =>
      obtain rfl : .down = state := Option.some.inj (by rw [before] at entered; exact entered)
      refine ⟨fun service member => ?_, nofun⟩
      obtain ⟨running, present, rfl⟩ := List.mem_map.mp member
      exact Service.fits_disable (before ▸ coherent.services running present)
  | flow flow => exact coherent.handleFlow flow
  | respond service eapolState dhcpState groupAddresses =>
    refine coherent.of_services rfl rfl fun changed member => ?_
    rcases mem_modify member with old | ⟨before, present, rfl⟩
    · exact ⟨changed, old, fun _ fits => fits⟩
    · exact ⟨before, present, fun _ fits => fits.of_same rfl rfl rfl⟩

/-- A UNI gets a loop when it comes up. -/
theorem packetLoops_eq (moved : UniMove uni other) :
    other.packetLoops =
      uni.packetLoops + if uni.operState = .down ∧ other.operState = .up then 1 else 0 := by
  cases moved with
  | same | respond =>
    rw [if_neg fun both => nomatch both.1.symm.trans both.2]
    rfl
  | enable accepted =>
    obtain ⟨state, entered, rfl⟩ := Option.map_eq_some_iff.mp accepted
    cases before : uni.operState <;> rw [before] at entered <;> cases entered
    rw [if_pos ⟨rfl, rfl⟩]
  | disable accepted =>
    obtain ⟨state, entered, rfl⟩ := Option.map_eq_some_iff.mp accepted
    cases before : uni.operState <;> rw [before] at entered <;> cases entered
    rfl
  | flow flow =>
    rw [UniPort.handleFlow_packetLoops, UniPort.handleFlow_operState,
      if_neg fun both => nomatch both.1.symm.trans both.2]
    rfl

end UniMove

/-- An ONU with its message loops and the loops of its UNIs. -/
structure DeliverySite where
  site : LoopSite
  /-- Packets that a UNI was given and has not yet forwarded. -/
  held : Nat → List PacketMessage
  /-- Loops of a UNI that send on the nil `PacketCh` of a service, and wait for ever. -/
  stuck : Nat → Nat

inductive DeliveryStep where
  | onu (label : LoopStep)
  /-- A loop of the UNI forwards one of the packets. -/
  | forward (index position : Nat)

namespace DeliverySite

def onu (delivery : DeliverySite) : Onu := delivery.site.onu

def create (attached : AttachedOnu) : DeliverySite := ⟨.create attached, fun _ => [], fun _ => 0⟩

/-- The packets that a step of the message loops gives to a UNI. -/
def given (delivery : DeliverySite) (label : LoopStep) (index : Nat) : List PacketMessage :=
  match label with
  | .receive loop =>
    match delivery.onu.receive loop with
    | some (.onuPacketOut packet, _) =>
      List.replicate ((delivery.onu.packetUniIndices packet).count index) packet
    | _ => []
  | _ => []

/-- The packet has been forwarded, or the loop waits for ever. -/
def forwarded (delivery : DeliverySite) (index position : Nat) (received : Bool) : DeliverySite :=
  { delivery with
    held := Function.update delivery.held index ((delivery.held index).eraseIdx position)
    stuck := if received then delivery.stuck
      else Function.update delivery.stuck index (delivery.stuck index + 1) }

def step (delivery : DeliverySite) : DeliveryStep → Option DeliverySite
  | .onu label => (delivery.site.step label).map fun next =>
      { delivery with
        site := next, held := fun index => delivery.held index ++ delivery.given label index }
  | .forward index position =>
    match delivery.onu.uniPorts[index]?, (delivery.held index)[position]? with
    | some uni, some packet =>
      if delivery.stuck index < uni.packetLoops then
        some (delivery.forwarded index position ((uni.receivers packet).all id))
      else none
    | _, _ => none

/-- Some loop of the UNI still receives. -/
def receives (delivery : DeliverySite) (index : Nat) : Bool :=
  delivery.onu.uniPorts[index]?.any fun uni => delivery.stuck index < uni.packetLoops

/-- The sends of the message loop on a message, each with whether its channel has a receiver. -/
def receivers (delivery : DeliverySite) : Message → List Bool
  | .flowAdd flow =>
    match (delivery.onu.findUniById flow.uniId.toUInt32).bind fun index =>
      delivery.onu.uniPorts[index]? with
    | none => []
    | some uni => (uni.startedServices flow).map fun service => service.channel = .served
  | .onuPacketOut packet => (delivery.onu.packetUniIndices packet).map delivery.receives
  | _ => []

def uniUp (delivery : DeliverySite) (index : Nat) : Bool :=
  delivery.onu.uniPorts[index]?.any fun uni => uni.operState = .up

/-- A step with which the UNI comes up. -/
def comesUp (index : Nat) (entry : DeliverySite × DeliveryStep) : Bool :=
  !entry.1.uniUp index && (entry.1.step entry.2).any fun next => next.uniUp index

/-- A step with which a loop of the UNI forwards a packet to a service while the UNI is down. -/
def loses (index : Nat) (entry : DeliverySite × DeliveryStep) : Bool :=
  match entry.2 with
  | .onu _ => false
  | .forward acting position => acting = index && !entry.1.uniUp index &&
      entry.1.onu.uniPorts[index]?.any fun uni =>
        (entry.1.held index)[position]?.any fun packet => !(uni.packetServices packet).isEmpty

variable {start final delivery next : DeliverySite} {history : List (DeliverySite × DeliveryStep)}
  {index : Nat} {uni : UniPort}

/-- What a step of the message loops or of a UNI's loop does to a UNI and its loops. -/
structure Moved (delivery next : DeliverySite) (label : DeliveryStep) (index : Nat)
    (uni other : UniPort) : Prop where
  move : UniMove uni other
  stuck : next.stuck index = delivery.stuck index + if loses index (delivery, label) then 1 else 0
  /-- Only a loop that receives can be lost. -/
  within : loses index (delivery, label) = true → delivery.stuck index < uni.packetLoops

private theorem forward_moved {acting position : Nat}
    (coherent : ∀ uni, delivery.onu.uniPorts[index]? = some uni → uni.Coherent)
    (taken : delivery.step (.forward acting position) = some next)
    (present : delivery.onu.uniPorts[index]? = some uni) :
    Moved delivery next (.forward acting position) index uni uni := by
  simp only [step] at taken
  split at taken
  · next port packet found held =>
    obtain ⟨live, same⟩ := Option.ite_none_right_eq_some.mp taken
    obtain rfl := Option.some.inj same
    refine ⟨.same, ?_, ?_⟩
    · by_cases here : acting = index
      · subst here
        obtain rfl := Option.some.inj (present.symm.trans found)
        have received := (coherent uni present).served_iff (UniPort.packetServices_subset packet)
          Service.Fits.packetCh_iff
        have all : (uni.receivers packet).all id = true ↔
            uni.operState = .up ∨ uni.packetServices packet = [] := by
          rw [List.all_eq_true]
          exact received
        by_cases served : (uni.receivers packet).all id = true
        · have kept : loses acting (delivery, .forward acting position) = false := by
            rcases all.mp served with up | none
            · simp [loses, uniUp, present, up]
            · simp [loses, present, held, none]
          rw [forwarded, if_pos served, kept]
          rfl
        · obtain ⟨down, some⟩ := not_or.mp fun either => served (all.mpr either)
          have lost : loses acting (delivery, .forward acting position) = true := by
            simp [loses, uniUp, present, held, down, some]
          rw [forwarded, if_neg served, lost]
          exact Function.update_self ..
      · have kept : loses index (delivery, .forward acting position) = false := by
          simp [loses, here]
        rw [kept, forwarded]
        split
        · rfl
        · exact Function.update_of_ne (Ne.symm here) ..
    · intro lost
      obtain rfl : acting = index := by
        simp only [loses, Bool.and_eq_true, decide_eq_true_eq] at lost
        exact lost.1.1
      obtain rfl := Option.some.inj (present.symm.trans found)
      exact live
  · cases taken

theorem forward_onu {acting position : Nat}
    (taken : delivery.step (.forward acting position) = some next) : next.onu = delivery.onu := by
  simp only [step] at taken
  split at taken
  · obtain ⟨-, same⟩ := Option.ite_none_right_eq_some.mp taken
    rw [← Option.some.inj same]
    rfl
  · cases taken

private theorem step_moved {label : DeliveryStep} (taken : delivery.step label = some next)
    (coherent : ∀ uni, delivery.onu.uniPorts[index]? = some uni → uni.Coherent) {other : UniPort}
    (present : next.onu.uniPorts[index]? = some other) :
    ∃ uni, delivery.onu.uniPorts[index]? = some uni ∧ Moved delivery next label index uni other := by
  cases label with
  | onu label =>
    obtain ⟨after, moved, rfl⟩ := Option.map_eq_some_iff.mp taken
    have move := LoopSite.step_unisMoved moved index
    change Option.Rel UniMove delivery.onu.uniPorts[index]? after.onu.uniPorts[index]? at move
    change after.onu.uniPorts[index]? = some other at present
    rw [present] at move
    cases there : delivery.onu.uniPorts[index]? with
    | none =>
      rw [there] at move
      cases move
    | some uni =>
      rw [there] at move
      obtain ⟨move⟩ := move
      exact ⟨uni, rfl, move, rfl, fun lost => nomatch lost⟩
  | forward acting position =>
    rw [forward_onu taken] at present
    exact ⟨other, present, forward_moved coherent taken present⟩

/-- A UNI along a run: it is coherent, has had a loop for each time that it came up and lost one with
each packet that was forwarded while it was down, and while it is up it has one that receives. -/
structure Tracked (history : List (DeliverySite × DeliveryStep)) (final : DeliverySite) (index : Nat)
    (uni : UniPort) : Prop where
  coherent : uni.Coherent
  loops : uni.packetLoops = history.countP (comesUp index)
  stuck : final.stuck index = history.countP (loses index)
  within : final.stuck index ≤ uni.packetLoops
  received : uni.operState = .up → final.stuck index < uni.packetLoops

theorem down_of_loses {label : DeliveryStep} (present : delivery.onu.uniPorts[index]? = some uni)
    (lost : loses index (delivery, label) = true) : uni.operState ≠ .up := by
  cases label with
  | onu label => cases lost
  | forward acting position =>
    intro up
    simp [loses, uniUp, present, up] at lost

theorem Tracked.snoc {label : DeliveryStep} {other : UniPort}
    (tracked : Tracked history delivery index uni) (taken : delivery.step label = some next)
    (present : delivery.onu.uniPorts[index]? = some uni)
    (after : next.onu.uniPorts[index]? = some other)
    (moved : Moved delivery next label index uni other) :
    Tracked (history ++ [(delivery, label)]) next index other := by
  have loops := moved.move.packetLoops_eq
  have stuck := moved.stuck
  have up : comesUp index (delivery, label) =
      decide (uni.operState = .down ∧ other.operState = .up) := by
    simp only [comesUp, uniUp, taken, present, after, Option.any_some]
    cases uni.operState <;> cases other.operState <;> rfl
  constructor
  · exact moved.move.coherent tracked.coherent
  · rw [loops, List.countP_append, List.countP_singleton, up, tracked.loops]
    simp only [decide_eq_true_eq]
  · rw [stuck, List.countP_append, List.countP_singleton, tracked.stuck]
  · have bound := tracked.within
    split at stuck
    · next lost =>
      have live := moved.within lost
      omega
    · omega
  · intro isUp
    have bound := tracked.within
    cases before : uni.operState with
    | up =>
      have kept : ¬ loses index (delivery, label) = true := fun lost =>
        absurd before (down_of_loses present lost)
      have live := tracked.received before
      rw [if_neg kept] at stuck
      omega
    | down =>
      rw [if_pos ⟨before, isUp⟩] at loops
      split at stuck
      · next lost =>
        have live := moved.within lost
        omega
      · omega

theorem run_tracked (run : Run step start history final) (initial : start.stuck = fun _ => 0)
    (fresh : ∀ uni ∈ start.onu.uniPorts, uni.Fresh)
    (present : final.onu.uniPorts[index]? = some uni) : Tracked history final index uni := by
  induction run generalizing uni with
  | start =>
    have new := fresh uni (List.mem_of_getElem? present)
    exact ⟨⟨by rw [new.down]; exact new.services, by simp [new.down]⟩, new.unreceived,
      congrFun initial index, by rw [initial]; exact Nat.zero_le _, by simp [new.down]⟩
  | @snoc history delivery next label before taken ih =>
    obtain ⟨old, there, moved⟩ := step_moved taken (fun uni here => (ih here).coherent) present
    exact (ih there).snoc taken there present moved

/-- When every send on the message finds its receiver. -/
def Deliverable (history : List (DeliverySite × DeliveryStep)) (final : DeliverySite) : Message → Prop
  | .flowAdd flow =>
    ∀ uni, ((final.onu.findUniById flow.uniId.toUInt32).bind fun index =>
      final.onu.uniPorts[index]?) = some uni →
        uni.operState = .up ∨ uni.startedServices flow = []
  | .onuPacketOut packet =>
    packet.gemPortId ≠ multicastGemPortId → ∀ index, final.onu.findUniByPortNo packet.portNo = some index →
      history.countP (loses index) < history.countP (comesUp index)
  | _ => True

section

variable (run : Run step start history final) (initial : start.stuck = fun _ => 0)
  (fresh : ∀ uni ∈ start.onu.uniPorts, uni.Fresh)
include run initial fresh

theorem receivers_flowAdd_iff (flow : Flow) :
    (∀ receiver ∈ final.receivers (.flowAdd flow), receiver = true) ↔
      Deliverable history final (.flowAdd flow) := by
  unfold receivers Deliverable
  dsimp only
  split
  · next absent => simp [absent]
  · next uni present =>
    obtain ⟨index, -, there⟩ := Option.bind_eq_some_iff.mp present
    have coherent := (run_tracked run initial fresh there).coherent
    simp only [present, Option.some.injEq, forall_eq']
    exact coherent.served_iff (UniPort.startedServices_subset flow) Service.Fits.channel_iff

/-- A UNI with a membership is up, and then it has a receiver. -/
theorem receives_of_membership (member : index ∈ final.onu.findUniWithIgmpMembership) :
    final.receives index = true := by
  obtain ⟨position, inside, chosen⟩ := List.mem_flatMap.mp member
  obtain ⟨some, rfl⟩ := List.mem_replicate.mp chosen
  have there := List.getElem?_eq_getElem (List.mem_range.mp inside)
  have tracked := run_tracked run initial fresh there
  rw [receives, there, Option.any_some, decide_eq_true_eq]
  refine tracked.received ?_
  by_contra down
  rw [there, Option.map_some, Option.getD_some, UniPort.memberships, if_neg down] at some
  exact some rfl

theorem receivers_packetOut_iff (packet : PacketMessage) :
    (∀ receiver ∈ final.receivers (.onuPacketOut packet), receiver = true) ↔
      Deliverable history final (.onuPacketOut packet) := by
  unfold receivers Deliverable Onu.packetUniIndices
  dsimp only
  split
  · next multicast =>
    refine iff_of_true ?_ fun unicast => absurd multicast unicast
    rw [List.forall_mem_map]
    exact fun index member => receives_of_membership run initial fresh member
  · next unicast =>
    simp only [ne_eq, unicast, not_false_iff, forall_const]
    cases found : final.onu.findUniByPortNo packet.portNo with
    | none => simp
    | some index =>
      obtain ⟨inside, -⟩ := List.findIdx?_eq_some_iff_getElem.mp found
      have there := List.getElem?_eq_getElem inside
      have tracked := run_tracked run initial fresh there
      have received : final.receives index = true ↔
          history.countP (loses index) < history.countP (comesUp index) := by
        rw [receives, there, Option.any_some, decide_eq_true_eq, tracked.stuck, tracked.loops]
      simp [received]

end

end DeliverySite

def eapolService : Service where
  id := 0
  name := "hsia"
  hwAddress := [0x2e, 0x60, 0, 0, 0, 1]
  cTag := 900
  sTag := 900
  needsEapol := true
  needsDhcp := true
  needsIgmp := false
  usPonCTagPriority := 0
  usPonSTagPriority := 0
  gemPort := 0
  groupAddresses := []
  internalState := .created
  eapolState := .created
  dhcpState := .created
  channel := .nil
  packetCh := .nil

def eapolFlow : Flow where
  flowId := 1
  flowType := .upstream
  accessIntfId := 0
  onuId := 1
  uniId := 0
  portNo := 16
  gemportId := 1024
  allocId := 1024
  replicateFlow := false
  pbitToGemport := ∅
  classifier := ⟨0x888e, 4091, 0, 255, 0, 0⟩

def subscriberSite : DeliverySite :=
  .create ⟨Onu.create 1 0 0 [0, 0, 0, 1] [⟨0, 257, 0, .down, [eapolService], 0⟩] [] 10, .empty⟩

theorem subscriberSite_fresh :
    ∀ uni ∈ [(⟨0, 257, 0, .down, [eapolService], 0⟩ : UniPort)], uni.Fresh := by
  intro uni member
  obtain rfl := List.mem_singleton.mp member
  exact ⟨rfl, rfl, by simp [Service.Fits, eapolService]⟩

/-- The message is sent, and so many messages are handled. -/
def exchanged (message : Message) (count : Nat) : List DeliveryStep :=
  .onu (.send message) ::
    (List.replicate count [.onu (.select 0), .onu (.receive 0)]).flatten

/-- Up to the ONU's first messages. -/
def enabledSteps : List DeliveryStep :=
  [.onu .connect, .onu (.event .init), .onu (.event .discover), .onu (.event .enable), .onu (.select 0),
    .onu (.receive 0), .onu (.select 0), .onu (.receive 0)]

/-- A packet for the service. -/
def eapolPacket : PacketMessage := ⟨0, 1024, .eapol, eapolService.hwAddress⟩

/-- The UNI is unlocked and locked, a packet is forwarded, and the UNI is unlocked again. With each
request an alarm is handled. -/
def relockedSteps : List DeliveryStep :=
  enabledSteps ++ exchanged (.omci (.setUniAdminState 257 0)) 2 ++
    exchanged (.omci (.setUniAdminState 257 1)) 2 ++ exchanged (.onuPacketOut eapolPacket) 1 ++
    [.forward 0 0] ++ exchanged (.omci (.setUniAdminState 257 0)) 2

/-- The first loop is about to handle a flow that some receiver does not take. -/
def DeliverySite.blocksOnFlow (delivery : DeliverySite) : Bool :=
  match delivery.onu.receive 0 with
  | some (.flowAdd flow, _) => decide (false ∈ delivery.receivers (.flowAdd flow))
  | _ => false

theorem DeliverySite.exists_flow_of_blocksOnFlow {delivery : DeliverySite}
    (blocked : delivery.blocksOnFlow = true) :
    ∃ flow rest, delivery.onu.receive 0 = some (.flowAdd flow, rest) ∧
      false ∈ delivery.receivers (.flowAdd flow) := by
  unfold blocksOnFlow at blocked
  split at blocked
  · next flow rest received => exact ⟨flow, rest, received, of_decide_eq_true blocked⟩
  · cases blocked

end Bbsim.Devices
