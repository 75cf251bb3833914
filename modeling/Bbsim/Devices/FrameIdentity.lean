import Bbsim.Devices.Identities
import Bbsim.Devices.Multicast
import Bbsim.Devices.ServicePrompts
import Bbsim.Foundation.Search
import Bbsim.Responders.Md5

/-! The identity of the services in their frames. The ONUs of an OLT with their loops, from their
creation on. `ActivateOnu` may give an ONU another id at any time, while the addresses of its
services stay as they were made. -/

namespace Bbsim.Devices

open Foundation Common Responders

/-- The id and the address that a service is created with. -/
def Service.identity (service : Service) : UInt32 × List UInt8 := (service.id, service.hwAddress)

def UniPort.identity (uni : UniPort) : UInt32 × List (UInt32 × List UInt8) :=
  (uni.id, uni.services.map Service.identity)

namespace Service

theorem initService_identity (service : Service) : service.initService.identity = service.identity := by
  unfold initService
  split <;> rfl

theorem disable_identity (service : Service) : service.disable.identity = service.identity := by
  unfold disable
  split <;> rfl

private theorem addGemPort_identity (gemPort ethType oVlan iVlan : UInt32) (service : Service) :
    (service.addGemPort gemPort ethType oVlan iVlan).identity = service.identity := by
  unfold addGemPort
  split <;> rfl

theorem handleAuth_identity (service : Service) : service.handleAuth.identity = service.identity := by
  unfold handleAuth
  split <;> rfl

private theorem handleDhcp_identity (oPbit : UInt8) (oVid : Int) (service : Service) :
    (service.handleDhcp oPbit oVid).identity = service.identity := by
  unfold handleDhcp
  split <;> rfl

end Service

namespace UniPort

variable {uni other : UniPort}

theorem identity_of_map {change : Service → Service} (id : other.id = uni.id)
    (services : other.services = uni.services.map change)
    (keeps : ∀ service, (change service).identity = service.identity) :
    other.identity = uni.identity := by
  rw [identity, identity, id, services, List.map_map]
  exact congrArg (uni.id, ·) (List.map_congr_left fun service _ => keeps service)

theorem identity_handleFlow (flow : Flow) : (uni.handleFlow flow).identity = uni.identity := by
  have added : UniPort.identity ((uni.addGemPortToService flow.onuGemPort flow.classifier.ethType
      flow.classifier.oVid flow.classifier.iVid).storePortNo flow.portNo) = uni.identity :=
    identity_of_map rfl rfl (Service.addGemPort_identity _ _ _ _)
  unfold handleFlow
  dsimp only
  split
  · rw [← added]
    exact identity_of_map rfl rfl Service.handleAuth_identity
  · split
    · rw [← added]
      exact identity_of_map rfl rfl (Service.handleDhcp_identity _ _)
    · exact added

private theorem identity_respond (index : Nat) (eapolState : EapolState) (dhcpState : DhcpState)
    (groupAddresses : List String) :
    (uni.respond index (Service.respond eapolState dhcpState groupAddresses)).identity =
      uni.identity := by
  refine congrArg (uni.id, ·) (List.ext_getElem? fun position => ?_)
  rw [respond, List.getElem?_map, List.getElem?_map, List.getElem?_modify]
  cases uni.services[position]? with
  | none => rfl
  | some service => by_cases same : index = position <;> simp [same, Service.identity, Service.respond]

end UniPort

theorem UniMove.identity {uni other : UniPort} (moved : UniMove uni other) :
    other.identity = uni.identity := by
  cases moved with
  | same => rfl
  | enable accepted =>
    obtain ⟨state, -, rfl⟩ := Option.map_eq_some_iff.mp accepted
    exact UniPort.identity_of_map rfl rfl Service.initService_identity
  | disable accepted =>
    obtain ⟨state, -, rfl⟩ := Option.map_eq_some_iff.mp accepted
    exact UniPort.identity_of_map rfl rfl Service.disable_identity
  | flow flow => exact UniPort.identity_handleFlow flow
  | respond => exact UniPort.identity_respond ..

/-- An ONU as it was made, except for its id and the states of its machines. -/
structure Onu.SameIdentity (onu other : Onu) : Prop where
  ponPortId : other.ponPortId = onu.ponPortId
  unis : other.uniPorts.map UniPort.identity = onu.uniPorts.map UniPort.identity

theorem UnisMoved.identities {onu other : Onu} (moved : UnisMoved onu other) :
    other.uniPorts.map UniPort.identity = onu.uniPorts.map UniPort.identity := by
  refine List.ext_getElem? fun index => ?_
  rw [List.getElem?_map, List.getElem?_map]
  have move := moved index
  generalize onu.uniPorts[index]? = uni, other.uniPorts[index]? = changed at move ⊢
  cases move with
  | some move => rw [Option.map_some, Option.map_some, move.identity]
  | none => rfl

namespace LoopSite

variable {site next : LoopSite} {label : LoopStep}

private theorem step_ponPortId (taken : site.step label = some next) :
    next.onu.ponPortId = site.onu.ponPortId := by
  have changed := step_changed taken
  unfold onu
  generalize next.attached = attached at changed ⊢
  cases changed with
  | loops loops | responded => rfl
  | event tx tried => exact (AttachedOnu.ensures_tryEvent_moves.value tried).ponPortId
  | sent message sent => exact (Onu.ensures_send_alike.value sent).ponPortId
  | handled received handled =>
    have moved := (AttachedOnu.ensures_handle_change.value handled).ponPortId
    rw [(Onu.receive_eq_some received).frame] at moved
    exact moved
  | discarded received =>
    rw [(Onu.receive_eq_some received).frame]
    rfl

theorem step_sameIdentity (taken : site.step label = some next) : site.onu.SameIdentity next.onu :=
  ⟨step_ponPortId taken, (step_unisMoved taken).identities⟩

end LoopSite

/-- The ONUs of all PONs. The PON at a position has the position as its id. -/
structure Plant where
  oltId : Int
  pons : List (List LoopSite)

inductive PlantStep where
  /-- A step of one ONU. -/
  | onu (position : Position) (label : LoopStep)
  /-- `ActivateOnu` sets the id. The event it triggers is a step of its own. -/
  | activate (position : Position) (id : UInt32)
  /-- A service is prompted. -/
  | prompt (place : ServicePlace) (groupVlan : String → Int) (md5 : List UInt8 → List UInt8)
      (prompt : Prompt)

namespace Plant

def create (oltId : Int) (olt : Olt) : Plant where
  oltId := oltId
  pons := olt.pons.map fun port => port.onus.map fun onu => .create ⟨onu, port.resources⟩

def siteAt (plant : Plant) (position : Position) : Option LoopSite :=
  plant.pons[position.1]?.bind fun sites => sites[position.2]?

def put (plant : Plant) (position : Position) (site : LoopSite) : Plant :=
  { plant with pons := plant.pons.modify position.1 fun sites => sites.set position.2 site }

/-- The service at a place with what it reads. -/
def subscriberAt (plant : Plant) (groupVlan : String → Int) (place : ServicePlace) :
    Option Subscriber :=
  (plant.siteAt place.onu).bind fun site => site.onu.uniPorts[place.uni]?.bind fun uni =>
    uni.services[place.service]?.map fun service => .of plant.oltId groupVlan site.onu uni service

def step (plant : Plant) : PlantStep → Option Plant
  | .onu position label =>
    (plant.siteAt position).bind fun site => (site.step label).map (plant.put position)
  | .activate position id =>
    (plant.siteAt position).map fun site =>
      plant.put position (site.withOnu { site.onu with id := id })
  | .prompt place groupVlan md5 prompt =>
    (plant.subscriberAt groupVlan place).bind fun subscriber =>
      (subscriber.prompted md5 prompt).bind fun (after, _) =>
        (plant.siteAt place.onu).bind fun site =>
          (site.step (.respond place.uni place.service after.service.eapolState
            after.service.dhcpState after.service.groupAddresses)).map (plant.put place.onu)

variable {plant next : Plant} {position : Position} {label : PlantStep}

private theorem siteAt_put (position other : Position) (site : LoopSite) :
    (plant.put position site).siteAt other =
      if other = position then (plant.siteAt position).map fun _ => site else plant.siteAt other := by
  obtain ⟨pon, index⟩ := position
  obtain ⟨otherPon, otherIndex⟩ := other
  simp only [siteAt, put, List.getElem?_modify, Prod.mk.injEq]
  by_cases same : pon = otherPon
  · subst same
    cases plant.pons[pon]? with
    | none => simp
    | some sites =>
      by_cases here : otherIndex = index
      · subst here
        cases there : sites[otherIndex]? <;> simp [List.getElem?_set_self', there]
      · simp [here, List.getElem?_set_ne (Ne.symm here)]
  · have apart : ¬ (otherPon = pon ∧ otherIndex = index) := fun both => same both.1.symm
    simp [same, apart]

/-- One ONU moves, and keeps its identity. -/
theorem step_moves (taken : plant.step label = some next) :
    ∃ position site after, plant.siteAt position = some site ∧ site.onu.SameIdentity after.onu ∧
      next = plant.put position after := by
  cases label with
  | onu position label =>
    obtain ⟨site, present, moved⟩ := Option.bind_eq_some_iff.mp taken
    obtain ⟨after, stepped, rfl⟩ := Option.map_eq_some_iff.mp moved
    exact ⟨position, site, after, present, LoopSite.step_sameIdentity stepped, rfl⟩
  | activate position id =>
    obtain ⟨site, present, rfl⟩ := Option.map_eq_some_iff.mp taken
    exact ⟨position, site, site.withOnu { site.onu with id := id }, present, ⟨rfl, rfl⟩, rfl⟩
  | prompt place groupVlan md5 prompt =>
    obtain ⟨subscriber, -, answering⟩ := Option.bind_eq_some_iff.mp taken
    obtain ⟨⟨answered, sent⟩, -, moving⟩ := Option.bind_eq_some_iff.mp answering
    obtain ⟨site, present, moved⟩ := Option.bind_eq_some_iff.mp moving
    obtain ⟨after, stepped, rfl⟩ := Option.map_eq_some_iff.mp moved
    exact ⟨place.onu, site, after, present, LoopSite.step_sameIdentity stepped, rfl⟩

end Plant

variable {loaded : Loaded}

theorem UniCreated.of_identity {position : Position} {index : Nat} {port uni : UniPort}
    (created : UniCreated loaded position index port) (same : uni.identity = port.identity) :
    UniCreated loaded position index uni := by
  obtain ⟨id, services⟩ := Prod.mk.inj same
  refine ⟨created.few, id.trans created.id, ?_, fun number service present => ?_⟩
  · rw [← created.count, ← List.length_map (f := Service.identity), services, List.length_map]
  · have old := congrArg (·[number]?) services
    simp only [List.getElem?_map, present, Option.map_some] at old
    obtain ⟨original, there, same⟩ := Option.map_eq_some_iff.mp old.symm
    obtain ⟨sameId, sameAddress⟩ := Prod.mk.inj same
    obtain ⟨number, address⟩ := created.services _ original there
    exact ⟨sameId.symm.trans number, sameAddress.symm.trans address⟩

/-- The ONU at a position, whatever its id is. -/
structure Onu.Placed (loaded : Loaded) (position : Position) (onu : Onu) : Prop where
  pon : position.1 < loaded.config.olt.ponPorts.toNat
  ponPortId : onu.ponPortId = UInt32.ofNat position.1
  unis : ∀ index port, onu.uniPorts[index]? = some port → UniCreated loaded position index port

theorem Onu.Placed.keep {position : Position} {onu other : Onu} (placed : onu.Placed loaded position)
    (same : onu.SameIdentity other) : other.Placed loaded position := by
  refine ⟨placed.pon, same.ponPortId.trans placed.ponPortId, fun index uni present => ?_⟩
  have old := congrArg (·[index]?) same.unis
  simp only [List.getElem?_map, present, Option.map_some] at old
  obtain ⟨port, there, same⟩ := Option.map_eq_some_iff.mp old.symm
  exact (placed.unis index port there).of_identity same.symm

namespace Plant

variable {plant next : Plant} {history : List (Plant × PlantStep)}

/-- Every ONU is where it was created. -/
structure Placed (loaded : Loaded) (plant : Plant) : Prop where
  oltId : plant.oltId = loaded.config.olt.id
  onus : ∀ position site, plant.siteAt position = some site → site.onu.Placed loaded position

private theorem step_placed {label : PlantStep} (placed : plant.Placed loaded)
    (taken : plant.step label = some next) : next.Placed loaded := by
  obtain ⟨position, site, after, present, same, rfl⟩ := step_moves taken
  refine ⟨placed.oltId, fun other found there => ?_⟩
  rw [siteAt_put] at there
  split at there
  · next here =>
    subst here
    rw [present] at there
    obtain rfl := Option.some.inj there
    exact (placed.onus other site present).keep same
  · exact placed.onus other found there

private theorem siteAt_create (oltId : Int) (olt : Olt) (position : Position) :
    ((create oltId olt).siteAt position).map LoopSite.onu = olt.onuAt position := by
  simp only [siteAt, create, Olt.onuAt, List.getElem?_map, Option.bind_map]
  cases olt.pons[position.1]? with
  | none => rfl
  | some port =>
    simp only [Option.bind_some, Function.comp_apply, List.getElem?_map, Option.map_map]
    exact Option.map_id' ..

private theorem run_placed {olt : Olt} (created : createOlt loaded = .ok olt)
    (run : Run step (create loaded.config.olt.id olt) history plant) : plant.Placed loaded := by
  refine run.invariant_of_step ⟨rfl, fun position site present => ?_⟩ fun _ _ _ => step_placed
  have there : olt.onuAt position = some site.onu := by
    rw [← siteAt_create loaded.config.olt.id, present]
    rfl
  obtain ⟨pon, -, -, ponPortId, -, -, unis⟩ := onuAt_created created there
  exact ⟨pon, ponPortId, unis⟩

/-- The OLT as a request finds it, without its flows. -/
def asOlt (plant : Plant) : Olt where
  enablePerf := false
  flows := ∅
  gemPortIDs := ∅
  allocIDs := ∅
  pons := plant.pons.mapIdx fun pon sites => ⟨UInt32.ofNat pon, .created, sites.map LoopSite.onu, .empty⟩

private theorem asOlt_onuAt (plant : Plant) (position : Position) :
    plant.asOlt.onuAt position = (plant.siteAt position).map LoopSite.onu := by
  simp only [asOlt, Olt.onuAt, siteAt, List.getElem?_mapIdx, Option.bind_map]
  cases plant.pons[position.1]? with
  | none => rfl
  | some sites => exact List.getElem?_map

end Plant

/-- The services that a packet is for, by UNI and position. -/
def Onu.routed (onu : Onu) (packet : PacketMessage) : List (Nat × Nat) :=
  (onu.packetUniIndices packet).flatMap fun index =>
    ((onu.uniPorts[index]?.map fun uni => uni.packetServiceIndices packet).getD []).map (index, ·)

/-- The services that `OnuPacketOut` and the loops choose for a packet. Whether the ONU is enabled and
its loops receive is not looked at. -/
def Olt.routed (olt : Olt) (packet : OnuPacket) : List ServicePlace :=
  match olt.getPonById packet.intfId, packet.pktType, packet.dstMac with
  | some pon, some type, some mac =>
    ((olt.packetTargets pon packet).getD []).flatMap fun position =>
      (((olt.onuAt position).map fun onu => onu.routed ⟨packet.portNo, 0, type, mac⟩).getD []).map
        fun (uni, service) => ⟨position, uni, service⟩
  | _, _, _ => []

def packetType : Payload → PacketType
  | .eapol .. => .eapol
  | .dhcp .. => .dhcp
  | .igmp .. => .igmp

/-- The packet that answers an indication: sent back to where it says it comes from, and addressed to its
source. -/
def replyTo (packet : PacketIndication) : OnuPacket where
  intfId := packet.intfId
  onuId := packet.onuId
  portNo := packet.portNo
  gemportId := packet.gemportId
  pktType := some (packetType packet.frame.payload)
  dstMac := some packet.frame.srcMac

theorem Onu.mem_routed_iff {onu : Onu} {packet : PacketMessage} {index service : Nat} {uni : UniPort}
    (unicast : packet.gemPortId ≠ multicastGemPortId) (present : onu.uniPorts[index]? = some uni) :
    (index, service) ∈ onu.routed packet ↔
      (onu.uniPorts.findIdx? fun uni => uni.portNo = packet.portNo) = some index ∧
        service ∈ uni.packetServiceIndices packet := by
  rw [routed, packetUniIndices, if_neg unicast, findUniByPortNo]
  simp only [List.mem_flatMap, Option.mem_toList, List.mem_map, Prod.mk.injEq]
  constructor
  · rintro ⟨selected, chosen, number, listed, rfl, rfl⟩
    rw [present] at listed
    exact ⟨chosen, listed⟩
  · rintro ⟨chosen, listed⟩
    exact ⟨index, chosen, service, by rwa [present], rfl, rfl⟩

theorem Olt.mem_routed_iff {olt : Olt} {packet : OnuPacket} {place : ServicePlace} {onu : Onu} {pon : Nat}
    {type : PacketType} {mac : List UInt8} (found : olt.getPonById packet.intfId = some pon)
    (typed : packet.pktType = some type) (addressed : packet.dstMac = some mac)
    (present : olt.onuAt place.onu = some onu) :
    place ∈ olt.routed packet ↔
      place.onu ∈ (olt.packetTargets pon packet).getD [] ∧
        (place.uni, place.service) ∈ onu.routed ⟨packet.portNo, 0, type, mac⟩ := by
  rw [routed, found, typed, addressed]
  simp only [List.mem_flatMap, List.mem_map]
  constructor
  · rintro ⟨position, target, ⟨uni, service⟩, chosen, rfl⟩
    rw [present] at chosen
    exact ⟨target, chosen⟩
  · rintro ⟨target, chosen⟩
    exact ⟨place.onu, target, (place.uni, place.service), by rwa [present], rfl⟩

namespace Plant

variable {plant : Plant} {place : ServicePlace} {groupVlan : String → Int} {subscriber : Subscriber}

theorem subscriberAt_eq_some (present : plant.subscriberAt groupVlan place = some subscriber) :
    ∃ site uni service, plant.siteAt place.onu = some site ∧
      site.onu.uniPorts[place.uni]? = some uni ∧ uni.services[place.service]? = some service ∧
      subscriber = .of plant.oltId groupVlan site.onu uni service := by
  obtain ⟨site, foundSite, inSite⟩ := Option.bind_eq_some_iff.mp present
  obtain ⟨uni, foundUni, inUni⟩ := Option.bind_eq_some_iff.mp inSite
  obtain ⟨service, foundService, rfl⟩ := Option.map_eq_some_iff.mp inUni
  exact ⟨site, uni, service, foundSite, foundUni, foundService, rfl⟩

/-- The ids that a reply names lead to the service first. -/
structure Addressed (plant : Plant) (place : ServicePlace) (subscriber : Subscriber)
    (type : PacketType) : Prop where
  /-- On the multicast GEM port all ONUs of the PON are tried. -/
  onu : subscriber.service.gemPort = multicastGemPortId ∨
    ∀ earlier < place.onu.2, ∀ site, plant.siteAt (place.onu.1, earlier) = some site →
      site.onu.id ≠ subscriber.onuId
  uni : ∀ earlier < place.uni, ∀ site uni, plant.siteAt place.onu = some site →
    site.onu.uniPorts[earlier]? = some uni → uni.portNo ≠ subscriber.portNo
  /-- IGMP packets go to all IGMP services of the UNI. -/
  service : type = .igmp ∨ place.service < 256

theorem getPonById_asOlt {pon : Nat} {sites : List LoopSite} (present : plant.pons[pon]? = some sites)
    (small : pon < UInt32.size) : plant.asOlt.getPonById (UInt32.ofNat pon) = some pon := by
  have there : plant.asOlt.pons[pon]? =
      some ⟨UInt32.ofNat pon, .created, sites.map LoopSite.onu, .empty⟩ := by
    rw [asOlt, List.getElem?_mapIdx, present]
    rfl
  rw [Olt.getPonById, findIdx?_eq_some_iff_first there (by simp)]
  intro earlier before other listed
  rw [asOlt, List.getElem?_mapIdx] at listed
  obtain ⟨others, -, rfl⟩ := Option.map_eq_some_iff.mp listed
  refine decide_eq_false fun same => ?_
  have equal := congrArg UInt32.toNat same
  rw [UInt32.toNat_ofNat_of_lt' (by omega), UInt32.toNat_ofNat_of_lt' small] at equal
  omega

theorem mem_targets_iff {site : LoopSite} {packet : OnuPacket}
    (present : plant.siteAt place.onu = some site) (named : packet.onuId = site.onu.id) :
    place.onu ∈ (plant.asOlt.packetTargets place.onu.1 packet).getD [] ↔
      packet.gemportId = multicastGemPortId ∨
        ∀ earlier < place.onu.2, ∀ other, plant.siteAt (place.onu.1, earlier) = some other →
          other.onu.id ≠ site.onu.id := by
  obtain ⟨sites, foundPon, foundOnu⟩ := Option.bind_eq_some_iff.mp present
  have there : plant.asOlt.pons[place.onu.1]? =
      some ⟨UInt32.ofNat place.onu.1, .created, sites.map LoopSite.onu, .empty⟩ := by
    rw [asOlt, List.getElem?_mapIdx, foundPon]
    rfl
  rw [Olt.packetTargets, there]
  split
  · next multicast =>
    refine iff_of_true ?_ (.inl multicast)
    obtain ⟨inside, -⟩ := List.getElem?_eq_some_iff.mp foundOnu
    simpa using ⟨place.onu.2, inside, rfl⟩
  · next unicast =>
    rw [or_iff_right unicast, Olt.getOnuById, there, named]
    have listed : (sites.map LoopSite.onu)[place.onu.2]? = some site.onu := by
      rw [List.getElem?_map, foundOnu]
      rfl
    have chosen : ∀ found : Option Nat, place.onu ∈
        (((found.map (place.onu.1, ·)).map fun position => [position]).getD [] : List Position) ↔
          found = some place.onu.2 := by
      rintro (_ | index)
      · simp
      · simp [Prod.ext_iff, eq_comm]
    rw [Option.bind_some, chosen, findIdx?_eq_some_iff_first listed (by simp)]
    simp only [siteAt, foundPon, Option.bind_some, List.getElem?_map, Option.map_eq_some_iff,
      decide_eq_false_iff_not, forall_exists_index, and_imp, forall_apply_eq_imp_iff₂]

theorem mem_packetServiceIndices_iff {uni : UniPort} {index : Nat} {service : Service}
    {packet : PacketMessage} {position : Position} {number : Nat}
    (created : UniCreated loaded position number uni) (present : uni.services[index]? = some service)
    (addressed : packet.macAddress = service.hwAddress)
    (kind : packet.type = .eapol ∨ packet.type = .dhcp ∨
      packet.type = .igmp ∧ service.needsIgmp = true) :
    index ∈ uni.packetServiceIndices packet ↔ packet.type = .igmp ∨ index < 256 := by
  have byAddress : index ∈ (uni.services.findIdx? fun other =>
      other.hwAddress = packet.macAddress).toList ↔ index < 256 := by
    rw [Option.mem_toList, findIdx?_eq_some_iff_first present (by simp [addressed])]
    have own := (created.services index service present).2
    obtain ⟨inside, -⟩ := List.getElem?_eq_some_iff.mp present
    constructor
    · intro first
      by_contra large
      -- the service with the same last byte comes first
      have before : index % 256 < index := by omega
      have there := List.getElem?_eq_getElem (before.trans inside)
      have same := (created.services _ _ there).2
      refine Bool.eq_false_iff.mp (first _ before _ there) (decide_eq_true ?_)
      rw [addressed, own, same]
      exact ServicePlace.mac_inj.mpr ⟨rfl, rfl, rfl, Nat.mod_mod ..⟩
    · intro small earlier before other there
      refine decide_eq_false fun same => ?_
      rw [addressed, own, (created.services _ _ there).2, ServicePlace.mac_inj] at same
      obtain ⟨-, -, -, last⟩ := same
      dsimp only at last
      omega
  unfold UniPort.packetServiceIndices
  obtain eapol | dhcp | ⟨igmp, needed⟩ := kind
  · simpa [eapol] using byAddress
  · simpa [dhcp] using byAddress
  · obtain ⟨inside, same⟩ := List.getElem?_eq_some_iff.mp present
    simp [igmp, inside, same, needed]

end Plant

/-- The kind of packet that a prompt has the service send. -/
def Prompt.packetType : Prompt → PacketType
  | .startEapol _ | .eapolPacket _ _ _ _ => .eapol
  | .startDhcp _ | .dhcpPacket _ _ => .dhcp
  | .igmpPacket _ | .igmpRequest _ _ _ => .igmp

theorem Subscriber.Sends.packetType {subscriber : Subscriber} {prompt : Prompt}
    {packet : PacketIndication} (sent : subscriber.Sends prompt packet) :
    Devices.packetType packet.frame.payload = prompt.packetType ∧
      (prompt.packetType = .eapol ∨ prompt.packetType = .dhcp ∨
        prompt.packetType = .igmp ∧ subscriber.service.needsIgmp = true) := by
  cases sent with
  | eapStart | eapResponse => exact ⟨rfl, .inl rfl⟩
  | discovery | request => exact ⟨rfl, .inr (.inl rfl)⟩
  | report needed | igmp needed => exact ⟨rfl, .inr (.inr ⟨rfl, needed⟩)⟩

namespace Plant

variable {plant : Plant} {place : ServicePlace} {groupVlan : String → Int} {subscriber : Subscriber}
  {prompt : Prompt} {packet : PacketIndication}

variable (placed : plant.Placed loaded)
  (present : plant.subscriberAt groupVlan place = some subscriber)
include placed present

/-- The reply to a packet with the identity of a service comes back to the service exactly if its ids lead
there first. -/
theorem routed_iff (sent : subscriber.Sends prompt packet) (carries : subscriber.Carries packet) :
    place ∈ plant.asOlt.routed (replyTo packet) ↔ plant.Addressed place subscriber prompt.packetType := by
  obtain ⟨site, uni, service, foundSite, foundUni, foundService, rfl⟩ := subscriberAt_eq_some present
  obtain ⟨typed, kind⟩ := sent.packetType
  obtain ⟨srcMac, intfId, onuId, -, portNo, gemportId⟩ := carries
  have here := placed.onus place.onu site foundSite
  have created := here.unis place.uni uni foundUni
  obtain ⟨sites, foundPon, -⟩ := Option.bind_eq_some_iff.mp foundSite
  have pon : plant.asOlt.getPonById (replyTo packet).intfId = some place.onu.1 := by
    rw [show (replyTo packet).intfId = UInt32.ofNat place.onu.1 from intfId.trans here.ponPortId]
    exact getPonById_asOlt foundPon (here.pon.trans loaded.config.olt.ponPorts.toNat_lt)
  have onu : plant.asOlt.onuAt place.onu = some site.onu := by
    rw [asOlt_onuAt, foundSite]
    rfl
  have port : (replyTo packet).portNo = uni.portNo := portNo
  have unicast : (0 : UInt32) ≠ multicastGemPortId := by decide
  rw [Olt.mem_routed_iff pon rfl rfl onu, mem_targets_iff foundSite onuId, typed, port,
    Onu.mem_routed_iff unicast foundUni,
    mem_packetServiceIndices_iff created foundService srcMac kind,
    findIdx?_eq_some_iff_first foundUni (by simp),
    show (replyTo packet).gemportId = service.gemPort from gemportId]
  constructor
  · rintro ⟨onuFirst, uniFirst, serviceFirst⟩
    refine ⟨onuFirst, fun earlier before other port there listed => ?_, serviceFirst⟩
    rw [foundSite] at there
    obtain rfl := Option.some.inj there
    exact of_decide_eq_false (uniFirst earlier before port listed)
  · rintro ⟨onuFirst, uniFirst, serviceFirst⟩
    refine ⟨onuFirst, fun earlier before port listed => ?_, serviceFirst⟩
    exact decide_eq_false (uniFirst earlier before site port foundSite listed)

/-- What a prompt needs at a place of a created OLT: an EAPOL packet that comes under the present ids, on
the first UNI of an ONU whose id still has the last byte it was created with; and a GEM port for IGMP. -/
def OwnAt (place : ServicePlace) (subscriber : Subscriber) : Prompt → Prop
  | .startEapol _ | .startDhcp _ | .dhcpPacket _ _ => True
  | .eapolPacket intfId onuId _ _ =>
    intfId = subscriber.ponPortId ∧ onuId = subscriber.onuId ∧ place.uni = 0 ∧
      subscriber.onuId.toUInt8 = (UInt32.ofNat (place.onu.2 + 1)).toUInt8
  | .igmpPacket _ | .igmpRequest _ _ _ =>
    subscriber.service.gemPort = 0 → Igmp.concatenated subscriber.ponPortId subscriber.onuId = 0

theorem eapolMac_eq_iff :
    subscriber.eapolMac subscriber.ponPortId subscriber.onuId = subscriber.service.hwAddress ↔
      subscriber.onuId.toUInt8 = (UInt32.ofNat (place.onu.2 + 1)).toUInt8 := by
  obtain ⟨site, uni, service, foundSite, foundUni, foundService, rfl⟩ := subscriberAt_eq_some present
  have here := placed.onus place.onu site foundSite
  have created := here.unis place.uni uni foundUni
  obtain ⟨number, address⟩ := created.services place.service service foundService
  have last : service.id.toUInt8 = UInt8.ofNat place.service := by
    rw [number]
    simp
  have own : (Subscriber.of plant.oltId groupVlan site.onu uni service).service.hwAddress = _ := address
  rw [own, ServicePlace.mac, serviceMac, Subscriber.eapolMac]
  simp only [Subscriber.of, List.cons.injEq, placed.oltId, here.ponPortId, created.id, last, true_and,
    and_true]

theorem uniId_eq_zero_iff : subscriber.uniId = 0 ↔ place.uni = 0 := by
  obtain ⟨site, uni, service, foundSite, foundUni, -, rfl⟩ := subscriberAt_eq_some present
  have created := (placed.onus place.onu site foundSite).unis place.uni uni foundUni
  have few := created.few
  change uni.id = 0 ↔ _
  rw [created.id, ← UInt32.toNat_inj, UInt32.toNat_ofNat_of_lt' (few.trans (by decide))]
  exact Iff.rfl

theorem own_iff : subscriber.Own prompt ↔ OwnAt place subscriber prompt := by
  cases prompt with
  | eapolPacket intfId onuId sends incoming =>
    rw [Subscriber.Own, OwnAt, eapolMac_eq_iff placed present, uniId_eq_zero_iff placed present]
  | _ => exact Iff.rfl

end Plant

/-- In every state of an OLT, a packet that a service sends has the service's identity and its reply comes
back to the service, exactly if the prompt is the service's own and its ids lead there first. -/
theorem frames_carry_identity_iff {olt : Olt} (created : createOlt loaded = .ok olt) {plant : Plant}
    {history : List (Plant × PlantStep)}
    (run : Run Plant.step (.create loaded.config.olt.id olt) history plant)
    {groupVlan : String → Int} {place : ServicePlace} {subscriber after : Subscriber}
    (present : plant.subscriberAt groupVlan place = some subscriber) {md5 : List UInt8 → List UInt8}
    {prompt : Prompt} {packets : List PacketIndication} {packet : PacketIndication}
    (prompted : subscriber.prompted md5 prompt = some (after, packets)) (sent : packet ∈ packets) :
    (subscriber.Carries packet ∧ place ∈ plant.asOlt.routed (replyTo packet)) ↔
      Plant.OwnAt place subscriber prompt ∧ plant.Addressed place subscriber prompt.packetType := by
  have sends := Subscriber.sends_of_prompted prompted sent
  have placed := Plant.run_placed created run
  rw [← Plant.own_iff placed present, ← Subscriber.carries_iff sends]
  exact and_congr_right fun carries => Plant.routed_iff placed present sends carries

deriving instance DecidableEq for OnuConfig

/-- The ONU of a configuration with one PON, one ONU and one service. -/
def hsiaOnu : OnuConfig where
  vendorSpecific := [0, 0, 0, 1]
  uniPorts := (List.range 4).map fun uni =>
    ⟨UInt32.ofNat uni, portMeId (uni + 1), 0, .down,
      [.create 0 "hsia" [0x2e, 0, 0, 1, UInt8.ofNat uni, 0] 900 900 true true false 0 0], 0⟩
  potsPorts := []
  omciResponseRate := 10

theorem createOlt_hsia : createOlt (loadedHsia 1) = .ok (.create false [[hsiaOnu]]) := by
  have fits : MibFits (loadedHsia 1) := mib_of_defaults
  refine createOlt_eq_of_planned fits (loadedHsia_ponAccepted (by decide)) ?_
  decide +kernel

/-- The ONU gets this id and is enabled, the UNI is unlocked, and its EAPOL flow starts the service. -/
def eapolStarted (id : UInt32) (uni : Nat) : List PlantStep :=
  [.onu (0, 0) .connect, .onu (0, 0) (.event .init), .onu (0, 0) (.event .discover),
    .activate (0, 0) id] ++
  ([.event .enable, .select 0, .receive 0, .select 0, .receive 0,
    .send (.omci (.setUniAdminState (portMeId (uni + 1)) 0)), .select 0, .receive 0, .select 0,
    .receive 0, .send (.flowAdd { eapolFlow with uniId := Int32.ofNat uni }), .select 0,
    .receive 0] : List LoopStep).map (.onu (0, 0)) ++
  [.prompt ⟨(0, 0), uni, 0⟩ (fun _ => 900) md5 (.startEapol true)]

/-- An identity request that comes to the ONU under its id. -/
def identityRequest (onuId : UInt32) : Prompt :=
  .eapolPacket 0 onuId true ⟨some .eap, some ⟨.request, 1, 5, .identity, [], []⟩⟩

/-- What the service at a place sends on a prompt meets a test. -/
def Plant.answers (plant : Plant) (place : ServicePlace) (prompt : Prompt)
    (test : Subscriber → PacketIndication → Bool) : Bool :=
  (plant.subscriberAt (fun _ => 900) place).any fun subscriber =>
    (subscriber.prompted md5 prompt).any fun (_, packets) => packets.any (test subscriber)

theorem Plant.exists_of_answers {plant : Plant} {place : ServicePlace} {prompt : Prompt}
    {test : Subscriber → PacketIndication → Bool} (answered : plant.answers place prompt test = true) :
    ∃ subscriber after packets packet, plant.subscriberAt (fun _ => 900) place = some subscriber ∧
      subscriber.prompted md5 prompt = some (after, packets) ∧ packet ∈ packets ∧
      test subscriber packet = true := by
  obtain ⟨subscriber, present, answered⟩ := Option.any_eq_true .. |>.mp answered
  obtain ⟨⟨after, packets⟩, prompted, tested⟩ := Option.any_eq_true .. |>.mp answered
  obtain ⟨packet, sent, passed⟩ := List.any_eq_true.mp tested
  exact ⟨subscriber, after, packets, packet, present, prompted, sent, passed⟩

/-- The answer of the first UNI of an ONU that keeps its id. -/
theorem identity_response_carries :
    ∃ history plant subscriber after packets packet,
      Run Plant.step (.create 0 (.create false [[hsiaOnu]])) history plant ∧
      plant.subscriberAt (fun _ => 900) ⟨(0, 0), 0, 0⟩ = some subscriber ∧
      subscriber.prompted md5 (identityRequest 1) = some (after, packets) ∧
      packet ∈ packets ∧ subscriber.Carries packet ∧
      ⟨(0, 0), 0, 0⟩ ∈ plant.asOlt.routed (replyTo packet) := by
  obtain ⟨history, plant, run, answered⟩ := run_of_replay Plant.step
    (.create 0 (.create false [[hsiaOnu]])) (eapolStarted 1 0)
    (fun plant => plant.answers ⟨(0, 0), 0, 0⟩ (identityRequest 1) (fun subscriber _ =>
      subscriber.ponPortId = 0 ∧ subscriber.onuId = 1) = true)
    (by decide +kernel)
  obtain ⟨subscriber, after, packets, packet, present, prompted, sent, ids⟩ :=
    Plant.exists_of_answers answered
  obtain ⟨pon, onu⟩ := of_decide_eq_true ids
  have carries := (frames_carry_identity_iff createOlt_hsia run present prompted sent).mpr
    ⟨⟨pon.symm, onu.symm, rfl, by rw [onu]; rfl⟩,
      .inr fun earlier before => absurd before (Nat.not_lt_zero earlier),
      fun earlier before => absurd before (Nat.not_lt_zero earlier), .inr (by decide)⟩
  exact ⟨history, plant, subscriber, after, packets, packet, run, present, prompted, sent, carries⟩

/-- An ONU that was created with id 1 is activated with id 5. Its second UNI answers with an address that
no service has, and as the first UNI. -/
theorem identity_response_of_stranger :
    createOlt (loadedHsia 1) = .ok (.create false [[hsiaOnu]]) ∧
    ∃ history plant subscriber after packets packet,
      Run Plant.step (.create 0 (.create false [[hsiaOnu]])) history plant ∧
      plant.subscriberAt (fun _ => 900) ⟨(0, 0), 1, 0⟩ = some subscriber ∧
      subscriber.prompted md5 (identityRequest 5) = some (after, packets) ∧
      packet ∈ packets ∧ packet.frame.srcMac = [0x2e, 0, 0, 5, 1, 0] ∧
      subscriber.service.hwAddress = [0x2e, 0, 0, 1, 1, 0] ∧ packet.uniId = 0 ∧ subscriber.uniId = 1 := by
  refine ⟨createOlt_hsia, ?_⟩
  obtain ⟨history, plant, run, answered⟩ := run_of_replay Plant.step
    (.create 0 (.create false [[hsiaOnu]])) (eapolStarted 5 1)
    (fun plant => plant.answers ⟨(0, 0), 1, 0⟩ (identityRequest 5) (fun subscriber packet =>
      packet.frame.srcMac = [0x2e, 0, 0, 5, 1, 0] ∧
        subscriber.service.hwAddress = [0x2e, 0, 0, 1, 1, 0] ∧ packet.uniId = 0 ∧
        subscriber.uniId = 1) = true)
    (by decide +kernel)
  obtain ⟨subscriber, after, packets, packet, present, prompted, sent, apart⟩ :=
    Plant.exists_of_answers answered
  exact ⟨history, plant, subscriber, after, packets, packet, run, present, prompted, sent,
    of_decide_eq_true apart⟩

end Bbsim.Devices
