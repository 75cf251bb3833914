import Bbsim.Devices.FlowBookkeeping
import Bbsim.Devices.OltChannel
import Bbsim.Devices.PonSite
import Bbsim.Devices.Delivery

/-! Requests of the OpenOLT interface. `ActivateOnu`, `GetOnuInfo`, `DisablePonIf`, `EnablePonIf`,
`OnuPacketOut` and `FlowAdd`, with every nil pointer they may follow, every nil map they may write to
and every channel they send on. -/

namespace Bbsim.Devices

open Foundation

/-- What brings the simulator down. -/
inductive Crash where
  | nilPon
  | nilOnu
  | nilUni
  | nilMap
deriving DecidableEq, Repr

/-- A request that does not return: it follows or writes what is not there, or a send on the channel of
an ONU or of the OLT panics or waits for ever. -/
inductive RequestFault where
  | crash (crash : Crash)
  | channel (fault : Fault)
  | oltChannel (link : OltLink)
deriving DecidableEq

/-- An error that a request returns. -/
inductive RequestFailure where
  | cannotFindPonPort (id : UInt32)
  | cantFindOnuById
  | malformedPacket
  | dstMacCanNotFoundInPacket
  | flow (failure : FlowFailure)

inductive OnuInfoState where
  | notConfigured
  | active
  | inactive
  | unknown
deriving DecidableEq, Repr

/-- `openolt.OnuInfo`; the alarms are on where the flag is set. -/
structure OnuInfo where
  onuId : UInt32
  losi : Bool
  lofi : Bool
  loami : Bool
  state : OnuInfoState
deriving DecidableEq, Repr

/-- `openolt.OnuIndication`. -/
structure OnuIndication where
  intfId : UInt32
  onuId : UInt32
  operState : PortState
  adminState : PortState
  serialNumber : SerialRef
deriving DecidableEq, Repr

/-- `openolt.OnuPacket`, with what `GetPktType` and `GetDstMacAddressFromPacket` make of its bytes. -/
structure OnuPacket where
  intfId : UInt32
  onuId : UInt32
  portNo : UInt32
  gemportId : UInt32
  pktType : Option PacketType
  dstMac : Option (List UInt8)

inductive RequestReply where
  | empty
  | onuInfo (info : OnuInfo)
  /-- The indications sent to VOLTHA before the empty reply. -/
  | indicated (indications : List OnuIndication)
  | failed (failure : RequestFailure)

inductive OpenOltRequest where
  | activateOnu (intfId onuId : UInt32) (vendorSpecific : List UInt8)
  | getOnuInfo (intfId onuId : UInt32)
  | disablePonIf (intfId : UInt32)
  | enablePonIf (intfId : UInt32)
  | onuPacketOut (packet : OnuPacket)
  | flowAdd (flow : Flow)

def Onu.info (onu : Onu) (onuId : UInt32) : OnuInfo where
  onuId := onuId
  losi := onu.operState = .down
  lofi := onu.operState = .down
  loami := onu.operState = .down
  state := match onu.internalState with
    | .enabled => .active
    | .disabled => .inactive
    | .created | .initialized => .notConfigured
    | _ => .unknown

variable {table : ResourceIds}

namespace Olt

/-- `CreateOLT`, with the ONUs of each PON. -/
def create (enablePerf : Bool) (ponConfigs : List (List OnuConfig)) : Olt where
  enablePerf := enablePerf
  flows := ∅
  gemPortIDs := (List.range ponConfigs.length).foldl (fun table pon => table.insert pon.toUInt32 ∅) ∅
  allocIDs := (List.range ponConfigs.length).foldl (fun table pon => table.insert pon.toUInt32 ∅) ∅
  pons := ponConfigs.mapIdx fun pon configs =>
    ⟨pon.toUInt32, .created, (PonSite.create pon.toUInt32 configs).onus, .empty⟩

/-- When the OLT is deleted, and until it is initialized again, the resource tables have no maps. -/
def clearAllResources (olt : Olt) : Olt :=
  { olt with
    gemPortIDs := ∅
    allocIDs := ∅
    pons := olt.pons.map fun pon => { pon with resources := pon.resources.removeAll } }

def getOnuBySn (olt : Olt) (pon : Nat) (vendorSpecific : List UInt8) : Option Position :=
  (olt.pons[pon]?.bind fun port => port.onus.findIdx? fun onu =>
    onu.vendorSpecific = vendorSpecific).map (pon, ·)

/-- Let the ONU at a position act, on the resources of its PON. -/
def actAt (olt : Olt) (position : Position) (action : OnuAction) : Except RequestFault Olt :=
  match olt.pons[position.1]?, olt.onuAt position with
  | some port, some onu =>
    match (AttachedOnu.mk onu port.resources).perform 0 action with
    | .error fault => .error (.channel fault)
    | .ok next =>
      .ok { olt with
        pons := olt.pons.set position.1
          { port with onus := port.onus.set position.2 next.onu, resources := next.resources } }
  | _, _ => .error (.crash .nilOnu)

/-- The maps of the ONU are made before the ONU is looked for, and whether it was found is not
checked. -/
def activateOnu (olt : Olt) (intfId onuId : UInt32) (vendorSpecific : List UInt8) :
    Except RequestFault (Olt × RequestReply) :=
  match olt.getPonById intfId with
  | none => .ok (olt, .failed (.cannotFindPonPort intfId))
  | some pon =>
    match ResourceIds.enableOnu olt.allocIDs intfId onuId,
        ResourceIds.enableOnu olt.gemPortIDs intfId onuId with
    | some allocIDs, some gemPortIDs =>
      match olt.getOnuBySn pon vendorSpecific with
      | none => .error (.crash .nilOnu)
      | some position =>
        ({ olt with gemPortIDs := gemPortIDs, allocIDs := allocIDs }.actAt position
          (.activate onuId)).map (·, .empty)
    | _, _ => .error (.crash .nilMap)

/-- The error of `GetOnuById` is dropped, and that of `GetPonById` checked a second time. -/
def getOnuInfo (olt : Olt) (intfId onuId : UInt32) : Except RequestFault (Olt × RequestReply) :=
  match olt.getPonById intfId with
  | none => .ok (olt, .failed (.cannotFindPonPort intfId))
  | some pon =>
    match (olt.getOnuById pon onuId).bind olt.onuAt with
    | none => .error (.crash .nilOnu)
    | some onu => .ok (olt, .onuInfo (onu.info onuId))

/-- `DisablePonIf` and `EnablePonIf`. The message to the OLT comes before the use of the PON. -/
def setPonIf (olt : Olt) (link : OltLink) (operState : PortState) (intfId : UInt32) :
    Except RequestFault (Olt × RequestReply) :=
  if link ≠ .served then .error (.oltChannel link)
  else match (olt.getPonById intfId).bind (olt.pons[·]?) with
  | none => .error (.crash .nilPon)
  | some port =>
    .ok (olt, .indicated (port.onus.map fun onu =>
      ⟨onu.ponPortId, onu.id, operState, onu.operState, onu.serialNumber⟩))

def disablePonIf (olt : Olt) (link : OltLink) (intfId : UInt32) :
    Except RequestFault (Olt × RequestReply) := olt.setPonIf link .down intfId

def enablePonIf (olt : Olt) (link : OltLink) (intfId : UInt32) :
    Except RequestFault (Olt × RequestReply) := olt.setPonIf link .up intfId

/-- Send a packet to those of the ONUs that are enabled. -/
def sendPacket (packet : PacketMessage) (olt : Olt) : List Position → Except RequestFault Olt
  | [] => .ok olt
  | position :: rest =>
    match olt.onuAt position with
    | none => .error (.crash .nilOnu)
    | some onu =>
      if onu.internalState = .enabled then
        match onu.send (.onuPacketOut packet) with
        | .error fault => .error (.channel fault)
        | .ok onu => sendPacket packet (olt.setOnu position onu) rest
      else sendPacket packet olt rest

/-- The ONUs a packet is for; `none` is the error for an unknown ONU. -/
def packetTargets (olt : Olt) (pon : Nat) (packet : OnuPacket) : Option (List Position) :=
  if packet.gemportId = multicastGemPortId then
    some ((List.range ((olt.pons[pon]?.map fun port => port.onus.length).getD 0)).map (pon, ·))
  else (olt.getOnuById pon packet.onuId).map fun position => [position]

/-- A missing PON is logged, and then the nil PON is searched. -/
def onuPacketOut (olt : Olt) (packet : OnuPacket) : Except RequestFault (Olt × RequestReply) :=
  match olt.getPonById packet.intfId with
  | none => .error (.crash .nilPon)
  | some pon =>
    match olt.packetTargets pon packet with
    | none => .ok (olt, .failed .cantFindOnuById)
    | some targets =>
      match packet.pktType, packet.dstMac with
      | none, _ => .ok (olt, .failed .malformedPacket)
      | some _, none => .ok (olt, .failed .dstMacCanNotFoundInPacket)
      | some type, some mac =>
        (sendPacket ⟨packet.portNo, 0, type, mac⟩ olt targets).map (·, .empty)

def FlowFault.request : FlowFault → RequestFault
  | .nilPon => .crash .nilPon
  | .nilMap => .crash .nilMap
  | .onu fault => .channel fault

def serve (olt : Olt) (link : OltLink) : OpenOltRequest → Except RequestFault (Olt × RequestReply)
  | .activateOnu intfId onuId vendorSpecific => olt.activateOnu intfId onuId vendorSpecific
  | .getOnuInfo intfId onuId => olt.getOnuInfo intfId onuId
  | .disablePonIf intfId => olt.disablePonIf link intfId
  | .enablePonIf intfId => olt.enablePonIf link intfId
  | .onuPacketOut packet => olt.onuPacketOut packet
  | .flowAdd flow =>
    match olt.flowAdd flow with
    | .error fault => .error (FlowFault.request fault)
    | .ok (next, none) => .ok (next, .empty)
    | .ok (next, some failure) => .ok (next, .failed (.flow failure))

variable {olt : Olt} {flow : Flow} {position : Position} {onu : Onu}

end Olt

def Onu.uniIds (onu : Onu) : List UInt32 := onu.uniPorts.map UniPort.id

theorem Onu.findUniById_isSome {onu : Onu} {uniId : UInt32} :
    (onu.findUniById uniId).isSome ↔ uniId ∈ onu.uniIds := by
  simp [findUniById, uniIds, List.findIdx?_isSome]

theorem Onu.handleFlowAdd_crashes_iff {onu : Onu} {flow : Flow} :
    onu.handleFlowAdd flow = .error .nilUni ↔ flow.uniId.toUInt32 ∉ onu.uniIds := by
  rw [← findUniById_isSome, handleFlowAdd]
  cases onu.findUniById flow.uniId.toUInt32 <;> simp

theorem UniMove.id {uni other : UniPort} (moved : UniMove uni other) : other.id = uni.id := by
  cases moved with
  | same | respond => rfl
  | enable accepted | disable accepted =>
    obtain ⟨state, -, rfl⟩ := Option.map_eq_some_iff.mp accepted
    rfl
  | flow flow =>
    unfold UniPort.handleFlow
    dsimp only
    split
    · rfl
    · split <;> rfl

theorem UnisMoved.uniIds {onu other : Onu} (moved : UnisMoved onu other) :
    other.uniIds = onu.uniIds := by
  refine List.ext_getElem? fun index => ?_
  rw [Onu.uniIds, Onu.uniIds, List.getElem?_map, List.getElem?_map]
  have move := moved index
  generalize onu.uniPorts[index]? = uni, other.uniPorts[index]? = changed at move ⊢
  cases move with
  | some move => rw [Option.map_some, Option.map_some, move.id]
  | none => rfl

/-- Whatever happens to the ONU, its loop finds the UNIs it had. -/
theorem LoopSite.run_uniIds {start site : LoopSite} {history : List (LoopSite × LoopStep)}
    (run : Run LoopSite.step start history site) : site.onu.uniIds = start.onu.uniIds := by
  induction run with
  | start => rfl
  | snoc before taken ih => exact (step_unisMoved taken).uniIds.trans ih

/-- The loop of the ONU handles the flow at any later time. -/
def Onu.HandlesLater (onu : Onu) (flow : Flow) : Prop :=
  ∀ (site final : LoopSite) history, site.onu = onu → Run LoopSite.step site history final →
    final.onu.handleFlowAdd flow ≠ .error .nilUni

theorem Onu.handlesLater_iff {onu : Onu} {flow : Flow} :
    onu.HandlesLater flow ↔ flow.uniId.toUInt32 ∈ onu.uniIds := by
  simp only [HandlesLater, Ne, handleFlowAdd_crashes_iff, not_not]
  constructor
  · intro handles
    exact handles (.create ⟨onu, .empty⟩) (.create ⟨onu, .empty⟩) [] rfl .start
  · rintro known site final history rfl run
    rwa [LoopSite.run_uniIds run]

namespace Olt

/-- The request ends with a reply or an error, and the ONU's loop survives the message that a `FlowAdd`
leaves for it. -/
structure Survives (olt : Olt) (link : OltLink) (request : OpenOltRequest) : Prop where
  returns : Returns (olt.serve link request)
  handled : ∀ flow next position onu, request = .flowAdd flow → flow.isOnuFlow = true →
    olt.flowAdd flow = .ok (next, none) → olt.activeOnu flow = some position →
    next.onuAt position = some onu → onu.HandlesLater flow

/-- An ONU that is activated under this id and sends its indication has an open channel. -/
def Activatable (port : PonPort) (onu : Onu) (onuId : UInt32) : Prop :=
  onu.internalState.after .enable = some .enabled → port.resources.isOnuIdAllocated onuId = none →
    onu.writable = true

/-- A target that is enabled takes the packet. -/
def Takes (olt : Olt) (position : Position) : Prop :=
  ∀ onu, olt.onuAt position = some onu → onu.internalState = .enabled → onu.writable = true

/-- What a request has to find for the simulator to survive it. An unknown PON is answered by
`ActivateOnu` and `GetOnuInfo` only, an unknown ONU by `OnuPacketOut` and `FlowAdd` only, and a UNI is
looked up by the ONU once the flow is accepted. The channels that are sent on have to be open, and that
of the OLT served. -/
def Answerable (olt : Olt) (link : OltLink) : OpenOltRequest → Prop
  | .activateOnu intfId onuId vendorSpecific => ∀ pon, olt.getPonById intfId = some pon →
      (olt.allocIDs.lookup intfId).isSome ∧ (olt.gemPortIDs.lookup intfId).isSome ∧
        ∃ position port onu, olt.getOnuBySn pon vendorSpecific = some position ∧
          olt.pons[position.1]? = some port ∧ olt.onuAt position = some onu ∧ Activatable port onu onuId
  | .getOnuInfo intfId onuId => ∀ pon, olt.getPonById intfId = some pon →
      (olt.getOnuById pon onuId).isSome
  | .disablePonIf intfId | .enablePonIf intfId => link = .served ∧ (olt.getPonById intfId).isSome
  | .onuPacketOut packet => ∃ pon, olt.getPonById packet.intfId = some pon ∧
      (packet.pktType.isSome → packet.dstMac.isSome → ∀ targets,
        olt.packetTargets pon packet = some targets → ∀ position ∈ targets, olt.Takes position)
  | .flowAdd flow => flow.isOnuFlow = true → (olt.getPonById flow.ponId).isSome ∧
      ∀ position onu, olt.activeOnu flow = some position → olt.onuAt position = some onu →
        olt.PassesChecks flow → (ResourceIds.onuIds olt.allocIDs flow.ponId flow.onuIndex).isSome ∧
          onu.writable = true ∧ flow.uniId.toUInt32 ∈ onu.uniIds

variable {olt : Olt} {link : OltLink} {flow : Flow} {position : Position}

variable {vendorSpecific : List UInt8}

private theorem onuAt_of_getOnuBySn {pon : Nat}
    (found : olt.getOnuBySn pon vendorSpecific = some position) :
    ∃ port onu, olt.pons[position.1]? = some port ∧ olt.onuAt position = some onu := by
  obtain ⟨index, listed, rfl⟩ := Option.map_eq_some_iff.mp found
  obtain ⟨port, present, searched⟩ := Option.bind_eq_some_iff.mp listed
  obtain ⟨inside, -⟩ := List.findIdx?_eq_some_iff_getElem.mp searched
  exact ⟨port, port.onus[index], present, by simp [onuAt, present]⟩

private theorem enabled_of_after {state entered : OnuState}
    (accepted : state.after .enable = some entered) : entered = .enabled := by
  cases state <;> cases accepted <;> rfl

variable {port : PonPort}

theorem returns_activate_iff {onu : Onu} {onuId : UInt32} :
    Returns ((AttachedOnu.mk onu port.resources).perform 0 (.activate onuId)) ↔
      Activatable port onu onuId := by
  have indicated : Returns (AttachedOnu.enterEnabled ⟨{ onu.moveTo .enabled with id := onuId },
      port.resources⟩) ↔ (port.resources.isOnuIdAllocated onuId = none → onu.writable = true) := by
    unfold AttachedOnu.enterEnabled
    dsimp only
    cases port.resources.isOnuIdAllocated onuId with
    | some _ => simp
    | none => cases isOpen : onu.writable <;> simp_all [Onu.writable]
  rw [Activatable, ← indicated, AttachedOnu.perform, AttachedOnu.tryEvent, Returns, yields_map]
  unfold AttachedOnu.event AttachedOnu.mapOnu
  dsimp only
  cases accepted : onu.internalState.after .enable with
  | none => simp [accepted]
  | some state =>
    obtain rfl := enabled_of_after accepted
    simp [accepted, AttachedOnu.enter, AttachedOnu.withOnu, Onu.moveTo]

theorem returns_actAt_iff (olt : Olt) {onu : Onu} (found : olt.pons[position.1]? = some port)
    (present : olt.onuAt position = some onu) (onuId : UInt32) :
    Returns (olt.actAt position (.activate onuId)) ↔ Activatable port onu onuId := by
  rw [← returns_activate_iff, actAt, found, present]
  dsimp only
  cases (AttachedOnu.mk onu port.resources).perform 0 (.activate onuId) with
  | error fault => exact iff_of_false id id
  | ok next => exact iff_of_true trivial trivial

private theorem enableOnu_isSome {ponId : UInt32} (onuId : UInt32) :
    (ResourceIds.enableOnu table ponId onuId).isSome ↔ (table.lookup ponId).isSome := by
  simp [ResourceIds.enableOnu, ResourceIds.putOnuIds]

variable {intfId onuId : UInt32}

theorem returns_activateOnu_iff :
    Returns (olt.activateOnu intfId onuId vendorSpecific) ↔
      olt.Answerable link (.activateOnu intfId onuId vendorSpecific) := by
  simp only [activateOnu, Answerable]
  cases foundPon : olt.getPonById intfId with
  | none => simp [Returns]
  | some pon =>
    simp only [Option.some.injEq, forall_eq', ← enableOnu_isSome onuId]
    cases ResourceIds.enableOnu olt.allocIDs intfId onuId with
    | none => simp [Returns]
    | some allocIDs =>
      cases ResourceIds.enableOnu olt.gemPortIDs intfId onuId with
      | none => simp [Returns]
      | some gemPortIDs =>
        cases found : olt.getOnuBySn pon vendorSpecific with
        | none => simp [Returns]
        | some position =>
          obtain ⟨port, onu, foundPort, present⟩ := onuAt_of_getOnuBySn found
          let enabled : Olt := { olt with gemPortIDs := gemPortIDs, allocIDs := allocIDs }
          have acts : Returns (enabled.actAt position (.activate onuId)) ↔ Activatable port onu onuId :=
            returns_actAt_iff enabled foundPort present onuId
          simp [enabled, acts, foundPort, present]

theorem returns_getOnuInfo_iff :
    Returns (olt.getOnuInfo intfId onuId) ↔ olt.Answerable link (.getOnuInfo intfId onuId) := by
  simp only [getOnuInfo, Answerable]
  cases foundPon : olt.getPonById intfId with
  | none => simp [Returns]
  | some pon =>
    cases found : olt.getOnuById pon onuId with
    | none => simp [Returns, found]
    | some position =>
      obtain ⟨onu, present⟩ := onuAt_of_getOnuById found
      simp [Returns, found, present]

theorem returns_setPonIf_iff {operState : PortState} {intfId : UInt32} :
    Returns (olt.setPonIf link operState intfId) ↔
      link = .served ∧ (olt.getPonById intfId).isSome := by
  unfold setPonIf
  split
  · next unserved => simp [Returns, unserved]
  · next served =>
    rw [not_not.mp served, eq_self, true_and]
    cases foundPon : olt.getPonById intfId with
    | none => simp [Returns]
    | some pon =>
      obtain ⟨inside, -⟩ := List.findIdx?_eq_some_iff_getElem.mp foundPon
      simp [Returns, inside]

/-- Sending to one target leaves the others, and its own channel, as they were. -/
theorem takes_setOnu_iff {other : Position} {onu : Onu} (after : Onu)
    (present : olt.onuAt position = some onu) (state : after.internalState = onu.internalState)
    (channel : after.writable = onu.writable) :
    (olt.setOnu position after).Takes other ↔ olt.Takes other := by
  unfold Takes
  rw [onuAt_setOnu]
  split
  · next same =>
    subst same
    simp [present, state, channel]
  · rfl

variable {targets : List Position}

theorem returns_sendPacket_iff {packet : PacketMessage}
    (present : ∀ position ∈ targets, (olt.onuAt position).isSome) :
    Returns (sendPacket packet olt targets) ↔ ∀ position ∈ targets, olt.Takes position := by
  induction targets generalizing olt with
  | nil => simp [sendPacket, Returns]
  | cons position rest ih =>
    obtain ⟨onu, here⟩ := Option.isSome_iff_exists.mp (present position (by simp))
    have others : ∀ other ∈ rest, (olt.onuAt other).isSome := fun other listed =>
      present other (by simp [listed])
    rw [List.forall_mem_cons]
    simp only [sendPacket, here]
    split
    · next enabled =>
      cases isOpen : onu.writable with
      | false => simp [Onu.send_of_not_writable isOpen, Returns, Takes, here, enabled, isOpen]
      | true =>
        rw [Onu.send_of_writable isOpen]
        dsimp only
        rw [ih]
        · simp only [takes_setOnu_iff (onu.enqueue _) here rfl (Onu.writable_enqueue _)]
          exact (and_iff_right (by simp [Takes, here, isOpen])).symm
        · intro other listed
          rw [onuAt_setOnu]
          split
          · simp [here]
          · exact others other listed
    · next away => rw [ih others, and_iff_right (by simp [Takes, here, away])]

variable {packet : OnuPacket}

theorem packetTargets_present {pon : Nat} (found : olt.packetTargets pon packet = some targets) :
    ∀ position ∈ targets, (olt.onuAt position).isSome := by
  unfold packetTargets at found
  split at found
  · obtain rfl := Option.some.inj found
    intro position listed
    rw [← mem_positions_iff]
    obtain ⟨index, inside, rfl⟩ := List.mem_map.mp listed
    cases port : olt.pons[pon]? with
    | none => simp [port] at inside
    | some port' =>
      obtain ⟨below, -⟩ := List.getElem?_eq_some_iff.mp port
      exact List.mem_flatMap.mpr ⟨pon, List.mem_range.mpr below, List.mem_map.mpr ⟨index, inside, rfl⟩⟩
  · obtain ⟨position, located, rfl⟩ := Option.map_eq_some_iff.mp found
    obtain ⟨onu, present⟩ := onuAt_of_getOnuById located
    simp [present]

theorem returns_onuPacketOut_iff :
    Returns (olt.onuPacketOut packet) ↔ olt.Answerable link (.onuPacketOut packet) := by
  simp only [onuPacketOut, Answerable]
  cases olt.getPonById packet.intfId with
  | none => simp [Returns]
  | some pon =>
    simp only [Option.some.injEq, exists_eq_left']
    cases found : olt.packetTargets pon packet with
    | none => simp [Returns]
    | some targets =>
      cases packet.pktType <;> cases packet.dstMac <;>
        simp [returns_sendPacket_iff (packetTargets_present found)]

/-- The part of the condition for a flow whose ONU is found and active. -/
theorem flowAdd_survives_iff_of_active {onu : Onu} (onuFlow : flow.isOnuFlow = true)
    (active : olt.activeOnu flow = some position) (present : olt.onuAt position = some onu) :
    olt.Survives link (.flowAdd flow) ↔ (olt.PassesChecks flow →
      (ResourceIds.onuIds olt.allocIDs flow.ponId flow.onuIndex).isSome ∧
        onu.writable = true ∧ flow.uniId.toUInt32 ∈ onu.uniIds) := by
  have outcome : olt.AddOutcome position onu flow (olt.flowAdd flow) :=
    flowAdd_of_active onuFlow active present ▸ flowAddOnu_outcome
  generalize result : olt.flowAdd flow = returned at outcome
  cases outcome with
  | rejected failure invalid =>
    refine iff_of_true ⟨by simp [serve, result, Returns], ?_⟩ fun valid => absurd valid invalid
    rintro other next position onu ⟨⟩ - returned
    rw [result] at returned
    cases returned
  | nilMap valid missing =>
    refine iff_of_false (fun survives => ?_) (fun answerable => ?_)
    · simpa [serve, result, Returns, FlowFault.request] using survives.returns
    · simpa [missing] using (answerable valid).1
  | unsent fault valid enabled shut =>
    refine iff_of_false (fun survives => ?_) (fun answerable => ?_)
    · simpa [serve, result, Returns, FlowFault.request] using survives.returns
    · simpa [shut] using (answerable valid).2.1
  | queued gemPortIDs allocIDs valid enabled isOpen =>
    have here : (olt.booked flow gemPortIDs allocIDs).onuAt position = some onu := present
    have presentAfter := onuAt_setOnu (olt.booked flow gemPortIDs allocIDs) position position
      ((onu.listFlow olt.enablePerf flow.flowId).enqueue [.flowAdd flow])
    rw [if_pos rfl, here, Option.map_some] at presentAfter
    have sameIds : ((onu.listFlow olt.enablePerf flow.flowId).enqueue [.flowAdd flow]).uniIds =
        onu.uniIds := by
      unfold Onu.listFlow Onu.uniIds
      split <;> rfl
    simp only [valid, enabled, isOpen, forall_const, true_and, ← sameIds, ← Onu.handlesLater_iff]
    constructor
    · intro survives
      exact survives.handled flow _ position _ rfl onuFlow result active presentAfter
    · intro handles
      refine ⟨by simp [serve, result, Returns], ?_⟩
      rintro other last place later ⟨⟩ - returned located there
      rw [result] at returned
      obtain ⟨rfl, -⟩ := Prod.mk.inj (Except.ok.inj returned)
      obtain rfl := Option.some.inj (active.symm.trans located)
      obtain rfl := Option.some.inj (presentAfter.symm.trans there)
      exact handles

theorem flowAdd_survives_iff : olt.Survives link (.flowAdd flow) ↔ olt.Answerable link (.flowAdd flow) := by
  simp only [Answerable]
  cases onuFlow : flow.isOnuFlow with
  | false =>
    refine iff_of_true ⟨?_, ?_⟩ (by simp)
    · simp [serve, flowAdd_of_not_isOnuFlow onuFlow, Returns]
    · rintro other next position onu ⟨⟩ onuFlow'
      simp [onuFlow] at onuFlow'
  | true =>
    simp only [forall_const]
    cases known : olt.getPonById flow.ponId with
    | none =>
      refine iff_of_false (fun survives => ?_) (by simp)
      simpa [serve, flowAdd_of_unknownPon onuFlow known, Returns, FlowFault.request]
        using survives.returns
    | some pon =>
      simp only [Option.isSome_some, true_and]
      cases active : olt.activeOnu flow with
      | none =>
        obtain ⟨failure, failed⟩ := flowAdd_of_inactive onuFlow (by simp [known]) active
        refine iff_of_true ⟨by simp [serve, failed, Returns], ?_⟩ (by simp)
        rintro other next position onu ⟨⟩ - - located
        rw [active] at located
        cases located
      | some position =>
        obtain ⟨onu, present⟩ := onuAt_of_storedOnu (Option.filter_eq_some_iff.mp active).1
        rw [flowAdd_survives_iff_of_active onuFlow active present]
        constructor
        · rintro answerable _ _ ⟨⟩ there
          obtain rfl := Option.some.inj (present.symm.trans there)
          exact answerable
        · exact fun answerable => answerable position onu rfl present

/-- One PON with one ONU, as `CreateOLT` makes them. -/
def createdOlt : Olt := create false [[⟨[0, 0, 0, 1], [⟨0, 257, 0, .down, [], 0⟩], [], 10⟩]]

end Olt

end Bbsim.Devices
