import Bbsim.Omci.GetEncoding
import Bbsim.Devices.OmciHeaders
import Bbsim.Devices.OmciTransport

/-! Requests that bring the OMCI handler down: attributes and layers that are not there, slices and
indices past the end, and alarms that the ONU's channel does not take. Publishing the request
decodes its bytes a second time, as if they were hexadecimal. -/

namespace Bbsim.Devices

open Foundation Omci

/-- A Get response through omci-lib-go; no builder is left without an entity. -/
def getOutcome (message : OmciMessage) (request : GetRequest) : GetOutcome :=
  match getTables.find? fun entry => request.isOf entry.1 with
  | none => .refused
  | some (_, attributes) =>
    match encodeGetResponse attributes message.deviceIdentifier request.attributeMask with
    | .encoded _ _ => .encoded
    | .refused => .refused
    | .panics => .nilResponse

/-- The padding of a baseline message must not be negative. -/
def serializesBaseline (reportedMe : ManagedEntity) : Bool :=
  4 + 4 + (reportedMe.serializeTo (maxBaselineLength - 8 - 8)).length ≤ maxBaselineLength - 4

/-- The library as the simulator links it. -/
@[simps] def omciLib (checksum : List UInt8 → UInt32) : OmciLibrary where
  checksum := checksum
  getOutcome := getOutcome
  serializes := serializesBaseline

private theorem getOutcome_ne_nilResponse (message : OmciMessage) (request : GetRequest) :
    getOutcome message request ≠ .nilResponse := by
  unfold getOutcome
  split
  · exact nofun
  · next classID attributes chosen =>
    have typed : wellTyped attributes = true :=
      getTables_wellTyped (classID, attributes) (List.mem_of_find?_eq_some chosen)
    split
    · exact nofun
    · exact nofun
    · next panics => exact absurd panics (encodeGetResponse_ne_panics typed _ _)

private theorem returns_createGetResponse {onuSn : SerialRef} {mds : UInt8} {image : ReportedImage}
    {onuDown : Bool} {checksum : List UInt8 → UInt32} {message : OmciMessage} {request : GetRequest} :
    Returns (createGetResponse onuSn mds image onuDown (omciLib checksum) message request) := by
  unfold createGetResponse
  split
  · trivial
  · split
    · trivial
    · trivial
    · next nilResponse => exact getOutcome_ne_nilResponse message request nilResponse

/-- The command is past the count, or there is something stored for it. -/
def UploadReturns (mibDb : MibDb) (deviceIdentifier : DeviceIdent) (number : Nat) : Prop :=
  match deviceIdentifier with
  | .extended => mibDb.numberOfExtendedCommands < number ∨
      ∃ packet, mibDb.extendedResponses[number]? = some packet ∧ 2 ≤ packet.length
  | .baseline => mibDb.numberOfBaselineCommands < number ∨ number < mibDb.baselineItems.length

section

variable {ethUniPortCount potsUniPortCount : Nat} {technology : PonTechnology} {config : MibConfig}

private theorem serializesBaseline_of_mem {reportedMe : ManagedEntity}
    (member : .entity reportedMe ∈ baselineItems ethUniPortCount potsUniPortCount technology config) :
    serializesBaseline reportedMe = true := by
  have listed : reportedMe ∈ mibEntities ethUniPortCount potsUniPortCount technology config :=
    List.mem_filterMap.mpr ⟨_, member, rfl⟩
  have small : 8 + reportedMe.attributesLength ≤ 34 :=
    mibEntities_small ethUniPortCount potsUniPortCount technology config reportedMe listed
  have whole : reportedMe.serializeTo (maxBaselineLength - 8 - 8) = reportedMe.bytes :=
    reportedMe.serializeTo_fits _ (by simp only [maxBaselineLength]; omega)
  rw [serializesBaseline, whole, reportedMe.bytes_length, decide_eq_true_eq]
  simp only [maxBaselineLength]
  omega

private theorem two_le_of_packet_mem {classId : Nat} {bytes : List UInt8}
    (member : .packet classId bytes ∈
      baselineItems ethUniPortCount potsUniPortCount technology config) : 2 ≤ bytes.length := by
  have prebuilt : .packet classId bytes ∈ packetItems config := by
    rw [← baselineItems_packets ethUniPortCount potsUniPortCount technology config]
    exact List.mem_filter.mpr ⟨member, rfl⟩
  obtain ⟨reportedMeHdr, attributes, rfl⟩ := packetItems_custom prebuilt
  simp [customPacket]

theorem returns_setTxId_iff {packet : List UInt8} {txId : UInt16} :
    Returns (setTxIdInEncodedPacket packet txId) ↔ 2 ≤ packet.length := by
  unfold setTxIdInEncodedPacket
  split
  · next short => exact iff_of_false id (by omega)
  · next long => exact iff_of_true trivial (by omega)

theorem returns_createMibUploadNextResponse_iff {checksum : List UInt8 → UInt32} {mibDb : MibDb}
    {message : OmciMessage} {request : CommandRequest}
    (created : generateMibDatabase ethUniPortCount potsUniPortCount technology config = some mibDb) :
    Returns (createMibUploadNextResponse (omciLib checksum) message request mibDb) ↔
      UploadReturns mibDb message.deviceIdentifier request.commandSequenceNumber.toNat := by
  unfold createMibUploadNextResponse UploadReturns
  cases message.deviceIdentifier with
  | extended =>
    dsimp only
    split
    · next beyond => exact iff_of_true trivial (.inl beyond)
    · next counted =>
      split
      · next absent => simp [absent, Nat.le_of_not_lt counted]
      · next packet found =>
        simp [found, returns_setTxId_iff, Nat.le_of_not_lt counted]
  | baseline =>
    obtain ⟨responses, -, rfl⟩ := Option.map_eq_some_iff.mp created
    dsimp only
    split
    · next beyond => exact iff_of_true trivial (.inl beyond)
    · next counted =>
      split
      · next absent =>
        simp [Nat.le_of_not_lt counted, List.getElem?_eq_none_iff.mp absent]
      · next classId bytes found =>
        have long : 2 ≤ bytes.length := two_le_of_packet_mem (List.mem_of_getElem? found)
        exact iff_of_true (yields_map.mpr (returns_setTxId_iff.mpr long))
          (.inr (List.getElem?_eq_some_iff.mp found).1)
      · next reportedMe found =>
        have fits : serializesBaseline reportedMe = true :=
          serializesBaseline_of_mem (List.mem_of_getElem? found)
        rw [omciLib_serializes, if_pos fits]
        exact iff_of_true trivial (.inr (List.getElem?_eq_some_iff.mp found).1)

end

namespace OmciOnu

/-- The UNI accepts to be locked with 1, and to be unlocked with anything else. -/
def uniMoves (onu : Onu) (index : Nat) (adminState : UInt8) : Bool :=
  (onu.uniPorts[index]?.bind (if adminState = 1 then UniPort.disable else UniPort.enable)).isSome

def potsMoves (onu : Onu) (index : Nat) (adminState : UInt8) : Bool :=
  (onu.potsPorts[index]?.bind (if adminState = 1 then PotsPort.disable else PotsPort.enable)).isSome

/-- The administrative state is there, and the channel has room for the alarm of a port that
changes. -/
def PortSettable (onu : Onu) (moves : UInt8 → Bool) (administrativeState : Option UInt8) : Prop :=
  ∃ adminState, administrativeState = some adminState ∧
    (moves adminState = true → onu.writable = true ∧ onu.pending.length < channelCapacity)

/-- The attributes that the class reads are there. -/
def SetReturns (onu : Onu) (request : SetRequest) : Prop :=
  if request.isOf PhysicalPathTerminationPointEthernetUni.classID then
    ∀ index ∈ onu.findUniByEntityId request.entityInstance,
      PortSettable onu (uniMoves onu index) request.administrativeState
  else if request.isOf PhysicalPathTerminationPointPotsUni.classID then
    ∀ index ∈ onu.findPotsByEntityId request.entityInstance,
      PortSettable onu (potsMoves onu index) request.administrativeState
  else if request.isOf OnuG.classID then request.administrativeState.isSome = true
  else if request.isOf TCont.classID then request.allocId.isSome = true
  else True

section

theorem returns_changePort_iff {Port : Type} {onu : Onu} {changed : Option Port}
    {alarm : Port → Message} {store : Onu → Port → Onu}
    (stores : ∀ next port, (store next port).pending = next.pending) :
    Yields (onu.changePort changed alarm store) (fun _ => False) (fun next =>
        ¬ (onu.pending.length < next.pending.length ∧ channelCapacity ≤ onu.pending.length)) ↔
      (changed.isSome = true → onu.writable = true ∧ onu.pending.length < channelCapacity) := by
  rw [Onu.yields_changePort]
  cases changed with
  | none => simp
  | some port =>
    cases isOpen : onu.writable with
    | false => simp
    | true => simp [stores, Onu.pending_enqueue isOpen]

theorem returns_setPort_iff {attached : AttachedOnu} {port : Option Nat}
    {administrativeState : Option UInt8} {lock unlock : Onu → Nat → Except Fault Onu}
    (moves : Nat → UInt8 → Bool)
    (changes : ∀ index adminState,
      Yields (if adminState = 1 then lock attached.onu index else unlock attached.onu index)
          (fun _ => False) (fun next => ¬ (attached.onu.pending.length < next.pending.length ∧
            channelCapacity ≤ attached.onu.pending.length)) ↔
        (moves index adminState = true →
          attached.onu.writable = true ∧ attached.onu.pending.length < channelCapacity)) :
    Returns (setPort attached port administrativeState lock unlock) ↔
      ∀ index ∈ port, PortSettable attached.onu (moves index) administrativeState := by
  cases port with
  | none => simp [setPort, AttachedOnu.setAdminState]
  | some index =>
    cases administrativeState with
    | none => simp [setPort, PortSettable]
    | some adminState =>
      have changed := changes index adminState
      have same (next : Onu) : next.incrementMibDataSync.pending = next.pending := rfl
      have checked {Value : Type} {full : Prop} [Decidable full] {value : Value} :
          Returns (if full then .error OmciFault.sendOnFullChannel else pure value) ↔ ¬ full := by
        split <;> simp_all
      simpa [setPort, PortSettable, AttachedOnu.setAdminState, checked, same] using changed

end

theorem returns_handleSet_iff {onu : OmciOnu} {request : SetRequest} :
    Returns (onu.handleSet request) ↔ SetReturns onu.attached.onu request := by
  unfold handleSet SetReturns
  dsimp only
  split
  · rw [Returns, yields_map]
    refine returns_setPort_iff _ fun index adminState => ?_
    unfold uniMoves
    split <;> exact returns_changePort_iff fun _ _ => rfl
  split
  · rw [Returns, yields_map]
    refine returns_setPort_iff _ fun index adminState => ?_
    unfold potsMoves
    split <;> exact returns_changePort_iff fun _ _ => rfl
  split
  · cases request.administrativeState <;> simp
  split
  · cases request.allocId <;> simp
  · exact Iff.rfl

theorem returns_downloadSection_iff {images : SoftwareImages} {request : DownloadSectionRequest} :
    Returns (images.downloadSection request) ↔
      (images.imageSoftwareReceivedSections = 0 → 14 ≤ request.sectionData.length) := by
  unfold SoftwareImages.downloadSection SoftwareImages.nameVersion
  split
  · next first =>
    split
    · next short => simpa [first] using short
    · next long => simpa [first] using long
  · next later => simp [later]

/-- The download is given up, or it is short of sections, or the image is no larger than the bytes
received and the spare ones behind them. -/
def EndReturns (images : SoftwareImages) (spare : List UInt8) (request : EndSoftwareDownloadRequest) :
    Prop :=
  0 < images.imageSoftwareReceivedSections ∧ request.isAbort = true ∨
    images.imageSoftwareExpectedSections ≠ images.imageSoftwareReceivedSections ∨
    request.imageSize.toNat ≤ images.imageSectionData.length + spare.length

theorem returns_endSoftwareDownload_iff {checksum : List UInt8 → UInt32} {images : SoftwareImages}
    {spare : List UInt8} {request : EndSoftwareDownloadRequest} :
    Returns (images.handleEndSoftwareDownloadRequest checksum spare request) ↔
      EndReturns images spare request := by
  unfold SoftwareImages.handleEndSoftwareDownloadRequest EndReturns
  split
  · next aborted => exact iff_of_true trivial (.inl aborted)
  · next ongoing =>
    split
    · next short => exact iff_of_true trivial (.inr (.inl short))
    · next complete =>
      rw [or_iff_right ongoing, or_iff_right complete, Returns, yields_map]
      unfold SoftwareImages.imageBytes
      dsimp only
      rw [← List.length_append]
      split
      · next larger => exact iff_of_false id (Nat.not_le.mpr larger)
      · next fits => exact iff_of_true trivial (Nat.le_of_not_lt fits)

/-- What a request must meet for the handler to return from it. -/
def RequestReturns (onu : OmciOnu) (spare : List UInt8) (message : OmciMessage) : Prop :=
  match message.request with
  -- the layer of these two is used without a check
  | .set none | .startSoftwareDownload none => False
  | .set (some request) => SetReturns onu.attached.onu request
  | .mibUploadNext (some request) =>
    UploadReturns onu.mibDb message.deviceIdentifier request.commandSequenceNumber.toNat
  | .downloadSection (some request) =>
    onu.images.imageSoftwareReceivedSections = 0 → 14 ≤ request.sectionData.length
  | .endSoftwareDownload (some request) => EndReturns onu.images spare request
  | _ => True

variable {onu : OmciOnu} {checksum : List UInt8 → UInt32} {context : Nat} {spare : List UInt8}
  {message : OmciMessage} {ethUniPortCount potsUniPortCount : Nat} {technology : PonTechnology}
  {config : MibConfig}

theorem returns_processOmci_iff
    (created : generateMibDatabase ethUniPortCount potsUniPortCount technology config =
      some onu.mibDb) :
    Returns (onu.processOmci (omciLib checksum) context spare message) ↔
      onu.RequestReturns spare message := by
  unfold processOmci RequestReturns
  cases message.request with
  | mibReset | mibUpload | getAllAlarms | unsupported => exact Iff.rfl
  | create layer | delete layer | reboot layer | test layer | synchronizeTime layer
  | downloadSectionWithResponse layer | getAllAlarmsNext layer => cases layer <;> exact Iff.rfl
  | mibUploadNext layer =>
    cases layer with
    | none => exact Iff.rfl
    | some request => exact yields_map.trans (returns_createMibUploadNextResponse_iff created)
  | get layer =>
    cases layer with
    | none => exact Iff.rfl
    | some request => exact iff_of_true (yields_map.mpr returns_createGetResponse) trivial
  | set layer =>
    cases layer with
    | none => exact Iff.rfl
    | some request => exact yields_map.trans returns_handleSet_iff
  | startSoftwareDownload layer | activateSoftware layer | commitSoftware layer =>
    cases layer with
    | none => exact Iff.rfl
    | some request =>
      refine iff_of_true (yields_map.mpr ?_) trivial
      rw [imageRequest_eq rfl]
      trivial
  | downloadSection layer =>
    cases layer with
    | none => exact Iff.rfl
    | some request =>
      refine yields_map.trans ?_
      rw [handleSection_eq, yields_map, yields_mapError]
      exact returns_downloadSection_iff
  | endSoftwareDownload layer =>
    cases layer with
    | none => exact Iff.rfl
    | some request =>
      refine yields_map.trans ?_
      rw [handleEnd_eq, yields_map, yields_mapError]
      exact returns_endSoftwareDownload_iff

/-- The lengths that `ParseOpenOltOmciPacket` accepts. -/
def acceptsLength (deviceIdentifier : DeviceIdent) (length : Nat) : Bool :=
  match deviceIdentifier with
  | .baseline => 44 ≤ length
  | .extended => 10 ≤ length ∧ length ≤ 1980

/-- A message with the bytes it was decoded from. -/
structure OmciPacket where
  message : OmciMessage
  data : List UInt8
  accepted : acceptsLength message.deviceIdentifier data.length = true

inductive PacketFault where
  | handler (fault : OmciFault)
  /-- `HexDecode` reads past the end. -/
  | indexOutOfRange
deriving DecidableEq

/-- Whether publishing a request returns does not depend on the sequence number of the upload. -/
def publishOmciEvent (publishEvents : Bool) (data : List UInt8) : Except PacketFault Unit :=
  ((OmciEvents.publishOmciEvent publishEvents 0 data).map fun _ => ()).mapError
    fun .indexOutOfRange => .indexOutOfRange

/-- `handleOmciRequest` to its end. A request that is skipped is not published. -/
def handlePacket (onu : OmciOnu) (library : OmciLibrary) (publishEvents : Bool) (context : Nat)
    (spare : List UInt8) (packet : OmciPacket) : Except PacketFault (OmciOnu × OmciOutcome) := do
  let (next, outcome) ←
    (onu.handleOmciRequest library context spare packet.message).mapError .handler
  match outcome with
  | .skipped => return (next, .skipped)
  | .handled response =>
    publishOmciEvent publishEvents packet.data
    return (next, .handled response)

theorem returns_publishOmciEvent_iff {publishEvents : Bool} {data : List UInt8} :
    Returns (publishOmciEvent publishEvents data) ↔ (publishEvents = true → Even data.length) := by
  rw [publishOmciEvent, Returns, yields_mapError, yields_map]
  exact OmciEvents.returns_publishOmciEvent_iff

/-- The counter of messages is not looked at. -/
theorem requestReturns_counted :
    onu.counted.RequestReturns spare message ↔ onu.RequestReturns spare message := Iff.rfl

theorem returns_handlePacket_iff {publishEvents : Bool} {packet : OmciPacket}
    (created : generateMibDatabase ethUniPortCount potsUniPortCount technology config =
      some onu.mibDb) :
    Returns (onu.handlePacket (omciLib checksum) publishEvents context spare packet) ↔
      onu.skips = true ∨
        (onu.RequestReturns spare packet.message ∧
          (publishEvents = true → Even packet.data.length)) := by
  rw [handlePacket, Returns, yields_bind, yields_mapError, handleOmciRequest]
  split
  · next skipped => exact iff_of_true trivial (.inl skipped)
  · next answered =>
    have returns : Returns (onu.counted.processOmci (omciLib checksum) context spare packet.message) ↔
        onu.RequestReturns spare packet.message := by
      rw [← requestReturns_counted]
      exact returns_processOmci_iff created
    rw [or_iff_right answered, yields_map, ← returns_publishOmciEvent_iff, ← returns]
    cases onu.counted.processOmci (omciLib checksum) context spare packet.message with
    | error fault => exact iff_of_false id fun returned => returned.1
    | ok after => exact yields_bind.trans (and_iff_right trivial).symm

/-- In every run of an ONU as `CreateONU` makes it, the handler returns from a packet exactly if it
skips it, or if the request is one of those it returns from and, where events are published, the
packet has an even length. -/
theorem handleOmciRequest_returns_iff {mibDb : MibDb} {attached : AttachedOnu}
    {history : List (OmciOnu × OmciStep)} {publishEvents : Bool} {packet : OmciPacket}
    (created : generateMibDatabase ethUniPortCount potsUniPortCount technology config = some mibDb)
    (run : Run (step (omciLib checksum)) (create attached mibDb) history onu) :
    (∃ after, onu.handlePacket (omciLib checksum) publishEvents context spare packet = .ok after) ↔
      onu.skips = true ∨
        (onu.RequestReturns spare packet.message ∧
          (publishEvents = true → Even packet.data.length)) := by
  have kept : onu.mibDb = mibDb := run_mibDb run
  rw [← returns_iff]
  exact returns_handlePacket_iff (created.trans (congrArg some kept.symm))

/-- A baseline request of the usual length. -/
def baselinePacket (request : RequestLayer) : OmciPacket where
  message := firstMessage request
  data := List.replicate 44 0
  accepted := rfl

/-- The first ONU of a PON, with one UNI. -/
def oneUni : AttachedOnu :=
  ⟨Onu.create 1 0 0 [0, 0, 0, 1] [⟨0, 257, 0, .down, [], 0⟩] [] 10, .empty⟩

/-- A Set of the administrative state of that UNI. -/
def setUniState (state : UInt8) : RequestLayer :=
  .set (some ⟨⟨11, 257⟩, some state, none⟩)

private theorem generated_oneUni :
    ∃ mibDb, generateMibDatabase 1 0 .xgspon ⟨false, false⟩ = some mibDb :=
  ((uploadExact_iff_last 1 0 .xgspon ⟨false, false⟩ (by decide +kernel)).mpr (by decide +kernel)).imp
    fun _ exact => exact.1

/-- The UNI is up when it is locked, so that its alarm goes to the channel. -/
theorem handleOmciRequest_returns_lock : ∃ mibDb history onu,
    generateMibDatabase 1 0 .xgspon ⟨false, false⟩ = some mibDb ∧
      Run (step (omciLib fun _ => 0)) (create oneUni mibDb) history onu ∧
      onu.attached.onu.uniPorts.map UniPort.operState = [.up] ∧
      ∃ after, onu.handlePacket (omciLib fun _ => 0) true 0 [] (baselinePacket (setUniState 1)) =
        .ok after := by
  obtain ⟨mibDb, created⟩ := generated_oneUni
  obtain ⟨history, onu, run, up, isOpen, room⟩ := run_of_replay (step (omciLib fun _ => 0))
    (create oneUni mibDb)
    [.event 0 .init, .event 0 .discover, .event 0 .enable, handles (setUniState 0)]
    (fun onu => onu.attached.onu.uniPorts.map UniPort.operState = [.up] ∧
      onu.attached.onu.writable = true ∧ onu.attached.onu.pending.length < channelCapacity) rfl
  refine ⟨mibDb, history, onu, created, run, up,
    (handleOmciRequest_returns_iff created run).mpr (.inr ⟨?_, fun _ => by decide⟩)⟩
  change ∀ index ∈ onu.attached.onu.findUniByEntityId 257, _
  rintro index -
  exact ⟨1, rfl, fun _ => ⟨isOpen, room⟩⟩

/-- A Set on ONU-G that leaves the administrative state out. -/
def setOnuGWithoutState : RequestLayer := .set (some ⟨⟨256, 0⟩, none, none⟩)

theorem set_without_administrativeState_panics : ∃ mibDb,
    generateMibDatabase 0 0 .xgspon ⟨false, false⟩ = some mibDb ∧
      (create (enabledOn .empty).attached mibDb).handlePacket (omciLib fun _ => 0) true 0 []
        (baselinePacket setOnuGWithoutState) = .error (.handler .missingAttribute) := by
  obtain ⟨mibDb, created⟩ := generated_withoutUnis
  exact ⟨mibDb, created, rfl⟩

end OmciOnu

end Bbsim.Devices
