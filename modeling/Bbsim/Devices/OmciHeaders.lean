import Bbsim.Devices.OmciRun
import Bbsim.Omci.StoredPackets

/-! Headers of OMCI responses. A response has the header its request asks for if the request is a
baseline one, or if its builder copies the device identifier. -/

namespace Bbsim.Devices

open Foundation Omci

/-- The response has the transaction id, the type, the device identifier and the entity that the
request asks for. -/
def AnswersRequest (message : OmciMessage) (packet : ResponsePacket) : Prop :=
  ∃ msgType entity, message.request.msgType = some msgType ∧ message.request.target = some entity ∧
    packet.header = omciHeader message.transactionID msgType message.deviceIdentifier entity

/-- The requests whose builders copy the device identifier. -/
def copiesIdentifier : RequestLayer → Bool
  | .mibUpload | .get _ | .startSoftwareDownload _ | .downloadSectionWithResponse _
  | .endSoftwareDownload _ | .activateSoftware _ | .commitSoftware _ | .getAllAlarms
  | .getAllAlarmsNext _ => true
  | _ => false

/-- The requests whose builders leave the device identifier to the serializer in either format. -/
def omitsIdentifier : RequestLayer → Bool
  | .mibReset | .set _ | .create _ | .delete _ | .reboot _ | .test _ | .synchronizeTime _ => true
  | _ => false

/-- A command of an extended MIB upload whose packet was made for two entities or more. -/
def UploadsWhole (ethUniPortCount potsUniPortCount : Nat) (config : MibConfig) (mibDb : MibDb)
    (request : RequestLayer) : Prop :=
  ∃ command, request = .mibUploadNext (some command) ∧
    (LastShared ethUniPortCount potsUniPortCount config ∨
      command.commandSequenceNumber.toNat + 1 ≠ mibDb.numberOfExtendedCommands)

/-- A stored packet under a new transaction id. -/
def stamped (packet : List UInt8) (txId : UInt16) : ResponsePacket :=
  .encoded (putUint16 txId.toNat ++ packet.drop 2)

private theorem header_stamped (packet : List UInt8) (txId : UInt16) :
    (stamped packet txId).header = putUint16 txId.toNat ++ storedHeader packet := rfl

private theorem omciHeader_upload (txId : UInt16) (deviceIdentifier : DeviceIdent) :
    omciHeader txId .mibUploadNext deviceIdentifier .onuData =
      putUint16 txId.toNat ++ uploadHeader deviceIdentifier.code := by
  cases deviceIdentifier <;> rfl

variable {entity : MeBasePacket} {msgType : MsgType} {txId : UInt16}

private theorem omciHeader_identifier_inj {deviceIdentifier other : DeviceIdent} :
    omciHeader txId msgType deviceIdentifier entity = omciHeader txId msgType other entity ↔
      deviceIdentifier = other := by
  refine ⟨fun same => ?_, fun same => same ▸ rfl⟩
  have codes : deviceIdentifier.code = other.code := by
    simpa [omciHeader] using same
  cases deviceIdentifier <;> cases other <;> first | rfl | cases codes

/-- The ways a response is made for a request. -/
inductive Answered (message : OmciMessage) (mibDb : MibDb) : ResponsePacket → Prop
  | serialized {msgType : MsgType} {entity : MeBasePacket} {contents : ResponseContents}
      (typed : message.request.msgType = some msgType)
      (about : message.request.target = some entity)
      (plain : message.deviceIdentifier = .baseline ∨ omitsIdentifier message.request = true) :
      Answered message mibDb (serialize msgType entity contents message.transactionID)
  | copied {msgType : MsgType} {entity : MeBasePacket} {contents : ResponseContents}
      (typed : message.request.msgType = some msgType)
      (about : message.request.target = some entity)
      (copies : copiesIdentifier message.request = true) :
      Answered message mibDb (serializeLayers message msgType entity contents)
  | baselinePacket {command : CommandRequest} {classId : Nat} {packet : List UInt8}
      (asked : message.request = .mibUploadNext (some command))
      (plain : message.deviceIdentifier = .baseline)
      (found : .packet classId packet ∈ mibDb.baselineItems) :
      Answered message mibDb (stamped packet message.transactionID)
  | extendedPacket {command : CommandRequest} {packet : List UInt8}
      (asked : message.request = .mibUploadNext (some command))
      (extended : message.deviceIdentifier = .extended)
      (found : mibDb.extendedResponses[command.commandSequenceNumber.toNat]? = some packet)
      (long : 2 ≤ packet.length) :
      Answered message mibDb (stamped packet message.transactionID)

variable {packet : ResponsePacket}

section

variable {message : OmciMessage} {library : OmciLibrary}

private theorem ensures_setTxId {packet : List UInt8} :
    Ensures (setTxIdInEncodedPacket packet txId) fun response =>
      2 ≤ packet.length ∧ response = stamped packet txId := by
  unfold setTxIdInEncodedPacket
  split
  · trivial
  · next long => exact ⟨Nat.le_of_not_lt long, rfl⟩

variable {mibDb : MibDb} {command : CommandRequest}

theorem ensures_mibUploadNext_answered (asked : message.request = .mibUploadNext (some command)) :
    Ensures (createMibUploadNextResponse library message command mibDb) fun response =>
      ∀ packet ∈ response, Answered message mibDb packet := by
  unfold createMibUploadNextResponse
  cases format : message.deviceIdentifier with
  | extended =>
    dsimp only
    split
    · simp [Ensures]
    split
    · trivial
    · next packet found =>
      refine yields_map.mpr (ensures_setTxId.mono ?_)
      rintro response ⟨long, rfl⟩ _ ⟨⟩
      exact .extendedPacket asked format found long
  | baseline =>
    dsimp only
    split
    · simp [Ensures]
    split
    · trivial
    · next classId bytes found =>
      refine yields_map.mpr (ensures_setTxId.mono ?_)
      rintro response ⟨-, rfl⟩ _ ⟨⟩
      exact .baselinePacket asked format (List.mem_of_getElem? found)
    · split
      · rintro _ ⟨⟩
        exact .serialized (asked ▸ rfl) (asked ▸ rfl) (.inl format)
      · trivial

/-- A Get is answered for the class that was asked for. -/
theorem ensures_get_answered {onuSn : SerialRef} {mds : UInt8} {image : ReportedImage}
    {onuDown : Bool} {request : GetRequest} (asked : message.request = .get (some request)) :
    Ensures (createGetResponse onuSn mds image onuDown library message request) fun response =>
      ∀ packet ∈ response, Answered message mibDb packet := by
  unfold createGetResponse
  split
  · simp [Ensures]
  · next classID builder chosen =>
    have ofClass : request.isOf classID = true := by simpa using List.find?_some chosen
    have same : request.entityClass.toNat = builder.entityClass := by
      rw [getBuilders_entityClass _ _ _ _ _ (List.mem_of_find?_eq_some chosen)]
      exact of_decide_eq_true ofClass
    split
    · rintro _ ⟨⟩
      rw [← same, UInt16.ofNat_toNat]
      exact .copied (asked ▸ rfl) (asked ▸ rfl) (asked ▸ rfl)
    · simp [Ensures]
    · trivial

theorem answersRequest_iff (typed : message.request.msgType = some msgType)
    (about : message.request.target = some entity) :
    AnswersRequest message packet ↔
      packet.header = omciHeader message.transactionID msgType message.deviceIdentifier entity := by
  constructor
  · rintro ⟨_, _, sameType, sameEntity, header⟩
    obtain rfl := Option.some.inj (typed.symm.trans sameType)
    obtain rfl := Option.some.inj (about.symm.trans sameEntity)
    exact header
  · exact fun header => ⟨msgType, entity, typed, about, header⟩

private theorem answersRequest_stamped {packet : List UInt8}
    (asked : message.request = .mibUploadNext (some command)) :
    AnswersRequest message (stamped packet message.transactionID) ↔
      storedHeader packet = uploadHeader message.deviceIdentifier.code := by
  have typed : message.request.msgType = some .mibUploadNext := asked ▸ rfl
  have about : message.request.target = some .onuData := asked ▸ rfl
  rw [answersRequest_iff typed about, header_stamped, omciHeader_upload,
    List.append_cancel_left_eq]

/-- A request whose builder leaves out the identifier neither copies it nor uploads. -/
theorem not_copies_of_omits {request : RequestLayer} (omits : omitsIdentifier request = true) :
    copiesIdentifier request = false ∧ ∀ command, request ≠ .mibUploadNext (some command) := by
  cases request <;> first | exact ⟨rfl, fun _ => RequestLayer.noConfusion⟩ | cases omits

theorem Answered.header_iff {ethUniPortCount potsUniPortCount : Nat} {technology : PonTechnology}
    {config : MibConfig} (answered : Answered message mibDb packet)
    (created : generateMibDatabase ethUniPortCount potsUniPortCount technology config = some mibDb) :
    AnswersRequest message packet ↔
      message.deviceIdentifier = .baseline ∨ copiesIdentifier message.request = true ∨
        UploadsWhole ethUniPortCount potsUniPortCount config mibDb message.request := by
  cases answered with
  | serialized typed about plain =>
    rw [answersRequest_iff typed about]
    change omciHeader _ _ .baseline _ = _ ↔ _
    rw [omciHeader_identifier_inj, eq_comm]
    refine ⟨.inl, fun right => ?_⟩
    rcases plain with baseline | omits
    · exact baseline
    · obtain ⟨unlike, unstored⟩ := not_copies_of_omits omits
      rcases right with baseline | copies | ⟨command, asked, -⟩
      · exact baseline
      · exact absurd (unlike.symm.trans copies) Bool.false_ne_true
      · exact absurd asked (unstored command)
  | copied typed about copies =>
    exact iff_of_true ((answersRequest_iff typed about).mpr rfl) (.inr (.inl copies))
  | baselinePacket asked baseline found =>
    refine iff_of_true ?_ (.inl baseline)
    obtain ⟨responses, -, rfl⟩ := Option.map_eq_some_iff.mp created
    rw [answersRequest_stamped asked, baseline]
    exact storedHeader_baseline found
  | extendedPacket asked extended found long =>
    rw [answersRequest_stamped asked, extended]
    refine (storedHeader_extended_iff created found long).trans ?_
    simp [asked, copiesIdentifier, UploadsWhole]

end

namespace OmciOnu

variable {onu next : OmciOnu} {library : OmciLibrary} {context : Nat} {spare : List UInt8}
  {message : OmciMessage}

/-- Requests do not touch the MIB database. -/
theorem Handled.mibDb {response : Option ResponsePacket}
    (handled : Handled library spare message onu next response) : next.mibDb = onu.mibDb :=
  (congrArg Settings.mibDb handled.settings).trans (Settings.after_mibDb _ _)

theorem Handled.answered (handled : Handled library spare message onu next (some packet)) :
    Answered message onu.mibDb packet := by
  generalize sent : some packet = response at handled
  cases handled with
  | mibReset asked | set asked _ | create asked | delete asked | reboot asked | test asked
  | synchronizeTime asked =>
    cases sent
    exact .serialized (asked ▸ rfl) (asked ▸ rfl) (.inr (asked ▸ rfl))
  | mibUpload asked | startSoftwareDownload asked | downloadSectionWithResponse asked
  | endSoftwareDownload asked _ | activateSoftware asked | commitSoftware asked
  | getAllAlarms asked =>
    cases sent
    exact .copied (asked ▸ rfl) (asked ▸ rfl) (asked ▸ rfl)
  | mibUploadNext asked made => exact (ensures_mibUploadNext_answered asked).value made packet sent.symm
  | get asked made => exact (ensures_get_answered asked).value made packet sent.symm
  | getAllAlarmsNext asked =>
    obtain ⟨-, found⟩ := Option.ite_none_left_eq_some.mp sent.symm
    obtain ⟨alarm, -, rfl⟩ := Option.map_eq_some_iff.mp found
    exact .copied (asked ▸ rfl) (asked ▸ rfl) (asked ▸ rfl)
  | downloadSection | dropped => cases sent

private theorem step_mibDb {label : OmciStep} (taken : step library onu label = some next) :
    next.mibDb = onu.mibDb := by
  cases label with
  | request context spare message =>
    obtain ⟨⟨after, outcome⟩, handled, same⟩ := Option.map_eq_some_iff.mp taken
    obtain rfl : after = next := same
    rcases handleOmciRequest_cases (eq_ok_of_toOption handled) with ⟨-, rfl, -⟩ |
      ⟨-, response, -, processed⟩
    · rfl
    · exact ((ensures_handled message).value processed).mibDb
  | event context tx =>
    obtain ⟨-, tried⟩ := Option.ite_none_left_eq_some.mp taken
    obtain ⟨attached, -, rfl⟩ := Option.map_eq_some_iff.mp tried
    rfl
  | other attached alarms =>
    obtain ⟨-, same⟩ := Option.ite_none_right_eq_some.mp taken
    obtain rfl := Option.some.inj same
    rfl

/-- The MIB database is the one the ONU was created with. -/
theorem run_mibDb {start : OmciOnu} {history : List (OmciOnu × OmciStep)}
    (run : Run (step library) start history onu) : onu.mibDb = start.mibDb := by
  induction run with
  | start => rfl
  | snoc before taken ih => exact (step_mibDb taken).trans ih

/-- In every run of an ONU as `CreateONU` makes it, a response has the header that its request asks
for exactly if the request is a baseline one, if the builder copies its identifier, or if it asks for
a part of a MIB upload whose packet is made for two entities or more. -/
theorem omci_response_header_iff {ethUniPortCount potsUniPortCount : Nat} {technology : PonTechnology}
    {config : MibConfig} {mibDb : MibDb} {attached : AttachedOnu}
    {history : List (OmciOnu × OmciStep)} {packet : ResponsePacket}
    (created : generateMibDatabase ethUniPortCount potsUniPortCount technology config = some mibDb)
    (run : Run (step library) (create attached mibDb) history onu)
    (returned : onu.handleOmciRequest library context spare message =
      .ok (next, .handled (some packet))) :
    AnswersRequest message packet ↔
      message.deviceIdentifier = .baseline ∨ copiesIdentifier message.request = true ∨
        UploadsWhole ethUniPortCount potsUniPortCount config mibDb message.request := by
  have kept : onu.mibDb = mibDb := run_mibDb run
  rcases handleOmciRequest_cases returned with ⟨-, -, skipped⟩ | ⟨-, response, answered, processed⟩
  · cases skipped
  · cases answered
    have sent : Answered message onu.mibDb packet := ((ensures_handled message).value processed).answered
    rw [kept] at sent
    exact sent.header_iff created

/-- A Set on a class without a handler of its own. -/
def setMacBridgePort : RequestLayer := .set (some ⟨⟨47, 1⟩, none, none⟩)

/-- The same request in the extended format. -/
def extendedSet : OmciMessage where
  transactionID := 1
  deviceIdentifier := .extended
  request := setMacBridgePort
  identified := by decide
  testable := by simp [setMacBridgePort]

theorem generated_withoutUnis :
    ∃ mibDb, generateMibDatabase 0 0 .xgspon ⟨false, false⟩ = some mibDb := by
  have fits := (uploadExact_iff_last 0 0 .xgspon ⟨false, false⟩ (by decide +kernel)).mpr
    (by decide +kernel)
  exact fits.imp fun mibDb exact => exact.1

theorem omci_response_header_set : ∃ mibDb next packet,
    generateMibDatabase 0 0 .xgspon ⟨false, false⟩ = some mibDb ∧
      (create (enabledOn .empty).attached mibDb).handleOmciRequest summingLibrary 0 []
        (firstMessage setMacBridgePort) = .ok (next, .handled (some packet)) ∧
      AnswersRequest (firstMessage setMacBridgePort) packet := by
  obtain ⟨mibDb, created⟩ := generated_withoutUnis
  obtain ⟨next, packet, returned⟩ : ∃ next packet,
      (create (enabledOn .empty).attached mibDb).handleOmciRequest summingLibrary 0 []
        (firstMessage setMacBridgePort) = .ok (next, .handled (some packet)) := ⟨_, _, rfl⟩
  exact ⟨mibDb, next, packet, created, returned,
    (omci_response_header_iff created .start returned).mpr (.inl rfl)⟩

/-- An extended Set is answered in the baseline format. -/
theorem extended_set_answered_baseline : ∃ mibDb next packet,
    generateMibDatabase 0 0 .xgspon ⟨false, false⟩ = some mibDb ∧
      (create (enabledOn .empty).attached mibDb).handleOmciRequest summingLibrary 0 [] extendedSet =
        .ok (next, .handled (some packet)) ∧
      ¬ AnswersRequest extendedSet packet := by
  obtain ⟨mibDb, created⟩ := generated_withoutUnis
  refine ⟨mibDb, _, _, created, rfl, ?_⟩
  rintro ⟨msgType, entity, ⟨⟩, ⟨⟩, header⟩
  exact absurd header (by decide)

end OmciOnu

end Bbsim.Devices
