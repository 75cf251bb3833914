import Bbsim.Omci.OnuMibDb
import Bbsim.Omci.SoftwareImages
import Bbsim.Devices.OnuMessages

/-! OMCI responses. The builders of `internal/common/omci`. A response goes out through one of two
routes: `Serialize` gives the OMCI layer no device identifier, which omci-lib-go writes as the
baseline one, and the other builders copy the identifier of the request. -/

namespace Bbsim.Devices

open Foundation Omci

structure OnuAlarmInfo where
  sequenceNo : UInt8
  alarmBitMap : List UInt8

/-- `onuAlarmsInfo`, by class and instance. -/
abbrev OnuAlarms := MeBasePacket → Option OnuAlarmInfo

/-- The values of a Get response that come from the ONU; those of the other attributes are constants
of the class. -/
inductive GetAttributes where
  | constants
  | serialNumber (onuSn : SerialRef)
  | softwareImage (image : ReportedImage)
  /-- Administrative and operational state of a port. -/
  | portState (onuDown : Bool)
  | mibDataSync (mds : UInt8)

inductive ResponseContents where
  | result (result : OmciResult)
  | numberOfCommands (count : Nat)
  | reportedME (entity : ManagedEntity)
  | attributes (attributeMask : UInt16) (attributes : GetAttributes)
  | startSoftwareDownload (windowSize : UInt8) (result : OmciResult)
  | downloadSection (sectionNumber : UInt8) (result : OmciResult)
  | alarms (reported : List (MeBasePacket × List UInt8))

def ResponseContents.result? : ResponseContents → Option OmciResult
  | .result code | .startSoftwareDownload _ code | .downloadSection _ code => some code
  | .numberOfCommands _ | .reportedME _ | .attributes .. | .alarms _ => none

/-- The OMCI layer and the layer under it, as they go to the serializer. -/
structure Response where
  transactionID : UInt16
  msgType : MsgType
  deviceIdentifier : Option DeviceIdent
  entity : MeBasePacket
  contents : ResponseContents

inductive ResponsePacket where
  | layers (response : Response)
  | encoded (bytes : List UInt8)

/-- Transaction id, message type, device identifier, entity class and entity instance. -/
def omciHeader (transactionID : UInt16) (msgType : MsgType) (deviceIdentifier : DeviceIdent)
    (entity : MeBasePacket) : List UInt8 :=
  putUint16 transactionID.toNat ++ [msgType.responseType, deviceIdentifier.code] ++
    putUint16 entity.entityClass.toNat ++ putUint16 entity.entityInstance.toNat

/-- The first eight bytes on the wire. -/
def ResponsePacket.header : ResponsePacket → List UInt8
  | .layers response =>
    omciHeader response.transactionID response.msgType (response.deviceIdentifier.getD .baseline)
      response.entity
  | .encoded bytes => bytes.take 8

def ResponsePacket.result? : ResponsePacket → Option OmciResult
  | .layers response => response.contents.result?
  | .encoded _ => none

def ResponsePacket.numberOfCommands? : ResponsePacket → Option Nat
  | .layers ⟨_, _, _, _, .numberOfCommands count⟩ => some count
  | _ => none

/-- What becomes of a Get response in omci-lib-go. -/
inductive GetOutcome where
  | encoded
  /-- The attributes do not fit the message. -/
  | refused
  /-- The entity could not be made of its attributes; the nil response is used all the same. -/
  | nilResponse
deriving DecidableEq

/-- The parts of the libraries that the model leaves open. -/
structure OmciLibrary where
  /-- `crc32a.Checksum`. -/
  checksum : List UInt8 → UInt32
  getOutcome : OmciMessage → GetRequest → GetOutcome
  /-- Whether an entity of the MIB can be loaded and serialized in a baseline response. -/
  serializes : ManagedEntity → Bool

/-- Panics of the OMCI handler and of the builders. -/
inductive OmciFault where
  | onu (fault : Fault)
  | image (fault : ImageFault)
  /-- A layer that was not decoded, or a response that was not made, is used. -/
  | nilLayer
  | missingAttribute
  /-- Index of a MIB upload command out of range. -/
  | noSuchCommand
  /-- A stored packet without the two bytes of a transaction id. -/
  | shortPacket
  /-- `Fatalf` on an entity that cannot be serialized. -/
  | unserializable
  /-- No panic: the alarm waits for room that only the handler's own loop makes. -/
  | sendOnFullChannel
deriving DecidableEq

/-- `Serialize`. -/
def serialize (msgType : MsgType) (entity : MeBasePacket) (contents : ResponseContents)
    (transactionID : UInt16) : ResponsePacket :=
  .layers ⟨transactionID, msgType, none, entity, contents⟩

/-- `gopacket.SerializeLayers` under the request's device identifier. -/
def serializeLayers (message : OmciMessage) (msgType : MsgType) (entity : MeBasePacket)
    (contents : ResponseContents) : ResponsePacket :=
  .layers ⟨message.transactionID, msgType, some message.deviceIdentifier, entity, contents⟩

def setTxIdInEncodedPacket (packet : List UInt8) (txId : UInt16) : Except OmciFault ResponsePacket :=
  if packet.length < 2 then .error .shortPacket
  else .ok (.encoded (putUint16 txId.toNat ++ packet.drop 2))

def createMibResetResponse (tid : UInt16) : ResponsePacket :=
  serialize .mibReset .onuData (.result .success) tid

def createSetResponse (message : OmciMessage) (request : SetRequest) (result : OmciResult) :
    ResponsePacket :=
  serialize .set request.toMeBasePacket (.result result) message.transactionID

def createCreateResponse (message : OmciMessage) (request : MeBasePacket) (result : OmciResult) :
    ResponsePacket :=
  serialize .create request (.result result) message.transactionID

def createDeleteResponse (message : OmciMessage) (request : MeBasePacket) : ResponsePacket :=
  serialize .delete request (.result .success) message.transactionID

/-- The layer is the one of a Set response. -/
def createRebootResponse (message : OmciMessage) (request : MeBasePacket) : ResponsePacket :=
  serialize .reboot request (.result .success) message.transactionID

def createTestResponse (message : OmciMessage) (request : MeBasePacket) : ResponsePacket :=
  serialize .test request (.result .success) message.transactionID

def createSyncTimeResponse (message : OmciMessage) (request : MeBasePacket) : ResponsePacket :=
  serialize .synchronizeTime request (.result .success) message.transactionID

def createMibUploadResponse (message : OmciMessage) (mibDb : MibDb) : ResponsePacket :=
  let numberOfCommands :=
    if message.deviceIdentifier = .extended then mibDb.numberOfExtendedCommands
    else mibDb.numberOfBaselineCommands
  serializeLayers message .mibUpload .onuData (.numberOfCommands numberOfCommands)

def createStartSoftwareDownloadResponse (message : OmciMessage)
    (request : StartSoftwareDownloadRequest) : ResponsePacket :=
  serializeLayers message .startSoftwareDownload request.toMeBasePacket
    (.startSoftwareDownload request.windowSize .success)

def createDownloadSectionResponse (message : OmciMessage) (request : DownloadSectionRequest) :
    ResponsePacket :=
  serializeLayers message .downloadSection request.toMeBasePacket
    (.downloadSection request.sectionNumber .success)

def createEndSoftwareDownloadResponse (message : OmciMessage) (request : EndSoftwareDownloadRequest)
    (status : OmciResult) : ResponsePacket :=
  serializeLayers message .endSoftwareDownload request.toMeBasePacket (.result status)

def createActivateSoftwareResponse (message : OmciMessage) (request : MeBasePacket) :
    ResponsePacket :=
  serializeLayers message .activateSoftware request (.result .success)

/-- The result is left at its zero value, which is success. -/
def createCommitSoftwareResponse (message : OmciMessage) (request : MeBasePacket) : ResponsePacket :=
  serializeLayers message .commitSoftware request (.result .success)

def pptpEthernetUni (entityInstance : UInt16) : MeBasePacket :=
  ⟨UInt16.ofNat PhysicalPathTerminationPointEthernetUni.classID, entityInstance⟩

/-- Up to four PPTP instances are looked at. -/
def createGetAllAlarmsResponse (message : OmciMessage) (alarms : OnuAlarms) : ResponsePacket :=
  let noOfCommands := [257, 258, 259, 260].countP fun meInstance =>
    (alarms (pptpEthernetUni meInstance)).isSome
  serializeLayers message .getAllAlarms .onuData (.numberOfCommands noOfCommands)

/-- The bitmap an instance has, if it has one. -/
def alarmOf (alarms : OnuAlarms) (meInstance : UInt16) : Option (MeBasePacket × List UInt8) :=
  (alarms (pptpEthernetUni meInstance)).map fun info =>
    (pptpEthernetUni meInstance, info.alarmBitMap)

/-- An extended response to the first command carries the alarms of the other instances as well. -/
def createGetAllAlarmsNextResponse (message : OmciMessage) (request : CommandRequest)
    (alarms : OnuAlarms) : Option ResponsePacket :=
  if request.commandSequenceNumber > 4 then none
  else (alarmOf alarms (257 + request.commandSequenceNumber)).map fun alarm =>
    let additionalAlarms :=
      if message.deviceIdentifier = .extended ∧ request.commandSequenceNumber = 0 then
        [258, 259, 260].filterMap (alarmOf alarms)
      else []
    serializeLayers message .getAllAlarmsNext .onuData (.alarms (alarm :: additionalAlarms))

def createMibUploadNextResponse (library : OmciLibrary) (message : OmciMessage)
    (request : CommandRequest) (mibDb : MibDb) : Except OmciFault (Option ResponsePacket) :=
  let number := request.commandSequenceNumber.toNat
  match message.deviceIdentifier with
  | .extended =>
    if number > mibDb.numberOfExtendedCommands then .ok none
    else match mibDb.extendedResponses[number]? with
      | none => .error .noSuchCommand
      | some packet => (setTxIdInEncodedPacket packet message.transactionID).map some
  | .baseline =>
    if number > mibDb.numberOfBaselineCommands then .ok none
    else match mibDb.baselineItems[number]? with
      | none => .error .noSuchCommand
      | some (.packet _ bytes) => (setTxIdInEncodedPacket bytes message.transactionID).map some
      | some (.entity reportedMe) =>
        if library.serializes reportedMe then
          .ok (some (serialize .mibUploadNext .onuData (.reportedME reportedMe) message.transactionID))
        else .error .unserializable

/-- A builder of Get responses: the class it writes and the values it reports. -/
structure GetBuilder where
  entityClass : Nat
  attributes : GetAttributes

section

variable (onuSn : SerialRef) (mds : UInt8) (image : ReportedImage) (onuDown : Bool)

def createOnu2gResponse : GetBuilder := ⟨Onu2G.classID, .constants⟩
def createOnugResponse : GetBuilder := ⟨OnuG.classID, .serialNumber onuSn⟩
def createSoftwareImageResponse : GetBuilder := ⟨SoftwareImage.classID, .softwareImage image⟩
def createIpHostResponse : GetBuilder := ⟨IpHostConfigData.classID, .constants⟩
def createVoipConfigDataResponse : GetBuilder := ⟨VoipConfigData.classID, .constants⟩
def createUnigResponse : GetBuilder := ⟨UniG.classID, .portState onuDown⟩
def createPptpEthernetResponse : GetBuilder :=
  ⟨PhysicalPathTerminationPointEthernetUni.classID, .portState onuDown⟩
def createPptpPotsResponse : GetBuilder :=
  ⟨PhysicalPathTerminationPointPotsUni.classID, .portState onuDown⟩
def createAnigResponse : GetBuilder := ⟨AniG.classID, .constants⟩
def createOnuDataResponse : GetBuilder := ⟨OnuData.classID, .mibDataSync mds⟩
def createEthernetFramePerformanceMonitoringHistoryDataUpstreamResponse : GetBuilder :=
  ⟨EthernetFramePerformanceMonitoringHistoryDataUpstream.classID, .constants⟩
def createEthernetFramePerformanceMonitoringHistoryDataDownstreamResponse : GetBuilder :=
  ⟨EthernetFramePerformanceMonitoringHistoryDataDownstream.classID, .constants⟩
def createEthernetPerformanceMonitoringHistoryDataResponse : GetBuilder :=
  ⟨EthernetPerformanceMonitoringHistoryData.classID, .constants⟩
def createFecPerformanceMonitoringHistoryDataResponse : GetBuilder :=
  ⟨FecPerformanceMonitoringHistoryData.classID, .constants⟩
def createGemPortNetworkCtpPerformanceMonitoringHistoryData : GetBuilder :=
  ⟨GemPortNetworkCtpPerformanceMonitoringHistoryData.classID, .constants⟩
def createEthernetFrameExtendedPmGetResponse (meClass : Nat) : GetBuilder := ⟨meClass, .constants⟩

/-- The cases of `CreateGetResponse`. -/
def getBuilders : List (Nat × GetBuilder) :=
  [(Onu2G.classID, createOnu2gResponse),
    (OnuG.classID, createOnugResponse onuSn),
    (SoftwareImage.classID, createSoftwareImageResponse image),
    (IpHostConfigData.classID, createIpHostResponse),
    (VoipConfigData.classID, createVoipConfigDataResponse),
    (UniG.classID, createUnigResponse onuDown),
    (PhysicalPathTerminationPointEthernetUni.classID, createPptpEthernetResponse onuDown),
    (PhysicalPathTerminationPointPotsUni.classID, createPptpPotsResponse onuDown),
    (AniG.classID, createAnigResponse),
    (OnuData.classID, createOnuDataResponse mds),
    (EthernetFramePerformanceMonitoringHistoryDataUpstream.classID,
      createEthernetFramePerformanceMonitoringHistoryDataUpstreamResponse),
    (EthernetFramePerformanceMonitoringHistoryDataDownstream.classID,
      createEthernetFramePerformanceMonitoringHistoryDataDownstreamResponse),
    (EthernetPerformanceMonitoringHistoryData.classID,
      createEthernetPerformanceMonitoringHistoryDataResponse),
    (FecPerformanceMonitoringHistoryData.classID, createFecPerformanceMonitoringHistoryDataResponse),
    (GemPortNetworkCtpPerformanceMonitoringHistoryData.classID,
      createGemPortNetworkCtpPerformanceMonitoringHistoryData),
    (EthernetFrameExtendedPm.classID,
      createEthernetFrameExtendedPmGetResponse EthernetFrameExtendedPm.classID),
    (EthernetFrameExtendedPm64Bit.classID,
      createEthernetFrameExtendedPmGetResponse EthernetFrameExtendedPm64Bit.classID)]

/-- Every builder writes the class it is chosen for. -/
theorem getBuilders_entityClass :
    ∀ entry ∈ getBuilders onuSn mds image onuDown, entry.2.entityClass = entry.1 := by
  simp only [getBuilders, List.forall_mem_cons]
  exact ⟨rfl, rfl, rfl, rfl, rfl, rfl, rfl, rfl, rfl, rfl, rfl, rfl, rfl, rfl, rfl, rfl, rfl, by simp⟩

def createGetResponse (library : OmciLibrary) (message : OmciMessage) (request : GetRequest) :
    Except OmciFault (Option ResponsePacket) :=
  match (getBuilders onuSn mds image onuDown).find? fun entry => request.isOf entry.1 with
  | none => .ok none
  | some (_, builder) =>
    match library.getOutcome message request with
    | .encoded => .ok (some (serializeLayers message .get
        ⟨UInt16.ofNat builder.entityClass, request.entityInstance⟩
        (.attributes request.attributeMask builder.attributes)))
    | .refused => .ok none
    | .nilResponse => .error .nilLayer

end

end Bbsim.Devices
