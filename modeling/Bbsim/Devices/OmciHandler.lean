import Bbsim.Devices.OmciResponses

/-! The OMCI handler of an ONU. `handleOmciRequest` on decoded messages, with the software images,
the MIB database and the alarms it reads, and the response it sends. Sending is left to the stream:
a failure to send is only logged. -/

namespace Bbsim.Devices

open Foundation Omci

/-- An ONU with what only its OMCI handler uses. -/
structure OmciOnu where
  attached : AttachedOnu
  images : SoftwareImages
  /-- 0 is enabled, 1 is disabled. -/
  adminLockState : UInt8
  onuAlarmsInfo : OnuAlarms
  mibDb : MibDb

/-- What comes of a request: it is skipped for the response rate, or handled, with a response or
without. -/
inductive OmciOutcome where
  | skipped
  | handled (response : Option ResponsePacket)

namespace OmciOnu

/-- The ONU of `CreateONU`. -/
def create (attached : AttachedOnu) (mibDb : MibDb) : OmciOnu where
  attached := attached
  images := .create
  adminLockState := 0
  onuAlarmsInfo := fun _ => none
  mibDb := mibDb

@[simps] def withAttached (onu : OmciOnu) (attached : AttachedOnu) : OmciOnu :=
  { onu with attached := attached }

@[simps] def withImages (onu : OmciOnu) (images : SoftwareImages) : OmciOnu :=
  { onu with images := images }

/-- A request that changes the MIB and nothing else. -/
def incrementMibDataSync (onu : OmciOnu) : OmciOnu :=
  onu.withAttached (onu.attached.mapOnu Onu.incrementMibDataSync)

/-- The length of the channel that `CreateONU` makes. -/
def channelCapacity : Nat := 2048

/-- The administrative state is read only once the port is found. -/
def setPort (attached : AttachedOnu) (port : Option Nat) (administrativeState : Option UInt8)
    (lock unlock : Onu → Nat → Except Fault Onu) : Except OmciFault (AttachedOnu × OmciResult) :=
  match port, administrativeState with
  | some _, none => .error .missingAttribute
  | _, _ => do
    let (next, result) ←
      (attached.setAdminState port (administrativeState.getD 0) lock unlock).mapError .onu
    let waiting := attached.onu.pending.length
    if waiting < next.onu.pending.length ∧ channelCapacity ≤ waiting then .error .sendOnFullChannel
    else pure (next, result)

def handleSet (onu : OmciOnu) (request : SetRequest) : Except OmciFault (OmciOnu × OmciResult) :=
  let attached := onu.attached
  let entity := request.entityInstance
  if request.isOf PhysicalPathTerminationPointEthernetUni.classID then
    (setPort attached (attached.onu.findUniByEntityId entity) request.administrativeState
      Onu.disableUni Onu.enableUni).map fun (attached, result) => (onu.withAttached attached, result)
  else if request.isOf PhysicalPathTerminationPointPotsUni.classID then
    (setPort attached (attached.onu.findPotsByEntityId entity) request.administrativeState
      Onu.disableOnePots Onu.enablePots).map fun (attached, result) =>
        (onu.withAttached attached, result)
  else if request.isOf OnuG.classID then
    match request.administrativeState with
    | none => .error .missingAttribute
    | some state => .ok ({ onu.incrementMibDataSync with adminLockState := state }, .success)
  else if request.isOf TCont.classID then
    match request.allocId with
    | none => .error .missingAttribute
    | some allocId =>
      let (attached, result) := attached.setTCont entity allocId
      .ok (onu.withAttached attached, result)
  else .ok (onu.incrementMibDataSync, .success)

def handleCreate (onu : OmciOnu) (request : MeBasePacket) : OmciOnu × OmciResult :=
  if request.isOf GemPortNetworkCtp.classID then
    let (attached, result) := onu.attached.createGemPort request.entityInstance
    (onu.withAttached attached, result)
  else (onu.incrementMibDataSync, .success)

def handleDelete (onu : OmciOnu) (request : MeBasePacket) : OmciOnu :=
  if request.isOf GemPortNetworkCtp.classID then
    onu.withAttached (onu.attached.deleteGemPort request.entityInstance)
  else onu.incrementMibDataSync

/-- A request on the images that is answered with success: the counter and the event, whose refusal
is logged. -/
def imageRequest (onu : OmciOnu) (context : Nat) (tx : OnuTx) (images : SoftwareImages) :
    Except OmciFault OmciOnu :=
  ((onu.attached.imageEvent context tx).mapError .onu).map fun (attached, _) =>
    (onu.withImages images).withAttached attached

/-- The first section without response brings the download into progress. -/
def progressDownload (attached : AttachedOnu) (context : Nat) : Except Fault AttachedOnu :=
  if attached.onu.internalState = .imageDownloadInProgress then .ok attached
  else attached.tryEvent context .progressImageDownload

def handleSection (onu : OmciOnu) (context : Nat) (request : DownloadSectionRequest) :
    Except OmciFault OmciOnu := do
  let images ← (onu.images.downloadSection request).mapError .image
  let attached ← (progressDownload onu.attached context).mapError .onu
  return (onu.withImages images).withAttached attached

def handleEnd (onu : OmciOnu) (library : OmciLibrary) (context : Nat) (spare : List UInt8)
    (request : EndSoftwareDownloadRequest) : Except OmciFault (OmciOnu × OmciResult) := do
  let (images, success) ←
    (onu.images.handleEndSoftwareDownloadRequest library.checksum spare request).mapError .image
  if success then
    (onu.imageRequest context .completeImageDownload images).map (·, .success)
  else
    ((onu.attached.tryEvent context .failImageDownload).mapError .onu).map fun attached =>
      ((onu.withImages images).withAttached attached, .processingError)

def resetAlarmSequences (alarms : OnuAlarms) : OnuAlarms :=
  fun key => (alarms key).map fun info => { info with sequenceNo := 0 }

def getResponse (onu : OmciOnu) (library : OmciLibrary) (message : OmciMessage)
    (request : GetRequest) : Except OmciFault (Option ResponsePacket) :=
  createGetResponse onu.attached.onu.serialNumber onu.attached.onu.mibDataSync
    (onu.images.reported request.entityInstance) (onu.adminLockState = 1) library message request

/-- The reboots that Reboot and ActivateSoftware start run in goroutines of their own. -/
def processOmci (onu : OmciOnu) (library : OmciLibrary) (context : Nat) (spare : List UInt8)
    (message : OmciMessage) : Except OmciFault (OmciOnu × Option ResponsePacket) :=
  match message.request with
  | .mibReset =>
    .ok (onu.withAttached onu.attached.mibReset,
      some (createMibResetResponse message.transactionID))
  | .mibUpload => .ok (onu, some (createMibUploadResponse message onu.mibDb))
  | .mibUploadNext (some request) =>
    (createMibUploadNextResponse library message request onu.mibDb).map (onu, ·)
  | .get (some request) => (onu.getResponse library message request).map (onu, ·)
  | .set (some request) =>
    (onu.handleSet request).map fun (next, result) =>
      (next, some (createSetResponse message request result))
  | .create (some request) =>
    let (next, result) := onu.handleCreate request
    .ok (next, some (createCreateResponse message request result))
  | .delete (some request) =>
    .ok (onu.handleDelete request, some (createDeleteResponse message request))
  | .reboot (some request) => .ok (onu, some (createRebootResponse message request))
  | .test (some request) => .ok (onu, some (createTestResponse message request))
  | .synchronizeTime (some request) => .ok (onu, some (createSyncTimeResponse message request))
  | .startSoftwareDownload (some request) =>
    (onu.imageRequest context .startImageDownload
      (onu.images.startDownload message.deviceIdentifier request)).map
        (·, some (createStartSoftwareDownloadResponse message request))
  | .downloadSection (some request) => (onu.handleSection context request).map (·, none)
  | .downloadSectionWithResponse (some request) =>
    .ok (onu.withImages (onu.images.downloadSectionWithResponse request),
      some (createDownloadSectionResponse message request))
  | .endSoftwareDownload (some request) =>
    (onu.handleEnd library context spare request).map fun (next, result) =>
      (next, some (createEndSoftwareDownloadResponse message request result))
  | .activateSoftware (some request) =>
    (onu.imageRequest context .activateImage (onu.images.activate request.entityInstance)).map
      (·, some (createActivateSoftwareResponse message request))
  | .commitSoftware (some request) =>
    (onu.imageRequest context .commitImage (onu.images.commit request.entityInstance)).map
      (·, some (createCommitSoftwareResponse message request))
  | .getAllAlarms =>
    let alarms := resetAlarmSequences onu.onuAlarmsInfo
    .ok ({ onu with onuAlarmsInfo := alarms }, some (createGetAllAlarmsResponse message alarms))
  | .getAllAlarmsNext (some request) =>
    .ok (onu, createGetAllAlarmsNextResponse message request onu.onuAlarmsInfo)
  -- the layer of these two is used without a check
  | .set none | .startSoftwareDownload none => .error .nilLayer
  -- without a layer there is nothing to answer
  | .mibUploadNext none | .get none | .create none | .delete none | .reboot none | .test none
  | .synchronizeTime none | .downloadSection none | .downloadSectionWithResponse none
  | .endSoftwareDownload none | .activateSoftware none | .commitSoftware none
  | .getAllAlarmsNext none | .unsupported => .ok (onu, none)

/-- The ONU with the request counted. -/
def counted (onu : OmciOnu) : OmciOnu := onu.withAttached (onu.attached.mapOnu Onu.countOmciMsg)

/-- The response rate has the ONU drop the request. -/
def skips (onu : OmciOnu) : Bool :=
  onu.attached.onu.countOmciMsg.omciMsgCounter > onu.attached.onu.omciResponseRate

def handleOmciRequest (onu : OmciOnu) (library : OmciLibrary) (context : Nat) (spare : List UInt8)
    (message : OmciMessage) : Except OmciFault (OmciOnu × OmciOutcome) :=
  if onu.skips then .ok (onu.counted, .skipped)
  else (onu.counted.processOmci library context spare message).map fun (next, response) =>
    (next, .handled response)

end OmciOnu

end Bbsim.Devices
