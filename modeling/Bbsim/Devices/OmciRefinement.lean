import Bbsim.Devices.OmciHandler
import Bbsim.Devices.OnuEffects

/-! The OMCI handler and the model of the device. The handler does on the ports, the state machine
and the resources of the PON what `AttachedOnu.handleOmciRequest` does for the request as that model
tells it apart. -/

namespace Bbsim.Devices

open Foundation Omci

namespace OmciOnu

variable {onu : OmciOnu} {library : OmciLibrary} {context : Nat} {spare : List UInt8}

variable {tx : OnuTx}

theorem imageRequest_eq (image : tx.isImage = true) (images : SoftwareImages) :
    onu.imageRequest context tx images =
      .ok ((onu.withImages images).withAttached (onu.attached.imageMoved tx)) := by
  rw [imageRequest, AttachedOnu.imageEvent_eq image]
  rfl

theorem progressDownload_eq (attached : AttachedOnu) :
    progressDownload attached context =
      .ok (attached.mapOnu (Onu.tried · .progressImageDownload)) := by
  unfold progressDownload
  split
  · next ongoing =>
    have stays : attached.onu.tried .progressImageDownload = attached.onu := by
      rw [Onu.tried, ongoing]
      exact congrArg attached.onu.moveTo ongoing.symm
    rw [AttachedOnu.mapOnu, stays]
    rfl
  · exact AttachedOnu.tryEvent_image rfl

variable {attached : AttachedOnu}

private theorem processOmci_downloadSection :
    attached.processOmci context .downloadSection =
      .ok (attached.mapOnu (Onu.tried · .progressImageDownload), .success) := by
  have same : attached.processOmci context .downloadSection =
      (progressDownload attached context).map (·, .success) := by
    simp only [AttachedOnu.processOmci, progressDownload]
    split <;> rfl
  rw [same, progressDownload_eq]
  rfl

theorem handleSection_eq (request : DownloadSectionRequest) :
    onu.handleSection context request =
      ((onu.images.downloadSection request).mapError .image).map fun images =>
        (onu.withImages images).withAttached
          (onu.attached.mapOnu (Onu.tried · .progressImageDownload)) := by
  rw [handleSection, progressDownload_eq]
  cases onu.images.downloadSection request <;> rfl

/-- The ONU and the result after the verdict on an image. -/
def ended (onu : OmciOnu) (images : SoftwareImages) (success : Bool) : OmciOnu × OmciResult :=
  if success then
    ((onu.withImages images).withAttached (onu.attached.imageMoved .completeImageDownload), .success)
  else
    ((onu.withImages images).withAttached (onu.attached.mapOnu (Onu.tried · .failImageDownload)),
      .processingError)

theorem handleEnd_eq (request : EndSoftwareDownloadRequest) :
    onu.handleEnd library context spare request =
      ((onu.images.handleEndSoftwareDownloadRequest library.checksum spare request).mapError
        .image).map fun (images, success) => onu.ended images success := by
  unfold handleEnd
  cases onu.images.handleEndSoftwareDownloadRequest library.checksum spare request with
  | error fault => rfl
  | ok answer =>
    obtain ⟨images, success⟩ := answer
    cases success with
    | true => exact congrArg (Except.map (·, OmciResult.success)) (imageRequest_eq rfl images)
    | false =>
      have failed : onu.attached.tryEvent context .failImageDownload = _ :=
        AttachedOnu.tryEvent_image rfl
      simp only [failed]
      rfl

/-- Requests that are dropped: their layer was not decoded, or their type is not known. -/
def dropped : RequestLayer → Bool
  | .mibUploadNext none | .get none | .create none | .delete none | .reboot none | .test none
  | .synchronizeTime none | .downloadSection none | .downloadSectionWithResponse none
  | .endSoftwareDownload none | .activateSoftware none | .commitSoftware none
  | .getAllAlarmsNext none | .unsupported => true
  | _ => false

/-- The ONU after a request on the images that is answered with success. -/
def imageMoved (onu : OmciOnu) (tx : OnuTx) (images : SoftwareImages) : OmciOnu :=
  (onu.withImages images).withAttached (onu.attached.imageMoved tx)

/-- What the handler can come to, one case for each branch of its switch. -/
inductive Handled (library : OmciLibrary) (spare : List UInt8) (message : OmciMessage)
    (onu : OmciOnu) : OmciOnu → Option ResponsePacket → Prop where
  | mibReset (asked : message.request = .mibReset) :
      Handled library spare message onu (onu.withAttached onu.attached.mibReset)
        (some (createMibResetResponse message.transactionID))
  | mibUpload (asked : message.request = .mibUpload) :
      Handled library spare message onu onu (some (createMibUploadResponse message onu.mibDb))
  | mibUploadNext {request : CommandRequest} {response : Option ResponsePacket}
      (asked : message.request = .mibUploadNext (some request))
      (made : createMibUploadNextResponse library message request onu.mibDb = .ok response) :
      Handled library spare message onu onu response
  | get {request : GetRequest} {response : Option ResponsePacket}
      (asked : message.request = .get (some request))
      (made : onu.getResponse library message request = .ok response) :
      Handled library spare message onu onu response
  | set {request : SetRequest} {next : OmciOnu} {result : OmciResult}
      (asked : message.request = .set (some request))
      (changed : onu.handleSet request = .ok (next, result)) :
      Handled library spare message onu next (some (createSetResponse message request result))
  | create {request : MeBasePacket} (asked : message.request = .create (some request)) :
      Handled library spare message onu (onu.handleCreate request).1
        (some (createCreateResponse message request (onu.handleCreate request).2))
  | delete {request : MeBasePacket} (asked : message.request = .delete (some request)) :
      Handled library spare message onu (onu.handleDelete request)
        (some (createDeleteResponse message request))
  | reboot {request : MeBasePacket} (asked : message.request = .reboot (some request)) :
      Handled library spare message onu onu (some (createRebootResponse message request))
  | test {request : MeBasePacket} (asked : message.request = .test (some request)) :
      Handled library spare message onu onu (some (createTestResponse message request))
  | synchronizeTime {request : MeBasePacket}
      (asked : message.request = .synchronizeTime (some request)) :
      Handled library spare message onu onu (some (createSyncTimeResponse message request))
  | startSoftwareDownload {request : StartSoftwareDownloadRequest}
      (asked : message.request = .startSoftwareDownload (some request)) :
      Handled library spare message onu
        (onu.imageMoved .startImageDownload
          (onu.images.startDownload message.deviceIdentifier request))
        (some (createStartSoftwareDownloadResponse message request))
  | downloadSection {request : DownloadSectionRequest} {images : SoftwareImages}
      (asked : message.request = .downloadSection (some request))
      (appended : onu.images.downloadSection request = .ok images) :
      Handled library spare message onu
        ((onu.withImages images).withAttached
          (onu.attached.mapOnu (Onu.tried · .progressImageDownload)))
        none
  | downloadSectionWithResponse {request : DownloadSectionRequest}
      (asked : message.request = .downloadSectionWithResponse (some request)) :
      Handled library spare message onu
        (onu.withImages (onu.images.downloadSectionWithResponse request))
        (some (createDownloadSectionResponse message request))
  | endSoftwareDownload {request : EndSoftwareDownloadRequest} {images : SoftwareImages}
      {success : Bool} (asked : message.request = .endSoftwareDownload (some request))
      (judged : onu.images.handleEndSoftwareDownloadRequest library.checksum spare request =
        .ok (images, success)) :
      Handled library spare message onu (onu.ended images success).1
        (some (createEndSoftwareDownloadResponse message request (onu.ended images success).2))
  | activateSoftware {request : MeBasePacket}
      (asked : message.request = .activateSoftware (some request)) :
      Handled library spare message onu
        (onu.imageMoved .activateImage (onu.images.activate request.entityInstance))
        (some (createActivateSoftwareResponse message request))
  | commitSoftware {request : MeBasePacket}
      (asked : message.request = .commitSoftware (some request)) :
      Handled library spare message onu
        (onu.imageMoved .commitImage (onu.images.commit request.entityInstance))
        (some (createCommitSoftwareResponse message request))
  | getAllAlarms (asked : message.request = .getAllAlarms) :
      Handled library spare message onu
        { onu with onuAlarmsInfo := resetAlarmSequences onu.onuAlarmsInfo }
        (some (createGetAllAlarmsResponse message (resetAlarmSequences onu.onuAlarmsInfo)))
  | getAllAlarmsNext {request : CommandRequest}
      (asked : message.request = .getAllAlarmsNext (some request)) :
      Handled library spare message onu onu
        (createGetAllAlarmsNextResponse message request onu.onuAlarmsInfo)
  | dropped (asked : dropped message.request = true) : Handled library spare message onu onu none

variable {request : EndSoftwareDownloadRequest} {images : SoftwareImages}

section

variable {message : OmciMessage}

private theorem ensures_imageRequest {response : Option ResponsePacket} (image : tx.isImage = true)
    (handled : Handled library spare message onu (onu.imageMoved tx images) response) :
    Ensures ((onu.imageRequest context tx images).map (·, response)) fun after =>
      Handled library spare message onu after.1 after.2 := by
  rw [imageRequest_eq image]
  exact handled

private theorem ensures_handleSection {request : DownloadSectionRequest}
    (asked : message.request = .downloadSection (some request)) :
    Ensures ((onu.handleSection context request).map (·, (none : Option ResponsePacket))) fun after =>
      Handled library spare message onu after.1 after.2 := by
  rw [handleSection_eq, Ensures, yields_map, yields_map, yields_mapError]
  exact ensures_of_ok fun _ appended => .downloadSection asked appended

private theorem ensures_handleEnd (asked : message.request = .endSoftwareDownload (some request)) :
    Ensures ((onu.handleEnd library context spare request).map fun (next, result) =>
        (next, some (createEndSoftwareDownloadResponse message request result))) fun after =>
      Handled library spare message onu after.1 after.2 := by
  rw [handleEnd_eq, Ensures, yields_map, yields_map, yields_mapError]
  exact ensures_of_ok fun _ judged => .endSoftwareDownload asked judged

end

-- one case for each branch of the handler; those of a missing layer come last
theorem ensures_handled (message : OmciMessage) :
    Ensures (onu.processOmci library context spare message) fun after =>
      Handled library spare message onu after.1 after.2 := by
  unfold processOmci
  split
  · next asked => exact .mibReset asked
  · next asked => exact .mibUpload asked
  · next asked => exact yields_map.mpr (ensures_of_ok fun _ made => .mibUploadNext asked made)
  · next asked => exact yields_map.mpr (ensures_of_ok fun _ made => .get asked made)
  · next asked => exact yields_map.mpr (ensures_of_ok fun _ changed => .set asked changed)
  · next asked => exact .create asked
  · next asked => exact .delete asked
  · next asked => exact .reboot asked
  · next asked => exact .test asked
  · next asked => exact .synchronizeTime asked
  · next asked => exact ensures_imageRequest rfl (.startSoftwareDownload asked)
  · next asked => exact ensures_handleSection asked
  · next asked => exact .downloadSectionWithResponse asked
  · next asked => exact ensures_handleEnd asked
  · next asked => exact ensures_imageRequest rfl (.activateSoftware asked)
  · next asked => exact ensures_imageRequest rfl (.commitSoftware asked)
  · next asked => exact .getAllAlarms asked
  · next asked => exact .getAllAlarmsNext asked
  · trivial
  · trivial
  all_goals next asked => exact .dropped (by rw [asked]; rfl)

/-- The answer of `handleEndSoftwareDownloadRequest`. -/
def verdict (onu : OmciOnu) (library : OmciLibrary) (spare : List UInt8)
    (request : EndSoftwareDownloadRequest) : Bool :=
  (onu.images.handleEndSoftwareDownloadRequest library.checksum spare request).toOption.any Prod.snd

def coarseSet (request : SetRequest) : OmciRequest :=
  if request.isOf PhysicalPathTerminationPointEthernetUni.classID then
    .setUniAdminState request.entityInstance (request.administrativeState.getD 0)
  else if request.isOf PhysicalPathTerminationPointPotsUni.classID then
    .setPotsAdminState request.entityInstance (request.administrativeState.getD 0)
  else if request.isOf OnuG.classID then .other true
  else if request.isOf TCont.classID then
    .setTCont request.entityInstance (request.allocId.getD 0)
  else .other true

/-- The request as the model of the device tells it apart. -/
def coarse (onu : OmciOnu) (library : OmciLibrary) (spare : List UInt8) : RequestLayer → OmciRequest
  | .mibReset => .mibReset
  | .set (some request) => coarseSet request
  | .create (some request) =>
    if request.isOf GemPortNetworkCtp.classID then .createGemPort request.entityInstance
    else .other true
  | .delete (some request) =>
    if request.isOf GemPortNetworkCtp.classID then .deleteGemPort request.entityInstance
    else .other true
  | .startSoftwareDownload (some _) => .startSoftwareDownload
  | .downloadSection (some _) => .downloadSection
  | .endSoftwareDownload (some request) => .endSoftwareDownload (onu.verdict library spare request)
  | .activateSoftware (some _) => .activateSoftware
  | .commitSoftware (some _) => .commitSoftware
  | _ => .other false

theorem ensures_setPort {port : Option Nat} {state : Option UInt8}
    {lock unlock : Onu → Nat → Except Fault Onu} :
    Ensures (setPort attached port state lock unlock)
      fun after => attached.setAdminState port (state.getD 0) lock unlock = .ok after := by
  unfold setPort
  split
  · trivial
  · cases attached.setAdminState port (state.getD 0) lock unlock with
    | error => trivial
    | ok after =>
      simp only [Except.mapError, Ensures, yields_bind, yields_ok]
      split <;> trivial

private theorem ensures_handleSet (request : SetRequest) :
    Ensures (onu.handleSet request) fun (next, result) =>
      onu.attached.processOmci context (coarseSet request) = .ok (next.attached, result) := by
  unfold handleSet coarseSet
  split
  · rw [Ensures, yields_map]
    exact ensures_setPort
  · split
    · rw [Ensures, yields_map]
      exact ensures_setPort
    · split
      · split
        · trivial
        · rfl
      · split
        · cases request.allocId with
          | none => trivial
          | some allocId => rfl
        · rfl

private theorem ended_refines {success : Bool}
    (judged : onu.images.handleEndSoftwareDownloadRequest library.checksum spare request =
      .ok (images, success)) :
    onu.attached.processOmci context (.endSoftwareDownload (onu.verdict library spare request)) =
      .ok ((onu.ended images success).1.attached, (onu.ended images success).2) := by
  have same : onu.verdict library spare request = success := by
    rw [verdict, judged]
    rfl
  rw [same]
  cases success with
  | true => exact AttachedOnu.imageEvent_eq rfl
  | false =>
    exact congrArg (Except.map (·, OmciResult.processingError)) (AttachedOnu.tryEvent_image rfl)

/-- A request that is dropped changes nothing in the model of the device either. -/
theorem coarse_dropped {request : RequestLayer} (drops : dropped request = true) :
    onu.coarse library spare request = .other false := by
  unfold dropped at drops
  split at drops <;> first | rfl | cases drops

theorem processOmci_refines (message : OmciMessage) :
    Ensures (onu.processOmci library context spare message) fun (next, _) =>
      ∃ result, onu.attached.processOmci context (onu.coarse library spare message.request) =
        .ok (next.attached, result) := by
  refine (ensures_handled message).mono ?_
  rintro ⟨next, response⟩ (handled : Handled library spare message onu next response)
  cases handled with
  | set asked changed =>
    rw [asked]
    exact ⟨_, (ensures_handleSet _).value changed⟩
  | create asked =>
    simp only [asked, coarse, handleCreate]
    split <;> exact ⟨_, rfl⟩
  | delete asked =>
    simp only [asked, coarse, handleDelete]
    split <;> exact ⟨_, rfl⟩
  | startSoftwareDownload asked | activateSoftware asked | commitSoftware asked =>
    rw [asked]
    exact ⟨_, AttachedOnu.imageEvent_eq rfl⟩
  | downloadSection asked appended =>
    rw [asked]
    exact ⟨_, processOmci_downloadSection⟩
  | endSoftwareDownload asked judged =>
    rw [asked]
    exact ⟨_, ended_refines judged⟩
  | dropped asked =>
    rw [coarse_dropped asked]
    exact ⟨_, rfl⟩
  | mibReset asked | mibUpload asked | mibUploadNext asked _ | get asked _ | reboot asked | test asked
  | synchronizeTime asked | downloadSectionWithResponse asked | getAllAlarms asked
  | getAllAlarmsNext asked =>
    rw [asked]
    exact ⟨_, rfl⟩

theorem handleOmciRequest_cases {message : OmciMessage} {next : OmciOnu} {outcome : OmciOutcome}
    (returned : onu.handleOmciRequest library context spare message = .ok (next, outcome)) :
    (onu.skips = true ∧ next = onu.counted ∧ outcome = .skipped) ∨
      (onu.skips = false ∧ ∃ response, outcome = .handled response ∧
        onu.counted.processOmci library context spare message = .ok (next, response)) := by
  unfold handleOmciRequest at returned
  split at returned
  · next skipped =>
    cases returned
    exact .inl ⟨skipped, rfl, rfl⟩
  · next answered =>
    refine .inr ⟨by simpa using answered, ?_⟩
    cases processed : onu.counted.processOmci library context spare message with
    | error fault => simp [processed, Except.map] at returned
    | ok after =>
      obtain ⟨rfl, rfl⟩ : after.1 = next ∧ .handled after.2 = outcome := by
        simpa [processed, Except.map] using returned
      exact ⟨after.2, rfl, rfl⟩

/-- The ONU 1 of a PON, which answers every request. -/
def enabledOn (resources : PonResources) : OmciOnu :=
  create ⟨{ Onu.create 1 0 0 [0, 0, 0, 1] [] [] 10 with internalState := .enabled }, resources⟩
    ⟨0, 0, [], []⟩

end OmciOnu

/-- Checksums are sums, and the library refuses nothing. -/
def summingLibrary : OmciLibrary where
  checksum := fun bytes => bytes.foldl (fun sum byte => sum + byte.toUInt32) 0
  getOutcome := fun _ _ => .encoded
  serializes := fun _ => true

/-- A baseline message with transaction id 1. -/
def firstMessage (request : RequestLayer) : OmciMessage where
  transactionID := 1
  deviceIdentifier := .baseline
  request := request
  identified := fun _ => by decide
  testable := fun _ _ => rfl

end Bbsim.Devices
