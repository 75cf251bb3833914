import Bbsim.Devices.OmciRefinement

/-! What a processed request does. The effect of every OMCI request on the counter of MIB changes,
the state machine and the software images of the ONU, together with the result it is answered with. -/

namespace Bbsim.Devices

open Foundation Omci

/-- The requests whose success counts as a change of the MIB. -/
def changesMib : RequestLayer → Bool
  | .create _ | .set _ | .delete _ | .startSoftwareDownload _ | .endSoftwareDownload _
  | .activateSoftware _ | .commitSoftware _ => true
  | _ => false

/-- Create, Set and Delete, with their layers. -/
def changesEntity : RequestLayer → Bool
  | .create (some _) | .set (some _) | .delete (some _) => true
  | _ => false

/-- The requests on software images, with their layers. -/
def concernsImages : RequestLayer → Bool
  | .startSoftwareDownload (some _) | .downloadSection (some _) | .downloadSectionWithResponse (some _)
  | .endSoftwareDownload (some _) | .activateSoftware (some _) | .commitSoftware (some _) => true
  | _ => false

def isMibReset : RequestLayer → Bool
  | .mibReset => true
  | _ => false

def isGetAllAlarms : RequestLayer → Bool
  | .getAllAlarms => true
  | _ => false

variable {request : RequestLayer}

theorem concernsImages_of_changesEntity (changes : changesEntity request = true) :
    concernsImages request = false := by
  cases request <;> first | rfl | cases changes

/-- The counter of MIB changes follows a result. -/
def syncAfter (result : OmciResult) (mds : UInt8) : UInt8 :=
  if result = .success then mds + 1 else mds

/-- The result code of a response. -/
def resultOf (response : Option ResponsePacket) : Option OmciResult :=
  response.bind ResponsePacket.result?

/-- The result and the event of an End, by its verdict. -/
def endResult (success : Bool) : OmciResult := if success then .success else .processingError

def endTx (success : Bool) : OnuTx := if success then .completeImageDownload else .failImageDownload

/-- What the requests of a download and its bookkeeping move. -/
structure Progress where
  mibDataSync : UInt8
  internalState : OnuState
  images : SoftwareImages

/-- A request comes to this result, with no effect but on the counter. -/
def Progress.counting (before : Progress) (result : OmciResult) : Progress :=
  { before with mibDataSync := syncAfter result before.mibDataSync }

/-- The parts of an ONU that hardly any request touches. -/
structure Settings where
  adminLockState : UInt8
  onuAlarmsInfo : OnuAlarms
  mibDb : MibDb

/-- A Set on ONU-G locks or unlocks the ONU, and Get All Alarms resets the numbers of the alarms. -/
def Settings.after (settings : Settings) : RequestLayer → Settings
  | .set (some request) =>
    if request.isOf OnuG.classID then
      { settings with
        adminLockState := request.administrativeState.getD settings.adminLockState }
    else settings
  | .getAllAlarms =>
    { settings with onuAlarmsInfo := OmciOnu.resetAlarmSequences settings.onuAlarmsInfo }
  | _ => settings

theorem Settings.after_mibDb (settings : Settings) (request : RequestLayer) :
    (settings.after request).mibDb = settings.mibDb := by
  unfold after
  split
  · split <;> rfl
  · rfl
  · rfl

theorem Settings.after_onuAlarmsInfo (settings : Settings) (request : RequestLayer) :
    (settings.after request).onuAlarmsInfo =
      if isGetAllAlarms request then OmciOnu.resetAlarmSequences settings.onuAlarmsInfo
      else settings.onuAlarmsInfo := by
  cases request with
  | set layer =>
    cases layer with
    | none => rfl
    | some request =>
      simp only [after]
      split <;> rfl
  | _ => rfl

namespace Onu

/-- Only ports and the channel may be different. -/
def OnlyPorts (onu next : Onu) : Prop :=
  next = { onu with
    uniPorts := next.uniPorts, potsPorts := next.potsPorts, channel := next.channel }

variable {onu : Onu} {index : Nat} {raiseOmciAlarm : Bool}

theorem ensures_changeUni_onlyPorts {change : UniPort → Option UniPort} :
    Ensures (onu.changeUni index change raiseOmciAlarm) (OnlyPorts onu) :=
  ensures_changeUni_portMoved.mono fun _ => PortMoved.frame

theorem ensures_changePots_onlyPorts {change : PotsPort → Option PotsPort} :
    Ensures (onu.changePots index change raiseOmciAlarm) (OnlyPorts onu) :=
  ensures_changePots_portMoved.mono fun _ => PortMoved.frame

end Onu

namespace OmciOnu

variable {library : OmciLibrary} {onu next : OmciOnu} {context : Nat} {spare : List UInt8}

@[simps] def progress (onu : OmciOnu) : Progress :=
  ⟨onu.attached.onu.mibDataSync, onu.attached.onu.internalState, onu.images⟩

variable {lock unlock : Onu → Nat → Except Fault Onu} {state : Option UInt8} {port : Option Nat}

section

variable (locks : ∀ index, Ensures (lock onu.attached.onu index) (Onu.OnlyPorts onu.attached.onu))
  (unlocks : ∀ index, Ensures (unlock onu.attached.onu index) (Onu.OnlyPorts onu.attached.onu))
include locks unlocks

/-- A Set on a port moves ports and counts its success. -/
theorem ensures_setPort_onlyPorts :
    Ensures ((setPort onu.attached port state lock unlock).map fun (attached, result) =>
        (onu.withAttached attached, result))
      fun (next, result) => ∃ changed, Onu.OnlyPorts onu.attached.onu changed ∧
        next = onu.withAttached (onu.attached.withOnu
          { changed with mibDataSync := syncAfter result changed.mibDataSync }) := by
  rw [Ensures, yields_map]
  refine ensures_setPort.mono fun after set => ?_
  unfold AttachedOnu.setAdminState at set
  cases port with
  | none =>
    obtain rfl := Except.ok.inj set
    exact ⟨onu.attached.onu, rfl, rfl⟩
  | some index =>
    have frame : Ensures (if state.getD 0 = 1 then lock onu.attached.onu index
        else unlock onu.attached.onu index) (Onu.OnlyPorts onu.attached.onu) := by
      split
      · exact locks index
      · exact unlocks index
    cases moved : (if state.getD 0 = 1 then lock onu.attached.onu index
        else unlock onu.attached.onu index) with
    | error fault => simp [moved, Except.map] at set
    | ok changed =>
      simp only [moved] at set
      obtain rfl := Except.ok.inj set
      exact ⟨changed, frame.value moved, rfl⟩

private theorem ensures_setPort_progress :
    Ensures ((setPort onu.attached port state lock unlock).map fun (attached, result) =>
        (onu.withAttached attached, result))
      fun (next, result) => next.progress = onu.progress.counting result := by
  refine (ensures_setPort_onlyPorts locks unlocks).mono ?_
  rintro ⟨next, result⟩ ⟨changed, only, rfl⟩
  rw [only]
  rfl

end

private theorem ensures_handleSet_progress (request : SetRequest) :
    Ensures (onu.handleSet request) fun (next, result) =>
      next.progress = onu.progress.counting result := by
  unfold handleSet
  split
  · exact ensures_setPort_progress (fun _ => Onu.ensures_changeUni_onlyPorts)
      fun _ => Onu.ensures_changeUni_onlyPorts
  · split
    · exact ensures_setPort_progress (fun _ => Onu.ensures_changePots_onlyPorts)
        fun _ => Onu.ensures_changePots_onlyPorts
    · split
      · split
        · trivial
        · rfl
      · split
        · split
          · trivial
          · simp only [AttachedOnu.setTCont]
            split
            · rfl
            · split <;> rfl
        · rfl

private theorem handleCreate_progress (request : MeBasePacket) :
    (onu.handleCreate request).1.progress =
      onu.progress.counting (onu.handleCreate request).2 := by
  unfold handleCreate
  split
  · simp only [AttachedOnu.createGemPort]
    split
    · rfl
    · split <;> rfl
  · rfl

private theorem handleDelete_progress (request : MeBasePacket) :
    (onu.handleDelete request).progress = onu.progress.counting .success := by
  unfold handleDelete
  split <;> rfl

/-- What a processed request did, and what it was answered with. -/
inductive Processed (library : OmciLibrary) (spare : List UInt8) (message : OmciMessage)
    (before after : Progress) (response : Option ResponsePacket) : Prop where
  | mibReset (asked : message.request = .mibReset)
      (progress : after = { before with mibDataSync := 0 })
  | changed (result : OmciResult) (asked : changesEntity message.request = true)
      (answered : resultOf response = some result) (progress : after = before.counting result)
  | started (request : StartSoftwareDownloadRequest)
      (asked : message.request = .startSoftwareDownload (some request))
      (answered : resultOf response = some .success)
      (progress : after =
        ⟨before.mibDataSync + 1, before.internalState.tried .startImageDownload,
          before.images.startDownload message.deviceIdentifier request⟩)
  | received (request : DownloadSectionRequest) (images : SoftwareImages)
      (asked : message.request = .downloadSection (some request))
      (appended : before.images.downloadSection request = .ok images)
      (progress : after =
        ⟨before.mibDataSync, before.internalState.tried .progressImageDownload, images⟩)
  | acknowledged (request : DownloadSectionRequest)
      (asked : message.request = .downloadSectionWithResponse (some request))
      (answered : resultOf response = some .success)
      (progress : after =
        { before with images := before.images.downloadSectionWithResponse request })
  | ended (request : EndSoftwareDownloadRequest) (images : SoftwareImages) (success : Bool)
      (asked : message.request = .endSoftwareDownload (some request))
      (judged : before.images.handleEndSoftwareDownloadRequest library.checksum spare request =
        .ok (images, success))
      (answered : resultOf response = some (endResult success))
      (progress : after =
        ⟨syncAfter (endResult success) before.mibDataSync,
          before.internalState.tried (endTx success), images⟩)
  | activated (request : MeBasePacket) (asked : message.request = .activateSoftware (some request))
      (answered : resultOf response = some .success)
      (progress : after =
        ⟨before.mibDataSync + 1, before.internalState.tried .activateImage,
          before.images.activate request.entityInstance⟩)
  | committed (request : MeBasePacket) (asked : message.request = .commitSoftware (some request))
      (answered : resultOf response = some .success)
      (progress : after =
        ⟨before.mibDataSync + 1, before.internalState.tried .commitImage,
          before.images.commit request.entityInstance⟩)
  /-- Requests that read, or whose layer was not decoded. -/
  | unchanged (outside : concernsImages message.request = false)
      (reads : isMibReset message.request = false)
      (unanswered : changesMib message.request = true → response = none)
      (progress : after = before)

/-- A request that is dropped concerns neither images nor the counter. -/
theorem dropped_outside (drops : dropped request = true) :
    concernsImages request = false ∧ isMibReset request = false := by
  unfold dropped at drops
  split at drops <;> first | exact ⟨rfl, rfl⟩ | cases drops

theorem ensures_processed (message : OmciMessage) :
    Ensures (onu.processOmci library context spare message) fun (next, response) =>
      Processed library spare message onu.progress next.progress response := by
  have reads {request : RequestLayer} {response : Option ResponsePacket}
      (asked : message.request = request) (outside : concernsImages request = false)
      (noReset : isMibReset request = false) (keeps : changesMib request = false) :
      Processed library spare message onu.progress onu.progress response :=
    .unchanged (asked ▸ outside) (asked ▸ noReset)
      (fun changes => absurd (asked ▸ changes) (keeps ▸ Bool.false_ne_true)) rfl
  refine (ensures_handled message).mono ?_
  rintro ⟨next, response⟩ (handled : Handled library spare message onu next response)
  cases handled with
  | mibReset asked => exact .mibReset asked rfl
  | set asked changed =>
    exact .changed _ (asked ▸ rfl) rfl ((ensures_handleSet_progress _).value changed)
  | create asked => exact .changed _ (asked ▸ rfl) rfl (handleCreate_progress _)
  | delete asked => exact .changed _ (asked ▸ rfl) rfl (handleDelete_progress _)
  | startSoftwareDownload asked => exact .started _ asked rfl rfl
  | downloadSection asked appended => exact .received _ _ asked appended rfl
  | downloadSectionWithResponse asked => exact .acknowledged _ asked rfl rfl
  | @endSoftwareDownload request images success asked judged =>
    cases success <;> exact .ended request images _ asked judged rfl rfl
  | activateSoftware asked => exact .activated _ asked rfl rfl
  | commitSoftware asked => exact .committed _ asked rfl rfl
  | dropped asked =>
    obtain ⟨outside, noReset⟩ := dropped_outside asked
    exact .unchanged outside noReset (fun _ => rfl) rfl
  | mibUpload asked | mibUploadNext asked _ | get asked _ | reboot asked | test asked
  | synchronizeTime asked | getAllAlarms asked | getAllAlarmsNext asked =>
    exact reads asked rfl rfl rfl

@[simps] def settings (onu : OmciOnu) : Settings :=
  ⟨onu.adminLockState, onu.onuAlarmsInfo, onu.mibDb⟩

theorem settings_counted : onu.counted.settings = onu.settings := rfl

theorem isOf_unique {packet : MeBasePacket} {classID other : Nat} (isOne : packet.isOf classID = true)
    (different : classID ≠ other) : packet.isOf other = false :=
  decide_eq_false fun isOther => different ((of_decide_eq_true isOne).symm.trans isOther)

private theorem ensures_handleSet_settings (request : SetRequest) :
    Ensures (onu.handleSet request) fun after =>
      after.1.settings = onu.settings.after (.set (some request)) := by
  have port {outcome : Except OmciFault (AttachedOnu × OmciResult)} {classID : Nat}
      (named : request.isOf classID = true) (different : classID ≠ OnuG.classID) :
      Ensures (outcome.map fun (attached, result) => (onu.withAttached attached, result)) fun after =>
        after.1.settings = onu.settings.after (.set (some request)) := by
    rw [Settings.after, isOf_unique named different]
    cases outcome <;> trivial
  unfold handleSet
  split
  · next ethernet => exact port ethernet (by decide)
  split
  · next pots => exact port pots (by decide)
  split
  · next onuG =>
    rw [Settings.after, if_pos onuG]
    cases request.administrativeState <;> trivial
  next unlike =>
  rw [Settings.after, if_neg unlike]
  split
  · cases request.allocId <;> trivial
  · trivial

private theorem handleCreate_settings (request : MeBasePacket) :
    (onu.handleCreate request).1.settings = onu.settings := by
  unfold handleCreate
  split <;> rfl

private theorem handleDelete_settings (request : MeBasePacket) :
    (onu.handleDelete request).settings = onu.settings := by
  unfold handleDelete
  split <;> rfl

private theorem ended_settings (images : SoftwareImages) (success : Bool) :
    (onu.ended images success).1.settings = onu.settings := by
  cases success <;> rfl

private theorem after_dropped {settings : Settings} (drops : dropped request = true) :
    settings.after request = settings := by
  unfold dropped at drops
  split at drops <;> first | rfl | cases drops

theorem Handled.settings {message : OmciMessage} {response : Option ResponsePacket}
    (handled : Handled library spare message onu next response) :
    next.settings = onu.settings.after message.request := by
  cases handled with
  | set asked changed =>
    rw [asked]
    exact (ensures_handleSet_settings _).value changed
  | create asked =>
    rw [asked]
    exact handleCreate_settings _
  | delete asked =>
    rw [asked]
    exact handleDelete_settings _
  | endSoftwareDownload asked judged =>
    rw [asked]
    exact ended_settings _ _
  | dropped asked => rw [after_dropped asked]
  | mibReset asked | mibUpload asked | mibUploadNext asked _ | get asked _ | reboot asked | test asked
  | synchronizeTime asked | startSoftwareDownload asked | downloadSection asked _
  | downloadSectionWithResponse asked | activateSoftware asked | commitSoftware asked
  | getAllAlarms asked | getAllAlarmsNext asked =>
    rw [asked]
    rfl

end OmciOnu

end Bbsim.Devices
