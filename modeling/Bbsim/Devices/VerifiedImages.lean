import Bbsim.Devices.OmciRun

/-! Completed downloads. What was received since the last StartSoftwareDownload, followed along a
run, against the state `image_download_completed`. -/

namespace Bbsim.Devices

open Foundation Omci

/-- The counters of a download and what it has brought. -/
def transfer (images : SoftwareImages) : UInt32 × UInt32 × List UInt8 :=
  (images.imageSoftwareExpectedSections, images.imageSoftwareReceivedSections, images.imageSectionData)

/-- What came since a StartSoftwareDownload. -/
structure Download where
  imageSize : UInt32
  expectedSections : UInt32
  sections : List (List UInt8)

variable {message : OmciMessage} {sectionData : List UInt8}

namespace Download

/-- The download after a processed request. -/
def after (download : Option Download) (message : OmciMessage) : Option Download :=
  match message.request with
  | .startSoftwareDownload (some request) =>
    some ⟨request.imageSize,
      computeDownloadSectionsCount message.deviceIdentifier request.imageSize, []⟩
  | .downloadSection (some request) | .downloadSectionWithResponse (some request) =>
    download.map fun before => { before with sections := before.sections ++ [request.sectionData] }
  | _ => download

/-- The download after a step; requests that are skipped are not received. -/
def follow (download : Option Download) : OmciOnu × OmciStep → Option Download
  | (onu, .request _ _ message) => if onu.skips then download else after download message
  | (_, .event ..) | (_, .other ..) => download

/-- The counters and the data of the images are those of the download. -/
structure Matches (download : Download) (images : SoftwareImages) : Prop where
  expected : images.imageSoftwareExpectedSections = download.expectedSections
  received : images.imageSoftwareReceivedSections.toNat = download.sections.length
  data : images.imageSectionData = download.sections.flatten

variable {download : Download} {images next : SoftwareImages}

theorem Matches.of_same (fits : download.Matches images) (same : transfer next = transfer images) :
    download.Matches next := by
  obtain ⟨expected, received, data⟩ :
      next.imageSoftwareExpectedSections = images.imageSoftwareExpectedSections ∧
        next.imageSoftwareReceivedSections = images.imageSoftwareReceivedSections ∧
        next.imageSectionData = images.imageSectionData := by
    simpa [transfer] using same
  exact ⟨expected.trans fits.expected, received ▸ fits.received, data.trans fits.data⟩

theorem Matches.append (fits : download.Matches images)
    (room : images.imageSoftwareReceivedSections.toNat + 1 < 2 ^ 32) :
    Matches { download with sections := download.sections ++ [sectionData] }
      (images.appendSection sectionData) := by
  refine ⟨fits.expected, ?_, ?_⟩
  · rw [SoftwareImages.appendSection_imageSoftwareReceivedSections, UInt32.toNat_add,
      List.length_append, ← fits.received]
    exact Nat.mod_eq_of_lt room
  · simp [fits.data]

private theorem after_of_outside {current : Option Download}
    (outside : concernsImages message.request = false) : after current message = current := by
  unfold after
  split <;> first | rfl | simp_all [concernsImages]

end Download

/-- A download has been started and is neither completed nor failed. -/
def OnuState.downloading : OnuState → Bool
  | .imageDownloadStarted | .imageDownloadInProgress => true
  | _ => false

variable {tx : OnuTx}

theorem OnuState.downloading_tried {state : OnuState} (other : tx ≠ .startImageDownload)
    (downloading : (state.tried tx).downloading = true) : state.downloading = true := by
  cases tx <;> cases state <;> first | rfl | contradiction

theorem OnuState.not_downloading_after {state entered : OnuState} (outside : tx.isImage = false)
    (accepted : state.after tx = some entered) :
    entered.downloading = false ∧ entered ≠ .imageDownloadComplete := by
  cases tx <;> cases outside <;> cases state <;> cases accepted <;> exact ⟨rfl, by decide⟩

namespace OmciOnu

variable {library : OmciLibrary} {onu next : OmciOnu} {label : OmciStep}

def internalState (onu : OmciOnu) : OnuState := onu.attached.onu.internalState

/-- No section overflows the counter, no End aborts the download once sections came, and no End that
finds all sections asks for more bytes than came. -/
def regular (images : SoftwareImages) : RequestLayer → Bool
  | .downloadSection (some _) | .downloadSectionWithResponse (some _) =>
    images.imageSoftwareReceivedSections.toNat + 1 < 2 ^ 32
  | .endSoftwareDownload (some request) =>
    images.aborts request = false ∧
      (images.imageSoftwareExpectedSections = images.imageSoftwareReceivedSections →
        request.imageSize.toNat ≤ images.imageSectionData.length)
  | _ => true

/-- Requests that are processed while a download goes on are regular. -/
def keepsRegular (onu : OmciOnu) : OmciStep → Bool
  | .request _ _ message =>
    onu.skips || !onu.internalState.downloading || regular onu.images message.request
  | .event .. | .other .. => true

/-- While a download goes on, the images are those of the download that was followed. -/
def Follows (download : Option Download) (progress : Progress) : Prop :=
  progress.internalState.downloading = true → ∃ current, download = some current ∧
    current.Matches progress.images

variable {download : Option Download} {before after : Progress}

section

variable (follows : Follows download before)
  (state : after.internalState.downloading = true → before.internalState.downloading = true)
include follows state

theorem Follows.kept (same : transfer after.images = transfer before.images) :
    Follows download after := by
  intro downloading
  obtain ⟨current, followed, fits⟩ := follows (state downloading)
  exact ⟨current, followed, fits.of_same same⟩

theorem Follows.appended
    (room : before.internalState.downloading = true →
      before.images.imageSoftwareReceivedSections.toNat + 1 < 2 ^ 32)
    (same : transfer after.images = transfer (before.images.appendSection sectionData)) :
    Follows (download.map fun current =>
      { current with sections := current.sections ++ [sectionData] }) after := by
  intro downloading
  obtain ⟨current, rfl, fits⟩ := follows (state downloading)
  exact ⟨_, rfl, (fits.append (room (state downloading))).of_same same⟩

end

variable {spare : List UInt8} {response : Option ResponsePacket}

/-- One processed request. -/
theorem Processed.follows (processed : Processed library spare message before after response)
    (ordered : before.internalState.downloading = true → regular before.images message.request = true)
    (follows : Follows download before) : Follows (Download.after download message) after := by
  have untouched (outside : concernsImages message.request = false)
      (state : after.internalState = before.internalState) (images : after.images = before.images) :
      Follows (Download.after download message) after := by
    rw [Download.after_of_outside outside]
    exact follows.kept (by rw [state]; exact id) (by rw [images])
  cases processed with
  | mibReset asked progress =>
    exact untouched (by rw [asked]; rfl) (by rw [progress]) (by rw [progress])
  | changed result asked answered progress =>
    exact untouched (concernsImages_of_changesEntity asked) (by rw [progress]; rfl)
      (by rw [progress]; rfl)
  | unchanged outside reads unanswered progress =>
    exact untouched outside (by rw [progress]) (by rw [progress])
  | started request asked answered progress =>
    subst progress
    rw [Download.after, asked]
    exact fun _ => ⟨_, rfl, rfl, rfl, rfl⟩
  | received request images asked appended progress =>
    subst progress
    rw [asked] at ordered
    rw [Download.after, asked]
    exact follows.appended (OnuState.downloading_tried (by decide))
      (fun downloading => of_decide_eq_true (ordered downloading))
      ((congrArg transfer (SoftwareImages.downloadSection_eq appended)).trans rfl)
  | acknowledged request asked answered progress =>
    subst progress
    rw [asked] at ordered
    rw [Download.after, asked]
    exact follows.appended id (fun downloading => of_decide_eq_true (ordered downloading)) rfl
  | activated request asked answered progress | committed request asked answered progress =>
    subst progress
    rw [Download.after, asked]
    exact follows.kept (OnuState.downloading_tried (by decide)) rfl
  | ended request images success asked judged answered progress =>
    subst progress
    rw [Download.after, asked]
    have state : (before.internalState.tried (endTx success)).downloading = true →
        before.internalState.downloading = true :=
      OnuState.downloading_tried (by cases success <;> decide)
    intro downloading
    have goes : before.images.aborts request = false := by
      rw [asked] at ordered
      exact (of_decide_eq_true (ordered (state downloading))).1
    rcases SoftwareImages.end_cases judged with ⟨aborts, -, -⟩ | ⟨-, rfl, -⟩ | ⟨-, -, rfl, -⟩
    · rw [goes] at aborts
      cases aborts
    · exact follows.kept state rfl downloading
    · exact follows.kept state rfl downloading

theorem regular_of_keepsRegular {context : Nat}
    (ordered : onu.keepsRegular (.request context spare message) = true)
    (answered : onu.skips = false) (downloading : onu.internalState.downloading = true) :
    regular onu.images message.request = true := by
  rw [keepsRegular, answered, downloading] at ordered
  exact ordered

private theorem step_follows (follows : Follows download onu.progress)
    (ordered : onu.keepsRegular label = true) (taken : step library onu label = some next) :
    Follows (Download.follow download (onu, label)) next.progress := by
  rcases step_cases taken with ⟨context, spare, message, rfl, skipped, -, same⟩ |
    ⟨context, spare, message, response, rfl, answered, -, processed⟩ | ⟨other, apart⟩
  · rw [Download.follow, if_pos skipped, same]
    exact follows
  · rw [Download.follow, answered, if_neg Bool.false_ne_true]
    exact processed.follows (regular_of_keepsRegular ordered answered) follows
  · have same : Download.follow download (onu, label) = download := by
      cases label with
      | request context spare message => exact absurd rfl (other context spare message)
      | event | other => rfl
    rw [same]
    refine follows.kept ?_ (by rw [apart.images])
    rcases apart.internalState with stays | ⟨tx, outside, accepted⟩
    · rw [stays]
      exact id
    · rw [(OnuState.not_downloading_after outside accepted).1]
      exact fun downloading => Bool.noConfusion downloading

/-- Only a positive verdict on an End completes a download. -/
theorem Processed.complete (processed : Processed library spare message before after response)
    (was : before.internalState ≠ .imageDownloadComplete)
    (complete : after.internalState = .imageDownloadComplete) :
    before.internalState = .imageDownloadInProgress ∧ ∃ request images,
      message.request = .endSoftwareDownload (some request) ∧
      before.images.handleEndSoftwareDownloadRequest library.checksum spare request =
        .ok (images, true) := by
  cases processed with
  | mibReset asked progress | unchanged outside reads unanswered progress
  | changed result asked answered progress | acknowledged request asked answered progress =>
    subst progress
    exact absurd complete was
  | started request asked answered progress | received request images asked appended progress
  | activated request asked answered progress | committed request asked answered progress =>
    subst progress
    cases (OnuState.tried_complete was complete).2
  | ended request images success asked judged answered progress =>
    subst progress
    obtain ⟨ongoing, fires⟩ := OnuState.tried_complete was complete
    cases success with
    | false => cases fires
    | true => exact ⟨ongoing, request, images, asked, judged⟩

/-- An End is for the size that its Start has announced. -/
def EndsWhole (download : Option Download) : OmciStep → Prop
  | .request _ _ message => ∀ request current, message.request = .endSoftwareDownload (some request) →
      download = some current → request.imageSize = current.imageSize
  | .event .. | .other .. => True

/-- In every run whose requests are regular while a download goes on, `image_download_completed` is
entered only by an End for the announced size, after exactly the expected number of sections since the
last Start, and with the CRC of the whole image as they brought it. An End that aborts completes no
download of which sections came. -/
theorem completed_only_verified {start : OmciOnu} {history : List (OmciOnu × OmciStep)}
    (run : Run (step library) start history onu) (idle : start.internalState.downloading = false)
    (regularly : Meets (fun onu label => keepsRegular onu label = true) history)
    (ordered : onu.keepsRegular label = true)
    (whole : EndsWhole (history.foldl Download.follow none) label)
    (taken : step library onu label = some next)
    (was : onu.internalState ≠ .imageDownloadComplete)
    (complete : next.internalState = .imageDownloadComplete) :
    ∃ context spare message request download,
      label = .request context spare message ∧
        message.request = .endSoftwareDownload (some request) ∧
        history.foldl Download.follow none = some download ∧
        download.sections.length = download.expectedSections.toNat ∧
        download.imageSize.toNat ≤ download.sections.flatten.length ∧
        request.crc32 = networkByteOrder
          (library.checksum (download.sections.flatten.take download.imageSize.toNat)) ∧
        (request.isAbort = true → download.sections = []) := by
  rcases step_cases taken with ⟨context, spare, message, rfl, -, -, same⟩ |
    ⟨context, spare, message, response, rfl, answered, -, processed⟩ | ⟨-, apart⟩
  · exact absurd ((congrArg Progress.internalState same).symm.trans complete) was
  · obtain ⟨ongoing, request, images, asked, judged⟩ := processed.complete was complete
    have downloading : onu.internalState.downloading = true :=
      (congrArg OnuState.downloading ongoing).trans rfl
    have follows : Follows (history.foldl Download.follow none) onu.progress :=
      run.tracks (fun download state => Follows download state.progress) regularly
        (fun began => Bool.noConfusion (idle.symm.trans began))
        fun download state label next held allowed taken => step_follows held allowed taken
    obtain ⟨download, followed, fits⟩ := follows downloading
    have rules := regular_of_keepsRegular ordered answered downloading
    rw [asked] at rules
    obtain ⟨goes, within⟩ := of_decide_eq_true rules
    rcases SoftwareImages.end_cases judged with ⟨aborts, -, -⟩ | ⟨verified, -, -⟩ | ⟨-, -, -, failed⟩
    · cases goes.symm.trans aborts
    · obtain ⟨-, all, -⟩ := of_decide_eq_true verified
      obtain ⟨-, matching⟩ := SoftwareImages.verifies_bytes verified (within all)
      have announced := whole request download asked followed
      refine ⟨context, spare, message, request, download, rfl, asked, followed, ?_, ?_, ?_, ?_⟩
      · rw [← fits.received, ← fits.expected]
        exact congrArg UInt32.toNat all.symm
      · rw [← fits.data, ← announced]
        exact within all
      · rw [← fits.data, ← announced]
        exact matching
      · intro aborting
        have none : ¬ 0 < onu.images.imageSoftwareReceivedSections :=
          fun some => of_decide_eq_false goes ⟨some, aborting⟩
        have zero : onu.images.imageSoftwareReceivedSections.toNat = 0 :=
          Nat.le_zero.mp (UInt32.not_lt.mp none)
        exact List.length_eq_zero_iff.mp (fits.received.symm.trans zero)
    · cases failed
  · rcases apart.internalState with stays | ⟨tx, outside, accepted⟩
    · exact absurd (stays.symm.trans complete) was
    · exact absurd complete (OnuState.not_downloading_after outside accepted).2

def startOf (size : UInt32) : OmciStep :=
  handles (.startSoftwareDownload (some ⟨⟨7, 1⟩, 1, size⟩))

/-- The first section of an image. -/
def firstSection : List UInt8 := List.replicate 31 0x41

def sendFirst : OmciStep := handles (.downloadSection (some ⟨⟨7, 1⟩, 0, firstSection⟩))

def endOf (crc size : UInt32) : OmciStep := handles (.endSoftwareDownload (some ⟨⟨7, 1⟩, crc, size⟩))

/-- The download of an image of one section. -/
theorem completed_only_verified_oneSection : ∃ history onu next download,
    Run (step summingLibrary) (enabledOn .empty) history onu ∧
      step summingLibrary onu
        (endOf (networkByteOrder (summingLibrary.checksum firstSection)) 31) = some next ∧
      next.internalState = .imageDownloadComplete ∧
      history.foldl Download.follow none = some download ∧
      download.imageSize.toNat ≤ download.sections.flatten.length ∧
      download.sections.length = download.expectedSections.toNat := by
  have started : Run (step summingLibrary) (enabledOn .empty) _ _ :=
    Run.start.snoc (rfl : step summingLibrary (enabledOn .empty) (startOf 31) = some _)
  have run := started.snoc (rfl : step summingLibrary _ sendFirst = some _)
  obtain ⟨_, _, _, _, download, -, -, followed, counted, received, -⟩ :=
    completed_only_verified run rfl (meets_snoc.mpr ⟨meets_snoc.mpr ⟨meets_nil _, rfl⟩, rfl⟩)
      (by rfl) (by rintro request current ⟨⟩ ⟨⟩; rfl)
      (rfl : step summingLibrary _
        (endOf (networkByteOrder (summingLibrary.checksum firstSection)) 31) = some _)
      (by decide) rfl
  exact ⟨_, _, _, download, run, rfl, rfl, followed, received, counted⟩

/-- A download of two sections is aborted after the first one, and completed with that. -/
theorem aborted_download_completes : ∃ history onu next download,
    Run (step summingLibrary) (enabledOn .empty) history onu ∧
      step summingLibrary onu (endOf 4294967295 0) = some next ∧
      onu.internalState ≠ .imageDownloadComplete ∧ next.internalState = .imageDownloadComplete ∧
      history.foldl Download.follow none = some download ∧
      download.sections.length ≠ download.expectedSections.toNat := by
  have started : Run (step summingLibrary) (enabledOn .empty) _ _ :=
    Run.start.snoc (rfl : step summingLibrary (enabledOn .empty) (startOf 62) = some _)
  have run := started.snoc (rfl : step summingLibrary _ sendFirst = some _)
  exact ⟨_, _, _, _, run, rfl, by decide, rfl, rfl, by decide⟩

end OmciOnu

end Bbsim.Devices
