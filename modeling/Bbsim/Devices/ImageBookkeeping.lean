import Bbsim.Devices.OmciRun

/-! Versions of the two software images. An ONU keeps three version strings, of the active, the
standby and the committed image, and the instance numbers of the active and the committed one. What
it reports for an instance is put together from them. -/

namespace Bbsim.Omci.SoftwareImages

open Devices Foundation

variable {images : SoftwareImages} {entity : UInt16}

/-- Active and committed are one of the instances 0 and 1. -/
structure OfTwo (images : SoftwareImages) : Prop where
  active : images.activeImageEntityId = 0 ∨ images.activeImageEntityId = 1
  committed : images.committedImageEntityId = 0 ∨ images.committedImageEntityId = 1

/-- One instance is reported active and one committed. -/
def OneEach (images : SoftwareImages) : Prop :=
  (images.reported 0).isActive ≠ (images.reported 1).isActive ∧
    (images.reported 0).isCommitted ≠ (images.reported 1).isCommitted

theorem OfTwo.oneEach (two : images.OfTwo) : images.OneEach := by
  obtain ⟨active | active, committed | committed⟩ := two <;>
    simp [OneEach, reported, active, committed]

def versionOf (images : SoftwareImages) (entity : UInt16) : List UInt8 :=
  (images.reported entity).version

/-- The versions of both instances are reported as before. -/
def SameVersions (images next : SoftwareImages) : Prop :=
  next.versionOf 0 = images.versionOf 0 ∧ next.versionOf 1 = images.versionOf 1

/-- A version is reported otherwise only for the instance that a download ended for. -/
def ChangesOnly (images next : SoftwareImages) (ended : Option UInt16) : Prop :=
  ∀ entity, entity = 0 ∨ entity = 1 → next.versionOf entity ≠ images.versionOf entity →
    ended = some entity

variable {next : SoftwareImages} {ended : Option UInt16}

theorem SameVersions.changesOnly (same : images.SameVersions next) : images.ChangesOnly next ended := by
  rintro entity (rfl | rfl) changed
  · exact absurd same.1 changed
  · exact absurd same.2 changed

theorem changesOnly_none_iff : images.ChangesOnly next none ↔ images.SameVersions next := by
  refine ⟨fun only => ⟨?_, ?_⟩, SameVersions.changesOnly⟩
  · by_contra changed
    cases only 0 (.inl rfl) changed
  · by_contra changed
    cases only 1 (.inr rfl) changed

def activeOctets (images : SoftwareImages) : List UInt8 := versionOctets images.activeImageVersion
def standbyOctets (images : SoftwareImages) : List UInt8 := versionOctets images.standbyImageVersion
def committedOctets (images : SoftwareImages) : List UInt8 := versionOctets images.committedImageVersion
def inDownloadOctets (images : SoftwareImages) : List UInt8 := versionOctets images.inDownloadImageVersion

@[simp] theorem activate_activeOctets : (images.activate entity).activeOctets = images.standbyOctets := rfl
@[simp] theorem activate_standbyOctets : (images.activate entity).standbyOctets = images.activeOctets := rfl
@[simp] theorem activate_committedOctets :
    (images.activate entity).committedOctets = images.committedOctets := rfl
@[simp] theorem commit_activeOctets : (images.commit entity).activeOctets = images.activeOctets := rfl
@[simp] theorem commit_standbyOctets :
    (images.commit entity).standbyOctets = images.committedOctets := rfl
@[simp] theorem commit_committedOctets :
    (images.commit entity).committedOctets = images.activeOctets := rfl

theorem versionOf_eq : images.versionOf entity =
    if entity = images.committedImageEntityId then images.committedOctets
    else if entity = images.activeImageEntityId then images.activeOctets
    else images.standbyOctets := by
  simp only [versionOf, reported]
  split
  · rfl
  · split <;> rfl

/-- An Activate names the image that is not active, or both have one version. -/
def admitsActivate (images : SoftwareImages) (entity : UInt16) : Bool :=
  entity ≠ images.activeImageEntityId ∨ images.activeOctets = images.standbyOctets

theorem activate_sameVersions_iff (two : images.OfTwo) (named : entity = 0 ∨ entity = 1) :
    images.SameVersions (images.activate entity) ↔ images.admitsActivate entity = true := by
  obtain ⟨active | active, committed | committed⟩ := two <;> rcases named with rfl | rfl <;>
    simp [SameVersions, versionOf_eq, admitsActivate, active, committed] <;> grind

/-- A Commit names the active image while the other one is committed, or the versions that would
change places are the same. -/
def admitsCommit (images : SoftwareImages) (entity : UInt16) : Bool :=
  if images.activeImageEntityId = images.committedImageEntityId then
    images.standbyOctets = images.activeOctets ∧
      (entity = images.activeImageEntityId → images.committedOctets = images.activeOctets)
  else entity = images.activeImageEntityId ∨ images.committedOctets = images.activeOctets

theorem commit_sameVersions_iff (two : images.OfTwo) (named : entity = 0 ∨ entity = 1) :
    images.SameVersions (images.commit entity) ↔ images.admitsCommit entity = true := by
  obtain ⟨active | active, committed | committed⟩ := two <;> rcases named with rfl | rfl <;>
    simp [SameVersions, versionOf_eq, admitsCommit, active, committed] <;> grind

/-- The standby image is the one the End names, or is not reported at all, or keeps its version. -/
def admitsEnd (images : SoftwareImages) (entity : UInt16) : Bool :=
  images.activeImageEntityId ≠ images.committedImageEntityId ∨
    entity ≠ images.activeImageEntityId ∨ images.inDownloadOctets = images.standbyOctets

@[simp] theorem verified_activeOctets : images.verified.activeOctets = images.activeOctets := rfl
@[simp] theorem verified_standbyOctets : images.verified.standbyOctets = images.inDownloadOctets := rfl
@[simp] theorem verified_committedOctets : images.verified.committedOctets = images.committedOctets := rfl

theorem verified_changesOnly_iff (two : images.OfTwo) (named : entity = 0 ∨ entity = 1) :
    images.ChangesOnly images.verified (some entity) ↔ images.admitsEnd entity = true := by
  have both : images.ChangesOnly images.verified (some entity) ↔
      (images.verified.versionOf 0 ≠ images.versionOf 0 → entity = 0) ∧
        (images.verified.versionOf 1 ≠ images.versionOf 1 → entity = 1) := by
    simp [ChangesOnly]
  rw [both]
  obtain ⟨active | active, committed | committed⟩ := two <;> rcases named with rfl | rfl <;>
    simp [versionOf_eq, admitsEnd, active, committed]

/-- What a request may do to the versions, by the state before it. -/
def admits (checksum : List UInt8 → UInt32) (images : SoftwareImages) (spare : List UInt8) :
    RequestLayer → Bool
  | .activateSoftware (some request) => images.admitsActivate request.entityInstance
  | .commitSoftware (some request) => images.admitsCommit request.entityInstance
  | .endSoftwareDownload (some request) =>
    !images.verifies checksum spare request || images.admitsEnd request.entityInstance
  | _ => true

/-- A section changes no version that is reported. -/
theorem downloadSection_sameVersions {request : DownloadSectionRequest}
    (appended : images.downloadSection request = .ok next) : images.SameVersions next := by
  rw [downloadSection_eq appended]
  exact ⟨rfl, rfl⟩

end Bbsim.Omci.SoftwareImages

namespace Bbsim.Devices

open Foundation Omci

/-- A request on a software image names instance 0 or 1. -/
def namesImage (request : RequestLayer) : Bool :=
  !concernsImages request || request.target.any fun packet =>
    packet.entityInstance = 0 ∨ packet.entityInstance = 1

/-- The instance of an End that was answered with success. -/
def endedInstance (request : RequestLayer) (response : Option ResponsePacket) : Option UInt16 :=
  match request with
  | .endSoftwareDownload (some layer) =>
    if resultOf response = some .success then some layer.entityInstance else none
  | _ => none

namespace OmciOnu

variable {library : OmciLibrary} {onu next : OmciOnu} {label : OmciStep}

def namesImages : OmciStep → Bool
  | .request _ _ message => namesImage message.request
  | .event .. | .other .. => true

def endAnswered (library : OmciLibrary) (onu : OmciOnu) : OmciStep → Option UInt16
  | .request context spare message =>
    match onu.handleOmciRequest library context spare message with
    | .ok (_, .handled response) => endedInstance message.request response
    | _ => none
  | .event .. | .other .. => none

/-- The version reported for an instance changes only through an End answered with success for it. -/
def Faithful (library : OmciLibrary) (onu : OmciOnu) (label : OmciStep) : Prop :=
  ∀ next, step library onu label = some next →
    onu.images.ChangesOnly next.images (endAnswered library onu label)

/-- The request is skipped, or may do what it does. -/
def keepsVersions (library : OmciLibrary) (onu : OmciOnu) : OmciStep → Bool
  | .request _ spare message =>
    onu.skips || onu.images.admits library.checksum spare message.request
  | .event .. | .other .. => true

theorem faithful_iff (taken : step library onu label = some next) :
    Faithful library onu label ↔
      onu.images.ChangesOnly next.images (endAnswered library onu label) := by
  refine ⟨fun faithful => faithful next taken, fun only other same => ?_⟩
  obtain rfl := Option.some.inj (taken.symm.trans same)
  exact only

private theorem changesOnly_of_same {ended : Option UInt16} (same : next.images = onu.images) :
    onu.images.ChangesOnly next.images ended := by
  rw [same]
  exact SoftwareImages.SameVersions.changesOnly ⟨rfl, rfl⟩

variable {spare : List UInt8}

private theorem admits_of_outside {checksum : List UInt8 → UInt32} {images : SoftwareImages}
    {request : RequestLayer} (outside : concernsImages request = false) :
    images.admits checksum spare request = true := by
  unfold SoftwareImages.admits
  split <;> first | rfl | cases outside

variable {response : Option ResponsePacket} {before after : Progress} {message : OmciMessage}

section

variable (processed : Processed library spare message before after response)
  (two : before.images.OfTwo) (named : namesImage message.request = true)
include processed two named

/-- One processed request. -/
theorem Processed.changesOnly_iff :
    before.images.ChangesOnly after.images (endedInstance message.request response) ↔
      before.images.admits library.checksum spare message.request = true := by
  have untouched (same : after.images = before.images)
      (outside : concernsImages message.request = false) :
      before.images.ChangesOnly after.images (endedInstance message.request response) ↔
        before.images.admits library.checksum spare message.request = true := by
    refine iff_of_true ?_ (admits_of_outside outside)
    rw [same]
    exact SoftwareImages.SameVersions.changesOnly ⟨rfl, rfl⟩
  cases processed with
  | mibReset asked progress => exact untouched (by rw [progress]) (by rw [asked]; rfl)
  | changed result asked answered progress =>
    exact untouched (by rw [progress]; rfl) (concernsImages_of_changesEntity asked)
  | unchanged outside reads unanswered progress => exact untouched (by rw [progress]) outside
  | started request asked answered progress | acknowledged request asked answered progress =>
    subst progress
    rw [asked]
    exact iff_of_true (SoftwareImages.SameVersions.changesOnly ⟨rfl, rfl⟩) rfl
  | received request images asked appended progress =>
    subst progress
    rw [asked]
    refine iff_of_true (SoftwareImages.SameVersions.changesOnly ?_) rfl
    exact SoftwareImages.downloadSection_sameVersions appended
  | activated request asked answered progress =>
    subst progress
    rw [asked] at named ⊢
    exact SoftwareImages.changesOnly_none_iff.trans
      (SoftwareImages.activate_sameVersions_iff two (of_decide_eq_true named))
  | committed request asked answered progress =>
    subst progress
    rw [asked] at named ⊢
    exact SoftwareImages.changesOnly_none_iff.trans
      (SoftwareImages.commit_sameVersions_iff two (of_decide_eq_true named))
  | ended request images success asked judged answered progress =>
    subst progress
    rw [asked] at named ⊢
    rcases SoftwareImages.end_cases judged with ⟨aborts, rfl, -⟩ | ⟨verified, rfl, rfl⟩ |
      ⟨-, unverified, rfl, -⟩
    · rw [SoftwareImages.admits, SoftwareImages.not_verifies_of_aborts aborts]
      exact iff_of_true (SoftwareImages.SameVersions.changesOnly ⟨rfl, rfl⟩) rfl
    · have ended : endedInstance (.endSoftwareDownload (some request)) response =
          some request.entityInstance := if_pos answered
      rw [ended, SoftwareImages.admits, verified]
      exact SoftwareImages.verified_changesOnly_iff two (of_decide_eq_true named)
    · rw [SoftwareImages.admits, unverified]
      exact iff_of_true (SoftwareImages.SameVersions.changesOnly ⟨rfl, rfl⟩) rfl

/-- Requests that name instances 0 and 1 keep to them. -/
theorem Processed.ofTwo : after.images.OfTwo := by
  cases processed with
  | mibReset asked progress | changed result asked answered progress
  | unchanged outside reads unanswered progress | started request asked answered progress
  | acknowledged request asked answered progress =>
    subst progress
    exact ⟨two.active, two.committed⟩
  | received request images asked appended progress =>
    subst progress
    rw [SoftwareImages.downloadSection_eq appended]
    exact ⟨two.active, two.committed⟩
  | activated request asked answered progress =>
    subst progress
    rw [asked] at named
    exact ⟨of_decide_eq_true named, two.committed⟩
  | committed request asked answered progress =>
    subst progress
    rw [asked] at named
    exact ⟨of_decide_eq_true named, of_decide_eq_true named⟩
  | ended request images success asked judged answered progress =>
    subst progress
    rcases SoftwareImages.end_cases judged with ⟨-, rfl, -⟩ | ⟨-, rfl, -⟩ | ⟨-, -, rfl, -⟩ <;>
      exact ⟨two.active, two.committed⟩

end

private theorem step_ofTwo (two : onu.images.OfTwo) (named : namesImages label = true)
    (taken : step library onu label = some next) : next.images.OfTwo := by
  rcases step_cases taken with ⟨context, spare, message, rfl, -, -, same⟩ |
    ⟨context, spare, message, response, rfl, -, -, processed⟩ | ⟨-, apart⟩
  · have kept : next.images = onu.images := congrArg Progress.images same
    rw [kept]
    exact two
  · exact processed.ofTwo two named
  · have kept : next.images = onu.images := apart.images
    rw [kept]
    exact two

theorem step_faithful_iff (two : onu.images.OfTwo) (named : namesImages label = true)
    (taken : step library onu label = some next) :
    Faithful library onu label ↔ keepsVersions library onu label = true := by
  rw [faithful_iff taken]
  rcases step_cases taken with ⟨context, spare, message, rfl, skipped, -, same⟩ |
    ⟨context, spare, message, response, rfl, answered, returned, processed⟩ | ⟨other, apart⟩
  · refine iff_of_true (changesOnly_of_same (congrArg Progress.images same)) ?_
    rw [keepsVersions, skipped, Bool.true_or]
  · rw [endAnswered, returned, keepsVersions, answered, Bool.false_or]
    exact processed.changesOnly_iff two named
  · refine iff_of_true (changesOnly_of_same apart.images) ?_
    cases label with
    | request context spare message => exact absurd rfl (other context spare message)
    | event | other => rfl

/-- In every run on image instances 0 and 1, one instance is reported active and one committed
throughout, and versions change only through successful downloads exactly if no step permutes them
otherwise. -/
theorem image_versions_faithful_iff {start final : OmciOnu} {history : List (OmciOnu × OmciStep)}
    (run : Run (step library) start history final) (two : start.images.OfTwo)
    (named : Meets (fun _ label => namesImages label = true) history) :
    (Meets (fun onu _ => onu.images.OneEach) history ∧ final.images.OneEach) ∧
      (Meets (Faithful library) history ↔
        Meets (fun onu label => keepsVersions library onu label = true) history) := by
  have preserved : ∀ (onu : OmciOnu) label next, onu.images.OfTwo → namesImages label = true →
      step library onu label = some next → next.images.OfTwo :=
    fun onu label next held names taken => step_ofTwo held names taken
  obtain ⟨passed, last⟩ := run.always named two preserved
  refine ⟨⟨fun entry member => (passed entry member).oneEach, last.oneEach⟩, ?_⟩
  exact run.meets_iff named two preserved fun onu label next held names taken =>
    step_faithful_iff held names taken

/-- An image of one section. -/
def smallImage : List UInt8 := List.replicate 31 0x41

/-- The image is downloaded to instance 1, activated and committed. -/
def upgrade : List OmciStep :=
  [handles (.startSoftwareDownload (some ⟨⟨7, 1⟩, 1, 31⟩)),
    handles (.downloadSection (some ⟨⟨7, 1⟩, 0, smallImage⟩)),
    handles (.endSoftwareDownload
      (some ⟨⟨7, 1⟩, networkByteOrder (summingLibrary.checksum smallImage), 31⟩)),
    handles (.activateSoftware (some ⟨7, 1⟩)), handles (.commitSoftware (some ⟨7, 1⟩))]

theorem image_versions_faithful_upgrade : ∃ history final,
    Run (step summingLibrary) (enabledOn .empty) history final ∧
      final.images.reported 1 = ⟨List.replicate 14 0x41, true, true⟩ ∧
      Meets (Faithful summingLibrary) history := by
  obtain ⟨history, final, run, meets, tested⟩ := run_of_guarded_replay
    (fun onu label => keepsVersions summingLibrary onu label = true ∧ namesImages label = true)
    (step summingLibrary) (enabledOn .empty) upgrade
    (fun onu => onu.images.reported 1 = ⟨List.replicate 14 0x41, true, true⟩) (by decide +kernel)
  have keeps : Meets (fun onu label => keepsVersions summingLibrary onu label = true) history :=
    fun entry member => (meets entry member).1
  have named : Meets (fun (_ : OmciOnu) label => namesImages label = true) history :=
    fun entry member => (meets entry member).2
  refine ⟨history, final, run, tested, ?_⟩
  exact (image_versions_faithful_iff run ⟨.inl rfl, .inl rfl⟩ named).2.mpr keeps

/-- A new ONU, which is not in a download at all, is told to activate the image that is active already:
the version reported for the other instance changes. -/
theorem activate_changes_version : ∃ history final,
    Run (step summingLibrary) (enabledOn .empty) history final ∧
      Meets (fun _ label => namesImages label = true) history ∧
      ¬ Meets (Faithful summingLibrary) history := by
  obtain ⟨final, taken⟩ : ∃ final, step summingLibrary (enabledOn .empty)
      (handles (.activateSoftware (some ⟨7, 0⟩))) = some final := ⟨_, rfl⟩
  refine ⟨_, final, Run.start.snoc taken, by simp only [meets_snoc, meets_nil, true_and]; rfl, ?_⟩
  intro faithful
  have only := (meets_snoc.mp faithful).2 final taken 1 (.inr rfl)
  obtain rfl := Option.some.inj taken
  cases only (by decide)

end OmciOnu

end Bbsim.Devices
