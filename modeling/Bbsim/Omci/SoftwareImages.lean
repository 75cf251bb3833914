import Bbsim.Omci.Messages

/-! The software images of an ONU. What an ONU keeps of its two image instances, and what the
download requests, activation and commit make of it. The ONU's state machine is not part of it. -/

namespace Bbsim.Omci

/-- Panics of the handlers on slices of bytes. -/
inductive ImageFault where
  /-- The first section has no 14 bytes to take the version from. -/
  | shortSection
  /-- The image size of an End is larger than the capacity of the received data. -/
  | shortImage
deriving DecidableEq, Repr

structure SoftwareImages where
  imageSoftwareExpectedSections : UInt32
  imageSoftwareReceivedSections : UInt32
  activeImageEntityId : UInt16
  committedImageEntityId : UInt16
  standbyImageVersion : List UInt8
  activeImageVersion : List UInt8
  inDownloadImageVersion : List UInt8
  committedImageVersion : List UInt8
  imageSectionData : List UInt8
deriving DecidableEq

/-- "BBSM_IMG_0000" with a last digit. -/
def factoryVersion (digit : UInt8) : List UInt8 :=
  [0x42, 0x42, 0x53, 0x4d, 0x5f, 0x49, 0x4d, 0x47, 0x5f, 0x30, 0x30, 0x30, 0x30, 0x30 + digit]

/-- The octets of the version attribute: zeros fill it up. -/
def versionOctets (version : List UInt8) : List UInt8 :=
  version ++ List.replicate (14 - version.length) 0

/-- What a Get on the SoftwareImage class reports for an instance. -/
structure ReportedImage where
  version : List UInt8
  isCommitted : Bool
  isActive : Bool
deriving DecidableEq

def downloadSectionSize : DeviceIdent → UInt32
  | .baseline => 31
  | .extended => 1965

def computeDownloadSectionsCount (deviceIdentifier : DeviceIdent) (imageSize : UInt32) : UInt32 :=
  let omciDownloadSectionSize := downloadSectionSize deviceIdentifier
  let noOfSections := imageSize / omciDownloadSectionSize
  if imageSize % omciDownloadSectionSize > 0 then noOfSections + 1 else noOfSections

/-- The CRC as the code compares it: written little endian and read big endian. -/
def networkByteOrder (crc : UInt32) : UInt32 :=
  (crc &&& 0xff) <<< 24 ||| ((crc >>> 8) &&& 0xff) <<< 16 ||| ((crc >>> 16) &&& 0xff) <<< 8 |||
    crc >>> 24

/-- An End request that gives up the download. -/
def EndSoftwareDownloadRequest.isAbort (request : EndSoftwareDownloadRequest) : Bool :=
  request.imageSize = 0 ∧ request.crc32 = 4294967295

namespace SoftwareImages

/-- The images of a new ONU: instance 0 is active and committed. -/
def create : SoftwareImages where
  imageSoftwareExpectedSections := 0
  imageSoftwareReceivedSections := 0
  activeImageEntityId := 0
  committedImageEntityId := 0
  standbyImageVersion := factoryVersion 0
  activeImageVersion := factoryVersion 1
  inDownloadImageVersion := []
  committedImageVersion := factoryVersion 1
  imageSectionData := []

def reported (images : SoftwareImages) (entityInstance : UInt16) : ReportedImage :=
  let active := entityInstance = images.activeImageEntityId
  let committed := entityInstance = images.committedImageEntityId
  let version :=
    if committed then images.committedImageVersion
    else if active then images.activeImageVersion
    else images.standbyImageVersion
  ⟨versionOctets version, committed, active⟩

@[simps] def startDownload (images : SoftwareImages) (deviceIdentifier : DeviceIdent)
    (request : StartSoftwareDownloadRequest) : SoftwareImages :=
  { images with
    imageSoftwareReceivedSections := 0
    imageSectionData := []
    imageSoftwareExpectedSections := computeDownloadSectionsCount deviceIdentifier request.imageSize }

@[simps] def appendSection (images : SoftwareImages) (sectionData : List UInt8) : SoftwareImages :=
  { images with
    imageSectionData := images.imageSectionData ++ sectionData
    imageSoftwareReceivedSections := images.imageSoftwareReceivedSections + 1 }

/-- The first 14 bytes of an image are its version. -/
def nameVersion (images : SoftwareImages) (sectionData : List UInt8) :
    Except ImageFault SoftwareImages :=
  if images.imageSoftwareReceivedSections = 0 then
    if sectionData.length < 14 then .error .shortSection
    else .ok { images with inDownloadImageVersion := sectionData.take 14 }
  else .ok images

/-- A section without response. -/
def downloadSection (images : SoftwareImages) (request : DownloadSectionRequest) :
    Except ImageFault SoftwareImages :=
  (images.nameVersion request.sectionData).map fun images => images.appendSection request.sectionData

/-- A section with response is appended and counted, no more. -/
def downloadSectionWithResponse (images : SoftwareImages) (request : DownloadSectionRequest) :
    SoftwareImages :=
  images.appendSection request.sectionData

section

variable (checksum : List UInt8 → UInt32)

/-- The bytes an End has the CRC computed of. A slice may reach past the length of the data, into
`spare`: the rest of its capacity, which is the allocator's choice. -/
def imageBytes (images : SoftwareImages) (spare : List UInt8) (imageSize : UInt32) :
    Except ImageFault (List UInt8) :=
  let backing := images.imageSectionData ++ spare
  if backing.length < imageSize.toNat then .error .shortImage
  else .ok (backing.take imageSize.toNat)

/-- `handleEndSoftwareDownloadRequest` on a request whose layer was decoded. -/
def handleEndSoftwareDownloadRequest (images : SoftwareImages) (spare : List UInt8)
    (request : EndSoftwareDownloadRequest) : Except ImageFault (SoftwareImages × Bool) :=
  if 0 < images.imageSoftwareReceivedSections ∧ request.isAbort then
    .ok ({ images with imageSoftwareReceivedSections := 0 }, true)
  else if images.imageSoftwareExpectedSections ≠ images.imageSoftwareReceivedSections then
    .ok (images, false)
  else (images.imageBytes spare request.imageSize).map fun bytes =>
    if request.crc32 ≠ networkByteOrder (checksum bytes) then (images, false)
    else ({ images with standbyImageVersion := images.inDownloadImageVersion }, true)

end

/-- The active and the standby version change places. -/
@[simps] def activate (images : SoftwareImages) (entityInstance : UInt16) : SoftwareImages :=
  { images with
    activeImageEntityId := entityInstance
    activeImageVersion := images.standbyImageVersion
    standbyImageVersion := images.activeImageVersion }

/-- The committed version becomes the standby one. -/
@[simps] def commit (images : SoftwareImages) (entityInstance : UInt16) : SoftwareImages :=
  { images with
    activeImageEntityId := entityInstance
    committedImageEntityId := entityInstance
    standbyImageVersion := images.committedImageVersion
    committedImageVersion := images.activeImageVersion }

variable {checksum : List UInt8 → UInt32} {images next : SoftwareImages} {spare : List UInt8}
  {success : Bool}

theorem downloadSection_eq {request : DownloadSectionRequest}
    (appended : images.downloadSection request = .ok next) :
    next = { images.appendSection request.sectionData with
      inDownloadImageVersion := next.inDownloadImageVersion } := by
  unfold downloadSection nameVersion at appended
  split at appended
  · split at appended
    · cases appended
    · obtain rfl := Except.ok.inj appended
      rfl
  · obtain rfl := Except.ok.inj appended
    rfl

/-- The End gives up a download of which sections came. -/
def aborts (images : SoftwareImages) (request : EndSoftwareDownloadRequest) : Bool :=
  0 < images.imageSoftwareReceivedSections ∧ request.isAbort

/-- The checks of an End that verifies an image: it does not abort the download, all sections came and
the CRC is that of the image. -/
def verifies (checksum : List UInt8 → UInt32) (images : SoftwareImages) (spare : List UInt8)
    (request : EndSoftwareDownloadRequest) : Bool :=
  images.aborts request = false ∧
    images.imageSoftwareExpectedSections = images.imageSoftwareReceivedSections ∧
    (images.imageBytes spare request.imageSize).toOption.any fun bytes =>
      request.crc32 = networkByteOrder (checksum bytes)

/-- The version of a verified image becomes the standby one. -/
@[simps] def verified (images : SoftwareImages) : SoftwareImages :=
  { images with standbyImageVersion := images.inDownloadImageVersion }

variable {request : EndSoftwareDownloadRequest}

theorem not_verifies_of_aborts (aborts : images.aborts request = true) :
    images.verifies checksum spare request = false := by
  simp [verifies, aborts]

/-- An End aborts the download, verifies the image or finds it wrong. -/
theorem end_cases
    (judged : images.handleEndSoftwareDownloadRequest checksum spare request = .ok (next, success)) :
    (images.aborts request = true ∧ next = { images with imageSoftwareReceivedSections := 0 } ∧
        success = true) ∨
      (images.verifies checksum spare request = true ∧ next = images.verified ∧ success = true) ∨
      (images.aborts request = false ∧ images.verifies checksum spare request = false ∧
        next = images ∧ success = false) := by
  unfold handleEndSoftwareDownloadRequest at judged
  split at judged
  · next aborts =>
    cases judged
    exact .inl ⟨decide_eq_true aborts, rfl, rfl⟩
  · next ongoing =>
    have goes : images.aborts request = false := decide_eq_false ongoing
    split at judged
    · next missing =>
      cases judged
      exact .inr (.inr ⟨goes, by simp [verifies, missing], rfl, rfl⟩)
    · next complete =>
      have all := not_not.mp complete
      cases taken : images.imageBytes spare request.imageSize with
      | error fault => simp [taken, Except.map] at judged
      | ok bytes =>
        simp only [taken, Except.map] at judged
        split at judged
        · next differs =>
          cases judged
          exact .inr (.inr ⟨goes, by simp [verifies, taken, Except.toOption, differs], rfl, rfl⟩)
        · next same =>
          cases judged
          refine .inr (.inl ⟨?_, rfl, rfl⟩)
          rw [verifies, decide_eq_true_iff]
          exact ⟨goes, all, by simp [taken, Except.toOption, not_not.mp same]⟩

/-- Where no more bytes are asked for than came, the rest of the capacity plays no part. -/
theorem imageBytes_eq {imageSize : UInt32}
    (within : imageSize.toNat ≤ images.imageSectionData.length) :
    images.imageBytes spare imageSize = .ok (images.imageSectionData.take imageSize.toNat) := by
  have enough : ¬ (images.imageSectionData ++ spare).length < imageSize.toNat := by
    simp only [List.length_append]
    omega
  rw [imageBytes, if_neg enough, List.take_append_of_le_length within]

/-- The bytes of a verified image, where no more are asked for than came. -/
theorem verifies_bytes (verified : images.verifies checksum spare request = true)
    (within : request.imageSize.toNat ≤ images.imageSectionData.length) :
    images.imageSoftwareExpectedSections = images.imageSoftwareReceivedSections ∧
      request.crc32 =
        networkByteOrder (checksum (images.imageSectionData.take request.imageSize.toNat)) := by
  obtain ⟨-, all, matching⟩ := of_decide_eq_true verified
  rw [imageBytes_eq within] at matching
  exact ⟨all, of_decide_eq_true matching⟩

end SoftwareImages

end Bbsim.Omci
