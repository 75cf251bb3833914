import Bbsim.Omci.SoftwareImages

/-! A software download as it is sent. An image is cut into sections in order. The last section of
each window, and with it the last section of all, asks for a response. -/

namespace Bbsim.Omci

structure DownloadPlan where
  deviceIdentifier : DeviceIdent
  entity : MeBasePacket
  image : List UInt8
  imageSize : UInt32
  /-- Sections in a window. -/
  windowSize : Nat
  /-- The field of the Start that announces the window; the ONU returns it unread. -/
  windowField : UInt8
  sectionNumber : Nat → UInt8
  /-- Fills up the last section. -/
  padding : List UInt8
  nonempty : image ≠ []
  sized : imageSize.toNat = image.length
  windowed : 1 ≤ windowSize

namespace DownloadPlan

def sectionSize (plan : DownloadPlan) : Nat := (downloadSectionSize plan.deviceIdentifier).toNat

/-- The number of sections, rounded up. -/
def sectionCount (plan : DownloadPlan) : Nat :=
  (plan.image.length + plan.sectionSize - 1) / plan.sectionSize

def sectionData (plan : DownloadPlan) (index : Nat) : List UInt8 :=
  (plan.image.drop (index * plan.sectionSize)).take plan.sectionSize ++
    if index + 1 = plan.sectionCount then plan.padding else []

def endsWindow (plan : DownloadPlan) (index : Nat) : Bool :=
  (index + 1) % plan.windowSize = 0 ∨ index + 1 = plan.sectionCount

def startRequest (plan : DownloadPlan) : RequestLayer :=
  .startSoftwareDownload (some ⟨plan.entity, plan.windowField, plan.imageSize⟩)

def sectionLayer (plan : DownloadPlan) (index : Nat) : DownloadSectionRequest :=
  ⟨plan.entity, plan.sectionNumber index, plan.sectionData index⟩

def sectionRequest (plan : DownloadPlan) (index : Nat) : RequestLayer :=
  if plan.endsWindow index then .downloadSectionWithResponse (some (plan.sectionLayer index))
  else .downloadSection (some (plan.sectionLayer index))

def endLayer (plan : DownloadPlan) (checksum : List UInt8 → UInt32) : EndSoftwareDownloadRequest :=
  ⟨plan.entity, networkByteOrder (checksum plan.image), plan.imageSize⟩

def requests (plan : DownloadPlan) (checksum : List UInt8 → UInt32) : List RequestLayer :=
  plan.startRequest :: ((List.range plan.sectionCount).map plan.sectionRequest ++
    [.endSoftwareDownload (some (plan.endLayer checksum))])

variable {plan : DownloadPlan}

theorem length_pos : 0 < plan.image.length := List.length_pos_iff.mpr plan.nonempty

theorem sectionSize_cases : plan.sectionSize = 31 ∨ plan.sectionSize = 1965 := by
  unfold sectionSize
  cases plan.deviceIdentifier with
  | baseline => exact .inl rfl
  | extended => exact .inr rfl

theorem sectionCount_pos : 1 ≤ plan.sectionCount := by
  have some := plan.length_pos
  unfold sectionCount
  rcases plan.sectionSize_cases with size | size <;> rw [size] <;> omega

theorem length_le_sections : plan.image.length ≤ plan.sectionCount * plan.sectionSize := by
  unfold sectionCount
  rcases plan.sectionSize_cases with size | size <;> rw [size] <;> omega

/-- One section is too few exactly if the image is longer than a section. -/
theorem sectionCount_ne_one : plan.sectionCount ≠ 1 ↔ plan.sectionSize < plan.image.length := by
  have some := plan.length_pos
  unfold sectionCount
  rcases plan.sectionSize_cases with size | size <;> rw [size] <;> omega

theorem sectionCount_lt : plan.sectionCount < 2 ^ 32 := by
  have bounded : plan.image.length < 2 ^ 32 := plan.sized ▸ plan.imageSize.toNat_lt
  have some := plan.length_pos
  unfold sectionCount
  rcases plan.sectionSize_cases with size | size <;> rw [size] <;> omega

/-- The ONU expects as many sections as are sent. -/
theorem expectedSections_toNat :
    (computeDownloadSectionsCount plan.deviceIdentifier plan.imageSize).toNat =
      plan.sectionCount := by
  have bounded : plan.image.length < 2 ^ 32 := plan.sized ▸ plan.imageSize.toNat_lt
  have sized := plan.sized
  unfold computeDownloadSectionsCount sectionCount sectionSize
  cases plan.deviceIdentifier with
  | baseline | extended =>
    simp only [downloadSectionSize, gt_iff_lt, UInt32.lt_iff_toNat_lt, UInt32.toNat_mod,
      UInt32.toNat_ofNat, Nat.reducePow, Nat.reduceMod]
    split <;>
      simp only [UInt32.toNat_add, UInt32.toNat_div, UInt32.toNat_ofNat, Nat.reducePow,
        Nat.reduceMod] <;> omega

/-- The End of a download is none that aborts: the image is not empty. -/
theorem endLayer_isAbort {checksum : List UInt8 → UInt32} :
    (plan.endLayer checksum).isAbort = false := by
  refine decide_eq_false fun aborts => ?_
  have empty : plan.imageSize = 0 := aborts.1
  have sized := plan.sized
  rw [empty] at sized
  exact absurd sized.symm (Nat.pos_iff_ne_zero.mp plan.length_pos)

/-- What the first sections bring. -/
def brought (plan : DownloadPlan) (count : Nat) : List UInt8 :=
  plan.image.take (count * plan.sectionSize) ++
    if count = plan.sectionCount then plan.padding else []

theorem brought_zero : plan.brought 0 = [] := by
  have some := plan.sectionCount_pos
  have none : ¬ 0 = plan.sectionCount := by omega
  simp [brought, none]

theorem brought_succ {count : Nat} (missing : count < plan.sectionCount) :
    plan.brought count ++ plan.sectionData count = plan.brought (count + 1) := by
  have partway : ¬ count = plan.sectionCount := by omega
  simp only [brought, sectionData, if_neg partway, List.append_nil, ← List.append_assoc]
  rw [← List.take_add, Nat.succ_mul]

theorem length_le_brought : plan.image.length ≤ (plan.brought plan.sectionCount).length := by
  rw [brought, List.take_of_length_le plan.length_le_sections, List.length_append]
  exact Nat.le_add_right _ _

/-- The padding is no part of the image. -/
theorem image_of_brought : (plan.brought plan.sectionCount).take plan.imageSize.toNat = plan.image := by
  rw [brought, List.take_of_length_le plan.length_le_sections, plan.sized, List.take_left]

theorem endsWindow_zero_iff : plan.endsWindow 0 = false ↔
    2 ≤ plan.windowSize ∧ plan.sectionSize < plan.image.length := by
  have windowed := plan.windowed
  have single : 1 % plan.windowSize = 0 ↔ plan.windowSize = 1 := by
    constructor
    · intro divides
      by_contra other
      rw [Nat.mod_eq_of_lt (by omega)] at divides
      cases divides
    · intro one
      rw [one]
  rw [← sectionCount_ne_one, endsWindow, decide_eq_false_iff_not, Nat.zero_add, single, not_or]
  constructor
  · rintro ⟨larger, several⟩
    exact ⟨by omega, fun one => several one.symm⟩
  · rintro ⟨larger, several⟩
    exact ⟨by omega, fun one => several one.symm⟩

/-- If the first section ends its window, all sections do. -/
theorem endsWindow_of_zero (first : plan.endsWindow 0 = true) {index : Nat}
    (inside : index < plan.sectionCount) : plan.endsWindow index = true := by
  have windowed := plan.windowed
  rcases of_decide_eq_true first with divides | only
  · have one : plan.windowSize = 1 := by
      by_contra other
      rw [Nat.zero_add, Nat.mod_eq_of_lt (by omega)] at divides
      cases divides
    exact decide_eq_true (.inl (by rw [one, Nat.mod_one]))
  · exact decide_eq_true (.inr (by omega))

/-- A first section that is not the last one holds the version. -/
theorem sectionData_zero (first : plan.endsWindow 0 = false) :
    plan.sectionData 0 = plan.image.take plan.sectionSize ∧
      14 ≤ (plan.sectionData 0).length ∧ (plan.sectionData 0).take 14 = plan.image.take 14 := by
  obtain ⟨-, longer⟩ := plan.endsWindow_zero_iff.mp first
  have several : ¬ 0 + 1 = plan.sectionCount := fun one => sectionCount_ne_one.mpr longer one.symm
  have whole : plan.sectionData 0 = plan.image.take plan.sectionSize := by
    simp [sectionData, several]
  have size := plan.sectionSize_cases
  refine ⟨whole, ?_, ?_⟩
  · rw [whole, List.length_take]
    omega
  · rw [whole, List.take_take]
    congr 1
    omega

end DownloadPlan

end Bbsim.Omci
