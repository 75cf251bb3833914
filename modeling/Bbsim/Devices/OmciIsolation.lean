import Bbsim.Devices.OmciRefinement

/-! OMCI requests and the entries of other ONUs. All ONUs of a PON share the tables of its GEM
ports, ONU ids and alloc ids. A Create, a MIB reset and the stores go by the serial number of the
ONU; a Delete of a GEM port and a Set that frees a T-CONT go by the id alone. -/

namespace Bbsim.Devices

open Foundation Foundation.FiniteMap Omci

namespace PonResources

/-- The entries of all serial numbers but one are the same. -/
structure Isolated (onuSn : SerialRef) (before after : PonResources) : Prop where
  gemPorts : AgreeOutside (· = onuSn) before.allocatedGemPorts after.allocatedGemPorts
  onuIds : AgreeOutside (· = onuSn) before.allocatedOnuIds after.allocatedOnuIds
  allocIds : AgreeOutside (·.onuSn = onuSn) before.allocatedAllocIds after.allocatedAllocIds

variable {resources : PonResources} {onuSn : SerialRef}

theorem isolated_refl : Isolated onuSn resources resources :=
  ⟨agreeOutside_refl, agreeOutside_refl, agreeOutside_refl⟩

private theorem isolated_storeGemPort {gemPortId : UInt16}
    (free : resources.isGemPortAllocated gemPortId = none) :
    Isolated onuSn resources (resources.storeGemPort gemPortId onuSn) :=
  ⟨agreeOutside_insert free rfl, agreeOutside_refl, agreeOutside_refl⟩

theorem isolated_removeGemPort_iff {gemPortId : UInt16} :
    Isolated onuSn resources (resources.removeGemPort gemPortId) ↔
      ∀ owner, resources.isGemPortAllocated gemPortId = some owner → owner = onuSn :=
  ⟨fun isolated => agreeOutside_erase_iff.mp isolated.gemPorts,
    fun own => ⟨agreeOutside_erase_iff.mpr own, agreeOutside_refl, agreeOutside_refl⟩⟩

private theorem isolated_storeAllocId {ponId onuId : UInt32} {entityId allocId : UInt16}
    (free : resources.isAllocIdAllocated ponId onuId entityId = none) :
    Isolated onuSn resources (resources.storeAllocId ponId onuId entityId allocId onuSn) :=
  ⟨agreeOutside_refl, agreeOutside_refl, agreeOutside_insert free rfl⟩

theorem isolated_removeAllocId_iff {ponId onuId : UInt32} {entityId : UInt16} :
    Isolated onuSn resources (resources.removeAllocId ponId onuId entityId) ↔
      ∀ value, resources.isAllocIdAllocated ponId onuId entityId = some value →
        value.onuSn = onuSn :=
  ⟨fun isolated => agreeOutside_erase_iff.mp isolated.allocIds,
    fun own => ⟨agreeOutside_refl, agreeOutside_refl, agreeOutside_erase_iff.mpr own⟩⟩

/-- A MIB reset removes by serial number. -/
theorem isolated_mibReset :
    Isolated onuSn resources
      ((resources.removeAllocIdsForOnuSn onuSn).removeGemPortBySn onuSn) := by
  refine ⟨agreeOutside_filterMap ?_ ?_, agreeOutside_refl, agreeOutside_filterMap ?_ ?_⟩
  · intro _ owner other
    exact if_neg other
  · intro _ owner kept same
    split at same
    · cases same
    · exact (Option.some.inj same).symm
  · intro _ value other
    exact if_neg (Ne.symm other)
  · intro _ value kept same
    split at same
    · cases same
    · exact (Option.some.inj same).symm

end PonResources

open PonResources

namespace AttachedOnu

variable {attached : AttachedOnu} {context : Nat}

/-- A request that frees an id finds it free or held by the ONU itself. -/
def FreesOwn (attached : AttachedOnu) : OmciRequest → Prop
  | .deleteGemPort entity => ∀ owner, attached.resources.isGemPortAllocated entity = some owner →
      owner = attached.onu.serialNumber
  | .setTCont entity allocId => allocId = 255 ∨ allocId = 65535 → ∀ value,
      attached.resources.isAllocIdAllocated attached.onu.ponPortId attached.onu.id entity =
        some value → value.onuSn = attached.onu.serialNumber
  | _ => True

theorem isolated_setTCont_iff {entity allocId : UInt16} :
    Isolated attached.onu.serialNumber attached.resources
        (attached.setTCont entity allocId).1.resources ↔
      attached.FreesOwn (.setTCont entity allocId) := by
  simp only [setTCont, FreesOwn]
  split
  · next frees =>
    simp only [frees, forall_const]
    exact isolated_removeAllocId_iff
  · next stores =>
    refine iff_of_true ?_ fun frees => absurd frees stores
    split
    · exact isolated_refl
    · next free => exact isolated_storeAllocId free

private theorem isolated_createGemPort {entity : UInt16} :
    Isolated attached.onu.serialNumber attached.resources
      (attached.createGemPort entity).1.resources := by
  unfold createGemPort
  split
  · exact isolated_refl
  · split
    · exact isolated_refl
    · next free => exact isolated_storeGemPort free

theorem isolated_processOmci_iff (request : OmciRequest) :
    Ensures (attached.processOmci context request) fun (next, _) =>
      Isolated attached.onu.serialNumber attached.resources next.resources ↔
        attached.FreesOwn request := by
  refine ensures_processOmci_resources.mono fun (next, _) resources => ?_
  dsimp only at resources ⊢
  rw [resources]
  cases request with
  | mibReset => exact iff_of_true isolated_mibReset trivial
  | setTCont entity allocId => exact isolated_setTCont_iff
  | createGemPort entity => exact iff_of_true isolated_createGemPort trivial
  | deleteGemPort entity => exact isolated_removeGemPort_iff
  | _ => exact iff_of_true isolated_refl trivial

end AttachedOnu

namespace OmciOnu

variable {onu next : OmciOnu} {library : OmciLibrary} {context : Nat} {spare : List UInt8}

/-- A Delete of a GEM port, or a Set that frees a T-CONT, finds the id free or held by the ONU
itself. -/
def FreesOwn (onu : OmciOnu) : RequestLayer → Prop
  | .delete (some request) => request.isOf GemPortNetworkCtp.classID = true → ∀ owner,
      onu.attached.resources.isGemPortAllocated request.entityInstance = some owner →
        owner = onu.attached.onu.serialNumber
  | .set (some request) => request.isOf TCont.classID = true → ∀ allocId ∈ request.allocId,
      allocId = 255 ∨ allocId = 65535 → ∀ value,
        onu.attached.resources.isAllocIdAllocated onu.attached.onu.ponPortId onu.attached.onu.id
          request.entityInstance = some value → value.onuSn = onu.attached.onu.serialNumber
  | _ => True

private theorem tcont_only {packet : MeBasePacket} (tcont : packet.isOf TCont.classID = true) :
    packet.isOf PhysicalPathTerminationPointEthernetUni.classID = false ∧
      packet.isOf PhysicalPathTerminationPointPotsUni.classID = false ∧
      packet.isOf OnuG.classID = false := by
  have number : packet.entityClass.toNat = 262 := of_decide_eq_true tcont
  simp only [MeBasePacket.isOf, number]
  decide

private theorem freesOwn_coarseSet {request : SetRequest} {after : OmciOnu × OmciResult}
    (returned : onu.handleSet request = .ok after) :
    onu.attached.FreesOwn (coarseSet request) ↔ onu.FreesOwn (.set (some request)) := by
  by_cases tcont : request.isOf TCont.classID = true
  · obtain ⟨ethernet, pots, onuG⟩ := tcont_only tcont
    cases given : request.allocId with
    | none => simp [handleSet, ethernet, pots, onuG, tcont, given] at returned
    | some allocId =>
      simp [coarseSet, ethernet, pots, onuG, tcont, given, FreesOwn, AttachedOnu.FreesOwn]
  · refine iff_of_true ?_ fun named => absurd named tcont
    unfold coarseSet
    rw [if_neg tcont]
    split
    · trivial
    · split
      · trivial
      · split <;> trivial

private theorem freesOwn_coarse {message : OmciMessage} {after : OmciOnu × Option ResponsePacket}
    (returned : onu.processOmci library context spare message = .ok after) :
    onu.attached.FreesOwn (onu.coarse library spare message.request) ↔
      onu.FreesOwn message.request := by
  cases asked : message.request with
  | set layer =>
    cases layer with
    | none => exact Iff.rfl
    | some request =>
      unfold processOmci at returned
      cases handled : onu.handleSet request with
      | error fault => simp [asked, handled, Except.map] at returned
      | ok changed => exact freesOwn_coarseSet handled
  | delete layer =>
    cases layer with
    | none => exact Iff.rfl
    | some request =>
      simp only [coarse, FreesOwn]
      split
      · next gemPort => simp [AttachedOnu.FreesOwn, gemPort]
      · next other => exact iff_of_true trivial fun gemPort => absurd gemPort other
  | create layer =>
    cases layer with
    | none => exact Iff.rfl
    | some request =>
      simp only [coarse, FreesOwn, iff_true]
      split <;> trivial
  | startSoftwareDownload layer | downloadSection layer | endSoftwareDownload layer
  | activateSoftware layer | commitSoftware layer =>
    cases layer <;> exact Iff.rfl
  | _ => exact Iff.rfl

/-- A request leaves the entries of other serial numbers alone exactly if it is skipped, or frees no
id that another serial number holds. -/
theorem omci_isolation_iff {message : OmciMessage} {outcome : OmciOutcome}
    (returned : onu.handleOmciRequest library context spare message = .ok (next, outcome)) :
    Isolated onu.attached.onu.serialNumber onu.attached.resources next.attached.resources ↔
      onu.skips = true ∨ onu.FreesOwn message.request := by
  rcases handleOmciRequest_cases returned with ⟨skipped, rfl, -⟩ | ⟨answered, response, -, processed⟩
  · exact iff_of_true isolated_refl (.inl skipped)
  · obtain ⟨result, refined⟩ := (processOmci_refines message).value processed
    have isolated := (AttachedOnu.isolated_processOmci_iff _).value refined
    rw [freesOwn_coarse processed] at isolated
    simp only [answered, Bool.false_eq_true, false_or]
    exact isolated

/-- A PON where GEM port 1024 is held under a serial number, and 1025 by the ONU with serial number 1. -/
def heldGemPort (onuSn : SerialRef) : PonResources :=
  (PonResources.empty.storeGemPort 1025 1).storeGemPort 1024 onuSn

def deleteGemPort1024 : OmciMessage := firstMessage (.delete (some ⟨268, 1024⟩))

/-- The ONU, whose serial number is 0, gives its own GEM port back. -/
theorem omci_isolation_ownGemPort : ∃ next outcome,
    (enabledOn (heldGemPort 0)).handleOmciRequest summingLibrary 0 [] deleteGemPort1024 =
        .ok (next, outcome) ∧
      next.attached.resources.isGemPortAllocated 1024 = none ∧
      Isolated 0 (heldGemPort 0) next.attached.resources := by
  have own : (enabledOn (heldGemPort 0)).FreesOwn deleteGemPort1024.request :=
    fun _ owner found => (Option.some.inj found).symm
  obtain ⟨next, outcome, returned, freed⟩ : ∃ next outcome,
      (enabledOn (heldGemPort 0)).handleOmciRequest summingLibrary 0 [] deleteGemPort1024 =
        .ok (next, outcome) ∧ next.attached.resources.isGemPortAllocated 1024 = none :=
    ⟨_, _, rfl, rfl⟩
  exact ⟨next, outcome, returned, freed, (omci_isolation_iff returned).mpr (.inr own)⟩

/-- The same request takes the GEM port of another ONU. -/
theorem delete_takes_foreign_gemPort : ∃ next outcome,
    (enabledOn (heldGemPort 1)).handleOmciRequest summingLibrary 0 [] deleteGemPort1024 =
        .ok (next, outcome) ∧
      ¬ Isolated 0 (heldGemPort 1) next.attached.resources := by
  refine ⟨_, _, rfl, fun isolated => ?_⟩
  have kept := (isolated.gemPorts 1024 1 (by decide)).mp rfl
  cases kept

end OmciOnu

end Bbsim.Devices
