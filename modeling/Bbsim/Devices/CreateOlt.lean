import Bbsim.Foundation.Traversal
import Bbsim.Common.PonRanges
import Bbsim.Devices.OnuPorts
import Bbsim.Devices.OpenOltRequests

/-! The OLT of a configuration. `CreateOLT` with all that can end the program. The tags of the
services are counted over the whole OLT, the identities are made of the indices. The NNI and the
servers are not part of the model. -/

namespace Bbsim.Devices

open Foundation Common Omci

/-- How `CreateOLT` ends the program. -/
inductive CreateFault where
  | cannotGetPonConfiguration (pon : Nat)
  | unknownPonPortTechnology (pon : Nat)
  | onusPerPonBiggerThanResourceRangeSize (pon : Nat)
  | cannotCreateUniPort (uni : Nat)
  | cTagLimitReached (service : String)
  | sTagLimitReached (service : String)
  | cannotGenerateMibdb
deriving DecidableEq, Repr

/-- `nextCtag` and `nextStag`. -/
structure Tags where
  cTags : FiniteMap String Int64
  sTags : FiniteMap String Int64

/-- The first service of a name gets the configured tag. Only a tag that is counted up is compared
with the limit. -/
def nextTag (tags : FiniteMap String Int64) (name : String) (tag : Int64) (allocation : String)
    (fault : CreateFault) : Except CreateFault Int64 :=
  match tags.lookup name with
  | none => .ok tag
  | some previous =>
    if allocation = "unique" then
      if previous + 1 > 4096 then .error fault else .ok (previous + 1)
    else .ok previous

/-- The address of a service, from the ids that its ONU is created with. -/
def serviceMac (oltId : Int) (ponPortId onuId uniId : UInt32) (service : Nat) : List UInt8 :=
  [0x2e, UInt8.ofInt oltId, ponPortId.toUInt8, onuId.toUInt8, uniId.toUInt8, UInt8.ofNat service]

def newService (oltId : Int) (ponPortId onuId uniId : UInt32) (entry : ServiceYaml × Nat)
    (tags : Tags) : Except CreateFault (Service × Tags) := do
  let (config, index) := entry
  let cTag ← nextTag tags.cTags config.name config.cTag config.cTagAllocation
    (.cTagLimitReached config.name)
  let sTag ← nextTag tags.sTags config.name config.sTag config.sTagAllocation
    (.sTagLimitReached config.name)
  let service := Service.create (UInt32.ofNat index) config.name
    (serviceMac oltId ponPortId onuId uniId index) cTag.toInt sTag.toInt config.needsEapol
    config.needsDhcp config.needsIgmp config.usPonCTagPriority config.usPonSTagPriority
  return (service, ⟨tags.cTags.insert config.name cTag, tags.sTags.insert config.name sTag⟩)

/-- `NewUniPort` with the services of the UNI. -/
def newUni (oltId : Int) (ponPortId onuId : UInt32) (services : List ServiceYaml) (uni : Nat)
    (tags : Tags) : Except CreateFault (UniPort × Tags) :=
  match newUniPort (UInt32.ofNat uni) [] with
  | none => .error (.cannotCreateUniPort uni)
  | some port => do
    let (made, tags) ←
      traverseWith (newService oltId ponPortId onuId (UInt32.ofNat uni)) services.zipIdx tags
    return ({ port with services := made }, tags)

def newSN (oltId : Int) (intfId onuId : UInt32) : List UInt8 :=
  [0, UInt8.ofInt (oltId.tmod 256), intfId.toUInt8, onuId.toUInt8]

/-- `CreateONU` for the ONU with this index on its PON. -/
def createOnu (loaded : Loaded) (technology : PonTechnology) (pon index : Nat) (tags : Tags) :
    Except CreateFault (OnuConfig × Tags) := do
  let olt := loaded.config.olt
  let ponPortId := UInt32.ofNat pon
  let onuId := UInt32.ofNat (index + 1)
  let numUni := olt.uniPorts.toNat
  let numPots := olt.potsPorts.toNat
  let (uniPorts, tags) ←
    traverseWith (newUni olt.id ponPortId onuId loaded.services) (List.range numUni) tags
  let potsPorts := (List.range' numUni numPots).map fun i => newPotsPort (UInt32.ofNat i)
  let mibConfig := ⟨loaded.config.bbSim.injectOmciUnknownMe,
    loaded.config.bbSim.injectOmciUnknownAttributes⟩
  match generateMibDatabase uniPorts.length potsPorts.length technology mibConfig with
  | none => throw .cannotGenerateMibdb
  | some _ =>
    return (⟨newSN olt.id ponPortId onuId, uniPorts, potsPorts, olt.omciResponseRate⟩, tags)

/-- The ONUs of a PON. -/
def createPon (loaded : Loaded) (pon : Nat) (tags : Tags) :
    Except CreateFault (List OnuConfig × Tags) :=
  match loaded.pons.getPonConfigById pon with
  | none => .error (.cannotGetPonConfiguration pon)
  | some config =>
    match ponTechnologyFromString config.technology with
    | none => .error (.unknownPonPortTechnology pon)
    | some technology =>
      if config.onuRange.endId - config.onuRange.startId + 1 < loaded.config.olt.onusPonPort then
        .error (.onusPerPonBiggerThanResourceRangeSize pon)
      else
        traverseWith (createOnu loaded technology pon)
          (List.range loaded.config.olt.onusPonPort.toNat) tags

/-- The PONs that the OLT gets. -/
def ponIds (loaded : Loaded) : List Nat := List.range loaded.config.olt.ponPorts.toNat

/-- The ONUs of all PONs. -/
def createPons (loaded : Loaded) : Except CreateFault (List (List OnuConfig) × Tags) :=
  traverseWith (createPon loaded) (ponIds loaded) ⟨∅, ∅⟩

def createOlt (loaded : Loaded) : Except CreateFault Olt :=
  (createPons loaded).map fun (configs, _) => Olt.create loaded.config.bbSim.enablePerf configs

/-- The PONs of each range in `GetDeviceInfo`. -/
def deviceRanges (loaded : Loaded) : List (List Nat) :=
  loaded.pons.ranges.map fun range => range.ponRange.ids

/-- A fault other than a missing PON configuration. -/
def CreateFault.Other (fault : CreateFault) : Prop :=
  ∀ pon, fault ≠ .cannotGetPonConfiguration pon

variable {loaded : Loaded}

theorem nextTag_faults {tags : FiniteMap String Int64} {name : String} {tag : Int64} {allocation : String}
    {fault : CreateFault} (other : fault.Other) :
    Yields (nextTag tags name tag allocation fault) CreateFault.Other fun _ => True := by
  unfold nextTag
  split
  · trivial
  · split
    · split
      · exact other
      · trivial
    · trivial

variable {tags : Tags} {oltId : Int}

private theorem newService_faults {ponPortId onuId uniId : UInt32} {entry : ServiceYaml × Nat} :
    Yields (newService oltId ponPortId onuId uniId entry tags) CreateFault.Other fun _ => True := by
  unfold newService
  rw [yields_bind]
  refine (nextTag_faults (by simp [CreateFault.Other])).mono fun _ _ => ?_
  rw [yields_bind]
  exact (nextTag_faults (by simp [CreateFault.Other])).mono fun _ _ => trivial

theorem newUni_faults {ponPortId onuId : UInt32} {services : List ServiceYaml} {uni : Nat} :
    Yields (newUni oltId ponPortId onuId services uni tags) CreateFault.Other fun _ => True := by
  unfold newUni
  split
  · simp [CreateFault.Other]
  · rw [yields_bind]
    refine (yields_traverseWith_items (fun _ _ => True) fun _ _ _ => newService_faults).mono ?_
    exact fun _ _ => trivial

variable {technology : PonTechnology}

private theorem createOnu_faults {pon index : Nat} :
    Yields (createOnu loaded technology pon index tags) CreateFault.Other fun _ => True := by
  unfold createOnu
  rw [yields_bind]
  refine (yields_traverseWith_items (fun _ _ => True) fun _ _ _ => newUni_faults).mono ?_
  rintro ⟨uniPorts, tags⟩ -
  dsimp only
  split
  · exact fun _ => by simp
  · trivial

variable {pon : Nat}

private theorem createPon_faults :
    Yields (createPon loaded pon tags)
      (fun fault => ∀ missing, fault = .cannotGetPonConfiguration missing →
        missing = pon ∧ loaded.pons.getPonConfigById pon = none) fun _ => True := by
  unfold createPon
  split
  · next absent =>
    rintro missing ⟨⟩
    exact ⟨rfl, absent⟩
  · split
    · rintro missing ⟨⟩
    · split
      · rintro missing ⟨⟩
      · refine (yields_traverseWith_items (fun _ _ => True) fun index _ tags => ?_).mono fun _ _ => trivial
        exact createOnu_faults.monoError fun fault other missing same => absurd same (other missing)

theorem createOlt_missing (missing : createOlt loaded = .error (.cannotGetPonConfiguration pon)) :
    pon ∈ ponIds loaded ∧ loaded.pons.getPonConfigById pon = none := by
  have faults : Yields (createOlt loaded)
      (fun fault => ∀ missing, fault = .cannotGetPonConfiguration missing →
        missing ∈ ponIds loaded ∧ loaded.pons.getPonConfigById missing = none) fun _ => True := by
    rw [createOlt, yields_map, createPons]
    refine (yields_traverseWith_items (fun _ _ => True) fun pon member tags => ?_).mono fun _ _ => trivial
    refine createPon_faults.monoError fun fault absent missing same => ?_
    obtain ⟨rfl, none⟩ := absent missing same
    exact ⟨member, none⟩
  exact faults.error missing pon rfl

/-- Every PON of the OLT has one range, every PON that `GetDeviceInfo` announces is on the OLT, and no
PON of the OLT lacks its configuration. -/
structure Buildable (loaded : Loaded) : Prop where
  defined : ∀ pon ∈ ponIds loaded, PonPortsConfig.definitions loaded.pons.ranges pon = 1
  announced : ∀ range ∈ deviceRanges loaded, ∀ pon ∈ range, pon ∈ ponIds loaded
  complete : ∀ pon, createOlt loaded ≠ .error (.cannotGetPonConfiguration pon)

theorem mem_deviceRanges_iff (pon : Nat) :
    (∃ range ∈ deviceRanges loaded, pon ∈ range) ↔
      PonPortsConfig.definitions loaded.pons.ranges pon ≠ 0 := by
  rw [deviceRanges, PonPortsConfig.definitions, Ne, List.countP_eq_zero]
  simp [IdRange.mem_ids]

/-- An accepted configuration can be built exactly if the validated number of PONs is the one the OLT is
built with. -/
theorem accepted_configuration_buildable_iff {cli : CliParams} {files : Files}
    (accepted : loadConfig cli files = .ok loaded) :
    Buildable loaded ↔ loaded.pons.number = loaded.config.olt.ponPorts := by
  obtain ⟨populated, partitioned⟩ := loadConfig_accepted accepted
  obtain ⟨present, -⟩ := populated.positive
  have positive := partitioned.positive
  constructor
  · intro buildable
    rw [← UInt32.toNat_inj]
    apply Nat.le_antisymm
    · -- the last validated port is announced
      by_contra larger
      have last := partitioned.once (loaded.pons.number.toNat - 1) (by omega)
      obtain ⟨range, member, inside⟩ := (mem_deviceRanges_iff _).mpr (by rw [last]; decide)
      have small := List.mem_range.mp (buildable.announced range member _ inside)
      omega
    · -- the last port of the OLT has a range
      by_contra larger
      have last := buildable.defined (loaded.config.olt.ponPorts.toNat - 1)
        (List.mem_range.mpr (by omega))
      rw [partitioned.beyond _ (by omega)] at last
      cases last
  · intro same
    have defined : ∀ pon ∈ ponIds loaded, PonPortsConfig.definitions loaded.pons.ranges pon = 1 := by
      intro pon member
      refine partitioned.once pon ?_
      rw [same]
      exact List.mem_range.mp member
    refine ⟨defined, fun range member pon inside => ?_, fun pon missing => ?_⟩
    · have found := (mem_deviceRanges_iff pon).mp ⟨range, member, inside⟩
      rw [ponIds, List.mem_range, ← same]
      by_contra beyond
      exact found (partitioned.beyond pon (Nat.not_lt.mp beyond))
    · obtain ⟨member, none⟩ := createOlt_missing missing
      rw [getPonConfigById_eq_none_iff, defined pon member] at none
      cases none

/-- The settings that the MIB depends on. -/
def mibConfig (loaded : Loaded) : MibConfig :=
  ⟨loaded.config.bbSim.injectOmciUnknownMe, loaded.config.bbSim.injectOmciUnknownAttributes⟩

/-- The MIB of an ONU can be generated. -/
def MibFits (loaded : Loaded) : Prop :=
  ∀ technology, (generateMibDatabase loaded.config.olt.uniPorts.toNat
    loaded.config.olt.potsPorts.toNat technology (mibConfig loaded)).isSome = true

/-- `createOnu` where the MIB can be generated. -/
def plannedOnu (loaded : Loaded) (pon index : Nat) (tags : Tags) :
    Except CreateFault (OnuConfig × Tags) :=
  let olt := loaded.config.olt
  let ponPortId := UInt32.ofNat pon
  let onuId := UInt32.ofNat (index + 1)
  let numUni := olt.uniPorts.toNat
  let potsPorts := (List.range' numUni olt.potsPorts.toNat).map fun i => newPotsPort (UInt32.ofNat i)
  (traverseWith (newUni olt.id ponPortId onuId loaded.services) (List.range numUni) tags).map
    fun (uniPorts, tags) =>
      (⟨newSN olt.id ponPortId onuId, uniPorts, potsPorts, olt.omciResponseRate⟩, tags)

theorem createOnu_eq {pon index : Nat} (fits : MibFits loaded) :
    createOnu loaded technology pon index tags = plannedOnu loaded pon index tags := by
  unfold createOnu plannedOnu
  dsimp only
  have count : Ensures (traverseWith (newUni loaded.config.olt.id (UInt32.ofNat pon)
      (UInt32.ofNat (index + 1)) loaded.services) (List.range loaded.config.olt.uniPorts.toNat) tags)
      fun result => result.1.length = loaded.config.olt.uniPorts.toNat := by
    refine (yields_traverseWith_items (fun _ _ => True) fun uni _ tags => ?_).mono fun result made => ?_
    · exact newUni_faults.monoError fun _ _ => trivial
    · rw [← made.length_eq, List.length_range]
  cases unis : traverseWith (newUni loaded.config.olt.id (UInt32.ofNat pon)
      (UInt32.ofNat (index + 1)) loaded.services) (List.range loaded.config.olt.uniPorts.toNat) tags with
  | error fault => rfl
  | ok result =>
    obtain ⟨mib, built⟩ := Option.isSome_iff_exists.mp (fits technology)
    rw [mibConfig] at built
    simp only [bind, Except.bind, Except.map, List.length_map, List.length_range', count.value unis, built]
    rfl

/-- The PON has a range that is large enough. -/
def PonAccepted (loaded : Loaded) (pon : Nat) : Prop :=
  ∃ config, loaded.pons.getPonConfigById pon = some config ∧
    ponTechnologyFromString config.technology ≠ none ∧
    ¬ config.onuRange.endId - config.onuRange.startId + 1 < loaded.config.olt.onusPonPort

theorem createPon_eq (fits : MibFits loaded) (accepted : PonAccepted loaded pon) :
    createPon loaded pon =
      traverseWith (plannedOnu loaded pon) (List.range loaded.config.olt.onusPonPort.toNat) := by
  obtain ⟨config, found, technology, large⟩ := accepted
  obtain ⟨known, named⟩ := Option.ne_none_iff_exists'.mp technology
  funext tags
  simp only [createPon, found, named, if_neg large]
  congr
  funext index tags
  exact createOnu_eq fits

/-- The ONUs of an OLT whose PONs are accepted. -/
def plannedOnus (loaded : Loaded) : Option (List (List OnuConfig)) :=
  (traverseWith (fun pon => traverseWith (plannedOnu loaded pon)
    (List.range loaded.config.olt.onusPonPort.toNat)) (ponIds loaded) ⟨∅, ∅⟩).toOption.map Prod.fst

theorem createOlt_eq_of_planned (fits : MibFits loaded)
    (pons : ∀ pon ∈ ponIds loaded, PonAccepted loaded pon) {configs : List (List OnuConfig)}
    (planned : plannedOnus loaded = some configs) :
    createOlt loaded = .ok (.create loaded.config.bbSim.enablePerf configs) := by
  rw [plannedOnus, ← traverseWith_congr fun pon member => createPon_eq fits (pons pon member)] at planned
  obtain ⟨⟨made, tags⟩, returned, rfl⟩ := Option.map_eq_some_iff.mp planned
  rw [createOlt, createPons, eq_ok_of_toOption returned]
  rfl

theorem exists_createOlt (fits : MibFits loaded)
    (pons : ∀ pon ∈ ponIds loaded, PonAccepted loaded pon)
    (planned : (plannedOnus loaded).isSome = true) : ∃ olt, createOlt loaded = .ok olt := by
  obtain ⟨configs, planned⟩ := Option.isSome_iff_exists.mp planned
  exact ⟨_, createOlt_eq_of_planned fits pons planned⟩

/-- A file of services that is empty, and a PON file. -/
def filesWith (pons : PonsYaml) : Files where
  config := fun _ => .unreadable
  services := fun _ => .parsed (some [])
  pons := fun _ => .parsed pons

def onePonYaml : PonsYaml where
  number := some 1
  ranges := some [⟨⟨0, 0⟩, "XGS-PON", ⟨1, 255⟩, ⟨1024, 4096⟩, ⟨1024, 65535⟩⟩]

/-- The defaults with this many PONs, and the file. -/
def loadedOnePon (ponPorts : UInt32) : Loaded where
  config := {
    bbSim := { getDefaultOps.bbSim with ponsConfigFile := "pons.yaml" }
    olt := { getDefaultOps.olt with ponPorts := ponPorts } }
  services := []
  pons := ⟨1, [⟨⟨0, 0⟩, "XGS-PON", ⟨1, 255⟩, ⟨1024, 4096⟩, ⟨1024, 65535⟩⟩]⟩

theorem one_pon_buildable :
    loadConfig { ponPortConfigFile := some "pons.yaml" } (filesWith onePonYaml) = .ok (loadedOnePon 1) ∧
      Buildable (loadedOnePon 1) := by
  have accepted : loadConfig { ponPortConfigFile := some "pons.yaml" } (filesWith onePonYaml) =
      .ok (loadedOnePon 1) := eq_ok_of_toOption (by decide +kernel)
  exact ⟨accepted, (accepted_configuration_buildable_iff accepted).mpr rfl⟩

/-- The MIB of an ONU with four UNIs and no POTS port fits. -/
theorem mib_of_defaults (technology : PonTechnology) :
    (generateMibDatabase 4 0 technology ⟨false, false⟩).isSome = true := by
  have few : (mibSizes 4 0 ⟨false, false⟩).length + (injectedPayloads ⟨false, false⟩).length < 65536 := by
    decide +kernel
  obtain ⟨mib, built, -⟩ := (uploadExact_iff_last 4 0 technology ⟨false, false⟩ few).mpr (by decide +kernel)
  exact Option.isSome_iff_exists.mpr ⟨mib, built⟩

/-- Two PONs on the command line, one in the file. -/
theorem second_pon_missing :
    loadConfig { pon := some 2, ponPortConfigFile := some "pons.yaml" } (filesWith onePonYaml) =
        .ok (loadedOnePon 2) ∧
      createOlt (loadedOnePon 2) = .error (.cannotGetPonConfiguration 1) := by
  refine ⟨eq_ok_of_toOption (by decide +kernel), ?_⟩
  have first : PonAccepted (loadedOnePon 2) 0 := ⟨_, rfl, by decide +kernel, by decide +kernel⟩
  have fits : MibFits (loadedOnePon 2) := mib_of_defaults
  have returns : (createPon (loadedOnePon 2) 0 ⟨∅, ∅⟩).toOption.isSome = true := by
    rw [createPon_eq fits first]
    decide +kernel
  obtain ⟨⟨onus, tags⟩, returned⟩ := Option.isSome_iff_exists.mp returns
  have made := eq_ok_of_toOption returned
  have ids : ponIds (loadedOnePon 2) = [0, 1] := by decide +kernel
  rw [createOlt, createPons, ids, traverseWith, made]
  rfl

end Bbsim.Devices
