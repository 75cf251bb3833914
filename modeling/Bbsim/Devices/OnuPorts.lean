import Bbsim.Omci.ExtendedUpload
import Bbsim.Omci.MibReferences
import Bbsim.Devices.OnuMessages

/-! The ports of an ONU and its MIB. `CreateONU` makes the ports first and then the MIB for their
numbers. Both number the ports from 1, Ethernet UNIs before POTS ports, so a termination point of
the MIB is found again by its instance. -/

namespace Bbsim.Devices

open Foundation Omci

theorem mapM_eq_some_iff {Item Result : Type} {make : Item → Option Result} {items : List Item}
    {results : List Result} :
    items.mapM make = some results ↔ items.map make = results.map some := by
  induction items generalizing results with
  | nil => cases results <;> simp
  | cons item rest ih =>
    rw [List.mapM_cons, List.map_cons]
    cases made : make item with
    | none => cases results <;> simp
    | some first =>
      cases results with
      | nil => simp [Option.bind_eq_some_iff]
      | cons head tail => simp [Option.bind_eq_some_iff, ← ih, and_comm]

def maxUniPorts : UInt32 := 4

/-- `GenerateUniPortEntityId` as an entity id. -/
def portMeId (port : Nat) : UInt16 := UInt16.ofNat (uniPortEntityId port)

/-- `NewUniPort`, with the services that were made for it. -/
def newUniPort (id : UInt32) (services : List Service) : Option UniPort :=
  if id > maxUniPorts - 1 then none
  else some ⟨id, portMeId (id + 1).toNat, 0, .down, services, 0⟩

def newPotsPort (id : UInt32) : PotsPort := ⟨id, portMeId (id + 1).toNat, .down⟩

/-- The ports of `CreateONU`; `none` where it gives up. -/
def createPorts (numUni numPots : Nat) (services : Nat → List Service) :
    Option (List UniPort × List PotsPort) :=
  ((List.range numUni).mapM fun i => newUniPort (UInt32.ofNat i) (services i)).map fun uniPorts =>
    (uniPorts, (List.range' numUni numPots).map fun i => newPotsPort (UInt32.ofNat i))

theorem portMeId_inj {port other : Nat} :
    portMeId port = portMeId other ↔ port % 256 = other % 256 := by
  unfold portMeId
  rw [← UInt16.toNat_inj, UInt16.toNat_ofNat', UInt16.toNat_ofNat', uniPortEntityId_eq,
    uniPortEntityId_eq]
  omega

theorem portMeId_ofNat (index : Nat) :
    portMeId (UInt32.ofNat index + 1).toNat = portMeId (index + 1) := by
  rw [portMeId_inj, UInt32.toNat_add, UInt32.toNat_ofNat', UInt32.toNat_one]
  omega

section

variable {numUni numPots : Nat} {services : Nat → List Service} {uniPorts : List UniPort}
  {potsPorts : List PotsPort}

theorem createPorts_uniPorts
    (created : createPorts numUni numPots services = some (uniPorts, potsPorts)) :
    uniPorts.length = numUni ∧ ∀ index uni, uniPorts[index]? = some uni →
      uni.meId = portMeId (index + 1) := by
  obtain ⟨unis, made, same⟩ := Option.map_eq_some_iff.mp created
  obtain ⟨rfl, -⟩ := Prod.mk.inj same
  have each := mapM_eq_some_iff.mp made
  refine ⟨by simpa using (congrArg List.length each).symm, fun index uni found => ?_⟩
  have here : ((List.range numUni).map fun i => newUniPort (UInt32.ofNat i) (services i))[index]? =
      (unis.map some)[index]? := by rw [each]
  rw [List.getElem?_map, List.getElem?_map, found] at here
  obtain ⟨i, listed, accepted⟩ := Option.map_eq_some_iff.mp here
  obtain ⟨-, rfl⟩ : index < numUni ∧ index = i := by
    simpa [List.getElem?_eq_some_iff] using listed
  obtain ⟨-, made⟩ := Option.ite_none_left_eq_some.mp accepted
  rw [← Option.some.inj made]
  exact portMeId_ofNat index

theorem createPorts_potsPorts
    (created : createPorts numUni numPots services = some (uniPorts, potsPorts)) :
    potsPorts.length = numPots ∧ ∀ index pots, potsPorts[index]? = some pots →
      pots.meId = portMeId (index + (numUni + 1)) := by
  obtain ⟨unis, -, same⟩ := Option.map_eq_some_iff.mp created
  obtain ⟨-, rfl⟩ := Prod.mk.inj same
  refine ⟨by simp, fun index pots found => ?_⟩
  rw [List.getElem?_map] at found
  obtain ⟨i, listed, rfl⟩ := Option.map_eq_some_iff.mp found
  obtain ⟨-, rfl⟩ : index < numPots ∧ numUni + index = i := by
    simpa [List.getElem?_eq_some_iff] using listed
  exact (portMeId_ofNat (numUni + index)).trans (congrArg portMeId (by omega))

end

/-- A port is found by the instance of its termination point. -/
structure PortsResolved (entries : List MibDbEntry) (onu : Onu) : Prop where
  unis : ∀ index entityId,
    (instancesOf PhysicalPathTerminationPointEthernetUni.classID entries)[index]? = some entityId →
      onu.findUniByEntityId (UInt16.ofNat entityId) = some index
  pots : ∀ index entityId,
    (instancesOf PhysicalPathTerminationPointPotsUni.classID entries)[index]? = some entityId →
      onu.findPotsByEntityId (UInt16.ofNat entityId) = some index

/-- Ports with distinct entity ids are found by them. -/
theorem findIdx?_of_distinct {Port : Type} {ports : List Port} (meId : Port → UInt16)
    {first index : Nat} {entity : UInt16} (small : ports.length + first ≤ 256)
    (inside : index < ports.length) (same : entity = portMeId (index + first))
    (named : ∀ index port, ports[index]? = some port → meId port = portMeId (index + first)) :
    (ports.findIdx? fun port => meId port = entity) = some index := by
  refine List.findIdx?_eq_some_iff_getElem.mpr ⟨inside, ?_, fun earlier before => ?_⟩
  · simpa [same] using named index _ (List.getElem?_eq_getElem inside)
  · have other := named earlier _ (List.getElem?_eq_getElem (by omega))
    rw [other, same, decide_eq_true_eq, portMeId_inj]
    omega

section

variable {numUni numPots : Nat} {services : Nat → List Service} {technology : PonTechnology}
  {config : MibConfig} {onu : Onu}

private theorem portsResolved (few : numUni + numPots ≤ 16)
    (created : createPorts numUni numPots services = some (onu.uniPorts, onu.potsPorts)) :
    PortsResolved (baselineItems numUni numPots technology config) onu := by
  obtain ⟨uniCount, uniIds⟩ := createPorts_uniPorts created
  obtain ⟨potsCount, potsIds⟩ := createPorts_potsPorts created
  constructor
  · intro index entityId found
    rw [instancesOf_baselineItems _ _ _ _ (by decide), instancesOf_pptpEthernet,
      List.getElem?_map] at found
    obtain ⟨port, listed, rfl⟩ := Option.map_eq_some_iff.mp found
    obtain ⟨inside, rfl⟩ : index < numUni ∧ 1 + index = port := by
      simpa [List.getElem?_eq_some_iff] using listed
    exact findIdx?_of_distinct UniPort.meId (by omega) (by omega)
      (congrArg portMeId (Nat.add_comm 1 index)) uniIds
  · intro index entityId found
    rw [instancesOf_baselineItems _ _ _ _ (by decide), instancesOf_pptpPots,
      List.getElem?_map] at found
    obtain ⟨port, listed, rfl⟩ := Option.map_eq_some_iff.mp found
    obtain ⟨inside, rfl⟩ : index < numPots ∧ 1 + numUni + index = port := by
      simpa [List.getElem?_eq_some_iff] using listed
    exact findIdx?_of_distinct PotsPort.meId (by omega) (by omega)
      (congrArg portMeId (by omega)) potsIds

/-- The references of a MIB are intact, and its termination points lead to the ports they were made
for, exactly if the ONU has sixteen ports at most. -/
theorem mib_references_iff {mibDb : MibDb}
    (created : createPorts numUni numPots services = some (onu.uniPorts, onu.potsPorts))
    (generated : generateMibDatabase onu.uniPorts.length onu.potsPorts.length technology config =
      some mibDb) :
    (References mibDb.baselineItems ∧ PortsResolved mibDb.baselineItems onu) ↔
      numUni + numPots ≤ 16 := by
  obtain ⟨responses, -, rfl⟩ := Option.map_eq_some_iff.mp generated
  rw [(createPorts_uniPorts created).1, (createPorts_potsPorts created).1]
  refine ⟨fun intact => (references_iff technology config).mp intact.1, fun few => ?_⟩
  exact ⟨(references_iff technology config).mpr few, portsResolved few created⟩

end

/-- An ONU with ports as `CreateONU` makes them, without services. -/
def onuWithPorts (numUni numPots : Nat) : Onu :=
  let ports := (createPorts numUni numPots fun _ => []).getD ([], [])
  .create 1 0 0 [] ports.1 ports.2 10

theorem mib_references_two_ports : ∃ mibDb,
    createPorts 1 1 (fun _ => []) =
        some ((onuWithPorts 1 1).uniPorts, (onuWithPorts 1 1).potsPorts) ∧
      generateMibDatabase 1 1 .xgspon ⟨false, false⟩ = some mibDb ∧
      References mibDb.baselineItems ∧ PortsResolved mibDb.baselineItems (onuWithPorts 1 1) := by
  have fits := (uploadExact_iff_last 1 1 .xgspon ⟨false, false⟩ (by decide +kernel)).mpr
    (by decide +kernel)
  obtain ⟨mibDb, generated, -⟩ := fits
  have created : createPorts 1 1 (fun _ => []) =
      some ((onuWithPorts 1 1).uniPorts, (onuWithPorts 1 1).potsPorts) := rfl
  exact ⟨mibDb, created, generated, (mib_references_iff created generated).mpr (by decide)⟩

/-- With seventeen ports, queues of the first and of the last one have the same instances. -/
theorem seventeen_ports_share_queues : ∃ mibDb,
    createPorts 1 16 (fun _ => []) =
        some ((onuWithPorts 1 16).uniPorts, (onuWithPorts 1 16).potsPorts) ∧
      generateMibDatabase 1 16 .xgspon ⟨false, false⟩ = some mibDb ∧
      ¬ (instancesOf PriorityQueue.classID mibDb.baselineItems).Nodup := by
  have fits := (uploadExact_iff_last 1 16 .xgspon ⟨false, false⟩ (by decide +kernel)).mpr
    (by decide +kernel)
  obtain ⟨mibDb, generated, -⟩ := fits
  refine ⟨mibDb, rfl, generated, ?_⟩
  obtain ⟨responses, -, rfl⟩ := Option.map_eq_some_iff.mp generated
  rw [instancesOf_baselineItems _ _ _ _ (by decide), instancesOf_priorityQueues, queueIds_nodup_iff]
  decide

end Bbsim.Devices
