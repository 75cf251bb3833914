import Mathlib.Data.List.Nodup
import Bbsim.Omci.MibContents

/-! References between the entities of the MIB. The instances of the ports, T-CONTs, schedulers and
queues of the database, and the pointers between them. A queue's instance has the number of its port
above the four bits of its priority, all in one byte. -/

namespace Bbsim.Omci

open Foundation

/-- The number that an entity has for an attribute. -/
def ManagedEntity.number? (entity : ManagedEntity) (field : AttributeDefinition) : Option Nat :=
  match entity.attributes.find? fun entry => entry.1 = field with
  | some (_, .number value) => some value
  | _ => none

/-- The instance of an entity of the class. A queue is reported twice, the first time without
attributes. -/
def MibDbEntry.instance? (classID : Nat) : MibDbEntry → Option Nat
  | .entity reported =>
    if reported.classId = classID ∧ !reported.attributes.isEmpty then some reported.entityId else none
  | .packet _ _ => none

/-- The instances of a class, in the order of the database. -/
def instancesOf (classID : Nat) (entries : List MibDbEntry) : List Nat :=
  entries.filterMap (MibDbEntry.instance? classID)

/-- The termination points of ports and the T-CONTs. -/
def queueOwners (entries : List MibDbEntry) : List Nat :=
  instancesOf PhysicalPathTerminationPointEthernetUni.classID entries ++
    instancesOf PhysicalPathTerminationPointPotsUni.classID entries ++
    instancesOf TCont.classID entries

/-- The classes that have an instance for each port, T-CONT or queue. -/
def numberedClasses : List Nat :=
  [PhysicalPathTerminationPointEthernetUni.classID, PhysicalPathTerminationPointPotsUni.classID,
    UniG.classID, TCont.classID, TrafficScheduler.classID, PriorityQueue.classID]

/-- A pointer that is not null is the instance of an entity of the class. -/
def Points (entries : List MibDbEntry) (source : Nat) (field : AttributeDefinition) (target : Nat) :
    Prop :=
  ∀ entity, .entity entity ∈ entries → entity.classId = source →
    ∀ pointer ∈ entity.number? field, pointer ≠ 0 → pointer ∈ instancesOf target entries

/-- Instances are distinct, a queue is related to its port or T-CONT under its own priority, and
pointers lead to entities of the MIB. -/
structure References (entries : List MibDbEntry) : Prop where
  distinct : ∀ classID ∈ numberedClasses, (instancesOf classID entries).Nodup
  relatedPorts : ∀ queue, .entity queue ∈ entries → queue.classId = PriorityQueue.classID →
    ∀ relatedPort ∈ queue.number? PriorityQueue.relatedPort,
      relatedPort / 65536 ∈ queueOwners entries ∧ relatedPort % 65536 = queue.entityId % 16
  schedulers : Points entries PriorityQueue.classID PriorityQueue.trafficSchedulerPointer
    TrafficScheduler.classID
  parents : Points entries TrafficScheduler.classID TrafficScheduler.trafficSchedulerPointer
    TrafficScheduler.classID
  tconts : Points entries TrafficScheduler.classID TrafficScheduler.tContPointer TCont.classID

@[simp] theorem instancesOf_append (classID : Nat) (entries others : List MibDbEntry) :
    instancesOf classID (entries ++ others) =
      instancesOf classID entries ++ instancesOf classID others :=
  List.filterMap_append

theorem instancesOf_flatMap (classID : Nat) (ports : List Nat) (entries : Nat → List MibDbEntry) :
    instancesOf classID (ports.flatMap entries) =
      ports.flatMap fun port => instancesOf classID (entries port) :=
  List.filterMap_flatMap

/-- The classes of the entities that belong to no port and no T-CONT. -/
def equipmentClasses : List Nat :=
  [OnuData.classID, CircuitPack.classID, AniG.classID, Onu2G.classID]

/-- Only entities of equipment classes. -/
def Equipment (entries : List MibDbEntry) : Prop :=
  ∀ entity, .entity entity ∈ entries → entity.classId ∈ equipmentClasses

variable {classID : Nat}

section

variable (ethUniPortCount potsUniPortCount : Nat) (technology : PonTechnology) (config : MibConfig)

/-- The entries of the ports and the T-CONTs. -/
def portItems : List MibDbEntry :=
  (List.range' 1 (ethUniPortCount + potsUniPortCount)).flatMap (uniEntries ethUniPortCount) ++
    (List.range' 1 tconts).flatMap tcontEntries

private theorem equipment_circuitPack (unitType : UInt8) (ports : Nat) (serial : List UInt8)
    (schedulers : Nat) : Equipment (circuitPackEntries unitType ports serial schedulers) := by
  intro entity member
  simp only [circuitPackEntries, List.mem_cons, List.not_mem_nil, or_false,
    MibDbEntry.entity.injEq] at member
  have listed : CircuitPack.classID ∈ equipmentClasses := by decide
  rcases member with rfl | rfl | rfl | rfl <;> exact listed

theorem Equipment.append {entries others : List MibDbEntry} (one : Equipment entries)
    (other : Equipment others) : Equipment (entries ++ others) := by
  intro entity member
  rcases List.mem_append.mp member with first | second
  · exact one entity first
  · exact other entity second

variable {entity : ManagedEntity}

private theorem equipment_singleton (listed : entity.classId ∈ equipmentClasses) :
    Equipment [.entity entity] := by
  intro found member
  obtain rfl : found = entity := by simpa using member
  exact listed

private theorem equipment_packet (classId : Nat) (bytes : List UInt8) :
    Equipment [.packet classId bytes] := by
  intro entity member
  simp at member

theorem baselineItems_portItems : ∃ before after, Equipment before ∧ Equipment after ∧
    baselineItems ethUniPortCount potsUniPortCount technology config =
      before ++ portItems ethUniPortCount potsUniPortCount ++ after := by
  have onuData : Equipment [onuDataEntry] := equipment_singleton (by decide)
  have aniG : Equipment [aniGEntry] := equipment_singleton (by decide)
  have onu2g : Equipment [onu2gEntry] := equipment_singleton (by decide)
  have none : Equipment [] := fun _ member => absurd member List.not_mem_nil
  have potsPack : Equipment (if 0 < potsUniPortCount then
      circuitPackEntries potsUnitType potsUniPortCount circuitPackSerial 16 else []) := by
    split
    · exact equipment_circuitPack _ _ _ _
    · exact none
  have last : Equipment ([if config.injectOmciUnknownAttributes then unknownAttributesEntry
      else onu2gEntry] ++ if config.injectOmciUnknownMe then [unknownMeEntry] else []) := by
    refine .append ?_ ?_
    · split
      · exact equipment_packet _ _
      · exact onu2g
    · split
      · exact equipment_packet _ _
      · exact none
  refine ⟨[onuDataEntry] ++ circuitPackEntries (aniCPType technology) 1 circuitPackAniSerial 0 ++
    [aniGEntry] ++ circuitPackEntries ethernetUnitType ethUniPortCount circuitPackSerial 16 ++ _, _,
    .append (.append (.append (.append onuData (equipment_circuitPack _ _ _ _)) aniG)
      (equipment_circuitPack _ _ _ _)) potsPack, last, ?_⟩
  simp only [baselineItems, portItems, List.append_assoc, List.cons_append, List.nil_append]

/-- Entities of the numbered classes belong to a port or a T-CONT. -/
theorem mem_portItems_of_numbered
    (member : .entity entity ∈ baselineItems ethUniPortCount potsUniPortCount technology config)
    (numbered : entity.classId ∈ numberedClasses) :
    .entity entity ∈ portItems ethUniPortCount potsUniPortCount := by
  have apart : ∀ classID ∈ numberedClasses, classID ∉ equipmentClasses := by decide
  obtain ⟨before, after, beforeEquipment, afterEquipment, shape⟩ :=
    baselineItems_portItems ethUniPortCount potsUniPortCount technology config
  rw [shape, List.mem_append, List.mem_append] at member
  rcases member with (early | inside) | late
  · exact absurd (beforeEquipment entity early) (apart _ numbered)
  · exact inside
  · exact absurd (afterEquipment entity late) (apart _ numbered)

private theorem instancesOf_equipment {entries : List MibDbEntry} (equipment : Equipment entries)
    (numbered : classID ∈ numberedClasses) :
    instancesOf classID entries = [] := by
  have apart : ∀ classID ∈ numberedClasses, classID ∉ equipmentClasses := by decide
  refine List.filterMap_eq_nil_iff.mpr fun entry member => ?_
  cases entry with
  | packet classId bytes => rfl
  | entity reported =>
    have other : reported.classId ≠ classID := fun same =>
      apart classID numbered (same ▸ equipment reported member)
    simp [MibDbEntry.instance?, other]

theorem instancesOf_baselineItems (numbered : classID ∈ numberedClasses) :
    instancesOf classID (baselineItems ethUniPortCount potsUniPortCount technology config) =
      instancesOf classID (portItems ethUniPortCount potsUniPortCount) := by
  obtain ⟨before, after, beforeEquipment, afterEquipment, shape⟩ :=
    baselineItems_portItems ethUniPortCount potsUniPortCount technology config
  rw [shape, instancesOf_append, instancesOf_append, instancesOf_equipment beforeEquipment numbered,
    instancesOf_equipment afterEquipment numbered, List.nil_append, List.append_nil]

end

private theorem instancesOf_cons (classID : Nat) (entity : ManagedEntity) (rest : List MibDbEntry) :
    instancesOf classID (.entity entity :: rest) =
      (if entity.classId = classID ∧ !entity.attributes.isEmpty then [entity.entityId] else []) ++
        instancesOf classID rest := by
  rw [← List.singleton_append, instancesOf_append]
  congr 1
  simp only [instancesOf, MibDbEntry.instance?, List.filterMap_cons, List.filterMap_nil]
  split <;> simp_all

theorem instancesOf_queues (classID count : Nat) (entityId relatedPort : Nat → Nat) (pointer : Nat) :
    instancesOf classID ((List.range count).flatMap fun priority =>
        priorityQueueEntries (entityId priority) (relatedPort priority) pointer) =
      if classID = PriorityQueue.classID then (List.range count).map entityId else [] := by
  rw [instancesOf_flatMap]
  split
  · next same =>
    subst same
    rw [List.map_eq_flatMap]
    rfl
  · next different =>
    refine List.flatMap_eq_nil_iff.mpr fun priority _ => ?_
    simp [priorityQueueEntries, instancesOf, MibDbEntry.instance?, Ne.symm different]

def portQueueId (port priority : Nat) : Nat :=
  entityID cardHolderSlotID (UInt8.ofNat (port * 16 + priority))

def tcontQueueId (number priority : Nat) : Nat :=
  entityID tcontSlotId (UInt8.ofNat (number * 16 + priority))

/-- The class of a port's termination point. -/
def terminationClass (ethUniPortCount port : Nat) : Nat :=
  if port ≤ ethUniPortCount then PhysicalPathTerminationPointEthernetUni.classID
  else PhysicalPathTerminationPointPotsUni.classID

theorem instancesOf_uni (classID ethUniPortCount port : Nat) :
    instancesOf classID (uniEntries ethUniPortCount port) =
      (if terminationClass ethUniPortCount port = classID then [uniPortEntityId port] else []) ++
        ((if UniG.classID = classID then [uniPortEntityId port] else []) ++
          if classID = PriorityQueue.classID then
            (List.range downstreamPriorityQueues).map (portQueueId port) else []) := by
  rw [uniEntries, terminationClass]
  split <;>
    simp only [ethernetUniEntry, potsUniEntry, uniGEntry, instancesOf_cons, instancesOf_queues,
      List.isEmpty_cons, Bool.not_false, and_true] <;> rfl

section

variable (ethUniPortCount potsUniPortCount : Nat)

theorem instancesOf_portItems (classID : Nat) :
    instancesOf classID (portItems ethUniPortCount potsUniPortCount) =
      ((List.range' 1 (ethUniPortCount + potsUniPortCount)).flatMap fun port =>
        instancesOf classID (uniEntries ethUniPortCount port)) ++
      (List.range' 1 tconts).flatMap fun number => instancesOf classID (tcontEntries number) := by
  rw [portItems, instancesOf_append, instancesOf_flatMap, instancesOf_flatMap]

/-- Termination points of ports that are all of one kind. -/
theorem instancesOf_terminations {ports : List Nat} {classID kind : Nat}
    (termination : classID ∈ [PhysicalPathTerminationPointEthernetUni.classID,
      PhysicalPathTerminationPointPotsUni.classID])
    (same : ∀ port ∈ ports, terminationClass ethUniPortCount port = kind) :
    (ports.flatMap fun port => instancesOf classID (uniEntries ethUniPortCount port)) =
      if kind = classID then ports.map uniPortEntityId else [] := by
  have each : ∀ port ∈ ports, instancesOf classID (uniEntries ethUniPortCount port) =
      if kind = classID then [uniPortEntityId port] else [] := by
    intro port member
    have other : UniG.classID ≠ classID ∧ classID ≠ PriorityQueue.classID := by
      rcases List.mem_pair.mp termination with rfl | rfl <;> decide
    rw [instancesOf_uni, same port member, if_neg other.1, if_neg other.2]
    exact List.append_nil _
  rw [List.flatMap_congr each]
  split
  · exact List.map_eq_flatMap.symm
  · simp

theorem instancesOf_terminationPoints
    (termination : classID ∈ [PhysicalPathTerminationPointEthernetUni.classID,
      PhysicalPathTerminationPointPotsUni.classID]) :
    instancesOf classID (portItems ethUniPortCount potsUniPortCount) =
      (if PhysicalPathTerminationPointEthernetUni.classID = classID then
          (List.range' 1 ethUniPortCount).map uniPortEntityId else []) ++
        if PhysicalPathTerminationPointPotsUni.classID = classID then
          (List.range' (1 + ethUniPortCount) potsUniPortCount).map uniPortEntityId else [] := by
  have ethernet : ∀ port ∈ List.range' 1 ethUniPortCount, terminationClass ethUniPortCount port =
      PhysicalPathTerminationPointEthernetUni.classID := by
    intro port member
    obtain ⟨-, upper⟩ := List.mem_range'_1.mp member
    exact if_pos (by omega)
  have pots : ∀ port ∈ List.range' (1 + ethUniPortCount) potsUniPortCount,
      terminationClass ethUniPortCount port = PhysicalPathTerminationPointPotsUni.classID := by
    intro port member
    obtain ⟨lower, -⟩ := List.mem_range'_1.mp member
    exact if_neg (by omega)
  have tcont : ((List.range' 1 tconts).flatMap fun number =>
      instancesOf classID (tcontEntries number)) = [] := by
    rcases List.mem_pair.mp termination with rfl | rfl <;> rfl
  rw [instancesOf_portItems, ← List.range'_append_1, List.flatMap_append,
    instancesOf_terminations _ termination ethernet, instancesOf_terminations _ termination pots,
    tcont, List.append_nil]

theorem instancesOf_pptpEthernet :
    instancesOf PhysicalPathTerminationPointEthernetUni.classID
        (portItems ethUniPortCount potsUniPortCount) =
      (List.range' 1 ethUniPortCount).map uniPortEntityId := by
  rw [instancesOf_terminationPoints _ _ (by decide)]
  exact List.append_nil _

theorem instancesOf_pptpPots :
    instancesOf PhysicalPathTerminationPointPotsUni.classID
        (portItems ethUniPortCount potsUniPortCount) =
      (List.range' (1 + ethUniPortCount) potsUniPortCount).map uniPortEntityId := by
  rw [instancesOf_terminationPoints _ _ (by decide)]
  rfl

/-- Neither class of termination points. -/
theorem terminationClass_ne (port : Nat)
    (other : classID ∉ [PhysicalPathTerminationPointEthernetUni.classID,
      PhysicalPathTerminationPointPotsUni.classID]) :
    terminationClass ethUniPortCount port ≠ classID := by
  rintro rfl
  unfold terminationClass at other
  split at other <;> simp at other

private theorem instancesOf_uniG :
    instancesOf UniG.classID (portItems ethUniPortCount potsUniPortCount) =
      (List.range' 1 (ethUniPortCount + potsUniPortCount)).map uniPortEntityId := by
  have each : ∀ port ∈ List.range' 1 (ethUniPortCount + potsUniPortCount),
      instancesOf UniG.classID (uniEntries ethUniPortCount port) = [uniPortEntityId port] := by
    intro port _
    rw [instancesOf_uni, if_neg (terminationClass_ne _ port (by decide))]
    rfl
  have tcont : ((List.range' 1 tconts).flatMap fun number =>
      instancesOf UniG.classID (tcontEntries number)) = [] :=
    rfl
  rw [instancesOf_portItems, List.flatMap_congr each, tcont, List.append_nil]
  exact List.map_eq_flatMap.symm

/-- Entities that only the T-CONTs have. -/
theorem instancesOf_tcontItems
    (other : classID ∉ [PhysicalPathTerminationPointEthernetUni.classID,
      PhysicalPathTerminationPointPotsUni.classID])
    (apart : UniG.classID ≠ classID ∧ classID ≠ PriorityQueue.classID) :
    instancesOf classID (portItems ethUniPortCount potsUniPortCount) =
      (List.range' 1 tconts).flatMap fun number => instancesOf classID (tcontEntries number) := by
  have none : ((List.range' 1 (ethUniPortCount + potsUniPortCount)).flatMap fun port =>
      instancesOf classID (uniEntries ethUniPortCount port)) = [] := by
    refine List.flatMap_eq_nil_iff.mpr fun port _ => ?_
    rw [instancesOf_uni, if_neg (terminationClass_ne _ port other), if_neg apart.1, if_neg apart.2]
    rfl
  rw [instancesOf_portItems, none, List.nil_append]

theorem instancesOf_tconts :
    instancesOf TCont.classID (portItems ethUniPortCount potsUniPortCount) =
      (List.range' 1 tconts).map fun number => entityID tcontSlotId (UInt8.ofNat number) :=
  instancesOf_tcontItems _ _ (by decide) (by decide)

theorem instancesOf_schedulers :
    instancesOf TrafficScheduler.classID (portItems ethUniPortCount potsUniPortCount) =
      (List.range' 1 tconts).map fun number => entityID cardHolderSlotID (UInt8.ofNat number) :=
  instancesOf_tcontItems _ _ (by decide) (by decide)

/-- The queues of the ports, and then those of the T-CONTs. -/
def queueIds (ports : Nat) : List Nat :=
  ((List.range' 1 ports).flatMap fun port =>
    (List.range downstreamPriorityQueues).map (portQueueId port)) ++
  (List.range' 1 tconts).flatMap fun number =>
    (List.range upstreamPriorityQueues).map (tcontQueueId number)

theorem instancesOf_priorityQueues :
    instancesOf PriorityQueue.classID (portItems ethUniPortCount potsUniPortCount) =
      queueIds (ethUniPortCount + potsUniPortCount) := by
  have each : ∀ port ∈ List.range' 1 (ethUniPortCount + potsUniPortCount),
      instancesOf PriorityQueue.classID (uniEntries ethUniPortCount port) =
        (List.range downstreamPriorityQueues).map (portQueueId port) := by
    intro port _
    rw [instancesOf_uni, if_neg (terminationClass_ne _ port (by decide))]
    rfl
  rw [instancesOf_portItems, List.flatMap_congr each]
  rfl

theorem entityID_eq (high low : UInt8) : entityID high low = high.toNat * 256 + low.toNat := by
  simp [entityID, uint16]

theorem uniPortEntityId_eq (port : Nat) : uniPortEntityId port = 256 + port % 256 := by
  rw [uniPortEntityId, entityID_eq, UInt8.toNat_ofNat']
  rfl

private theorem uniPortEntityId_nodup {first count : Nat} (few : first + count ≤ 256) :
    ((List.range' first count).map uniPortEntityId).Nodup := by
  refine List.Nodup.map_on (fun port member other otherMember same => ?_) List.nodup_range'
  have bounds := List.mem_range'_1.mp member
  have otherBounds := List.mem_range'_1.mp otherMember
  rw [uniPortEntityId_eq, uniPortEntityId_eq] at same
  omega

theorem portQueueId_eq (port priority : Nat) :
    portQueueId port priority = 256 + (port * 16 + priority) % 256 := by
  rw [portQueueId, entityID_eq, UInt8.toNat_ofNat']
  rfl

theorem tcontQueueId_eq (number priority : Nat) :
    tcontQueueId number priority = 32768 + (number * 16 + priority) % 256 := by
  rw [tcontQueueId, entityID_eq, UInt8.toNat_ofNat']
  rfl

/-- The queues of sixteen owners have different instances. -/
theorem queues_nodup {base owners count : Nat} {queueId : Nat → Nat → Nat}
    (numbered : ∀ owner priority, queueId owner priority = base + (owner * 16 + priority) % 256)
    (few : owners ≤ 16) (low : count ≤ 16) :
    ((List.range' 1 owners).flatMap fun owner => (List.range count).map (queueId owner)).Nodup := by
  refine List.nodup_flatMap.mpr ⟨fun owner _ => ?_, ?_⟩
  · refine List.Nodup.map_on (fun priority below other otherBelow same => ?_) List.nodup_range
    rw [List.mem_range] at below otherBelow
    rw [numbered, numbered] at same
    omega
  · have ordered : (List.range' 1 owners).Pairwise (· < ·) := List.pairwise_lt_range'
    refine ordered.imp_of_mem fun listed laterListed before => ?_
    rw [List.mem_range'_1] at listed laterListed
    refine List.disjoint_left.mpr fun queue mine theirs => ?_
    obtain ⟨priority, below, rfl⟩ := List.mem_map.mp mine
    obtain ⟨other, otherBelow, same⟩ := List.mem_map.mp theirs
    rw [List.mem_range] at below otherBelow
    rw [numbered, numbered] at same
    omega

/-- The seventeenth port has the queues of the first. -/
theorem queueIds_nodup_iff (ports : Nat) : (queueIds ports).Nodup ↔ ports ≤ 16 := by
  constructor
  · intro distinct
    by_contra more
    obtain ⟨-, apart⟩ := List.nodup_flatMap.mp (List.nodup_append.mp distinct).1
    have disjoint := List.pairwise_iff_getElem.mp apart 0 16 (by rw [List.length_range']; omega)
      (by rw [List.length_range']; omega) (by decide)
    rw [List.getElem_range', List.getElem_range'] at disjoint
    have queue : 0 ∈ List.range downstreamPriorityQueues := by decide
    refine disjoint (List.mem_map_of_mem queue) ?_
    exact List.mem_map.mpr ⟨0, queue, by rw [portQueueId_eq, portQueueId_eq]⟩
  · intro few
    refine List.nodup_append.mpr ⟨queues_nodup portQueueId_eq few (by decide),
      queues_nodup tcontQueueId_eq (by decide) (by decide), ?_⟩
    intro queue mine other theirs
    obtain ⟨port, -, priority⟩ := List.mem_flatMap.mp mine
    obtain ⟨number, -, otherPriority⟩ := List.mem_flatMap.mp theirs
    obtain ⟨_, -, rfl⟩ := List.mem_map.mp priority
    obtain ⟨_, -, rfl⟩ := List.mem_map.mp otherPriority
    rw [portQueueId_eq, tcontQueueId_eq]
    omega

private theorem instancesOf_nodup (few : ethUniPortCount + potsUniPortCount ≤ 16) :
    ∀ classID ∈ numberedClasses,
      (instancesOf classID (portItems ethUniPortCount potsUniPortCount)).Nodup := by
  simp only [numberedClasses, List.forall_mem_cons, instancesOf_pptpEthernet, instancesOf_pptpPots,
    instancesOf_uniG, instancesOf_tconts, instancesOf_schedulers, instancesOf_priorityQueues]
  refine ⟨uniPortEntityId_nodup (by omega), uniPortEntityId_nodup (by omega),
    uniPortEntityId_nodup (by omega), by decide, by decide, (queueIds_nodup_iff _).mpr few, ?_⟩
  exact fun _ member => absurd member List.not_mem_nil

variable {ethUniPortCount potsUniPortCount} {entity : ManagedEntity}

/-- What a queue is reported with. -/
theorem queue_numbers {queueEntityId relatedPort schedulerPointer : Nat}
    (member : .entity entity ∈ priorityQueueEntries queueEntityId relatedPort schedulerPointer) :
    entity.entityId = queueEntityId ∧
      (∀ found ∈ entity.number? PriorityQueue.relatedPort, found = relatedPort) ∧
      ∀ found ∈ entity.number? PriorityQueue.trafficSchedulerPointer, found = schedulerPointer := by
  simp only [priorityQueueEntries, List.mem_cons, List.not_mem_nil, or_false,
    MibDbEntry.entity.injEq] at member
  rcases member with rfl | rfl
  · refine ⟨rfl, fun found given => ?_, fun found given => ?_⟩ <;> cases given
  · refine ⟨rfl, fun found given => ?_, fun found given => ?_⟩
    · exact (Option.some.inj given).symm
    · exact (Option.some.inj given).symm

/-- The entities of ports and T-CONTs. -/
inductive PortItem (ports : Nat) (entity : ManagedEntity) : Prop where
  /-- A termination point, a UNI-G or a T-CONT, which have no pointers. -/
  | plain (classes : entity.classId ∈ [PhysicalPathTerminationPointEthernetUni.classID,
      PhysicalPathTerminationPointPotsUni.classID, UniG.classID, TCont.classID])
  | scheduler {number : Nat} (listed : number ∈ List.range' 1 tconts)
      (isScheduler : entity.classId = TrafficScheduler.classID)
      (tcont : entity.number? TrafficScheduler.tContPointer =
        some (entityID tcontSlotId (UInt8.ofNat number)))
      (parent : entity.number? TrafficScheduler.trafficSchedulerPointer = some 0)
  | portQueue {port priority : Nat} (listed : port ∈ List.range' 1 ports) (below : priority < 8)
      (queued : .entity entity ∈ priorityQueueEntries (portQueueId port priority)
        (entityID32 cardHolderSlotID (UInt8.ofNat port) priority) 0)
  | tcontQueue {number priority : Nat} (listed : number ∈ List.range' 1 tconts) (below : priority < 8)
      (queued : .entity entity ∈ priorityQueueEntries (tcontQueueId number priority)
        (entityID32 tcontSlotId (UInt8.ofNat number) priority)
        (entityID cardHolderSlotID (UInt8.ofNat number)))

theorem portItem_of_mem (member : .entity entity ∈ portItems ethUniPortCount potsUniPortCount) :
    PortItem (ethUniPortCount + potsUniPortCount) entity := by
  rcases List.mem_append.mp member with inPort | inTcont
  · obtain ⟨port, listed, found⟩ := List.mem_flatMap.mp inPort
    rcases List.mem_cons.mp found with termination | later
    · split at termination
      · obtain rfl := MibDbEntry.entity.inj termination
        exact .plain (.head _)
      · obtain rfl := MibDbEntry.entity.inj termination
        exact .plain (.tail _ (.head _))
    rcases List.mem_cons.mp later with uniG | queue
    · obtain rfl := MibDbEntry.entity.inj uniG
      exact .plain (.tail _ (.tail _ (.head _)))
    obtain ⟨priority, below, queued⟩ := List.mem_flatMap.mp queue
    exact .portQueue listed (List.mem_range.mp below) queued
  · obtain ⟨number, listed, found⟩ := List.mem_flatMap.mp inTcont
    rcases List.mem_cons.mp found with tcont | later
    · obtain rfl := MibDbEntry.entity.inj tcont
      exact .plain (.tail _ (.tail _ (.tail _ (.head _))))
    rcases List.mem_cons.mp later with scheduler | queue
    · obtain rfl := MibDbEntry.entity.inj scheduler
      exact .scheduler listed rfl rfl rfl
    obtain ⟨priority, below, queued⟩ := List.mem_flatMap.mp queue
    exact .tcontQueue listed (List.mem_range.mp below) queued

private theorem uniPortEntityId_mem_queueOwners {port : Nat}
    (listed : port ∈ List.range' 1 (ethUniPortCount + potsUniPortCount)) :
    uniPortEntityId port ∈ queueOwners (portItems ethUniPortCount potsUniPortCount) := by
  rw [← List.range'_append_1, List.mem_append] at listed
  rw [queueOwners, instancesOf_pptpEthernet, instancesOf_pptpPots]
  refine List.mem_append_left _ (List.mem_append.mpr ?_)
  exact listed.imp List.mem_map_of_mem List.mem_map_of_mem

theorem relatedPort_of_mem (member : .entity entity ∈ portItems ethUniPortCount potsUniPortCount)
    (isQueue : entity.classId = PriorityQueue.classID) :
    ∀ relatedPort ∈ entity.number? PriorityQueue.relatedPort,
      relatedPort / 65536 ∈ queueOwners (portItems ethUniPortCount potsUniPortCount) ∧
        relatedPort % 65536 = entity.entityId % 16 := by
  intro relatedPort given
  cases portItem_of_mem member with
  | plain classes => exact absurd (isQueue ▸ classes) (by decide)
  | scheduler listed isScheduler => exact absurd (isScheduler.symm.trans isQueue) (by decide)
  | @portQueue port priority listed below queued =>
    obtain ⟨same, related, -⟩ := queue_numbers queued
    have owner : relatedPort / 65536 = uniPortEntityId port := by
      rw [related relatedPort given, entityID32, uniPortEntityId]
      omega
    rw [owner, same, related relatedPort given, portQueueId_eq, entityID32]
    exact ⟨uniPortEntityId_mem_queueOwners listed, by omega⟩
  | @tcontQueue number priority listed below queued =>
    obtain ⟨same, related, -⟩ := queue_numbers queued
    have owner : relatedPort / 65536 = entityID tcontSlotId (UInt8.ofNat number) := by
      rw [related relatedPort given, entityID32]
      omega
    rw [owner, same, related relatedPort given, tcontQueueId_eq, entityID32]
    refine ⟨List.mem_append_right _ ?_, by omega⟩
    rw [instancesOf_tconts]
    exact List.mem_map_of_mem listed

private theorem points_schedulers :
    Points (portItems ethUniPortCount potsUniPortCount) PriorityQueue.classID
      PriorityQueue.trafficSchedulerPointer TrafficScheduler.classID := by
  intro entity member isQueue pointer given nonzero
  cases portItem_of_mem member with
  | plain classes => exact absurd (isQueue ▸ classes) (by decide)
  | scheduler listed isScheduler => exact absurd (isScheduler.symm.trans isQueue) (by decide)
  | portQueue listed below queued =>
    obtain ⟨-, -, scheduled⟩ := queue_numbers queued
    exact absurd (scheduled pointer given) nonzero
  | tcontQueue listed below queued =>
    obtain ⟨-, -, scheduled⟩ := queue_numbers queued
    rw [scheduled pointer given, instancesOf_schedulers]
    exact List.mem_map_of_mem listed

/-- The two pointers of a scheduler. -/
theorem scheduler_pointers (member : .entity entity ∈ portItems ethUniPortCount potsUniPortCount)
    (isScheduler : entity.classId = TrafficScheduler.classID) :
    (∀ pointer ∈ entity.number? TrafficScheduler.trafficSchedulerPointer, pointer = 0) ∧
      ∀ pointer ∈ entity.number? TrafficScheduler.tContPointer,
        pointer ∈ instancesOf TCont.classID (portItems ethUniPortCount potsUniPortCount) := by
  have queueClass {queueEntityId relatedPort schedulerPointer : Nat}
      (queued : .entity entity ∈ priorityQueueEntries queueEntityId relatedPort schedulerPointer) :
      entity.classId = PriorityQueue.classID := by
    simp only [priorityQueueEntries, List.mem_cons, List.not_mem_nil, or_false,
      MibDbEntry.entity.injEq] at queued
    rcases queued with rfl | rfl <;> rfl
  cases portItem_of_mem member with
  | plain classes => exact absurd (isScheduler ▸ classes) (by decide)
  | scheduler listed _ tcont parent =>
    rw [tcont, parent, instancesOf_tconts]
    refine ⟨fun pointer given => (Option.some.inj given).symm, fun pointer given => ?_⟩
    rw [← Option.some.inj given]
    exact List.mem_map_of_mem listed
  | portQueue listed below queued | tcontQueue listed below queued =>
    exact absurd ((queueClass queued).symm.trans isScheduler) (by decide)

/-- References are intact exactly with sixteen ports at most. -/
theorem references_iff (technology : PonTechnology) (config : MibConfig) :
    References (baselineItems ethUniPortCount potsUniPortCount technology config) ↔
      ethUniPortCount + potsUniPortCount ≤ 16 := by
  have instances {classID : Nat} (numbered : classID ∈ numberedClasses) :=
    instancesOf_baselineItems ethUniPortCount potsUniPortCount technology config numbered
  have owners : queueOwners (baselineItems ethUniPortCount potsUniPortCount technology config) =
      queueOwners (portItems ethUniPortCount potsUniPortCount) := by
    simp only [queueOwners]
    rw [instances (by decide), instances (by decide), instances (by decide)]
  constructor
  · intro references
    have distinct := references.distinct PriorityQueue.classID (by decide)
    rwa [instances (by decide), instancesOf_priorityQueues, queueIds_nodup_iff] at distinct
  · intro few
    have inPorts {entity : ManagedEntity} {classID : Nat}
        (member : .entity entity ∈ baselineItems ethUniPortCount potsUniPortCount technology config)
        (isOf : entity.classId = classID) (numbered : classID ∈ numberedClasses) :=
      mem_portItems_of_numbered _ _ technology config member (isOf.symm ▸ numbered)
    refine ⟨fun classID numbered => ?_, fun queue member isQueue => ?_,
      fun queue member isQueue => ?_, fun scheduler member isScheduler => ?_,
      fun scheduler member isScheduler => ?_⟩
    · rw [instances numbered]
      exact instancesOf_nodup _ _ few classID numbered
    · rw [owners]
      exact relatedPort_of_mem (inPorts member isQueue (by decide)) isQueue
    · rw [instances (by decide)]
      exact points_schedulers queue (inPorts member isQueue (by decide)) isQueue
    · have pointers := scheduler_pointers (inPorts member isScheduler (by decide)) isScheduler
      exact fun pointer given nonzero => absurd (pointers.1 pointer given) nonzero
    · have pointers := scheduler_pointers (inPorts member isScheduler (by decide)) isScheduler
      rw [instances (by decide)]
      exact fun pointer given _ => pointers.2 pointer given

end

end Bbsim.Omci
