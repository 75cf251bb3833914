import Bbsim.Omci.OnuMibDb

/-! The entities of the database and their sizes. -/

namespace Bbsim.Omci

open Foundation

def MibDbEntry.entity? : MibDbEntry → Option ManagedEntity
  | .entity reported => some reported
  | .packet _ _ => none

/-- The prebuilt packets of the database, which come last. -/
def packetItems (config : MibConfig) : List MibDbEntry :=
  (if config.injectOmciUnknownAttributes then [unknownAttributesEntry] else []) ++
    (if config.injectOmciUnknownMe then [unknownMeEntry] else [])

theorem packetItems_prebuilt (config : MibConfig) : PacketEntries (packetItems config) := by
  intro entry member
  rcases List.mem_append.mp member with attributes | unknown
  · split at attributes
    · exact ⟨_, _, List.mem_singleton.mp attributes⟩
    · simp at attributes
  · split at unknown
    · exact ⟨_, _, List.mem_singleton.mp unknown⟩
    · simp at unknown

def mibEntities (ethUniPortCount potsUniPortCount : Nat) (technology : PonTechnology)
    (config : MibConfig) : List ManagedEntity :=
  (baselineItems ethUniPortCount potsUniPortCount technology config).filterMap MibDbEntry.entity?

/-- Sizes of the eight queues of a port or T-CONT, each reported twice. -/
def queueSizes : List Nat := (List.replicate 8 [8, 34]).flatten

/-- Bytes the entities take in an extended response, in their order. -/
def mibSizes (ethUniPortCount potsUniPortCount : Nat) (config : MibConfig) : List Nat :=
  [9, 32, 15, 32, 12, 29, 32, 15, 32, 12] ++
    (if 0 < potsUniPortCount then [32, 15, 32, 12] else []) ++
    (List.replicate ethUniPortCount (25 :: 16 :: queueSizes)).flatten ++
    (List.replicate potsUniPortCount (23 :: 16 :: queueSizes)).flatten ++
    (List.replicate 8 (10 :: 14 :: queueSizes)).flatten ++
    (if config.injectOmciUnknownAttributes then [] else [25])

def entrySizes (entries : List MibDbEntry) : List Nat :=
  (entries.filterMap MibDbEntry.entity?).map entitySize

@[simp] theorem entrySizes_append (entries others : List MibDbEntry) :
    entrySizes (entries ++ others) = entrySizes entries ++ entrySizes others := by
  simp [entrySizes]

theorem entrySizes_nil : entrySizes [] = [] := rfl

theorem entrySizes_cons (entity : ManagedEntity) (rest : List MibDbEntry) :
    entrySizes (.entity entity :: rest) =
      (8 + (sizesInOrder (entity.attributes.map Prod.fst)).sum) :: entrySizes rest := rfl

theorem entrySizes_flatMap (ports : List Nat) (entries : Nat → List MibDbEntry) (sizes : List Nat)
    (same : ∀ port ∈ ports, entrySizes (entries port) = sizes) :
    entrySizes (ports.flatMap entries) = (List.replicate ports.length sizes).flatten := by
  induction ports with
  | nil => rfl
  | cons port ports ih =>
    obtain ⟨head, later⟩ := List.forall_mem_cons.mp same
    simp [List.replicate_succ, head, ih later]

private theorem entrySizes_circuitPack (unitType : UInt8) (ports : Nat) (serial : List UInt8)
    (schedulers : Nat) :
    entrySizes (circuitPackEntries unitType ports serial schedulers) = [32, 15, 32, 12] := by
  simp only [circuitPackEntries, entrySizes_cons, entrySizes_nil, List.map_cons, List.map_nil]
  decide

theorem entrySizes_queues (count : Nat) (entityId relatedPort : Nat → Nat) (pointer : Nat) :
    entrySizes ((List.range count).flatMap fun priority =>
      priorityQueueEntries (entityId priority) (relatedPort priority) pointer) =
        (List.replicate count [8, 34]).flatten := by
  rw [entrySizes_flatMap _ _ [8, 34], List.length_range]
  intro priority _
  simp only [priorityQueueEntries, entrySizes_cons, entrySizes_nil, List.map_cons, List.map_nil]
  decide

theorem entrySizes_ethernetUni {ethUniPortCount port : Nat} (ethernet : port ≤ ethUniPortCount) :
    entrySizes (uniEntries ethUniPortCount port) = 25 :: 16 :: queueSizes := by
  simp only [uniEntries, if_pos ethernet, ethernetUniEntry, uniGEntry, entrySizes_cons,
    entrySizes_queues, List.map_cons, List.map_nil]
  decide

private theorem entrySizes_potsUni {ethUniPortCount port : Nat} (pots : ethUniPortCount < port) :
    entrySizes (uniEntries ethUniPortCount port) = 23 :: 16 :: queueSizes := by
  simp only [uniEntries, if_neg (Nat.not_le.mpr pots), potsUniEntry, uniGEntry, entrySizes_cons,
    entrySizes_queues, List.map_cons, List.map_nil]
  decide

private theorem entrySizes_tcont (number : Nat) :
    entrySizes (tcontEntries number) = 10 :: 14 :: queueSizes := by
  simp only [tcontEntries, entrySizes_cons, entrySizes_queues, List.map_cons, List.map_nil]
  decide

private theorem entrySizes_unis (ethUniPortCount potsUniPortCount : Nat) :
    entrySizes ((List.range' 1 (ethUniPortCount + potsUniPortCount)).flatMap
        (uniEntries ethUniPortCount)) =
      (List.replicate ethUniPortCount (25 :: 16 :: queueSizes)).flatten ++
        (List.replicate potsUniPortCount (23 :: 16 :: queueSizes)).flatten := by
  have ethernet : entrySizes ((List.range' 1 ethUniPortCount).flatMap (uniEntries ethUniPortCount)) =
      (List.replicate ethUniPortCount (25 :: 16 :: queueSizes)).flatten := by
    rw [entrySizes_flatMap _ _ (25 :: 16 :: queueSizes), List.length_range']
    intro port member
    obtain ⟨_, upper⟩ := List.mem_range'_1.mp member
    exact entrySizes_ethernetUni (by omega)
  have pots : entrySizes ((List.range' (1 + ethUniPortCount) potsUniPortCount).flatMap
      (uniEntries ethUniPortCount)) =
        (List.replicate potsUniPortCount (23 :: 16 :: queueSizes)).flatten := by
    rw [entrySizes_flatMap _ _ (23 :: 16 :: queueSizes), List.length_range']
    intro port member
    obtain ⟨lower, _⟩ := List.mem_range'_1.mp member
    exact entrySizes_potsUni (by omega)
  rw [← List.range'_append_1, List.flatMap_append, entrySizes_append, ethernet, pots]

theorem mibEntities_sizes (ethUniPortCount potsUniPortCount : Nat) (technology : PonTechnology)
    (config : MibConfig) :
    (mibEntities ethUniPortCount potsUniPortCount technology config).map entitySize =
      mibSizes ethUniPortCount potsUniPortCount config := by
  have tcontSizes : entrySizes ((List.range' 1 tconts).flatMap tcontEntries) =
      (List.replicate 8 (10 :: 14 :: queueSizes)).flatten :=
    entrySizes_flatMap _ _ _ fun number _ => entrySizes_tcont number
  have onuData : entrySizes [onuDataEntry] = [9] := by decide
  have aniG : entrySizes [aniGEntry] = [29] := by decide
  have first : entrySizes (onuDataEntry ::
      circuitPackEntries (aniCPType technology) 1 circuitPackAniSerial 0) = [9, 32, 15, 32, 12] := by
    rw [← List.singleton_append, entrySizes_append, onuData, entrySizes_circuitPack]
    rfl
  have second : entrySizes (aniGEntry ::
      circuitPackEntries ethernetUnitType ethUniPortCount circuitPackSerial 16) =
        [29, 32, 15, 32, 12] := by
    rw [← List.singleton_append, entrySizes_append, aniG, entrySizes_circuitPack]
    rfl
  have potsPack : entrySizes (if 0 < potsUniPortCount then
      circuitPackEntries potsUnitType potsUniPortCount circuitPackSerial 16 else []) =
        if 0 < potsUniPortCount then [32, 15, 32, 12] else [] := by
    split
    · exact entrySizes_circuitPack _ _ _ _
    · rfl
  have onu2g : entrySizes [if config.injectOmciUnknownAttributes then unknownAttributesEntry
      else onu2gEntry] = if config.injectOmciUnknownAttributes then [] else [25] := by
    split
    · rfl
    · decide
  have unknownMe : entrySizes (if config.injectOmciUnknownMe then [unknownMeEntry] else []) = [] := by
    split <;> rfl
  change entrySizes (baselineItems _ _ _ _) = _
  simp only [baselineItems, mibSizes, entrySizes_append, first, second, potsPack, entrySizes_unis,
    tcontSizes, onu2g, unknownMe, List.append_assoc, List.append_nil]
  rfl

def entitiesOnly (entries : List MibDbEntry) : List MibDbEntry :=
  (entries.filterMap MibDbEntry.entity?).map .entity

@[simp] theorem entitiesOnly_append (entries others : List MibDbEntry) :
    entitiesOnly (entries ++ others) = entitiesOnly entries ++ entitiesOnly others := by
  simp [entitiesOnly]

theorem entitiesOnly_flatMap (ports : List Nat) (entries : Nat → List MibDbEntry)
    (kept : ∀ port, entitiesOnly (entries port) = entries port) :
    entitiesOnly (ports.flatMap entries) = ports.flatMap entries := by
  induction ports with
  | nil => rfl
  | cons port ports ih => rw [List.flatMap_cons, entitiesOnly_append, kept, ih]

theorem entitiesOnly_cons (entity : ManagedEntity) (rest : List MibDbEntry) :
    entitiesOnly (.entity entity :: rest) = .entity entity :: entitiesOnly rest := rfl

private theorem entitiesOnly_uni (ethUniPortCount port : Nat) :
    entitiesOnly (uniEntries ethUniPortCount port) = uniEntries ethUniPortCount port := by
  rw [uniEntries]
  split <;>
  · simp only [ethernetUniEntry, potsUniEntry, uniGEntry, entitiesOnly_cons]
    rw [entitiesOnly_flatMap _ _ fun _ => rfl]

private theorem entitiesOnly_tcont (number : Nat) :
    entitiesOnly (tcontEntries number) = tcontEntries number := by
  simp only [tcontEntries, entitiesOnly_cons]
  rw [entitiesOnly_flatMap _ _ fun _ => rfl]

/-- All entries but the prebuilt packets at the end are entities. -/
theorem baselineItems_eq (ethUniPortCount potsUniPortCount : Nat) (technology : PonTechnology)
    (config : MibConfig) :
    baselineItems ethUniPortCount potsUniPortCount technology config =
      (mibEntities ethUniPortCount potsUniPortCount technology config).map .entity ++
        packetItems config := by
  have potsPack : entitiesOnly (if 0 < potsUniPortCount then
      circuitPackEntries potsUnitType potsUniPortCount circuitPackSerial 16 else []) =
        if 0 < potsUniPortCount then
          circuitPackEntries potsUnitType potsUniPortCount circuitPackSerial 16 else [] := by
    split <;> rfl
  have first : entitiesOnly (onuDataEntry ::
      circuitPackEntries (aniCPType technology) 1 circuitPackAniSerial 0) =
        onuDataEntry :: circuitPackEntries (aniCPType technology) 1 circuitPackAniSerial 0 := rfl
  have second : entitiesOnly (aniGEntry ::
      circuitPackEntries ethernetUnitType ethUniPortCount circuitPackSerial 16) =
        aniGEntry :: circuitPackEntries ethernetUnitType ethUniPortCount circuitPackSerial 16 := rfl
  change _ = entitiesOnly (baselineItems _ _ _ _) ++ _
  simp only [baselineItems, entitiesOnly_append, first, second, potsPack,
    entitiesOnly_flatMap _ _ (entitiesOnly_uni _), entitiesOnly_flatMap _ _ entitiesOnly_tcont,
    List.append_assoc]
  obtain ⟨unknownMe, unknownAttributes⟩ := config
  cases unknownMe <;> cases unknownAttributes <;> rfl

end Bbsim.Omci
