import Bbsim.Omci.MibContents
import Bbsim.Omci.ResponsePacking

/-! What the extended MIB upload carries. -/

namespace Bbsim.Omci

open Foundation Foundation.Packing

/-- The entity an entry reports: class, instance, mask and attributes. -/
def MibDbEntry.reported : MibDbEntry → List UInt8
  | .entity described => described.bytes
  | .packet _ bytes => (bytes.drop 8).take 32

/-- A non-empty packet within the size limit whose contents length is the bytes behind it. -/
structure WellFormedResponse (packet : List UInt8) : Prop where
  nonempty : packet ≠ []
  short : packet.length ≤ maxExtendedLength
  contents : contentsLength packet + 10 = packet.length

/-- The reported and additional entities of all responses, in order. -/
def carriedEntities : List (List UInt8) → Option (List (List UInt8))
  | [] => some []
  | packet :: rest =>
    (decodeEntities packet).bind fun entities => (carriedEntities rest).map (entities ++ ·)

private theorem carriedEntities_append {packets others entities later : List (List UInt8)}
    (carried : carriedEntities packets = some entities)
    (carriedLater : carriedEntities others = some later) :
    carriedEntities (packets ++ others) = some (entities ++ later) := by
  induction packets generalizing entities with
  | nil =>
    obtain rfl : [] = entities := by simpa [carriedEntities] using carried
    simpa using carriedLater
  | cons packet packets ih =>
    simp only [carriedEntities, Option.bind_eq_some_iff, Option.map_eq_some_iff] at carried
    obtain ⟨first, decoded, rest, restCarried, rfl⟩ := carried
    simp [carriedEntities, decoded, ih restCarried]

theorem bytes_covers (entities : List ManagedEntity) :
    ∀ payload ∈ entities.map ManagedEntity.bytes, entityHeaderSize ≤ payload.length := by
  intro payload member
  obtain ⟨entity, _, rfl⟩ := List.mem_map.mp member
  rw [ManagedEntity.bytes_length]
  exact Nat.le_add_right 6 _

variable {entities : List ManagedEntity}

theorem bytes_small (small : SmallEntities entities) :
    ∀ payload ∈ entities.map ManagedEntity.bytes, payload.length - entityHeaderSize < 65536 := by
  intro payload member
  obtain ⟨entity, present, rfl⟩ := List.mem_map.mp member
  have bound : 8 + entity.attributesLength ≤ 34 := small entity present
  rw [ManagedEntity.bytes_length]
  simp only [entityHeaderSize]
  omega

private theorem carriedEntities_bins {bins : List (List ManagedEntity)}
    (several : ∀ bin ∈ bins, 2 ≤ bin.length) (small : ∀ bin ∈ bins, SmallEntities bin) :
    carriedEntities (bins.map binPacket) = some (bins.flatten.map ManagedEntity.bytes) := by
  induction bins with
  | nil => rfl
  | cons bin bins ih =>
    obtain ⟨enough, later⟩ := List.forall_mem_cons.mp several
    obtain ⟨smallBin, smallLater⟩ := List.forall_mem_cons.mp small
    have present : bin.map ManagedEntity.bytes ≠ [] := by
      intro empty
      simp [List.map_eq_nil_iff.mp empty] at enough
    have decoded := decodeEntities_responsePacket present (bytes_covers bin) (bytes_small smallBin)
    simp only [List.map_cons, carriedEntities, binPacket, if_pos enough, decoded, Option.bind_some,
      List.flatten_cons, List.map_append]
    rw [ih later smallLater]
    rfl

section

variable (config : MibConfig)
include config

private theorem injectedPayloads_contents :
    ((injectedPayloads config).flatMap (record entityHeaderSize)).length =
      34 * (injectedPayloads config).length := by
  obtain ⟨unknownMe, unknownAttributes⟩ := config
  cases unknownMe <;> cases unknownAttributes <;> decide

theorem injectedPayloads_sized : ∀ payload ∈ injectedPayloads config, payload.length = 32 := by
  obtain ⟨unknownMe, unknownAttributes⟩ := config
  cases unknownMe <;> cases unknownAttributes <;> decide

theorem injectedPayloads_length :
    (injectedPayloads config).length = (packetItems config).length := by
  obtain ⟨unknownMe, unknownAttributes⟩ := config
  cases unknownMe <;> cases unknownAttributes <;> rfl

theorem injectedPayloads_length_le : (injectedPayloads config).length ≤ 2 := by
  obtain ⟨unknownMe, unknownAttributes⟩ := config
  cases unknownMe <;> cases unknownAttributes <;> decide

/-- The same entities, in the other order where both settings are on. -/
theorem injectedPayloads_perm :
    (injectedPayloads config).Perm ((packetItems config).map MibDbEntry.reported) := by
  obtain ⟨unknownMe, unknownAttributes⟩ := config
  cases unknownMe <;> cases unknownAttributes
  · exact .nil
  · exact .refl _
  · exact .refl _
  · exact .swap _ _ _

theorem injectedLast_responsePacket (payloads : List (List UInt8))
    (small : (payloads.flatMap (record entityHeaderSize)).length < 60000) :
    injectedLast config (responsePacket payloads) =
      responsePacket (payloads ++ injectedPayloads config) := by
  have unknownMe := appendAdditionalMEs_responsePacket payloads unknownMePktReportedMeHdr
    unknownMePktAttributes rfl (by omega)
  have grown : ((payloads ++ [unknownMePayload]).flatMap (record entityHeaderSize)).length < 65536 := by
    have added : (record entityHeaderSize unknownMePayload).length = 34 := by decide
    simp only [List.flatMap_append, List.length_append, List.flatMap_cons, List.flatMap_nil, added,
      List.length_nil]
    omega
  have unknownAttributes (payloads : List (List UInt8))
      (room : (payloads.flatMap (record entityHeaderSize)).length < 65536) :=
    appendAdditionalMEs_responsePacket payloads unknownAttribPktReportedMeHdr
      unknownAttribPktAttributes rfl room
  obtain ⟨withMe, withAttributes⟩ := config
  cases withMe <;> cases withAttributes
  · simp [injectedLast, injectedPayloads]
  · exact unknownAttributes payloads (by omega)
  · exact unknownMe
  · change appendAdditionalMEs (appendAdditionalMEs (responsePacket payloads) _ _) _ _ = _
    rw [unknownMe]
    exact (unknownAttributes _ grown).trans (by simp [injectedPayloads, unknownAttributesPayload])

/-- Without a packet to append to, the contents length is read from the appended attributes. -/
theorem injectedLast_nil : ¬ WellFormedResponse (injectedLast config []) := by
  rintro ⟨nonempty, -, contents⟩
  obtain ⟨unknownMe, unknownAttributes⟩ := config
  cases unknownMe <;> cases unknownAttributes
  · exact nonempty rfl
  all_goals exact absurd contents (by decide)

end

theorem wellFormed_responsePacket_iff (payloads : List (List UInt8))
    (small : (payloads.flatMap (record entityHeaderSize)).length < 65536) :
    WellFormedResponse (responsePacket payloads) ↔
      10 + (payloads.flatMap (record entityHeaderSize)).length ≤ maxExtendedLength := by
  rw [← responsePacket_length]
  constructor
  · exact fun wellFormed => wellFormed.short
  · intro short
    refine ⟨?_, short, responsePacket_contentsLength payloads small⟩
    intro empty
    have length := responsePacket_length payloads
    rw [empty, List.length_nil] at length
    omega

variable {responses : List (List UInt8)}

section

variable {first : ManagedEntity} {rest : List ManagedEntity} {packets : List MibDbEntry}

/-- The entities of the last response. -/
abbrev lastBin (first : ManagedEntity) (rest : List ManagedEntity) : List ManagedEntity :=
  lastFrom responseRule [first] rest

/-- The loops run past the end of the list. -/
abbrev Overrun (first : ManagedEntity) (rest : List ManagedEntity) (packets : List MibDbEntry) : Prop :=
  packets ≠ [] ∧ Closed responseRule (lastBin first rest)

theorem packed_injected (small : SmallEntities (first :: rest)) (few : 1 + rest.length < 65536)
    (prebuilt : PacketEntries packets) (config : MibConfig) :
    ∃ earlier, binsFrom responseRule [first] rest = earlier ++ [lastBin first rest] ∧
      (∀ bin ∈ earlier, Closed responseRule bin) ∧
      (packResponses ((first :: rest).map .entity ++ packets)).bind (injectUnknown config) =
        if Overrun first rest packets then none
        else some (earlier.map binPacket ++ [injectedLast config (binPacket (lastBin first rest))]) := by
  obtain ⟨earlier, shape, closed⟩ := binsFrom_eq_snoc responseRule [first] rest
  refine ⟨earlier, shape, closed, ?_⟩
  obtain ⟨smallFirst, smallRest⟩ := List.forall_mem_cons.mp small
  have packed := packResponses_from first [] rest (by simpa [SmallEntities] using smallFirst)
    smallRest prebuilt
  have blank : binPacket [first] = [] := rfl
  have count := binsFrom_length_le responseRule [first] rest
  rw [shape] at packed count
  simp only [List.length_append, List.length_cons, List.length_nil] at count
  simp only [blank] at packed
  rw [List.map_cons, List.cons_append, packResponses, packed]
  by_cases overrun : Overrun first rest packets
  · rw [if_pos overrun, if_pos overrun]
    rfl
  · rw [if_neg overrun, if_neg overrun, List.map_append, Option.bind_some]
    exact injectUnknown_snoc config _ _ (by rw [List.length_map]; omega)

theorem bins_small (small : SmallEntities (first :: rest)) :
    ∀ bin ∈ binsFrom responseRule [first] rest,
      (bin ≠ [] ∧ SmallEntities bin) ∧ load responseRule bin ≤ 1966 := by
  obtain ⟨smallFirst, smallRest⟩ := List.forall_mem_cons.mp small
  have single (entity : ManagedEntity) (bound : entitySize entity ≤ 34) :
      ([entity] ≠ [] ∧ SmallEntities [entity]) ∧ load responseRule [entity] ≤ 1966 := by
    refine ⟨⟨by simp, by simpa [SmallEntities] using bound⟩, ?_⟩
    have loaded : load responseRule [entity] = 10 + entitySize entity := rfl
    omega
  refine binsFrom_forall responseRule [first] rest (fun entity member => single entity
    (smallRest entity member)) ?_ (single first smallFirst)
  rintro bin entity member ⟨⟨present, smallBin⟩, -⟩ open_
  have bound := smallRest entity member
  refine ⟨⟨by simp, ?_⟩, load_open_snoc present smallBin bound open_⟩
  intro other listed
  rcases List.mem_append.mp listed with old | new
  · exact smallBin other old
  · exact (List.mem_singleton.mp new) ▸ bound

theorem contents_of_bin (bin : List ManagedEntity) :
    10 + ((bin.map ManagedEntity.bytes).flatMap (record entityHeaderSize)).length =
      load responseRule bin := by
  rw [← responsePacket_length, responsePacket_bytes_length]

variable {last : List ManagedEntity}

theorem wellFormed_last_iff (bounded : load responseRule last ≤ 1966) (config : MibConfig) :
    WellFormedResponse (injectedLast config (binPacket last)) ↔
      2 ≤ last.length ∧
        load responseRule last + 34 * (injectedPayloads config).length ≤ maxExtendedLength := by
  by_cases several : 2 ≤ last.length
  · have contents := contents_of_bin last
    have injected := injectedPayloads_contents config
    have few := injectedPayloads_length_le config
    rw [binPacket, if_pos several, injectedLast_responsePacket config _ (by omega),
      wellFormed_responsePacket_iff]
    · rw [List.flatMap_append, List.length_append, injected]
      simp only [several, true_and]
      omega
    · rw [List.flatMap_append, List.length_append, injected]
      omega
  · simp only [binPacket, several, false_and, iff_false]
    exact injectedLast_nil config

private theorem decodeEntities_last (several : 2 ≤ last.length) (small : SmallEntities last)
    (bounded : load responseRule last ≤ 1966) (config : MibConfig) :
    decodeEntities (injectedLast config (binPacket last)) =
      some (last.map ManagedEntity.bytes ++ injectedPayloads config) := by
  have contents := contents_of_bin last
  have sized := injectedPayloads_sized config
  rw [binPacket, if_pos several, injectedLast_responsePacket config _ (by omega)]
  apply decodeEntities_responsePacket
  · intro empty
    rw [List.map_eq_nil_iff.mp (List.append_eq_nil_iff.mp empty).1] at several
    simp at several
  · intro payload member
    rcases List.mem_append.mp member with own | injected
    · exact bytes_covers last payload own
    · rw [sized payload injected]
      decide
  · intro payload member
    rcases List.mem_append.mp member with own | injected
    · exact bytes_small small payload own
    · rw [sized payload injected]
      decide

/-- All responses are well formed exactly if the last one is, and then they carry every entity. -/
theorem responses_exact (small : SmallEntities (first :: rest)) (few : 1 + rest.length < 65536)
    (prebuilt : PacketEntries packets) (config : MibConfig)
    (packed : (packResponses ((first :: rest).map .entity ++ packets)).bind (injectUnknown config) =
      some responses) :
    ((∀ packet ∈ responses, WellFormedResponse packet) ↔
      2 ≤ (lastBin first rest).length ∧
        load responseRule (lastBin first rest) + 34 * (injectedPayloads config).length ≤
          maxExtendedLength) ∧
    (2 ≤ (lastBin first rest).length → carriedEntities responses =
      some ((first :: rest).map ManagedEntity.bytes ++ injectedPayloads config)) := by
  obtain ⟨earlier, shape, closed, result⟩ := packed_injected small few prebuilt config
  have bounds := bins_small small
  rw [shape] at bounds
  obtain ⟨⟨-, smallLast⟩, boundedLast⟩ := bounds (lastBin first rest) (by simp)
  have smallEarlier : ∀ bin ∈ earlier, SmallEntities bin :=
    fun bin member => (bounds bin (by simp [member])).1.2
  have severalEarlier : ∀ bin ∈ earlier, 2 ≤ bin.length := fun bin member => (closed bin member).1
  rw [result] at packed
  split at packed
  · cases packed
  obtain rfl := Option.some.inj packed
  refine ⟨?_, ?_⟩
  · rw [← wellFormed_last_iff boundedLast config]
    constructor
    · exact fun wellFormed => wellFormed _ (by simp)
    · intro last packet member
      rcases List.mem_append.mp member with old | new
      · obtain ⟨bin, present, rfl⟩ := List.mem_map.mp old
        have contents := contents_of_bin bin
        have bounded := (bounds bin (by simp [present])).2
        rw [binPacket, if_pos (severalEarlier bin present), wellFormed_responsePacket_iff _ (by omega),
          contents]
        exact bounded.trans (by decide)
      · exact (List.mem_singleton.mp new) ▸ last
  · intro several
    have carriedEarlier := carriedEntities_bins severalEarlier smallEarlier
    have carriedLast : carriedEntities [injectedLast config (binPacket (lastBin first rest))] =
        some ((lastBin first rest).map ManagedEntity.bytes ++ injectedPayloads config) := by
      simp [carriedEntities, decodeEntities_last several smallLast boundedLast config]
    have flat := binsFrom_flatten responseRule [first] rest
    rw [shape, List.flatten_append, List.flatten_singleton, List.singleton_append] at flat
    rw [carriedEntities_append carriedEarlier carriedLast, ← flat, List.map_append, List.append_assoc]

end

def MibDbEntry.isPacket : MibDbEntry → Bool
  | .entity _ => false
  | .packet _ _ => true

/-- The responses carry the entities of the baseline entries in their order, and behind them what
the prebuilt packets report, once each. -/
def CarriesMib (mib : MibDb) : Prop :=
  ∃ appended,
    carriedEntities mib.extendedResponses =
      some ((mib.baselineItems.filter fun entry => !entry.isPacket).map MibDbEntry.reported ++
        appended) ∧
    appended.Perm ((mib.baselineItems.filter MibDbEntry.isPacket).map MibDbEntry.reported)

/-- The database is built, and its extended upload is the baseline one in well-formed packets. -/
def ExtendedUploadExact (ethUniPortCount potsUniPortCount : Nat) (technology : PonTechnology)
    (config : MibConfig) : Prop :=
  ∃ mib, generateMibDatabase ethUniPortCount potsUniPortCount technology config = some mib ∧
    CarriesMib mib ∧ ∀ packet ∈ mib.extendedResponses, WellFormedResponse packet

/-- Greedy filling of 10-byte headers and entity sizes past 1932 bytes leaves at least two entities
for the last response, and there is room in it for the injected ones. -/
def UploadFits (ethUniPortCount potsUniPortCount : Nat) (config : MibConfig) : Prop :=
  let sizes := mibSizes ethUniPortCount potsUniPortCount config
  let last := lastFill 10 1932 sizes
  let injected := (injectedPayloads config).length
  sizes.length + injected < 65536 ∧ 2 ≤ last.1 ∧
    (injected = 1 → last.2 ≤ 1932) ∧ (injected = 2 → last.2 ≤ 1912)

section

variable (ethUniPortCount potsUniPortCount : Nat) (technology : PonTechnology) (config : MibConfig)

theorem mibSizes_le : ∀ size ∈ mibSizes ethUniPortCount potsUniPortCount config, size ≤ 34 := by
  have queues : ∀ size ∈ queueSizes, size ≤ 34 := by decide
  have repeated (count : Nat) (sizes : List Nat) (bound : ∀ size ∈ sizes, size ≤ 34) :
      ∀ size ∈ (List.replicate count sizes).flatten, size ≤ 34 := by
    intro size member
    obtain ⟨block, present, inside⟩ := List.mem_flatten.mp member
    exact bound size ((List.mem_replicate.mp present).2 ▸ inside)
  simp only [mibSizes, List.forall_mem_append]
  refine ⟨⟨⟨⟨⟨by decide, ?_⟩, repeated _ _ ?_⟩, repeated _ _ ?_⟩, repeated _ _ ?_⟩, ?_⟩
  · split <;> decide
  · simpa using queues
  · simpa using queues
  · simpa using queues
  · split <;> decide

theorem mibEntities_small :
    SmallEntities (mibEntities ethUniPortCount potsUniPortCount technology config) := by
  intro entity member
  have sizes := mibEntities_sizes ethUniPortCount potsUniPortCount technology config
  have listed : entitySize entity ∈ mibSizes ethUniPortCount potsUniPortCount config :=
    sizes ▸ List.mem_map_of_mem member
  exact mibSizes_le ethUniPortCount potsUniPortCount config _ listed

theorem mibEntities_cons : ∃ first rest,
    mibEntities ethUniPortCount potsUniPortCount technology config = first :: rest := by
  apply List.exists_cons_of_ne_nil
  intro empty
  have sizes := mibEntities_sizes ethUniPortCount potsUniPortCount technology config
  rw [empty] at sizes
  simp [mibSizes] at sizes

theorem baselineItems_length :
    (baselineItems ethUniPortCount potsUniPortCount technology config).length =
      (mibSizes ethUniPortCount potsUniPortCount config).length + (injectedPayloads config).length := by
  rw [baselineItems_eq, List.length_append, List.length_map, injectedPayloads_length,
    ← mibEntities_sizes ethUniPortCount potsUniPortCount technology config, List.length_map]

theorem baselineItems_entities :
    ((baselineItems ethUniPortCount potsUniPortCount technology config).filter
        fun entry => !entry.isPacket).map MibDbEntry.reported =
      (mibEntities ethUniPortCount potsUniPortCount technology config).map ManagedEntity.bytes := by
  have none_ : (packetItems config).filter (fun entry => !entry.isPacket) = [] := by
    obtain ⟨unknownMe, unknownAttributes⟩ := config
    cases unknownMe <;> cases unknownAttributes <;> rfl
  rw [baselineItems_eq, List.filter_append, none_, List.append_nil, List.filter_map]
  simp [Function.comp_def, MibDbEntry.isPacket, MibDbEntry.reported]

theorem baselineItems_packets :
    (baselineItems ethUniPortCount potsUniPortCount technology config).filter MibDbEntry.isPacket =
      packetItems config := by
  have all : (packetItems config).filter MibDbEntry.isPacket = packetItems config := by
    obtain ⟨unknownMe, unknownAttributes⟩ := config
    cases unknownMe <;> cases unknownAttributes <;> rfl
  rw [baselineItems_eq, List.filter_append, all, List.filter_map]
  simp [Function.comp_def, MibDbEntry.isPacket]

section LastBin

variable {ethUniPortCount potsUniPortCount technology} {first : ManagedEntity}
  {rest : List ManagedEntity}
  (shape : mibEntities ethUniPortCount potsUniPortCount technology config = first :: rest)

include shape

private theorem lastFill_mibSizes :
    lastFill 10 1932 (mibSizes ethUniPortCount potsUniPortCount config) =
      ((lastBin first rest).length, load responseRule (lastBin first rest)) := by
  rw [← mibEntities_sizes ethUniPortCount potsUniPortCount technology config, shape]
  exact lastFill_eq responseRule first rest

/-- No entry is lost to the 16 bits of the command count. -/
theorem createExtendedResponses_eq
    (few : (mibSizes ethUniPortCount potsUniPortCount config).length +
      (injectedPayloads config).length < 65536) :
    createExtendedResponses (baselineItems ethUniPortCount potsUniPortCount technology config)
        config =
      (packResponses ((first :: rest).map .entity ++ packetItems config)).bind
        (injectUnknown config) := by
  have length := baselineItems_length ethUniPortCount potsUniPortCount technology config
  have whole : commandCount (baselineItems ethUniPortCount potsUniPortCount technology config) =
      (baselineItems ethUniPortCount potsUniPortCount technology config).length :=
    Nat.mod_eq_of_lt (by omega)
  rw [createExtendedResponses, whole, List.take_length, baselineItems_eq, shape]

end LastBin

/-- A last bin of several entities takes the injected ones if its load leaves them their room. -/
theorem lastBin_fits_iff {first : ManagedEntity} {rest : List ManagedEntity}
    (several : 2 ≤ (lastBin first rest).length)
    (bounded : load responseRule (lastBin first rest) ≤ 1966) :
    (¬Overrun first rest (packetItems config) ∧
      load responseRule (lastBin first rest) + 34 * (injectedPayloads config).length ≤
        maxExtendedLength) ↔
    ((injectedPayloads config).length = 1 → load responseRule (lastBin first rest) ≤ 1932) ∧
      ((injectedPayloads config).length = 2 → load responseRule (lastBin first rest) ≤ 1912) := by
  have injected := injectedPayloads_length config
  have atMost := injectedPayloads_length_le config
  have closed_iff : Closed responseRule (lastBin first rest) ↔
      2 ≤ (lastBin first rest).length ∧ 1932 < load responseRule (lastBin first rest) := Iff.rfl
  have present : packetItems config ≠ [] ↔ 0 < (injectedPayloads config).length := by
    rw [injected, List.length_pos_iff]
  simp only [Overrun, present, closed_iff, maxExtendedLength]
  omega

/-- While the count of entries fits 16 bits, the last bin decides. -/
theorem uploadExact_iff_last
    (few : (mibSizes ethUniPortCount potsUniPortCount config).length +
      (injectedPayloads config).length < 65536) :
    ExtendedUploadExact ethUniPortCount potsUniPortCount technology config ↔
      2 ≤ (lastFill 10 1932 (mibSizes ethUniPortCount potsUniPortCount config)).1 ∧
      ((injectedPayloads config).length = 1 →
        (lastFill 10 1932 (mibSizes ethUniPortCount potsUniPortCount config)).2 ≤ 1932) ∧
      ((injectedPayloads config).length = 2 →
        (lastFill 10 1932 (mibSizes ethUniPortCount potsUniPortCount config)).2 ≤ 1912) := by
  obtain ⟨first, rest, shape⟩ :=
    mibEntities_cons ethUniPortCount potsUniPortCount technology config
  have created := createExtendedResponses_eq config shape few
  have small := mibEntities_small ethUniPortCount potsUniPortCount technology config
  have sizes := mibEntities_sizes ethUniPortCount potsUniPortCount technology config
  rw [shape] at small sizes
  have fewEntities : 1 + rest.length < 65536 := by
    have count := congrArg List.length sizes
    simp only [List.length_map, List.length_cons] at count
    omega
  have prebuilt := packetItems_prebuilt config
  obtain ⟨earlier, binsShape, -, result⟩ := packed_injected small fewEntities prebuilt config
  have bounded : load responseRule (lastBin first rest) ≤ 1966 :=
    (bins_small small _ (by rw [binsShape]; simp)).2
  rw [lastFill_mibSizes config shape]
  constructor
  · rintro ⟨mib, built, carries, wellFormed⟩
    simp only [generateMibDatabase, created, Option.map_eq_some_iff] at built
    obtain ⟨responses, packed, rfl⟩ := built
    obtain ⟨several, room⟩ :=
      (responses_exact small fewEntities prebuilt config packed).1.mp wellFormed
    have inRange : ¬Overrun first rest (packetItems config) := by
      intro overrun
      rw [result, if_pos overrun] at packed
      cases packed
    exact ⟨several, (lastBin_fits_iff config several bounded).mp ⟨inRange, room⟩⟩
  · rintro ⟨several, fits⟩
    obtain ⟨inRange, room⟩ := (lastBin_fits_iff config several bounded).mpr fits
    rw [if_neg inRange] at result
    obtain ⟨wellFormed_iff, carries⟩ := responses_exact small fewEntities prebuilt config result
    refine ⟨_, by rw [generateMibDatabase, created, result]; rfl, ?_,
      wellFormed_iff.mpr ⟨several, room⟩⟩
    refine ⟨injectedPayloads config, ?_, ?_⟩
    · simp only [baselineItems_entities, shape]
      exact carries several
    · simp only [baselineItems_packets]
      exact injectedPayloads_perm config

/-- Well-formed responses packed from entities alone carry just these. -/
theorem carried_of_wellFormed (small : SmallEntities entities) (few : entities.length < 65536)
    (packed : (packResponses (entities.map .entity)).bind (injectUnknown config) = some responses)
    (wellFormed : ∀ packet ∈ responses, WellFormedResponse packet) :
    carriedEntities responses =
      some (entities.map ManagedEntity.bytes ++ injectedPayloads config) := by
  cases entities with
  | nil =>
    rw [List.map_nil, packResponses, Option.bind_some] at packed
    obtain ⟨rfl, rfl⟩ := injectUnknown_nil packed
    rfl
  | cons first rest =>
    have none_ : PacketEntries [] := by simp [PacketEntries]
    rw [← List.append_nil (List.map _ _)] at packed
    obtain ⟨exact, carried⟩ := responses_exact small (by simpa [Nat.add_comm] using few) none_ config packed
    exact carried (exact.mp wellFormed).1

/-- Past 65535 entries the 16-bit count hides at least 65536 of them from the loops. -/
theorem not_uploadExact_of_many
    (many : 65536 ≤ (mibSizes ethUniPortCount potsUniPortCount config).length +
      (injectedPayloads config).length) :
    ¬ ExtendedUploadExact ethUniPortCount potsUniPortCount technology config := by
  rintro ⟨mib, built, ⟨appended, carried, -⟩, wellFormed⟩
  have length := baselineItems_length ethUniPortCount potsUniPortCount technology config
  have sizes := congrArg List.length
    (mibEntities_sizes ethUniPortCount potsUniPortCount technology config)
  have small := mibEntities_small ethUniPortCount potsUniPortCount technology config
  have atMost := injectedPayloads_length_le config
  simp only [generateMibDatabase, Option.map_eq_some_iff] at built
  obtain ⟨responses, created, rfl⟩ := built
  simp only [baselineItems_entities] at carried
  rw [List.length_map] at sizes
  rw [createExtendedResponses, commandCount, length] at created
  generalize visited : ((mibSizes ethUniPortCount potsUniPortCount config).length +
    (injectedPayloads config).length) % 65536 = count at created
  -- the loops see a proper part of the entities and no prebuilt packet
  rw [baselineItems_eq, List.take_append_of_le_length (by rw [List.length_map]; omega),
    ← List.map_take] at created
  have reported := carried_of_wellFormed config
    (fun entity member => small entity (List.mem_of_mem_take member))
    (by rw [List.length_take]; omega) created wellFormed
  rw [carried] at reported
  have counts := congrArg List.length (Option.some.inj reported)
  simp only [List.length_append, List.length_map, List.length_take] at counts
  omega

/-- The extended upload is the baseline one exactly if the greedy filling fits. -/
theorem extendedUpload_exact_iff :
    ExtendedUploadExact ethUniPortCount potsUniPortCount technology config ↔
      UploadFits ethUniPortCount potsUniPortCount config := by
  by_cases few : (mibSizes ethUniPortCount potsUniPortCount config).length +
      (injectedPayloads config).length < 65536
  · rw [uploadExact_iff_last _ _ _ _ few]
    exact (and_iff_right few).symm
  · refine ⟨fun exact => ?_, fun fits => absurd fits.1 few⟩
    exact absurd exact (not_uploadExact_of_many _ _ _ _ (Nat.le_of_not_lt few))

end

/-- Two Ethernet UNIs: the ONU2-G is left alone for the last response, which gets no packet. -/
theorem extendedUpload_loses_onu2g : ¬ ExtendedUploadExact 2 0 .xgspon ⟨false, false⟩ := by
  rw [uploadExact_iff_last _ _ _ _ (by decide +kernel)]
  decide +kernel

end Bbsim.Omci
