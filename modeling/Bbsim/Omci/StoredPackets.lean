import Bbsim.Omci.ExtendedUpload

/-! Headers of stored packets. A stored MIB upload response is sent with another transaction id and
is otherwise not looked at. A last response of one entity has no packet, and what is injected into
it then takes the place of the header. -/

namespace Bbsim.Omci

open Foundation Foundation.Packing

/-- Message type, device identifier, class and instance of a MIB upload response. -/
def uploadHeader (ident : UInt8) : List UInt8 :=
  [mibUploadNextResponseType, ident] ++ putUint16 OnuData.classID ++ putUint16 0

/-- What stands behind the transaction id in the header of a packet. -/
def storedHeader (packet : List UInt8) : List UInt8 := (packet.drop 2).take 6

theorem storedHeader_responsePacket (payloads : List (List UInt8)) :
    storedHeader (responsePacket payloads) = uploadHeader extendedIdent := rfl

private theorem storedHeader_customPacket (reportedMeHdr attributes : List UInt8) :
    storedHeader (customPacket reportedMeHdr attributes) = uploadHeader baselineIdent := rfl

variable {bytes : List UInt8} {classId : Nat}

theorem packetItems_custom {config : MibConfig}
    (member : .packet classId bytes ∈ packetItems config) :
    ∃ reportedMeHdr attributes, bytes = customPacket reportedMeHdr attributes := by
  rcases List.mem_append.mp member with attributes | unknown
  · split at attributes
    · cases List.mem_singleton.mp attributes
      exact ⟨_, _, rfl⟩
    · cases attributes
  · split at unknown
    · cases List.mem_singleton.mp unknown
      exact ⟨_, _, rfl⟩
    · cases unknown

variable {packet : List UInt8} {number : Nat}

section

variable {ethUniPortCount potsUniPortCount : Nat} {technology : PonTechnology} {config : MibConfig}

/-- The prebuilt baseline packets have the header of a MIB upload response. -/
theorem storedHeader_baseline
    (member : .packet classId bytes ∈ baselineItems ethUniPortCount potsUniPortCount technology config) :
    storedHeader bytes = uploadHeader baselineIdent := by
  have prebuilt : .packet classId bytes ∈ packetItems config := by
    rw [← baselineItems_packets ethUniPortCount potsUniPortCount technology config]
    exact List.mem_filter.mpr ⟨member, rfl⟩
  obtain ⟨reportedMeHdr, attributes, rfl⟩ := packetItems_custom prebuilt
  exact storedHeader_customPacket reportedMeHdr attributes

/-- Sizes of the entities that the packing loops visit: the 16-bit command count hides the others. -/
def visitedSizes (ethUniPortCount potsUniPortCount : Nat) (config : MibConfig) : List Nat :=
  let sizes := mibSizes ethUniPortCount potsUniPortCount config
  sizes.take ((sizes.length + (injectedPayloads config).length) % 65536)

/-- The last extended response is made for two entities or more. -/
def LastShared (ethUniPortCount potsUniPortCount : Nat) (config : MibConfig) : Prop :=
  2 ≤ (lastFill 10 1932 (visitedSizes ethUniPortCount potsUniPortCount config)).1

private theorem storedHeader_bin {bin : List ManagedEntity} (several : 2 ≤ bin.length) :
    storedHeader (binPacket bin) = uploadHeader extendedIdent := by
  rw [binPacket, if_pos several, storedHeader_responsePacket]

theorem storedHeader_last_iff {last : List ManagedEntity} (bounded : load responseRule last ≤ 1966)
    (long : 2 ≤ (injectedLast config (binPacket last)).length) :
    storedHeader (injectedLast config (binPacket last)) = uploadHeader extendedIdent ↔
      2 ≤ last.length := by
  by_cases several : 2 ≤ last.length
  · refine iff_of_true ?_ several
    have contents := contents_of_bin last
    rw [binPacket, if_pos several, injectedLast_responsePacket config _ (by omega),
      storedHeader_responsePacket]
  · refine iff_of_false ?_ several
    rw [binPacket, if_neg several] at long ⊢
    obtain ⟨unknownMe, unknownAttributes⟩ := config
    cases unknownMe <;> cases unknownAttributes
    · cases long
    all_goals decide

/-- Of the packed responses only the last can miss its header. -/
theorem storedHeader_packed_iff {first : ManagedEntity} {rest : List ManagedEntity}
    {packets : List MibDbEntry} {responses : List (List UInt8)}
    (small : SmallEntities (first :: rest)) (few : 1 + rest.length < 65536)
    (prebuilt : PacketEntries packets)
    (packed : (packResponses ((first :: rest).map .entity ++ packets)).bind (injectUnknown config) =
      some responses)
    (found : responses[number]? = some packet) (long : 2 ≤ packet.length) :
    storedHeader packet = uploadHeader extendedIdent ↔
      2 ≤ (lastBin first rest).length ∨ number + 1 ≠ commandCount responses := by
  obtain ⟨earlier, shape, closed, result⟩ := packed_injected small few prebuilt config
  have bounded : load responseRule (lastBin first rest) ≤ 1966 :=
    (bins_small small _ (by rw [shape]; simp)).2
  have bins := binsFrom_length_le responseRule [first] rest
  rw [shape, List.length_append] at bins
  simp only [List.length_cons, List.length_nil] at bins
  rw [result] at packed
  split at packed
  · cases packed
  obtain rfl := Option.some.inj packed
  have count : commandCount (earlier.map binPacket ++
      [injectedLast config (binPacket (lastBin first rest))]) = earlier.length + 1 := by
    rw [commandCount, List.length_append, List.length_map, List.length_singleton]
    exact Nat.mod_eq_of_lt (by omega)
  rw [count]
  rcases Nat.lt_or_ge number earlier.length with before | last
  · rw [List.getElem?_append_left (by rwa [List.length_map]), List.getElem?_map] at found
    obtain ⟨bin, listed, rfl⟩ := Option.map_eq_some_iff.mp found
    have several := (closed bin (List.mem_of_getElem? listed)).1
    exact iff_of_true (storedHeader_bin several) (.inr (by omega))
  · rw [List.getElem?_append_right (by rwa [List.length_map]), List.length_map] at found
    rw [List.getElem?_singleton] at found
    obtain ⟨index, ⟨⟩⟩ := Option.ite_none_right_eq_some.mp found
    rw [storedHeader_last_iff bounded long]
    have final : number = earlier.length := by omega
    simp [final]

end

/-- Every stored extended response that can be sent has the right header, but for a last one that was
made for a single entity. -/
theorem storedHeader_extended_iff {ethUniPortCount potsUniPortCount : Nat}
    {technology : PonTechnology} {config : MibConfig} {mib : MibDb}
    (generated : generateMibDatabase ethUniPortCount potsUniPortCount technology config = some mib)
    (found : mib.extendedResponses[number]? = some packet) (long : 2 ≤ packet.length) :
    storedHeader packet = uploadHeader extendedIdent ↔
      LastShared ethUniPortCount potsUniPortCount config ∨
        number + 1 ≠ mib.numberOfExtendedCommands := by
  obtain ⟨responses, created, rfl⟩ := Option.map_eq_some_iff.mp generated
  dsimp only at found ⊢
  have small := mibEntities_small ethUniPortCount potsUniPortCount technology config
  rw [createExtendedResponses, commandCount, baselineItems_length, baselineItems_eq] at created
  rw [LastShared, visitedSizes, ← mibEntities_sizes ethUniPortCount potsUniPortCount technology config]
  rw [← mibEntities_sizes ethUniPortCount potsUniPortCount technology config] at created
  generalize visited : _ % 65536 = count at created ⊢
  have bound : count < 65536 := visited ▸ Nat.mod_lt _ (by decide)
  rw [List.take_append, ← List.map_take] at created
  rw [← List.map_take]
  have present : mibEntities ethUniPortCount potsUniPortCount technology config ≠ [] := by
    obtain ⟨first, rest, shape⟩ := mibEntities_cons ethUniPortCount potsUniPortCount technology config
    simp [shape]
  generalize mibEntities ethUniPortCount potsUniPortCount technology config = entities at *
  cases entered : entities.take count with
  | nil =>
    have none_ : count = 0 := (List.take_eq_nil_iff.mp entered).resolve_right present
    rw [entered, none_, Nat.zero_sub, List.take_zero, List.map_nil, List.append_nil, packResponses,
      Option.bind_some] at created
    obtain ⟨-, rfl⟩ := injectUnknown_nil created
    cases found
  | cons first rest =>
    rw [entered] at created
    have smallVisited : SmallEntities (first :: rest) := fun entity member =>
      small entity (List.mem_of_mem_take (entered ▸ member))
    have few : 1 + rest.length < 65536 := by
      have length := congrArg List.length entered
      rw [List.length_take, List.length_cons] at length
      omega
    have prebuilt : PacketEntries ((packetItems config).take (count - (entities.map MibDbEntry.entity).length)) :=
      fun entry member => packetItems_prebuilt config entry (List.mem_of_mem_take member)
    rw [storedHeader_packed_iff smallVisited few prebuilt created found long]
    rw [show lastFill 10 1932 ((first :: rest).map entitySize) = _ from
      lastFill_eq responseRule first rest]

end Bbsim.Omci
