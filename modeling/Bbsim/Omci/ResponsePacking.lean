import Bbsim.Foundation.Packing
import Bbsim.Omci.OnuMibDb

/-! The packing loops compute bins. The two loops of `GenerateMibDatabase` fill responses greedily;
the bins of the packing library are the responses. -/

namespace Bbsim.Omci

open Foundation Foundation.Packing

/-- Responses as bins: ten bytes of headers, closed past 1932 bytes. -/
def responseRule : Rule ManagedEntity where
  base := 10
  limit := maxExtendedLength - maxBaselineLength
  size := entitySize

/-- What the inner loop leaves for the entities of one response. -/
def binPacket (bin : List ManagedEntity) : List UInt8 :=
  if 2 ≤ bin.length then responsePacket (bin.map ManagedEntity.bytes) else []

theorem responsePacket_bytes_length (bin : List ManagedEntity) :
    (responsePacket (bin.map ManagedEntity.bytes)).length = load responseRule bin := by
  rw [responsePacket_length, List.flatMap_map, contents_length]
  rfl

/-- The loop goes on exactly while the bin is open. -/
theorem binPacket_length_le_iff (bin : List ManagedEntity) :
    (binPacket bin).length ≤ maxExtendedLength - maxBaselineLength ↔ ¬ Closed responseRule bin := by
  by_cases several : 2 ≤ bin.length
  · rw [binPacket, if_pos several, responsePacket_bytes_length]
    simp [Closed, several, responseRule]
  · simp [binPacket, several, Closed]

variable {packets : List MibDbEntry}

theorem addMeLoop_packets (prebuilt : PacketEntries packets) (request : MibUploadNextResponse)
    (outgoing : List UInt8) :
    addMeLoop packets request outgoing =
      (outgoing, if outgoing.length ≤ maxExtendedLength - maxBaselineLength then [] else packets) := by
  induction packets with
  | nil => simp [addMeLoop]
  | cons entry rest ih =>
    obtain ⟨⟨classId, bytes, rfl⟩, later⟩ := List.forall_mem_cons.mp prebuilt
    by_cases room : outgoing.length ≤ maxExtendedLength - maxBaselineLength
    · simp only [addMeLoop, room, if_true, ih later]
    · simp only [addMeLoop, room, if_false]

private theorem packResponses_packets (prebuilt : PacketEntries packets) :
    packResponses packets = if packets = [] then some [] else none := by
  induction packets with
  | nil => simp [packResponses]
  | cons entry rest ih =>
    obtain ⟨⟨classId, bytes, rfl⟩, later⟩ := List.forall_mem_cons.mp prebuilt
    cases rest with
    | nil => simp [packResponses]
    | cons next rest => simpa [packResponses] using ih later

/-- One turn of the inner loop on an entity: close the bin or put the entity into it. -/
theorem addMeLoop_entity (first : ManagedEntity) (more : List ManagedEntity) (entity : ManagedEntity)
    (rest : List MibDbEntry)
    (fits : ¬ Closed responseRule (first :: more) →
      load responseRule (first :: more ++ [entity]) ≤ 1966) :
    addMeLoop (.entity entity :: rest) ⟨first, more⟩ (binPacket (first :: more)) =
      if Closed responseRule (first :: more) then (binPacket (first :: more), .entity entity :: rest)
      else addMeLoop rest ⟨first, more ++ [entity]⟩ (binPacket (first :: more ++ [entity])) := by
  by_cases closed : Closed responseRule (first :: more)
  · have full := mt (binPacket_length_le_iff (first :: more)).mp (not_not.mpr closed)
    simp only [addMeLoop, full, closed, if_true, if_false]
  · have room := (binPacket_length_le_iff (first :: more)).mpr closed
    have serialized := MibUploadNextResponse.serializeLayers_fits ⟨first, more ++ [entity]⟩
      (by simpa [MibUploadNextResponse.entities, load, responseRule] using fits closed)
    have grown : binPacket (first :: more ++ [entity]) =
        responsePacket ((first :: more ++ [entity]).map ManagedEntity.bytes) :=
      if_pos (by simp)
    simp only [addMeLoop, room, closed, if_true, if_false, serialized, grown]
    rfl

/-- Every entity the database holds is small. -/
def SmallEntities (entities : List ManagedEntity) : Prop :=
  ∀ entity ∈ entities, entitySize entity ≤ 34

theorem load_open_snoc {bin : List ManagedEntity} {entity : ManagedEntity}
    (present : bin ≠ []) (small : SmallEntities bin) (added : entitySize entity ≤ 34)
    (open_ : ¬ Closed responseRule bin) : load responseRule (bin ++ [entity]) ≤ 1966 := by
  rw [load_snoc]
  have size : responseRule.size entity = entitySize entity := rfl
  by_cases several : 2 ≤ bin.length
  · have room : load responseRule bin ≤ 1932 := by
      by_contra exceeding
      exact open_ ⟨several, by simpa [responseRule, maxExtendedLength, maxBaselineLength] using exceeding⟩
    omega
  · obtain ⟨only, rfl⟩ : ∃ only, bin = [only] := by
      have positive := List.length_pos_iff.mpr present
      exact List.length_eq_one_iff.mp (by omega)
    have single : load responseRule [only] = 10 + entitySize only := rfl
    have bound := small only (by simp)
    omega

/-- The two loops compute the bins, unless a full last bin leaves prebuilt packets over. -/
theorem packResponses_from (first : ManagedEntity) (more rest : List ManagedEntity)
    (smallBin : SmallEntities (first :: more)) (smallRest : SmallEntities rest)
    (prebuilt : PacketEntries packets) :
    let packed := addMeLoop (rest.map .entity ++ packets) ⟨first, more⟩ (binPacket (first :: more))
    (packResponses packed.2).map (packed.1 :: ·) =
      if packets ≠ [] ∧ Closed responseRule (lastFrom responseRule (first :: more) rest) then none
      else some ((binsFrom responseRule (first :: more) rest).map binPacket) := by
  induction rest generalizing first more with
  | nil =>
    simp only [List.map_nil, List.nil_append, addMeLoop_packets prebuilt, binPacket_length_le_iff,
      lastFrom, binsFrom]
    by_cases closed : Closed responseRule (first :: more)
    · by_cases exhausted : packets = []
      · simp [closed, exhausted, packResponses]
      · simp [closed, exhausted, packResponses_packets prebuilt]
    · simp [closed, packResponses]
  | cons entity rest ih =>
    obtain ⟨added, smallLater⟩ := List.forall_mem_cons.mp smallRest
    simp only [List.map_cons, List.cons_append]
    rw [addMeLoop_entity first more entity _ (load_open_snoc (by simp) smallBin added)]
    by_cases closed : Closed responseRule (first :: more)
    · have opened := ih entity [] (by simpa [SmallEntities] using added) smallLater
      have blank : binPacket [entity] = [] := rfl
      simp only [blank] at opened
      simp only [closed, if_true, packResponses, lastFrom, binsFrom, List.map_cons, opened]
      split <;> rfl
    · have smallGrown : SmallEntities (first :: (more ++ [entity])) := by
        intro other member
        rcases List.mem_append.mp (List.cons_append ▸ member : other ∈ (first :: more) ++ [entity])
          with old | new
        · exact smallBin other old
        · exact (List.mem_singleton.mp new) ▸ added
      have grown := ih first (more ++ [entity]) smallGrown smallLater
      simpa only [closed, if_false, lastFrom, binsFrom, List.cons_append] using grown

def unknownMePayload : List UInt8 := unknownMePktReportedMeHdr ++ unknownMePktAttributes
def unknownAttributesPayload : List UInt8 :=
  unknownAttribPktReportedMeHdr ++ unknownAttribPktAttributes

/-- Entities appended to the last response, in the order they are appended. -/
def injectedPayloads (config : MibConfig) : List (List UInt8) :=
  (if config.injectOmciUnknownMe then [unknownMePayload] else []) ++
    (if config.injectOmciUnknownAttributes then [unknownAttributesPayload] else [])

/-- What the two injections make of the last response. -/
def injectedLast (config : MibConfig) (response : List UInt8) : List UInt8 :=
  let response := if config.injectOmciUnknownMe then
    appendAdditionalMEs response unknownMePktReportedMeHdr unknownMePktAttributes else response
  if config.injectOmciUnknownAttributes then
    appendAdditionalMEs response unknownAttribPktReportedMeHdr unknownAttribPktAttributes
  else response

private theorem appendToLast_snoc (earlier : List (List UInt8)) (last header attributes : List UInt8)
    (small : earlier.length + 1 < 65536) :
    appendToLast (earlier ++ [last]) header attributes =
      some (earlier ++ [appendAdditionalMEs last header attributes]) := by
  have index : (commandCount (earlier ++ [last]) + 65535) % 65536 = earlier.length := by
    simp only [commandCount, List.length_append, List.length_cons, List.length_nil]
    omega
  simp [appendToLast, index]

theorem injectUnknown_snoc (config : MibConfig) (earlier : List (List UInt8)) (last : List UInt8)
    (small : earlier.length + 1 < 65536) :
    injectUnknown config (earlier ++ [last]) = some (earlier ++ [injectedLast config last]) := by
  obtain ⟨unknownMe, unknownAttributes⟩ := config
  cases unknownMe <;> cases unknownAttributes <;>
    simp [injectUnknown, injectWhen, injectedLast, appendToLast_snoc, small]

/-- Without a response there is nothing to inject into. -/
theorem injectUnknown_nil {config : MibConfig} {responses : List (List UInt8)}
    (injected : injectUnknown config [] = some responses) :
    config = ⟨false, false⟩ ∧ responses = [] := by
  obtain ⟨unknownMe, unknownAttributes⟩ := config
  cases unknownMe <;> cases unknownAttributes
  · exact ⟨rfl, (Option.some.inj injected).symm⟩
  all_goals cases injected

/-- Appending keeps the contents-length field right. -/
theorem appendAdditionalMEs_responsePacket (payloads : List (List UInt8))
    (header attributes : List UInt8) (six : header.length = entityHeaderSize)
    (small : (payloads.flatMap (record entityHeaderSize)).length < 65536) :
    appendAdditionalMEs (responsePacket payloads) header attributes =
      responsePacket (payloads ++ [header ++ attributes]) := by
  have data : putUint16 attributes.length ++ header ++ attributes =
      record entityHeaderSize (header ++ attributes) := by
    simp [record, six]
  have old : contentsLength
      (responsePacket payloads ++ record entityHeaderSize (header ++ attributes)) =
        (payloads.flatMap (record entityHeaderSize)).length := by
    simpa [responsePacket, contentsLength, putUint16] using uint16_putUint16 _ small
  rw [appendAdditionalMEs]
  simp only [data, old]
  simp [responsePacket, putUint16]

end Bbsim.Omci
