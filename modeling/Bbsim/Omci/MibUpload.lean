import Bbsim.Omci.ManagedEntity

/-! Extended MIB upload responses on the wire. `MibUploadNextResponse.SerializeTo` under the OMCI
layer, for the extended message set. Both layers can fail half way; the caller only logs the error
and keeps the buffer, so the model returns the bytes written so far together with a success flag. -/

namespace Bbsim.Omci

open Foundation

def maxBaselineLength : Nat := 48
def maxExtendedLength : Nat := 1980

def mibUploadNextResponseType : UInt8 := 0x2e
def baselineIdent : UInt8 := 0x0a
def extendedIdent : UInt8 := 0x0b

/-- Bytes of class, instance and mask in front of an entity's attributes. -/
def entityHeaderSize : Nat := 6

structure MibUploadNextResponse where
  reportedME : ManagedEntity
  additionalMEs : List ManagedEntity

/-- The additional entities, each behind its attribute count; stops where the space runs out. -/
def serializeAdditionalMEs : List ManagedEntity → Nat → List UInt8 × Bool
  | [], _ => ([], true)
  | entity :: rest, bytesAvailable =>
    if bytesAvailable ≤ 8 then ([], false)
    else
      let payload := entity.serializeTo bytesAvailable
      let later := serializeAdditionalMEs rest (bytesAvailable - (2 + payload.length))
      (record entityHeaderSize payload ++ later.1, later.2)

namespace MibUploadNextResponse

def entities (response : MibUploadNextResponse) : List ManagedEntity :=
  response.reportedME :: response.additionalMEs

def serializeTo (response : MibUploadNextResponse) : List UInt8 × Bool :=
  let bytesAvailable := maxExtendedLength - 10 - 4
  let basePacket := putUint16 OnuData.classID ++ putUint16 0
  let payload := response.reportedME.serializeTo bytesAvailable
  let additional :=
    serializeAdditionalMEs response.additionalMEs (bytesAvailable - (4 + payload.length))
  let contents := record entityHeaderSize payload ++ additional.1
  -- the contents length is patched to the total only after the last entity went in
  let contentsLength := if additional.2 then contents.length else payload.length + 2
  (basePacket ++ putUint16 contentsLength ++ contents, additional.2)

/-- `gopacket.SerializeLayers` of the OMCI layer over the response, with the bytes it leaves. -/
def serializeLayers (response : MibUploadNextResponse) : List UInt8 :=
  let body := response.serializeTo
  if body.2 then
    if maxExtendedLength - 10 - 4 < (body.1.length - 6) % 65536 then [0, 0, 0, 0] ++ body.1
    else putUint16 0xffff ++ [mibUploadNextResponseType, extendedIdent] ++ body.1
  else body.1

end MibUploadNextResponse

/-- The response that carries exactly these entities, each given by its bytes. -/
def responsePacket (payloads : List (List UInt8)) : List UInt8 :=
  let contents := payloads.flatMap (record entityHeaderSize)
  putUint16 0xffff ++ [mibUploadNextResponseType, extendedIdent] ++
    putUint16 OnuData.classID ++ putUint16 0 ++ putUint16 contents.length ++ contents

/-- Bytes an entity takes in a response: its attribute count, its header and its attributes. -/
def entitySize (entity : ManagedEntity) : Nat :=
  8 + entity.attributesLength

@[simp] theorem record_bytes_length (entity : ManagedEntity) :
    (record entityHeaderSize entity.bytes).length = entitySize entity := by
  simp [record, entitySize]
  omega

theorem contents_length (entities : List ManagedEntity) :
    (entities.flatMap fun entity => record entityHeaderSize entity.bytes).length =
      (entities.map entitySize).sum := by
  induction entities with
  | nil => rfl
  | cons entity rest ih => simp [ih]

theorem responsePacket_length (payloads : List (List UInt8)) :
    (responsePacket payloads).length =
      10 + (payloads.flatMap (record entityHeaderSize)).length := by
  simp only [responsePacket, List.length_append, putUint16_length, List.length_cons, List.length_nil]

private theorem serializeAdditionalMEs_fits (entities : List ManagedEntity) (available : Nat)
    (fits : (entities.map entitySize).sum < available) :
    serializeAdditionalMEs entities available =
      (entities.flatMap fun entity => record entityHeaderSize entity.bytes, true) := by
  induction entities generalizing available with
  | nil => rfl
  | cons entity rest ih =>
    simp only [List.map_cons, List.sum_cons] at fits
    have size : entitySize entity = 8 + entity.attributesLength := rfl
    have room : ¬ available ≤ 8 := by omega
    have whole : entity.serializeTo available = entity.bytes :=
      entity.serializeTo_fits available (by omega)
    have later := ih (available - (2 + entity.bytes.length)) (by rw [entity.bytes_length]; omega)
    rw [serializeAdditionalMEs, if_neg room]
    simp only [whole, later, List.flatMap_cons]

private theorem serializeTo_fits (response : MibUploadNextResponse)
    (fits : 10 + (response.entities.map entitySize).sum ≤ 1966) :
    response.serializeTo =
      (putUint16 OnuData.classID ++ putUint16 0 ++
        putUint16 (response.entities.map entitySize).sum ++
        response.entities.flatMap fun entity => record entityHeaderSize entity.bytes, true) := by
  have size : entitySize response.reportedME = 8 + response.reportedME.attributesLength := rfl
  have total : (response.entities.map entitySize).sum =
      entitySize response.reportedME + (response.additionalMEs.map entitySize).sum := rfl
  have whole : response.reportedME.serializeTo (maxExtendedLength - 10 - 4) =
      response.reportedME.bytes :=
    response.reportedME.serializeTo_fits _ (by simp only [maxExtendedLength]; omega)
  have additional : serializeAdditionalMEs response.additionalMEs
        (maxExtendedLength - 10 - 4 - (4 + response.reportedME.bytes.length)) =
      (response.additionalMEs.flatMap fun entity => record entityHeaderSize entity.bytes, true) := by
    apply serializeAdditionalMEs_fits
    rw [ManagedEntity.bytes_length]
    simp only [maxExtendedLength]
    omega
  rw [MibUploadNextResponse.serializeTo]
  simp only [whole, additional, List.length_append, record_bytes_length, contents_length, total,
    if_true]
  rfl

/-- Up to 1966 bytes nothing is cut and neither layer fails. -/
theorem MibUploadNextResponse.serializeLayers_fits (response : MibUploadNextResponse)
    (fits : 10 + (response.entities.map entitySize).sum ≤ 1966) :
    response.serializeLayers = responsePacket (response.entities.map ManagedEntity.bytes) := by
  have short : ¬ maxExtendedLength - 10 - 4 < (response.serializeTo.1.length - 6) % 65536 := by
    rw [serializeTo_fits response fits]
    simp only [List.length_append, putUint16_length, contents_length, maxExtendedLength]
    omega
  rw [serializeLayers, if_neg short, serializeTo_fits response fits]
  simp only [responsePacket, List.flatMap_map, contents_length, List.append_assoc, if_true]

/-- The contents-length field of an extended message. -/
def contentsLength (packet : List UInt8) : Nat :=
  uint16 (packet.getD 8 0) (packet.getD 9 0)

/-- Records of `MibUploadNextResponse.DecodeFromBytes`: the reported entity, then the others. -/
def decodeEntities (packet : List UInt8) : Option (List (List UInt8)) :=
  if packet.length < 10 then none
  else (readRecord entityHeaderSize (packet.drop 10)).bind fun first =>
    (readRecords entityHeaderSize first.2).map (first.1 :: ·)

private theorem decodeEntities_records {head : List UInt8} (ten : head.length = 10)
    {payloads : List (List UInt8)} (present : payloads ≠ [])
    (covers : ∀ payload ∈ payloads, entityHeaderSize ≤ payload.length)
    (small : ∀ payload ∈ payloads, payload.length - entityHeaderSize < 65536) :
    decodeEntities (head ++ payloads.flatMap (record entityHeaderSize)) = some payloads := by
  obtain ⟨first, rest, rfl⟩ := List.exists_cons_of_ne_nil present
  simp only [List.forall_mem_cons] at covers small
  have long : ¬ (head ++ (first :: rest).flatMap (record entityHeaderSize)).length < 10 := by
    simp [ten]
  have tail : (head ++ (first :: rest).flatMap (record entityHeaderSize)).drop 10 =
      record entityHeaderSize first ++ rest.flatMap (record entityHeaderSize) := by
    rw [← ten, List.drop_left, List.flatMap_cons]
  rw [decodeEntities, if_neg long, tail, readRecord_record covers.1 small.1, Option.bind_some,
    readRecords_flatMap covers.2 small.2]
  rfl

theorem responsePacket_contentsLength (payloads : List (List UInt8))
    (small : (payloads.flatMap (record entityHeaderSize)).length < 65536) :
    contentsLength (responsePacket payloads) + 10 = (responsePacket payloads).length := by
  rw [responsePacket_length, Nat.add_comm 10]
  simpa [responsePacket, contentsLength, putUint16] using uint16_putUint16 _ small

theorem decodeEntities_responsePacket {payloads : List (List UInt8)} (present : payloads ≠ [])
    (covers : ∀ payload ∈ payloads, entityHeaderSize ≤ payload.length)
    (small : ∀ payload ∈ payloads, payload.length - entityHeaderSize < 65536) :
    decodeEntities (responsePacket payloads) = some payloads :=
  decodeEntities_records (by simp) present covers small

end Bbsim.Omci
