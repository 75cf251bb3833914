import Bbsim.Foundation.Outcome
import Bbsim.Responders.Igmp
import Bbsim.Responders.TcpipChecksum

/-! IGMP messages on the wire. `SerializeTo` fills an area of fixed size at a running offset. What
it writes is the message of RFC 2236 or RFC 3376, and the rest of the area stays part of the layer. -/

namespace Bbsim.Responders.Igmp

open Foundation

/-- `net.IP`, of 4 or 16 bytes. -/
abbrev Ip := List UInt8

/-- `To4`; nil is the empty list. -/
def to4 (ip : Ip) : List UInt8 :=
  if ip.length = 4 then ip
  else if ip.length = 16 ∧ ip.take 12 = [0, 0, 0, 0, 0, 0, 0, 0, 0, 0, 0xff, 0xff] then ip.drop 12
  else []

/-- `IGMPv3GroupRecord`, with the fields that are written. -/
structure GroupRecord where
  type : UInt8
  numberOfSources : UInt16
  multicastAddress : Ip
  sourceAddresses : List Ip
deriving DecidableEq

/-- `IGMP`, with the fields that are written. -/
structure IgmpMessage where
  type : UInt8
  maxResponseTime : Int
  groupAddress : Ip
  numberOfGroupRecords : UInt16
  groupRecords : List GroupRecord
  version : UInt8
deriving DecidableEq

inductive WireFault where
  /-- An index or a slice goes beyond the area, or beyond a list of records or sources. -/
  | outOfRange
deriving DecidableEq

/-- `PrependBytes(8915)` on an empty buffer. -/
def areaSize : Nat := 8915

/-- Write to `data[start:finish]`. -/
def store (data : List UInt8) (start finish : Nat) (bytes : List UInt8) :
    Except WireFault (List UInt8) :=
  if data.length < finish then .error .outOfRange else .ok (overwrite data start bytes)

/-- The items that a loop over a declared number visits. -/
def listed {Item : Type} (count : UInt16) (items : List Item) : Except WireFault (List Item) :=
  if items.length < count.toNat then .error .outOfRange else .ok (items.take count.toNat)

/-- The area and the running offset. -/
abbrev Cursor := List UInt8 × Nat

def writeSource (cursor : Cursor) (source : Ip) : Except WireFault Cursor := do
  let (data, j) := cursor
  let data ← store data j (j + 4) (to4 source)
  return (data, j + 4)

def writeRecord (cursor : Cursor) (record : GroupRecord) : Except WireFault Cursor := do
  let (data, j) := cursor
  let data ← store data j (j + 1) [record.type]
  let data ← store data (j + 1) (j + 2) [0]
  let data ← store data (j + 2) (j + 4) (putUint16 record.numberOfSources.toNat)
  let data ← store data (j + 4) (j + 8) (to4 record.multicastAddress)
  (← listed record.numberOfSources record.sourceAddresses).foldlM writeSource (data, j + 8)

/-- `opts.ComputeChecksums`. -/
def withChecksum (computeChecksums : Bool) (data : List UInt8) : List UInt8 :=
  if computeChecksums then putChecksum data (tcpipChecksum data 0) else data

/-- The layer that is put in front of the buffer. -/
def serializeTo (igmp : IgmpMessage) (computeChecksums : Bool) : Except WireFault (List UInt8) := do
  let data := List.replicate areaSize 0
  if igmp.version = 2 then
    let data ← store data 0 4 [igmp.type, UInt8.ofInt igmp.maxResponseTime, 0, 0]
    let data ← store data 4 8 (to4 igmp.groupAddress)
    return withChecksum computeChecksums data
  else if igmp.version = 3 then
    let data ← store data 0 6 [igmp.type, 0, 0, 0, 0, 0]
    let data ← store data 6 8 (putUint16 igmp.numberOfGroupRecords.toNat)
    let (data, _) ← (← listed igmp.numberOfGroupRecords igmp.groupRecords).foldlM writeRecord (data, 8)
    return withChecksum computeChecksums data
  else return data

/-- A group record of RFC 3376 without auxiliary data. -/
structure RecordContent where
  type : UInt8
  group : List UInt8
  sources : List (List UInt8)
deriving DecidableEq

/-- What a receiver reads: a message of RFC 2236, or a report of RFC 3376. -/
inductive Content where
  | v2 (type maxResponseTime : UInt8) (group : List UInt8)
  | v3 (type : UInt8) (records : List RecordContent)
deriving DecidableEq

def decodeSources : Nat → List UInt8 → Option (List (List UInt8) × List UInt8)
  | 0, bytes => some ([], bytes)
  | count + 1, a :: b :: c :: d :: bytes =>
    (decodeSources count bytes).map fun (sources, rest) => ([a, b, c, d] :: sources, rest)
  | _ + 1, _ => none

def decodeRecords : Nat → List UInt8 → Option (List RecordContent × List UInt8)
  | 0, bytes => some ([], bytes)
  | count + 1, type :: _ :: high :: low :: a :: b :: c :: d :: bytes => do
    let (sources, bytes) ← decodeSources (uint16 high low) bytes
    let (records, rest) ← decodeRecords count bytes
    return (⟨type, [a, b, c, d], sources⟩ :: records, rest)
  | _ + 1, _ => none

/-- The content with what is left behind it. -/
def decode (version : UInt8) : List UInt8 → Option (Content × List UInt8)
  | type :: response :: _ :: _ :: a :: b :: c :: d :: bytes =>
    if version = 2 then some (.v2 type response [a, b, c, d], bytes)
    else (decodeRecords (uint16 c d) bytes).map fun (records, rest) => (.v3 type records, rest)
  | _ => none

namespace IgmpMessage

def recordContent (record : GroupRecord) : RecordContent :=
  ⟨record.type, to4 record.multicastAddress, record.sourceAddresses.map to4⟩

/-- What the receiver should read. -/
def content (igmp : IgmpMessage) : Content :=
  if igmp.version = 2 then .v2 igmp.type (UInt8.ofInt igmp.maxResponseTime) (to4 igmp.groupAddress)
  else .v3 igmp.type (igmp.groupRecords.map recordContent)

def wireLength (igmp : IgmpMessage) : Nat :=
  if igmp.version = 2 then 8
  else 8 + (igmp.groupRecords.map fun record => 8 + 4 * record.sourceAddresses.length).sum

/-- The form on the wire: the length, the checksum and the content. -/
structure WireForm (igmp : IgmpMessage) (layer : List UInt8) : Prop where
  length : layer.length = igmp.wireLength
  checksum : tcpipChecksum layer 0 = 0
  content : decode igmp.version layer = some (igmp.content, [])

end IgmpMessage

/-- The addresses are IPv4 addresses and the declared count is that of the list. -/
structure GroupRecord.WellFormed (record : GroupRecord) : Prop where
  group : (to4 record.multicastAddress).length = 4
  sources : ∀ source ∈ record.sourceAddresses, (to4 source).length = 4
  count : record.numberOfSources.toNat = record.sourceAddresses.length

/-- A message of version 2, or a report of version 3 with its counts. -/
inductive IgmpMessage.WellFormed (igmp : IgmpMessage) : Prop where
  | v2 (version : igmp.version = 2) (group : (to4 igmp.groupAddress).length = 4)
  | v3 (version : igmp.version = 3) (records : ∀ record ∈ igmp.groupRecords, record.WellFormed)
      (count : igmp.numberOfGroupRecords.toNat = igmp.groupRecords.length)

section Fill

variable {size : Nat} {written bytes rest : List UInt8} {Result : Type}

/-- The abstract operation: bytes are put behind those that are written. -/
def appendIn (size : Nat) (written bytes : List UInt8) : Except WireFault (List UInt8) :=
  if written.length + bytes.length ≤ size then .ok (written ++ bytes) else .error .outOfRange

/-- The area behind the bytes is still zero, and the offset is at their end. -/
def filled (size : Nat) (written : List UInt8) : Cursor := (padTo size written, written.length)

theorem appendIn_nil (within : written.length ≤ size) : appendIn size written [] = .ok written := by
  rw [appendIn, List.length_nil, Nat.add_zero, if_pos within, List.append_nil]

/-- One append after the other is one append. -/
theorem appendIn_bind {next : List UInt8 → Except WireFault Result} {make : List UInt8 → Result}
    (each : (written ++ bytes).length ≤ size →
      next (written ++ bytes) = (appendIn size (written ++ bytes) rest).map make) :
    (appendIn size written bytes >>= next) = (appendIn size written (bytes ++ rest)).map make := by
  by_cases fits : written.length + bytes.length ≤ size
  · have first : appendIn size written bytes = .ok (written ++ bytes) := if_pos fits
    have both : appendIn size (written ++ bytes) rest = appendIn size written (bytes ++ rest) := by
      rw [appendIn, appendIn, List.append_assoc, List.length_append, List.length_append, Nat.add_assoc]
    rw [first, ← both, ← each (by rwa [List.length_append])]
    rfl
  · have first : appendIn size written bytes = .error .outOfRange := if_neg fits
    have both : appendIn size written (bytes ++ rest) = .error .outOfRange := by
      rw [appendIn, List.length_append, if_neg (by omega)]
    rw [first, both]
    rfl

/-- A write at the offset appends. -/
theorem store_bind (within : written.length ≤ size) {start finish : Nat} (begins : start = written.length)
    (ends : finish = start + bytes.length) {next : List UInt8 → Except WireFault Result}
    {make : List UInt8 → Result}
    (each : (written ++ bytes).length ≤ size →
      next (padTo size (written ++ bytes)) = (appendIn size (written ++ bytes) rest).map make) :
    (store (padTo size written) start finish bytes >>= next) =
      (appendIn size written (bytes ++ rest)).map make := by
  subst begins ends
  rw [← @appendIn_bind size written bytes rest Result (fun w => next (padTo size w)) make each]
  rw [store, padTo_length, Nat.max_eq_left within, appendIn]
  by_cases fits : written.length + bytes.length ≤ size
  · rw [if_neg (Nat.not_lt.mpr fits), if_pos fits, overwrite_padTo fits]
    rfl
  · rw [if_pos (Nat.not_le.mp fits), if_neg fits]
    rfl

/-- A loop whose body appends. -/
theorem foldlM_fills {Item : Type} {write : Cursor → Item → Except WireFault Cursor}
    {encode : Item → List UInt8} {items : List Item} (within : written.length ≤ size)
    (each : ∀ item ∈ items, ∀ written, written.length ≤ size →
      write (filled size written) item = (appendIn size written (encode item)).map (filled size)) :
    items.foldlM write (filled size written) =
      (appendIn size written (items.flatMap encode)).map (filled size) := by
  induction items generalizing written with
  | nil =>
    rw [List.flatMap_nil, appendIn_nil within]
    rfl
  | cons item rest ih =>
    have later := fun other member => each other (List.mem_cons_of_mem item member)
    rw [List.foldlM_cons, each item List.mem_cons_self written within, List.flatMap_cons]
    rw [← @appendIn_bind size written (encode item) _ Cursor
      (fun written => rest.foldlM write (filled size written)) _ fun within => ih within later]
    cases appendIn size written (encode item) with
    | error fault | ok longer => rfl

end Fill

def recordBytes (record : GroupRecord) : List UInt8 :=
  [record.type] ++ ([0] ++ (putUint16 record.numberOfSources.toNat ++
    (to4 record.multicastAddress ++ record.sourceAddresses.flatMap to4)))

theorem listed_of_count {Item : Type} {count : UInt16} {items : List Item}
    (same : count.toNat = items.length) : listed count items = .ok items := by
  rw [listed, same, if_neg (Nat.lt_irrefl _), List.take_length]

private theorem writeSource_fills {size : Nat} {written : List UInt8} {source : Ip}
    (within : written.length ≤ size) (address : (to4 source).length = 4) :
    writeSource (filled size written) source =
      (appendIn size written (to4 source)).map (filled size) := by
  have stored := @store_bind size written (to4 source) [] Cursor within _ _ rfl (by rw [address])
    (fun data => .ok (data, written.length + 4)) (filled size)
  rw [List.append_nil] at stored
  refine stored fun within => ?_
  have offset : (written ++ to4 source).length = written.length + 4 := by
    rw [List.length_append, address]
  rw [appendIn_nil within, ← offset]
  rfl

private theorem writeRecord_fills {size : Nat} {written : List UInt8} {record : GroupRecord}
    (within : written.length ≤ size) (wellFormed : record.WellFormed) :
    writeRecord (filled size written) record =
      (appendIn size written (recordBytes record)).map (filled size) := by
  obtain ⟨group, sources, count⟩ := wellFormed
  rw [writeRecord, filled, recordBytes]
  dsimp only
  refine store_bind within rfl (by rfl) fun within => ?_
  refine store_bind within (by simp) (by rfl) fun within => ?_
  refine store_bind within (by simp) (by rfl) fun within => ?_
  refine store_bind within (by simp) (by rw [group]) fun within => ?_
  rw [listed_of_count count]
  have offset : written.length + 8 = (written ++ [record.type] ++ [0] ++
      putUint16 record.numberOfSources.toNat ++ to4 record.multicastAddress).length := by
    simp [group]
  rw [offset]
  exact foldlM_fills within fun source member written within =>
    writeSource_fills within (sources source member)

namespace IgmpMessage

variable {igmp : IgmpMessage}

/-- The message before its checksum is set. -/
def bytes (igmp : IgmpMessage) : List UInt8 :=
  if igmp.version = 2 then
    [igmp.type, UInt8.ofInt igmp.maxResponseTime, 0, 0] ++ to4 igmp.groupAddress
  else
    [igmp.type, 0, 0, 0, 0, 0] ++ (putUint16 igmp.numberOfGroupRecords.toNat ++
      igmp.groupRecords.flatMap recordBytes)

theorem bytes_zeros (igmp : IgmpMessage) : igmp.bytes[2]? = some 0 ∧ igmp.bytes[3]? = some 0 := by
  unfold bytes
  split <;> exact ⟨rfl, rfl⟩

/-- The checksum is set in the area, which is the same as to set it in the message. -/
theorem withChecksum_padTo (igmp : IgmpMessage) (size : Nat) (computeChecksums : Bool) :
    withChecksum computeChecksums (padTo size igmp.bytes) =
      padTo size (withChecksum computeChecksums igmp.bytes) := by
  cases computeChecksums with
  | false => rfl
  | true =>
    rw [withChecksum, withChecksum, if_pos rfl, if_pos rfl, tcpipChecksum_padTo,
      putChecksum_padTo igmp.bytes_zeros.2]

theorem serializeTo_eq (wellFormed : igmp.WellFormed) (computeChecksums : Bool) :
    serializeTo igmp computeChecksums =
      (appendIn areaSize [] igmp.bytes).map fun message =>
        withChecksum computeChecksums (padTo areaSize message) := by
  have empty : List.replicate areaSize 0 = padTo areaSize [] := rfl
  have none : ([] : List UInt8).length ≤ areaSize := Nat.zero_le _
  unfold serializeTo bytes
  rw [empty]
  cases wellFormed with
  | v2 version group =>
    rw [if_pos version, if_pos version]
    refine store_bind none rfl (by rfl) fun within => ?_
    have stored := @store_bind areaSize _ (to4 igmp.groupAddress) [] _ within 4 8 rfl (by rw [group])
      (fun data => .ok (withChecksum computeChecksums data))
      fun message => withChecksum computeChecksums (padTo areaSize message)
    rw [List.append_nil] at stored
    refine stored fun within => ?_
    rw [appendIn_nil within]
    rfl
  | v3 version records count =>
    have other : igmp.version ≠ 2 := by rw [version]; decide
    rw [if_neg other, if_neg other, if_pos version]
    dsimp only
    refine store_bind none rfl (by rfl) fun within => ?_
    refine store_bind within (by rfl) (by rfl) fun within => ?_
    rw [listed_of_count count]
    have loop := foldlM_fills within fun record member written within =>
      writeRecord_fills within (records record member)
    change (igmp.groupRecords.foldlM writeRecord (filled areaSize ([] ++ [igmp.type, 0, 0, 0, 0, 0] ++
      putUint16 igmp.numberOfGroupRecords.toNat)) >>= fun cursor =>
        .ok (withChecksum computeChecksums cursor.1)) = _
    rw [loop]
    cases appendIn areaSize ([] ++ [igmp.type, 0, 0, 0, 0, 0] ++
      putUint16 igmp.numberOfGroupRecords.toNat) (igmp.groupRecords.flatMap recordBytes) with
    | error fault => rfl
    | ok message => rfl

private theorem recordBytes_length {record : GroupRecord} (wellFormed : record.WellFormed) :
    (recordBytes record).length = 8 + 4 * record.sourceAddresses.length := by
  obtain ⟨group, sources, -⟩ := wellFormed
  have addresses : (record.sourceAddresses.flatMap to4).length = 4 * record.sourceAddresses.length := by
    rw [List.length_flatMap, List.map_congr_left sources, List.map_const', List.sum_replicate_nat,
      Nat.mul_comm]
  simp only [recordBytes, List.length_append, List.length_singleton, putUint16_length, group, addresses]
  omega

theorem bytes_length (wellFormed : igmp.WellFormed) : igmp.bytes.length = igmp.wireLength := by
  unfold bytes wireLength
  cases wellFormed with
  | v2 version group =>
    rw [if_pos version, if_pos version, List.length_append, group]
    rfl
  | v3 version records count =>
    have other : igmp.version ≠ 2 := by rw [version]; decide
    rw [if_neg other, if_neg other, List.length_append, List.length_append, List.length_flatMap,
      List.map_congr_left fun record member => recordBytes_length (records record member)]
    simp only [List.length_cons, List.length_nil, putUint16_length]
    omega

theorem decodeSources_flatMap {sources : List Ip} (addresses : ∀ source ∈ sources, (to4 source).length = 4)
    (rest : List UInt8) :
    decodeSources sources.length (sources.flatMap to4 ++ rest) = some (sources.map to4, rest) := by
  induction sources with
  | nil => rfl
  | cons source others ih =>
    obtain ⟨address, later⟩ := List.forall_mem_cons.mp addresses
    obtain ⟨a, b, c, d, bytes⟩ := List.length_eq_four.mp address
    rw [List.flatMap_cons, List.map_cons, bytes]
    change (decodeSources others.length (others.flatMap to4 ++ rest)).map _ = _
    rw [ih later]
    rfl

private theorem decodeRecords_flatMap {records : List GroupRecord}
    (wellFormed : ∀ record ∈ records, record.WellFormed) (rest : List UInt8) :
    decodeRecords records.length (records.flatMap recordBytes ++ rest) =
      some (records.map recordContent, rest) := by
  induction records with
  | nil => rfl
  | cons record others ih =>
    obtain ⟨⟨group, sources, count⟩, later⟩ := List.forall_mem_cons.mp wellFormed
    obtain ⟨a, b, c, d, bytes⟩ := List.length_eq_four.mp group
    have counted := uint16_putUint16 record.numberOfSources.toNat record.numberOfSources.toNat_lt
    rw [List.flatMap_cons, List.map_cons, List.append_assoc, recordBytes, recordContent, bytes,
      List.length_cons]
    change (decodeSources (uint16 _ _) ((record.sourceAddresses.flatMap to4) ++
      (others.flatMap recordBytes ++ rest))).bind _ = _
    rw [counted, count, decodeSources_flatMap sources]
    change (decodeRecords others.length (others.flatMap recordBytes ++ rest)).bind _ = _
    rw [ih later]
    rfl

/-- With any checksum in it the message has its content. -/
theorem decode_putChecksum (wellFormed : igmp.WellFormed) (checksum : UInt16) (rest : List UInt8) :
    decode igmp.version (putChecksum igmp.bytes checksum ++ rest) = some (igmp.content, rest) := by
  unfold bytes content
  cases wellFormed with
  | v2 version group =>
    obtain ⟨a, b, c, d, bytes⟩ := List.length_eq_four.mp group
    rw [if_pos version, if_pos version, version, bytes]
    rfl
  | v3 version records count =>
    have other : igmp.version ≠ 2 := by rw [version]; decide
    have counted := uint16_putUint16 igmp.numberOfGroupRecords.toNat igmp.numberOfGroupRecords.toNat_lt
    rw [if_neg other, if_neg other, version]
    change (decodeRecords (uint16 _ _) (igmp.groupRecords.flatMap recordBytes ++ rest)).map _ = _
    rw [counted, count, decodeRecords_flatMap records]
    rfl

private theorem four_dvd_wireLength (igmp : IgmpMessage) : 4 ∣ igmp.wireLength := by
  have sums : ∀ records : List GroupRecord,
      4 ∣ (records.map fun record => 8 + 4 * record.sourceAddresses.length).sum := by
    intro records
    induction records with
    | nil => exact Nat.dvd_zero 4
    | cons record rest ih =>
      rw [List.map_cons, List.sum_cons]
      omega
  have total := sums igmp.groupRecords
  unfold wireLength
  split <;> omega

section

variable (wellFormed : igmp.WellFormed)
include wellFormed

/-- The message that is at the front of the layer. -/
theorem wireForm_withChecksum (fits : igmp.wireLength ≤ areaSize) :
    igmp.WireForm (withChecksum true igmp.bytes) := by
  obtain ⟨third, fourth⟩ := igmp.bytes_zeros
  have length := bytes_length wellFormed
  have small : igmp.wireLength < 2 ^ 17 := Nat.lt_of_le_of_lt fits (by decide)
  refine ⟨?_, tcpipChecksum_putChecksum third fourth (length ▸ small), ?_⟩
  · rw [← length]
    exact putChecksum_length fourth _
  · have decoded := decode_putChecksum wellFormed (tcpipChecksum igmp.bytes 0) []
    rw [List.append_nil] at decoded
    exact decoded

theorem serializeTo_of_fits (fits : igmp.wireLength ≤ areaSize) :
    serializeTo igmp true = .ok (padTo areaSize (withChecksum true igmp.bytes)) := by
  rw [serializeTo_eq wellFormed, appendIn, List.length_nil, Nat.zero_add, bytes_length wellFormed,
    if_pos fits, List.nil_append, Except.map, withChecksum_padTo]

theorem serializeTo_of_not_fits (large : ¬ igmp.wireLength ≤ areaSize) :
    serializeTo igmp true = .error .outOfRange := by
  rw [serializeTo_eq wellFormed, appendIn, List.length_nil, Nat.zero_add, bytes_length wellFormed,
    if_neg large, Except.map]

/-- The size of the area is odd. -/
theorem not_wireForm_of_serialized {layer : List UInt8}
    (serialized : serializeTo igmp true = .ok layer) : ¬ igmp.WireForm layer := by
  intro form
  have length : layer.length = areaSize := by
    by_cases fits : igmp.wireLength ≤ areaSize
    · rw [serializeTo_of_fits wellFormed fits] at serialized
      rw [← Except.ok.inj serialized, padTo_length, (wireForm_withChecksum wellFormed fits).length,
        Nat.max_eq_left fits]
    · rw [serializeTo_of_not_fits wellFormed fits] at serialized
      cases serialized
  have divides := four_dvd_wireLength igmp
  rw [← form.length, length] at divides
  revert divides
  decide

end

/-- The layer is never the wire form, as it always has the size of the area. It is the wire form with
zeros behind it, and there is a layer exactly if the message fits into the area. -/
theorem serialized_layer (igmp : IgmpMessage) (wellFormed : igmp.WellFormed) :
    (¬ ∃ layer, serializeTo igmp true = .ok layer ∧ igmp.WireForm layer) ∧
      ((∃ layer, serializeTo igmp true = .ok layer) ↔ igmp.wireLength ≤ areaSize) ∧
      (igmp.wireLength ≤ areaSize → ∃ message, igmp.WireForm message ∧
        serializeTo igmp true = .ok (padTo areaSize message) ∧
        tcpipChecksum (padTo areaSize message) 0 = 0) := by
  refine ⟨?_, ⟨?_, fun fits => ⟨_, serializeTo_of_fits wellFormed fits⟩⟩, fun fits => ?_⟩
  · rintro ⟨layer, serialized, form⟩
    exact not_wireForm_of_serialized wellFormed serialized form
  · rintro ⟨layer, serialized⟩
    by_contra large
    rw [serializeTo_of_not_fits wellFormed large] at serialized
    cases serialized
  · have form := wireForm_withChecksum wellFormed fits
    refine ⟨_, form, serializeTo_of_fits wellFormed fits, ?_⟩
    rw [tcpipChecksum_padTo]
    exact form.checksum

end IgmpMessage

/-- A report of version 2 for the group 224.0.0.22. -/
def plainReport : IgmpMessage := ⟨0x16, 0, [224, 0, 0, 22], 0, [], 2⟩

theorem plainReport_wellFormed : plainReport.WellFormed := .v2 rfl rfl

/-- Its layer is the report with zeros behind it. -/
theorem plainReport_padded : ∃ message, plainReport.WireForm message ∧
    serializeTo plainReport true = .ok (padTo areaSize message) := by
  obtain ⟨-, -, fits⟩ := plainReport.serialized_layer plainReport_wellFormed
  obtain ⟨message, form, serialized, -⟩ := fits (by decide)
  exact ⟨message, form, serialized⟩

/-- It has 8 bytes, and its layer has the size of the area. -/
theorem plainReport_not_wireForm : ∃ layer, serializeTo plainReport true = .ok layer ∧
    layer.length = 8915 ∧ plainReport.wireLength = 8 ∧ ¬ plainReport.WireForm layer := by
  have serialized := IgmpMessage.serializeTo_of_fits plainReport_wellFormed (by decide)
  refine ⟨_, serialized, ?_, rfl, ?_⟩
  · rw [padTo_length]
    rfl
  · exact IgmpMessage.not_wireForm_of_serialized plainReport_wellFormed serialized

end Bbsim.Responders.Igmp
