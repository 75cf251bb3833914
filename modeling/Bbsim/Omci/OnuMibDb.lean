import Bbsim.Omci.MibUpload

/-! The MIB database of an ONU. `GenerateMibDatabase`: the list of baseline entries for the given
numbers of UNIs, and the extended responses packed from it. -/

namespace Bbsim.Omci

open Foundation

inductive PonTechnology where
  | gpon
  | xgspon
deriving DecidableEq

/-- The two settings of `common.Config.BBSim` the database depends on. -/
structure MibConfig where
  injectOmciUnknownMe : Bool
  injectOmciUnknownAttributes : Bool
deriving DecidableEq

/-- An entry is an entity to serialize, or a prebuilt packet whose other fields are ignored. -/
inductive MibDbEntry where
  | entity (entity : ManagedEntity)
  | packet (classId : Nat) (bytes : List UInt8)

/-- Only prebuilt packets. -/
def PacketEntries (entries : List MibDbEntry) : Prop :=
  ∀ entry ∈ entries, ∃ classId bytes, entry = .packet classId bytes

structure MibDb where
  numberOfBaselineCommands : Nat
  numberOfExtendedCommands : Nat
  baselineItems : List MibDbEntry
  extendedResponses : List (List UInt8)

/-- A count as the 16-bit number of commands holds it. -/
def commandCount {Item : Type*} (items : List Item) : Nat := items.length % 65536

def unknownMePktReportedMeHdr : List UInt8 := [0x00, 0x25, 0x00, 0x01, 0x80, 0x00]

def unknownMePktAttributes : List UInt8 :=
  [0x01, 0x02, 0x03, 0x04, 0x05, 0x06, 0x07, 0x08, 0x09, 0x0a, 0x0b, 0x0c, 0x0d, 0x0e, 0x0f, 0x10,
    0x11, 0x12, 0x13, 0x14, 0x15, 0x16, 0x17, 0x18, 0x19, 0x1a]

def unknownAttribPktReportedMeHdr : List UInt8 := [0x01, 0x01, 0x00, 0x00, 0x07, 0xfd]

def unknownAttribPktAttributes : List UInt8 :=
  [0x00, 0x40, 0x08, 0x01, 0x00, 0x08, 0x00, 0x00, 0x00, 0x06, 0x00, 0x7f, 0x07, 0x00, 0x3f, 0x00,
    0x01, 0x00, 0x01, 0x00, 0x01, 0x00, 0x01, 0x00, 0x00, 0x00]

/-- A whole baseline response around the given entity header and attributes. -/
def customPacket (reportedMeHdr attributes : List UInt8) : List UInt8 :=
  let omciHdr := putUint16 33066 ++ [mibUploadNextResponseType, baselineIdent]
  let msgHdr := [0x00, 0x02, 0x00, 0x00]
  let trailer := [0x00, 0x00, 0x00, 0x28, 0x28, 0xce, 0x00, 0xe2]
  omciHdr ++ msgHdr ++ reportedMeHdr ++ attributes ++ trailer

def cardHolderOnuType : UInt8 := 0x01
def ethernetUnitType : UInt8 := 0x2f
def xgsPonUnitType : UInt8 := 0xee
def gPonUnitType : UInt8 := 0xf5
def potsUnitType : UInt8 := 0x20
def cardHolderSlotID : UInt8 := 0x01
def tcontSlotId : UInt8 := 0x80
def aniGId : UInt8 := 0x01

def upstreamPriorityQueues : Nat := 8
def downstreamPriorityQueues : Nat := 8
def tconts : Nat := 8

/-- `ToUint16` and `ToUint32` of an entity id given by its bytes. -/
def entityID (high low : UInt8) : Nat := uint16 high low
def entityID32 (high low : UInt8) (port : Nat) : Nat := entityID high low * 65536 + port % 256

def circuitPackEntityID : Nat := entityID cardHolderOnuType cardHolderSlotID

/-- The bytes of a name, zero-filled to the given size. -/
def toOctets (name : List UInt8) (size : Nat) : AttributeValue :=
  .octets (name ++ List.replicate (size - name.length) 0)

def circuitPackSerial : List UInt8 :=
  [0x42, 0x42, 0x53, 0x4d, 0x2d, 0x43, 0x69, 0x72, 0x63, 0x75, 0x69, 0x74, 0x2d, 0x50, 0x61, 0x63,
    0x6b]

def circuitPackAniSerial : List UInt8 := circuitPackSerial ++ [0x2d, 0x61, 0x6e, 0x69]
def circuitPackVersion : List UInt8 := [0x76, 0x30, 0x2e, 0x30, 0x2e, 0x31]
def circuitPackVendor : List UInt8 := [0x4f, 0x4e, 0x46]

def onuDataEntry : MibDbEntry :=
  .entity ⟨OnuData.classID, entityID 0x00 0x00, [(OnuData.mibDataSync, .number 0)]⟩

/-- A circuit pack is reported in four entries, as it is too big for one baseline message. -/
def circuitPackEntries (unitType : UInt8) (ports : Nat) (serial : List UInt8)
    (schedulers : Nat) : List MibDbEntry :=
  [.entity ⟨CircuitPack.classID, circuitPackEntityID,
      [(CircuitPack.type, .number unitType.toNat),
        (CircuitPack.numberOfPorts, .number ports),
        (CircuitPack.serialNumber, toOctets serial 20),
        (CircuitPack.version, toOctets circuitPackVersion 20)]⟩,
    .entity ⟨CircuitPack.classID, circuitPackEntityID,
      [(CircuitPack.vendorId, toOctets circuitPackVendor 4),
        (CircuitPack.administrativeState, .number 0),
        (CircuitPack.operationalState, .number 0),
        (CircuitPack.bridgedOrIpInd, .number 0)]⟩,
    .entity ⟨CircuitPack.classID, circuitPackEntityID,
      [(CircuitPack.equipmentId, toOctets circuitPackSerial 20),
        (CircuitPack.cardConfiguration, .number 0),
        (CircuitPack.totalTContBufferNumber, .number 8),
        (CircuitPack.totalPriorityQueueNumber, .number 8),
        (CircuitPack.totalTrafficSchedulerNumber, .number schedulers)]⟩,
    .entity ⟨CircuitPack.classID, circuitPackEntityID,
      [(CircuitPack.powerShedOverride, .number 0)]⟩]

def aniGEntry : MibDbEntry :=
  .entity ⟨AniG.classID, entityID tcontSlotId aniGId,
    [(AniG.arc, .number 0),
      (AniG.arcInterval, .number 0),
      (AniG.deprecated, .number 0),
      (AniG.gemBlockLength, .number 48),
      (AniG.lowerOpticalThreshold, .number 255),
      (AniG.lowerTransmitPowerThreshold, .number 129),
      (AniG.onuResponseTime, .number 0),
      (AniG.opticalSignalLevel, .number 57428),
      (AniG.piggybackDbaReporting, .number 0),
      (AniG.signalDegradeThreshold, .number 9),
      (AniG.signalFailThreshold, .number 5),
      (AniG.srIndication, .number 1),
      (AniG.totalTcontNumber, .number 8),
      (AniG.transmitOpticalLevel, .number 3171),
      (AniG.upperOpticalThreshold, .number 255),
      (AniG.upperTransmitPowerThreshold, .number 129)]⟩

def ethernetUniEntry (uniEntityId : Nat) : MibDbEntry :=
  .entity ⟨PhysicalPathTerminationPointEthernetUni.classID, uniEntityId,
    [(PhysicalPathTerminationPointEthernetUni.expectedType, .number 0),
      (PhysicalPathTerminationPointEthernetUni.sensedType, .number ethernetUnitType.toNat),
      (PhysicalPathTerminationPointEthernetUni.autoDetectionConfiguration, .number 0),
      (PhysicalPathTerminationPointEthernetUni.ethernetLoopbackConfiguration, .number 0),
      (PhysicalPathTerminationPointEthernetUni.administrativeState, .number 0),
      (PhysicalPathTerminationPointEthernetUni.operationalState, .number 0),
      (PhysicalPathTerminationPointEthernetUni.configurationInd, .number 3),
      (PhysicalPathTerminationPointEthernetUni.maxFrameSize, .number 1518),
      (PhysicalPathTerminationPointEthernetUni.dteOrDceInd, .number 0),
      (PhysicalPathTerminationPointEthernetUni.pauseTime, .number 0),
      (PhysicalPathTerminationPointEthernetUni.bridgedOrIpInd, .number 2),
      (PhysicalPathTerminationPointEthernetUni.arc, .number 0),
      (PhysicalPathTerminationPointEthernetUni.arcInterval, .number 0),
      (PhysicalPathTerminationPointEthernetUni.pppoeFilter, .number 0),
      (PhysicalPathTerminationPointEthernetUni.powerControl, .number 0)]⟩

def potsUniEntry (uniEntityId : Nat) : MibDbEntry :=
  .entity ⟨PhysicalPathTerminationPointPotsUni.classID, uniEntityId,
    [(PhysicalPathTerminationPointPotsUni.administrativeState, .number 0),
      (PhysicalPathTerminationPointPotsUni.deprecated, .number 0),
      (PhysicalPathTerminationPointPotsUni.arc, .number 0),
      (PhysicalPathTerminationPointPotsUni.arcInterval, .number 0),
      (PhysicalPathTerminationPointPotsUni.impedance, .number 0),
      (PhysicalPathTerminationPointPotsUni.transmissionPath, .number 0),
      (PhysicalPathTerminationPointPotsUni.rxGain, .number 0),
      (PhysicalPathTerminationPointPotsUni.txGain, .number 0),
      (PhysicalPathTerminationPointPotsUni.operationalState, .number 0),
      (PhysicalPathTerminationPointPotsUni.hookState, .number 0),
      (PhysicalPathTerminationPointPotsUni.potsHoldoverTime, .number 0),
      (PhysicalPathTerminationPointPotsUni.nominalFeedVoltage, .number 0),
      (PhysicalPathTerminationPointPotsUni.lossOfSoftswitch, .number 0)]⟩

def uniGEntry (uniEntityId : Nat) : MibDbEntry :=
  .entity ⟨UniG.classID, uniEntityId,
    [(UniG.administrativeState, .number 0),
      (UniG.deprecated, .number 0),
      (UniG.managementCapability, .number 0),
      (UniG.nonOmciManagementIdentifier, .number 0),
      (UniG.relayAgentOptions, .number 0)]⟩

/-- A queue is reported first without any attribute and then with all of them. -/
def priorityQueueEntries (queueEntityId relatedPort schedulerPointer : Nat) : List MibDbEntry :=
  [.entity ⟨PriorityQueue.classID, queueEntityId, []⟩,
    .entity ⟨PriorityQueue.classID, queueEntityId,
      [(PriorityQueue.queueConfigurationOption, .number 0),
        (PriorityQueue.maximumQueueSize, .number 100),
        (PriorityQueue.allocatedQueueSize, .number 100),
        (PriorityQueue.discardBlockCounterResetInterval, .number 0),
        (PriorityQueue.thresholdValueForDiscardedBlocksDueToBufferOverflow, .number 0),
        (PriorityQueue.relatedPort, .number relatedPort),
        (PriorityQueue.trafficSchedulerPointer, .number schedulerPointer),
        (PriorityQueue.weight, .number 1),
        (PriorityQueue.backPressureOperation, .number 1),
        (PriorityQueue.backPressureTime, .number 0),
        (PriorityQueue.backPressureOccurQueueThreshold, .number 0),
        (PriorityQueue.backPressureClearQueueThreshold, .number 0)]⟩]

/-- `GenerateUniPortEntityId`. -/
def uniPortEntityId (port : Nat) : Nat := entityID cardHolderSlotID (UInt8.ofNat port)

/-- One UNI: its termination point, its UNI-G and its downstream queues. -/
def uniEntries (ethUniPortCount port : Nat) : List MibDbEntry :=
  let termination :=
    if port ≤ ethUniPortCount then ethernetUniEntry (uniPortEntityId port)
    else potsUniEntry (uniPortEntityId port)
  termination :: uniGEntry (uniPortEntityId port) ::
    (List.range downstreamPriorityQueues).flatMap fun priority =>
      priorityQueueEntries (entityID cardHolderSlotID (UInt8.ofNat (port * 16 + priority)))
        (entityID32 cardHolderSlotID (UInt8.ofNat port) priority) 0

/-- One T-CONT: itself, its traffic scheduler and its upstream queues. -/
def tcontEntries (number : Nat) : List MibDbEntry :=
  let tcontEntityId := entityID tcontSlotId (UInt8.ofNat number)
  let tsEntityId := entityID cardHolderSlotID (UInt8.ofNat number)
  .entity ⟨TCont.classID, tcontEntityId, [(TCont.allocId, .number 65535)]⟩ ::
    .entity ⟨TrafficScheduler.classID, tsEntityId,
      [(TrafficScheduler.tContPointer, .number tcontEntityId),
        (TrafficScheduler.trafficSchedulerPointer, .number 0),
        (TrafficScheduler.policy, .number 2),
        (TrafficScheduler.priorityWeight, .number 0)]⟩ ::
    (List.range upstreamPriorityQueues).flatMap fun priority =>
      priorityQueueEntries (entityID tcontSlotId (UInt8.ofNat (number * 16 + priority)))
        (entityID32 tcontSlotId (UInt8.ofNat number) priority) tsEntityId

def onu2gEntry : MibDbEntry :=
  .entity ⟨Onu2G.classID, entityID 0x00 0x00,
    [(Onu2G.totalPriorityQueueNumber, .number 64),
      (Onu2G.totalTrafficSchedulerNumber, .number 8),
      (Onu2G.deprecated, .number 1),
      (Onu2G.totalGemPortIdNumber, .number 8),
      (Onu2G.sysuptime, .number 6),
      (Onu2G.connectivityCapability, .number 127),
      (Onu2G.currentConnectivityMode, .number 7),
      (Onu2G.qualityOfServiceQosConfigurationFlexibility, .number 63),
      (Onu2G.priorityQueueScaleFactor, .number 1)]⟩

def unknownAttributesEntry : MibDbEntry :=
  .packet Onu2G.classID (customPacket unknownAttribPktReportedMeHdr unknownAttribPktAttributes)

def unknownMeEntry : MibDbEntry :=
  .packet 37 (customPacket unknownMePktReportedMeHdr unknownMePktAttributes)

def aniCPType : PonTechnology → UInt8
  | .xgspon => xgsPonUnitType
  | .gpon => gPonUnitType

def baselineItems (ethUniPortCount potsUniPortCount : Nat) (technology : PonTechnology)
    (config : MibConfig) : List MibDbEntry :=
  onuDataEntry ::
    circuitPackEntries (aniCPType technology) 1 circuitPackAniSerial 0 ++
    aniGEntry ::
    circuitPackEntries ethernetUnitType ethUniPortCount circuitPackSerial 16 ++
    (if 0 < potsUniPortCount then
      circuitPackEntries potsUnitType potsUniPortCount circuitPackSerial 16 else []) ++
    (List.range' 1 (ethUniPortCount + potsUniPortCount)).flatMap (uniEntries ethUniPortCount) ++
    (List.range' 1 tconts).flatMap tcontEntries ++
    [if config.injectOmciUnknownAttributes then unknownAttributesEntry else onu2gEntry] ++
    (if config.injectOmciUnknownMe then [unknownMeEntry] else [])

-- The cursor `i` of the two nested loops is the suffix of entries still to be reported.

/-- The inner loop. The length of the packet under construction stays 0 until an additional entity
has been serialized, so a response that never gets one is left without a packet. -/
def addMeLoop : List MibDbEntry → MibUploadNextResponse → List UInt8 → List UInt8 × List MibDbEntry
  | [], _, outgoingPacket => (outgoingPacket, [])
  | entry :: rest, request, outgoingPacket =>
    if outgoingPacket.length ≤ maxExtendedLength - maxBaselineLength then
      match entry with
      | .packet _ _ => addMeLoop rest request outgoingPacket
      | .entity additionalME =>
        let request := { request with additionalMEs := request.additionalMEs ++ [additionalME] }
        addMeLoop rest request request.serializeLayers
    else (outgoingPacket, entry :: rest)

private theorem addMeLoop_rest_length (entries : List MibDbEntry) (request : MibUploadNextResponse)
    (outgoingPacket : List UInt8) :
    (addMeLoop entries request outgoingPacket).2.length ≤ entries.length := by
  induction entries generalizing request outgoingPacket with
  | nil => simp [addMeLoop]
  | cons entry rest ih =>
    cases entry <;> simp only [addMeLoop] <;> split
    all_goals first
      | exact (ih _ _).trans (by simp)
      | exact le_rfl

/-- The outer loop. `none` is the index out of range of skipping past the last entry. -/
def packResponses : List MibDbEntry → Option (List (List UInt8))
  | [] => some []
  | .packet _ _ :: [] => none
  | .packet _ _ :: entry :: rest => packResponses (entry :: rest)
  | .entity reportedME :: rest =>
    let packed := addMeLoop rest ⟨reportedME, []⟩ []
    (packResponses packed.2).map (packed.1 :: ·)
termination_by entries => entries.length
decreasing_by
  · simp
  · have shorter := addMeLoop_rest_length rest ⟨reportedME, []⟩ []
    simp only [List.length_cons]
    omega

/-- `AppendAdditionalMEs`: append a record and add its length to the contents-length field. -/
def appendAdditionalMEs (srcSlice reportedMeHdr attributes : List UInt8) : List UInt8 :=
  let data := putUint16 attributes.length ++ reportedMeHdr ++ attributes
  let dstSlice := srcSlice ++ data
  let messageContentsLen := contentsLength dstSlice
  dstSlice.take 8 ++ putUint16 (messageContentsLen + data.length) ++ dstSlice.drop 10

/-- Replace the response at the 16-bit index `NumberOfExtendedCommands-1`. -/
def appendToLast (responses : List (List UInt8)) (reportedMeHdr attributes : List UInt8) :
    Option (List (List UInt8)) :=
  let last := (commandCount responses + 65535) % 65536
  responses[last]?.map fun response =>
    responses.set last (appendAdditionalMEs response reportedMeHdr attributes)

def injectWhen (enabled : Bool) (reportedMeHdr attributes : List UInt8)
    (responses : List (List UInt8)) : Option (List (List UInt8)) :=
  if enabled then appendToLast responses reportedMeHdr attributes else some responses

/-- Entities with unknown class or attributes go into the last response. -/
def injectUnknown (config : MibConfig) (responses : List (List UInt8)) :
    Option (List (List UInt8)) :=
  (injectWhen config.injectOmciUnknownMe unknownMePktReportedMeHdr unknownMePktAttributes
    responses).bind
  (injectWhen config.injectOmciUnknownAttributes unknownAttribPktReportedMeHdr
    unknownAttribPktAttributes)

/-- The extended responses for a list of baseline entries. Only as many entries are visited as the
16-bit command count says. -/
def createExtendedResponses (items : List MibDbEntry) (config : MibConfig) :
    Option (List (List UInt8)) :=
  (packResponses (items.take (commandCount items))).bind (injectUnknown config)

/-- `none` stands for an index out of range. -/
def generateMibDatabase (ethUniPortCount potsUniPortCount : Nat) (technology : PonTechnology)
    (config : MibConfig) : Option MibDb :=
  let items := baselineItems ethUniPortCount potsUniPortCount technology config
  (createExtendedResponses items config).map fun responses =>
    ⟨commandCount items, commandCount responses, items, responses⟩

end Bbsim.Omci
