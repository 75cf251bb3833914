import Bbsim.Foundation.Bytes

/-! Managed entities and their serialization. The part of omci-lib-go that turns a managed entity
into bytes: attribute tables of the classes an ONU reports, and `ManagedEntity.SerializeTo` with
attribute packing. -/

namespace Bbsim.Omci

open Foundation

/-- A row of a class's attribute table: where the attribute stands and how many bytes it takes. -/
structure AttributeDefinition where
  index : Nat
  size : Nat
deriving DecidableEq

def byteField (index : Nat) : AttributeDefinition := ⟨index, 1⟩
def uint16Field (index : Nat) : AttributeDefinition := ⟨index, 2⟩
def uint32Field (index : Nat) : AttributeDefinition := ⟨index, 4⟩
def multiByteField (index size : Nat) : AttributeDefinition := ⟨index, size⟩

inductive AttributeValue where
  | number (value : Nat)
  | octets (bytes : List UInt8)

abbrev AttributeValueMap := List (AttributeDefinition × AttributeValue)

/-- Bit of the attribute mask: the attribute with index 1 is the most significant one. -/
def AttributeDefinition.mask (definition : AttributeDefinition) : Nat :=
  2 ^ (16 - definition.index)

/-- Numbers are cut to the field's width; octets are cut or zero-filled to it. -/
def AttributeDefinition.serializeTo (definition : AttributeDefinition) :
    AttributeValue → List UInt8
  | .number value => bigEndian definition.size value
  | .octets bytes => (bytes ++ List.replicate definition.size 0).take definition.size

@[simp] theorem AttributeDefinition.serializeTo_length (definition : AttributeDefinition)
    (value : AttributeValue) : (definition.serializeTo value).length = definition.size := by
  cases value <;> simp [AttributeDefinition.serializeTo]

structure ManagedEntity where
  classId : Nat
  entityId : Nat
  attributes : AttributeValueMap

/-- Attributes in the order of the class's table, as the key list of the definition gives them. -/
def inOrder (attributes : AttributeValueMap) : AttributeValueMap :=
  (List.range' 1 16).filterMap fun index => attributes.find? fun entry => entry.1.index = index

def sizesInOrder (definitions : List AttributeDefinition) : List Nat :=
  (List.range' 1 16).filterMap fun index =>
    (definitions.find? fun definition => definition.index = index).map AttributeDefinition.size

theorem inOrder_sizes (attributes : AttributeValueMap) :
    (inOrder attributes).map (fun entry => entry.1.size) =
      sizesInOrder (attributes.map Prod.fst) := by
  simp only [inOrder, sizesInOrder, List.map_filterMap, List.find?_map, Option.map_map]
  rfl

/-- An attribute that does not fit into the bytes still available is left out. -/
def serializeAttributes : AttributeValueMap → Nat → List UInt8
  | [], _ => []
  | (definition, value) :: rest, available =>
    if available < definition.size then serializeAttributes rest available
    else definition.serializeTo value ++ serializeAttributes rest (available - definition.size)

namespace ManagedEntity

def attributeMask (entity : ManagedEntity) : Nat :=
  entity.attributes.foldl (fun mask entry => mask ||| entry.1.mask) 0

def header (entity : ManagedEntity) : List UInt8 :=
  putUint16 entity.classId ++ putUint16 entity.entityId ++ putUint16 entity.attributeMask

def serializeTo (entity : ManagedEntity) (bytesAvailable : Nat) : List UInt8 :=
  entity.header ++ serializeAttributes (inOrder entity.attributes) bytesAvailable

/-- Bytes of all attributes; it depends on the definitions alone. -/
def attributesLength (entity : ManagedEntity) : Nat :=
  (sizesInOrder (entity.attributes.map Prod.fst)).sum

/-- The whole entity: class, instance, mask and every attribute. -/
def bytes (entity : ManagedEntity) : List UInt8 :=
  entity.header ++ (inOrder entity.attributes).flatMap fun entry => entry.1.serializeTo entry.2

@[simp] theorem header_length (entity : ManagedEntity) : entity.header.length = 6 := by
  simp [header]

@[simp] theorem bytes_length (entity : ManagedEntity) :
    entity.bytes.length = 6 + entity.attributesLength := by
  simp [bytes, attributesLength, ← inOrder_sizes]

private theorem serializeAttributes_fits (attributes : AttributeValueMap) (available : Nat)
    (fits : (attributes.map fun entry => entry.1.size).sum ≤ available) :
    serializeAttributes attributes available =
      attributes.flatMap fun entry => entry.1.serializeTo entry.2 := by
  induction attributes generalizing available with
  | nil => rfl
  | cons entry rest ih =>
    obtain ⟨definition, value⟩ := entry
    simp only [List.map_cons, List.sum_cons] at fits
    have room : ¬ available < definition.size := by omega
    rw [serializeAttributes, if_neg room, ih _ (by omega)]
    rfl

/-- Nothing is left out where the bytes available cover all attributes. -/
theorem serializeTo_fits (entity : ManagedEntity) (available : Nat)
    (fits : entity.attributesLength ≤ available) : entity.serializeTo available = entity.bytes := by
  rw [attributesLength, ← inOrder_sizes] at fits
  rw [serializeTo, bytes, serializeAttributes_fits _ _ fits]

end ManagedEntity

namespace OnuData
def classID : Nat := 2
def mibDataSync := byteField 1
end OnuData

namespace CircuitPack
def classID : Nat := 6
def type := byteField 1
def numberOfPorts := byteField 2
def serialNumber := multiByteField 3 8
def version := multiByteField 4 14
def vendorId := multiByteField 5 4
def administrativeState := byteField 6
def operationalState := byteField 7
def bridgedOrIpInd := byteField 8
def equipmentId := multiByteField 9 20
def cardConfiguration := byteField 10
def totalTContBufferNumber := byteField 11
def totalPriorityQueueNumber := byteField 12
def totalTrafficSchedulerNumber := byteField 13
def powerShedOverride := uint32Field 14
end CircuitPack

namespace AniG
def classID : Nat := 263
def srIndication := byteField 1
def totalTcontNumber := uint16Field 2
def gemBlockLength := uint16Field 3
def piggybackDbaReporting := byteField 4
def deprecated := byteField 5
def signalFailThreshold := byteField 6
def signalDegradeThreshold := byteField 7
def arc := byteField 8
def arcInterval := byteField 9
def opticalSignalLevel := uint16Field 10
def lowerOpticalThreshold := byteField 11
def upperOpticalThreshold := byteField 12
def onuResponseTime := uint16Field 13
def transmitOpticalLevel := uint16Field 14
def lowerTransmitPowerThreshold := byteField 15
def upperTransmitPowerThreshold := byteField 16
end AniG

namespace PhysicalPathTerminationPointEthernetUni
def classID : Nat := 11
def expectedType := byteField 1
def sensedType := byteField 2
def autoDetectionConfiguration := byteField 3
def ethernetLoopbackConfiguration := byteField 4
def administrativeState := byteField 5
def operationalState := byteField 6
def configurationInd := byteField 7
def maxFrameSize := uint16Field 8
def dteOrDceInd := byteField 9
def pauseTime := uint16Field 10
def bridgedOrIpInd := byteField 11
def arc := byteField 12
def arcInterval := byteField 13
def pppoeFilter := byteField 14
def powerControl := byteField 15
end PhysicalPathTerminationPointEthernetUni

namespace PhysicalPathTerminationPointPotsUni
def classID : Nat := 53
def administrativeState := byteField 1
def deprecated := uint16Field 2
def arc := byteField 3
def arcInterval := byteField 4
def impedance := byteField 5
def transmissionPath := byteField 6
def rxGain := byteField 7
def txGain := byteField 8
def operationalState := byteField 9
def hookState := byteField 10
def potsHoldoverTime := uint16Field 11
def nominalFeedVoltage := byteField 12
def lossOfSoftswitch := byteField 13
end PhysicalPathTerminationPointPotsUni

namespace UniG
def classID : Nat := 264
def deprecated := uint16Field 1
def administrativeState := byteField 2
def managementCapability := byteField 3
def nonOmciManagementIdentifier := uint16Field 4
def relayAgentOptions := uint16Field 5
end UniG

namespace PriorityQueue
def classID : Nat := 277
def queueConfigurationOption := byteField 1
def maximumQueueSize := uint16Field 2
def allocatedQueueSize := uint16Field 3
def discardBlockCounterResetInterval := uint16Field 4
def thresholdValueForDiscardedBlocksDueToBufferOverflow := uint16Field 5
def relatedPort := uint32Field 6
def trafficSchedulerPointer := uint16Field 7
def weight := byteField 8
def backPressureOperation := uint16Field 9
def backPressureTime := uint32Field 10
def backPressureOccurQueueThreshold := uint16Field 11
def backPressureClearQueueThreshold := uint16Field 12
end PriorityQueue

namespace TCont
def classID : Nat := 262
def allocId := uint16Field 1
end TCont

namespace TrafficScheduler
def classID : Nat := 278
def tContPointer := uint16Field 1
def trafficSchedulerPointer := uint16Field 2
def policy := byteField 3
def priorityWeight := byteField 4
end TrafficScheduler

namespace Onu2G
def classID : Nat := 257
def totalPriorityQueueNumber := uint16Field 6
def totalTrafficSchedulerNumber := byteField 7
def deprecated := byteField 8
def totalGemPortIdNumber := uint16Field 9
def sysuptime := uint32Field 10
def connectivityCapability := uint16Field 11
def currentConnectivityMode := byteField 12
def qualityOfServiceQosConfigurationFlexibility := uint16Field 13
def priorityQueueScaleFactor := uint16Field 14
end Onu2G

end Bbsim.Omci
