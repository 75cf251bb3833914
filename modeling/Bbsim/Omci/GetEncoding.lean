import Bbsim.Omci.Messages

/-! Get responses on the wire. `GetResponse.SerializeTo` of omci-lib-go on what the Get builders
give it. Numbers go through unchecked type assertions, a value that cannot be turned into octets
leaves its room in the buffer, and a baseline response is padded by the room that is left. -/

namespace Bbsim.Omci

namespace OnuG
def vendorId := multiByteField 1 4
def version := multiByteField 2 14
def serialNumber := multiByteField 3 8
def trafficManagementOption := byteField 4
def deprecated := byteField 5
def batteryBackup := byteField 6
def administrativeState := byteField 7
def operationalState := byteField 8
def onuSurvivalTime := byteField 9
def logicalOnuId := multiByteField 10 24
def logicalPassword := multiByteField 11 12
def credentialsStatus := byteField 12
def extendedTcLayerOptions := uint16Field 13
end OnuG

namespace Onu2G
def equipmentId := multiByteField 1 20
def opticalNetworkUnitManagementAndControlChannelOmccVersion := byteField 2
def vendorProductCode := uint16Field 3
def securityCapability := byteField 4
def securityMode := byteField 5
end Onu2G

namespace SoftwareImage
def version := multiByteField 1 14
def isCommitted := byteField 2
def isActive := byteField 3
def isValid := byteField 4
def productCode := multiByteField 5 25
def imageHash := multiByteField 6 16
end SoftwareImage

namespace IpHostConfigData
def ipOptions := byteField 1
def macAddress := multiByteField 2 6
def onuIdentifier := multiByteField 3 25
/-- Addresses, masks, gateways and name servers, configured and current. -/
def addresses : List AttributeDefinition := (List.range' 4 10).map uint32Field
def domainName := multiByteField 14 25
def hostName := multiByteField 15 25
def relayAgentOptions := uint16Field 16
end IpHostConfigData

namespace VoipConfigData
def availableSignallingProtocols := byteField 1
def signallingProtocolUsed := byteField 2
def availableVoipConfigurationMethods := uint32Field 3
def voipConfigurationMethodUsed := byteField 4
def voipConfigurationAddressPointer := uint16Field 5
def voipConfigurationState := byteField 6
def retrieveProfile := byteField 7
def profileVersion := multiByteField 8 25
end VoipConfigData

/-- The Go types of the values. -/
inductive GoType where
  | int
  | byte
  | bytes
deriving DecidableEq

/-- An attribute of a class with what its builder gives for it. -/
structure GetAttribute where
  definition : AttributeDefinition
  /-- Strings and octets; the other types are numbers. -/
  isOctets : Bool
  readable : Bool
  value : Option GoType
deriving DecidableEq

namespace GetAttribute

def number (definition : AttributeDefinition) : GetAttribute := ⟨definition, false, true, some .int⟩
def typedByte (definition : AttributeDefinition) : GetAttribute := ⟨definition, false, true, some .byte⟩
def octets (definition : AttributeDefinition) : GetAttribute := ⟨definition, true, true, some .bytes⟩

/-- The builder gives no value. -/
def missing (definition : AttributeDefinition) : GetAttribute := ⟨definition, false, true, none⟩
def missingOctets (definition : AttributeDefinition) : GetAttribute := ⟨definition, true, true, none⟩

end GetAttribute

open GetAttribute

def onu2gAttributes : List GetAttribute :=
  octets Onu2G.equipmentId ::
    [Onu2G.opticalNetworkUnitManagementAndControlChannelOmccVersion, Onu2G.vendorProductCode,
      Onu2G.securityCapability, Onu2G.securityMode, Onu2G.totalPriorityQueueNumber,
      Onu2G.totalTrafficSchedulerNumber, Onu2G.deprecated, Onu2G.totalGemPortIdNumber, Onu2G.sysuptime,
      Onu2G.connectivityCapability, Onu2G.currentConnectivityMode,
      Onu2G.qualityOfServiceQosConfigurationFlexibility, Onu2G.priorityQueueScaleFactor].map number

def onuGAttributes : List GetAttribute :=
  [OnuG.vendorId, OnuG.version, OnuG.serialNumber].map octets ++
    [OnuG.trafficManagementOption, OnuG.deprecated, OnuG.batteryBackup, OnuG.administrativeState,
      OnuG.operationalState, OnuG.onuSurvivalTime].map number ++
    [OnuG.logicalOnuId, OnuG.logicalPassword].map octets ++
    [OnuG.credentialsStatus, OnuG.extendedTcLayerOptions].map number

def softwareImageAttributes : List GetAttribute :=
  [octets SoftwareImage.version, number SoftwareImage.isCommitted, number SoftwareImage.isActive,
    number SoftwareImage.isValid, octets SoftwareImage.productCode, octets SoftwareImage.imageHash]

/-- Of the IP host only the MAC address is given. -/
def ipHostAttributes : List GetAttribute :=
  [missing IpHostConfigData.ipOptions, octets IpHostConfigData.macAddress,
    missingOctets IpHostConfigData.onuIdentifier] ++
    IpHostConfigData.addresses.map missing ++
    [missingOctets IpHostConfigData.domainName, missingOctets IpHostConfigData.hostName,
      missing IpHostConfigData.relayAgentOptions]

/-- The profile version is a number where octets are expected. -/
def voipConfigDataAttributes : List GetAttribute :=
  [VoipConfigData.availableSignallingProtocols, VoipConfigData.signallingProtocolUsed,
    VoipConfigData.availableVoipConfigurationMethods, VoipConfigData.voipConfigurationMethodUsed,
    VoipConfigData.voipConfigurationAddressPointer, VoipConfigData.voipConfigurationState].map number ++
    [⟨VoipConfigData.retrieveProfile, false, false, some .int⟩,
      ⟨VoipConfigData.profileVersion, true, true, some .int⟩]

def uniGAttributes : List GetAttribute :=
  [UniG.deprecated, UniG.administrativeState, UniG.managementCapability,
    UniG.nonOmciManagementIdentifier, UniG.relayAgentOptions].map number

def pptpEthernetAttributes : List GetAttribute :=
  number PhysicalPathTerminationPointEthernetUni.expectedType ::
    typedByte PhysicalPathTerminationPointEthernetUni.sensedType ::
    [PhysicalPathTerminationPointEthernetUni.autoDetectionConfiguration,
      PhysicalPathTerminationPointEthernetUni.ethernetLoopbackConfiguration,
      PhysicalPathTerminationPointEthernetUni.administrativeState,
      PhysicalPathTerminationPointEthernetUni.operationalState,
      PhysicalPathTerminationPointEthernetUni.configurationInd,
      PhysicalPathTerminationPointEthernetUni.maxFrameSize,
      PhysicalPathTerminationPointEthernetUni.dteOrDceInd,
      PhysicalPathTerminationPointEthernetUni.pauseTime,
      PhysicalPathTerminationPointEthernetUni.bridgedOrIpInd,
      PhysicalPathTerminationPointEthernetUni.arc,
      PhysicalPathTerminationPointEthernetUni.arcInterval,
      PhysicalPathTerminationPointEthernetUni.pppoeFilter,
      PhysicalPathTerminationPointEthernetUni.powerControl].map number

def pptpPotsAttributes : List GetAttribute :=
  [PhysicalPathTerminationPointPotsUni.administrativeState,
    PhysicalPathTerminationPointPotsUni.deprecated, PhysicalPathTerminationPointPotsUni.arc,
    PhysicalPathTerminationPointPotsUni.arcInterval, PhysicalPathTerminationPointPotsUni.impedance,
    PhysicalPathTerminationPointPotsUni.transmissionPath, PhysicalPathTerminationPointPotsUni.rxGain,
    PhysicalPathTerminationPointPotsUni.txGain, PhysicalPathTerminationPointPotsUni.operationalState,
    PhysicalPathTerminationPointPotsUni.hookState,
    PhysicalPathTerminationPointPotsUni.potsHoldoverTime,
    PhysicalPathTerminationPointPotsUni.nominalFeedVoltage,
    PhysicalPathTerminationPointPotsUni.lossOfSoftswitch].map number

def aniGAttributes : List GetAttribute :=
  [AniG.srIndication, AniG.totalTcontNumber, AniG.gemBlockLength, AniG.piggybackDbaReporting,
    AniG.deprecated, AniG.signalFailThreshold, AniG.signalDegradeThreshold, AniG.arc, AniG.arcInterval,
    AniG.opticalSignalLevel, AniG.lowerOpticalThreshold, AniG.upperOpticalThreshold,
    AniG.onuResponseTime, AniG.transmitOpticalLevel, AniG.lowerTransmitPowerThreshold,
    AniG.upperTransmitPowerThreshold].map number

def onuDataAttributes : List GetAttribute := [typedByte OnuData.mibDataSync]

/-- The history data of a class: interval end time, threshold data, and counters of these widths. -/
def historyAttributes (widths : List Nat) : List GetAttribute :=
  number (byteField 1) :: number (uint16Field 2) ::
    widths.mapIdx fun position width => number (multiByteField (position + 3) width)

/-- The extended counters come without interval end time and control block. -/
def extendedPmAttributes (width : Nat) : List GetAttribute :=
  missing (byteField 1) :: missingOctets (multiByteField 2 16) ::
    (List.range' 3 14).map fun index => number (multiByteField index width)

/-- The classes of the Get builders. -/
def getTables : List (Nat × List GetAttribute) :=
  [(Onu2G.classID, onu2gAttributes),
    (OnuG.classID, onuGAttributes),
    (SoftwareImage.classID, softwareImageAttributes),
    (IpHostConfigData.classID, ipHostAttributes),
    (VoipConfigData.classID, voipConfigDataAttributes),
    (UniG.classID, uniGAttributes),
    (PhysicalPathTerminationPointEthernetUni.classID, pptpEthernetAttributes),
    (PhysicalPathTerminationPointPotsUni.classID, pptpPotsAttributes),
    (AniG.classID, aniGAttributes),
    (OnuData.classID, onuDataAttributes),
    (EthernetFramePerformanceMonitoringHistoryDataUpstream.classID,
      historyAttributes (List.replicate 14 4)),
    (EthernetFramePerformanceMonitoringHistoryDataDownstream.classID,
      historyAttributes (List.replicate 14 4)),
    (EthernetPerformanceMonitoringHistoryData.classID, historyAttributes (List.replicate 14 4)),
    (FecPerformanceMonitoringHistoryData.classID, historyAttributes [4, 4, 4, 4, 2]),
    (GemPortNetworkCtpPerformanceMonitoringHistoryData.classID, historyAttributes [4, 4, 8, 8, 4]),
    (EthernetFrameExtendedPm.classID, extendedPmAttributes 4),
    (EthernetFrameExtendedPm64Bit.classID, extendedPmAttributes 8)]

/-- What becomes of a value in the room of its attribute. -/
inductive Writing where
  | written
  /-- `InterfaceToOctets` does not know the type. -/
  | unconverted
  /-- The type assertion fails. -/
  | panics
deriving DecidableEq

def interfaceToOctets : GoType → Writing
  | .bytes => .written
  | .int | .byte => .unconverted

/-- `AttributeDefinition.SerializeTo` once there is room. -/
def GetAttribute.write (field : GetAttribute) (value : GoType) : Writing :=
  if field.isOctets then interfaceToOctets value
  else match field.definition.size, value with
    | 1, .int | 1, .byte | 2, .int | 4, .int | 8, .int => .written
    | 1, _ | 2, _ | 4, _ | 8, _ => .panics
    | _, _ => interfaceToOctets value

inductive Encoding where
  | refused
  | panics
  /-- So many bytes of attributes, and whether some attribute was left out. -/
  | encoded (length : Nat) (truncated : Bool)
deriving DecidableEq

def requested (attributeMask : UInt16) (index : Nat) : Bool := attributeMask.toNat.testBit (16 - index)

/-- `SerializeAttributes` with packing. The room of a value that was not converted is in the buffer,
but not taken off the bytes available. -/
def encodeAttributes (attributeMask : UInt16) :
    List GetAttribute → (bytesAvailable length : Nat) → (truncated : Bool) → Encoding
  | [], _, length, truncated => .encoded length truncated
  | field :: rest, bytesAvailable, length, truncated =>
    if requested attributeMask field.definition.index then
      match field.value with
      | none => .refused
      | some value =>
        let size := field.definition.size
        if bytesAvailable < size then encodeAttributes attributeMask rest bytesAvailable length true
        else match field.write value with
          | .written =>
            encodeAttributes attributeMask rest (bytesAvailable - size) (length + size) truncated
          | .unconverted => encodeAttributes attributeMask rest bytesAvailable (length + size) true
          | .panics => .panics
    else encodeAttributes attributeMask rest bytesAvailable length truncated

/-- An attribute is asked for that the class does not have. -/
def unsupportedMask (attributes : List GetAttribute) (attributeMask : UInt16) : Bool :=
  (List.range' 1 16).any fun index =>
    requested attributeMask index && !(attributes.any fun field => field.definition.index = index)

/-- An attribute is asked for that cannot be read, though the builder gives it. -/
def unreadableMask (attributes : List GetAttribute) (attributeMask : UInt16) : Bool :=
  attributes.any fun field => field.value.isSome &&
    requested attributeMask field.definition.index && !field.readable

def getBytesAvailable : DeviceIdent → Nat
  | .extended => maxExtendedLength - 18 - 4
  | .baseline => maxBaselineLength - 11 - 4 - 8

/-- A baseline response is filled up, with the masks of what was left out in the last bytes before the
trailer: a negative length and a negative index are panics. -/
def padBaseline (length : Nat) (truncated : Bool) : Encoding :=
  let used := 4 + 3 + length
  if maxBaselineLength - 4 - 8 + 4 < used then .panics
  else if truncated ∧ maxBaselineLength - 4 - 8 - 4 < used then .panics
  else .encoded length truncated

def encodeGetResponse (attributes : List GetAttribute) (deviceIdentifier : DeviceIdent)
    (attributeMask : UInt16) : Encoding :=
  if unreadableMask attributes attributeMask ∨ unsupportedMask attributes attributeMask then .refused
  else
    match encodeAttributes attributeMask attributes (getBytesAvailable deviceIdentifier) 0 false,
        deviceIdentifier with
    | .encoded length truncated, .baseline => padBaseline length truncated
    | outcome, _ => outcome

/-- Every value suits its attribute; only the last may be one that is not converted. -/
def wellTyped : List GetAttribute → Bool
  | [] => true
  | field :: rest =>
    (field.value.all fun value => field.write value = .written ∨
      field.write value = .unconverted ∧ rest.isEmpty) && wellTyped rest

/-- No panic, and no more bytes than these. -/
def Encoding.within : Encoding → Nat → Prop
  | .refused, _ => True
  | .panics, _ => False
  | .encoded length _, bound => length ≤ bound

private theorem encodeAttributes_within (attributeMask : UInt16) {attributes : List GetAttribute}
    (typed : wellTyped attributes = true) (bytesAvailable length : Nat) (truncated : Bool) :
    (encodeAttributes attributeMask attributes bytesAvailable length truncated).within
      (length + bytesAvailable) := by
  induction attributes generalizing bytesAvailable length truncated with
  | nil => exact Nat.le_add_right _ _
  | cons field rest ih =>
    obtain ⟨suits, later⟩ := Bool.and_eq_true_iff.mp typed
    unfold encodeAttributes
    split
    · split
      · trivial
      · next value given =>
        simp only [given, Option.all_some, decide_eq_true_eq] at suits
        dsimp only
        split
        · exact ih later _ _ _
        · next room =>
          rcases suits with written | ⟨unconverted, last⟩
          · have moved := ih later (bytesAvailable - field.definition.size)
              (length + field.definition.size) truncated
            rw [show length + field.definition.size +
              (bytesAvailable - field.definition.size) = length + bytesAvailable by omega] at moved
            simpa only [written] using moved
          · -- nothing comes after the value that takes room it is not charged for
            obtain rfl := List.isEmpty_iff.mp last
            simp only [unconverted, encodeAttributes, Encoding.within]
            omega
    · exact ih later _ _ _

theorem encodeGetResponse_ne_panics {attributes : List GetAttribute}
    (typed : wellTyped attributes = true) (deviceIdentifier : DeviceIdent) (attributeMask : UInt16) :
    encodeGetResponse attributes deviceIdentifier attributeMask ≠ .panics := by
  have bound := encodeAttributes_within attributeMask typed (getBytesAvailable deviceIdentifier) 0 false
  unfold encodeGetResponse
  split
  · exact nofun
  · split
    · next length truncated outcome =>
      rw [outcome] at bound
      have fits : length ≤ 25 := by
        simpa [Encoding.within, getBytesAvailable, maxBaselineLength] using bound
      have padded : padBaseline length truncated = .encoded length truncated := by
        rw [padBaseline, if_neg (by simp only [maxBaselineLength]; omega), if_neg]
        simp only [maxBaselineLength]
        omega
      rw [padded]
      exact nofun
    · intro panics
      rw [panics] at bound
      exact bound

theorem getTables_wellTyped : ∀ entry ∈ getTables, wellTyped entry.2 = true := by
  decide +kernel

end Bbsim.Omci
