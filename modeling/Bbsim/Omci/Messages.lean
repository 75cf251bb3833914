import Bbsim.Omci.MibUpload

/-! OMCI requests as the ONU sees them. `ParseOpenOltOmciPacket` hands on the OMCI layer and, where
omci-lib-go could decode it, the layer of the message type. A request whose own layer was not
decoded still reaches the ONU. -/

namespace Bbsim.Omci

inductive DeviceIdent where
  | baseline
  | extended
deriving DecidableEq, Repr

def DeviceIdent.code : DeviceIdent → UInt8
  | .baseline => baselineIdent
  | .extended => extendedIdent

/-- The bit of the message type that marks a response. -/
def ak : UInt8 := 0x20

inductive MsgType where
  | create
  | delete
  | set
  | get
  | getAllAlarms
  | getAllAlarmsNext
  | mibUpload
  | mibUploadNext
  | mibReset
  | test
  | startSoftwareDownload
  | downloadSection
  | endSoftwareDownload
  | activateSoftware
  | commitSoftware
  | synchronizeTime
  | reboot
deriving DecidableEq, Repr

def MsgType.code : MsgType → UInt8
  | .create => 4
  | .delete => 6
  | .set => 8
  | .get => 9
  | .getAllAlarms => 11
  | .getAllAlarmsNext => 12
  | .mibUpload => 13
  | .mibUploadNext => 14
  | .mibReset => 15
  | .test => 18
  | .startSoftwareDownload => 19
  | .downloadSection => 20
  | .endSoftwareDownload => 21
  | .activateSoftware => 22
  | .commitSoftware => 23
  | .synchronizeTime => 24
  | .reboot => 25

/-- The message type of the response. -/
def MsgType.responseType (msgType : MsgType) : UInt8 := msgType.code ||| ak

namespace SoftwareImage
def classID : Nat := 7
end SoftwareImage

namespace OnuG
def classID : Nat := 256
end OnuG

namespace GemPortNetworkCtp
def classID : Nat := 268
end GemPortNetworkCtp

namespace IpHostConfigData
def classID : Nat := 134
end IpHostConfigData

namespace VoipConfigData
def classID : Nat := 138
end VoipConfigData

namespace EthernetPerformanceMonitoringHistoryData
def classID : Nat := 24
end EthernetPerformanceMonitoringHistoryData

namespace EthernetFramePerformanceMonitoringHistoryDataUpstream
def classID : Nat := 322
end EthernetFramePerformanceMonitoringHistoryDataUpstream

namespace EthernetFramePerformanceMonitoringHistoryDataDownstream
def classID : Nat := 321
end EthernetFramePerformanceMonitoringHistoryDataDownstream

namespace FecPerformanceMonitoringHistoryData
def classID : Nat := 312
end FecPerformanceMonitoringHistoryData

namespace GemPortNetworkCtpPerformanceMonitoringHistoryData
def classID : Nat := 341
end GemPortNetworkCtpPerformanceMonitoringHistoryData

namespace EthernetFrameExtendedPm
def classID : Nat := 334
end EthernetFrameExtendedPm

namespace EthernetFrameExtendedPm64Bit
def classID : Nat := 425
end EthernetFrameExtendedPm64Bit

structure MeBasePacket where
  entityClass : UInt16
  entityInstance : UInt16
deriving DecidableEq

def MeBasePacket.isOf (packet : MeBasePacket) (classID : Nat) : Bool :=
  packet.entityClass.toNat = classID

/-- The ONU-Data entity. -/
def MeBasePacket.onuData : MeBasePacket := ⟨2, 0⟩

/-- `Attributes` by the two keys that are read: the administrative state of a port or of the ONU, and
the alloc id of a T-CONT. -/
structure SetRequest extends MeBasePacket where
  administrativeState : Option UInt8
  allocId : Option UInt16

structure GetRequest extends MeBasePacket where
  attributeMask : UInt16

/-- `MibUploadNextRequest` and `GetAllAlarmsNextRequest`. -/
structure CommandRequest extends MeBasePacket where
  commandSequenceNumber : UInt16

structure StartSoftwareDownloadRequest extends MeBasePacket where
  windowSize : UInt8
  imageSize : UInt32

structure DownloadSectionRequest extends MeBasePacket where
  sectionNumber : UInt8
  sectionData : List UInt8

structure EndSoftwareDownloadRequest extends MeBasePacket where
  crc32 : UInt32
  imageSize : UInt32

/-- A message type with its layer, `none` where the layer was not decoded. -/
inductive RequestLayer where
  | mibReset
  | mibUpload
  | mibUploadNext (layer : Option CommandRequest)
  | get (layer : Option GetRequest)
  | set (layer : Option SetRequest)
  | create (layer : Option MeBasePacket)
  | delete (layer : Option MeBasePacket)
  | reboot (layer : Option MeBasePacket)
  | test (layer : Option MeBasePacket)
  | synchronizeTime (layer : Option MeBasePacket)
  | startSoftwareDownload (layer : Option StartSoftwareDownloadRequest)
  | downloadSection (layer : Option DownloadSectionRequest)
  | downloadSectionWithResponse (layer : Option DownloadSectionRequest)
  | endSoftwareDownload (layer : Option EndSoftwareDownloadRequest)
  | activateSoftware (layer : Option MeBasePacket)
  | commitSoftware (layer : Option MeBasePacket)
  | getAllAlarms
  | getAllAlarmsNext (layer : Option CommandRequest)
  /-- A message type the handler does not know. -/
  | unsupported

namespace RequestLayer

def msgType : RequestLayer → Option MsgType
  | .mibReset => some .mibReset
  | .mibUpload => some .mibUpload
  | .mibUploadNext _ => some .mibUploadNext
  | .get _ => some .get
  | .set _ => some .set
  | .create _ => some .create
  | .delete _ => some .delete
  | .reboot _ => some .reboot
  | .test _ => some .test
  | .synchronizeTime _ => some .synchronizeTime
  | .startSoftwareDownload _ => some .startSoftwareDownload
  | .downloadSection _ => some .downloadSection
  | .downloadSectionWithResponse _ => some .downloadSection
  | .endSoftwareDownload _ => some .endSoftwareDownload
  | .activateSoftware _ => some .activateSoftware
  | .commitSoftware _ => some .commitSoftware
  | .getAllAlarms => some .getAllAlarms
  | .getAllAlarmsNext _ => some .getAllAlarmsNext
  | .unsupported => none

/-- The AR bit of the message type; only a download section may come without it. -/
def responseExpected : RequestLayer → Bool
  | .downloadSection _ | .unsupported => false
  | _ => true

/-- The entity an answer is about: ONU-Data for MIB uploads, MIB resets and alarm audits. -/
def target : RequestLayer → Option MeBasePacket
  | .mibReset | .mibUpload | .mibUploadNext _ | .getAllAlarms | .getAllAlarmsNext _ => some .onuData
  | .get layer => layer.map GetRequest.toMeBasePacket
  | .set layer => layer.map SetRequest.toMeBasePacket
  | .create layer | .delete layer | .reboot layer | .test layer | .synchronizeTime layer
  | .activateSoftware layer | .commitSoftware layer => layer
  | .startSoftwareDownload layer => layer.map StartSoftwareDownloadRequest.toMeBasePacket
  | .downloadSection layer | .downloadSectionWithResponse layer =>
    layer.map DownloadSectionRequest.toMeBasePacket
  | .endSoftwareDownload layer => layer.map EndSoftwareDownloadRequest.toMeBasePacket
  | .unsupported => none

end RequestLayer

/-- The OMCI layer with the layer under it. The decoder refuses transaction id 0 where a response is
expected and has no extended form of a test request. -/
structure OmciMessage where
  transactionID : UInt16
  deviceIdentifier : DeviceIdent
  request : RequestLayer
  identified : request.responseExpected = true → transactionID ≠ 0
  testable : ∀ layer, request = .test (some layer) → deviceIdentifier = .baseline

end Bbsim.Omci
