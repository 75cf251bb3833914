import Bbsim.Omci.OnuMibDb

/-! Components of the hardware inventory. The device management interface (DMI) reports the OLT as a
tree of components. A transceiver is a child of its cage and has the ports of its PONs as children. -/

namespace Bbsim.Dmi

open Omci (PonTechnology)

inductive ComponentClass where
  | undefined
  | container
  | transceiver
  | port
  | fan
  | storage
  | cpu
  | memory
  | sensor
  | powerSupply
deriving DecidableEq, Repr

inductive TransceiverType where
  | undefined
  | gpon
  | xgspon
  | comboGponXgspon
deriving DecidableEq, Repr

inductive PortProtocol where
  | gpon
  | xgspon
deriving DecidableEq, Repr

inductive FormFactor where
  | sfpPlus
deriving DecidableEq, Repr

inductive ValueScale where
  | nano
  | kilo
deriving DecidableEq, Repr

structure TransceiverAttributes where
  formFactor : FormFactor
  transType : TransceiverType
  maxDistance : UInt32
  maxDistanceScale : ValueScale
  rxWavelength : List UInt32
  txWavelength : List UInt32
  wavelengthScale : ValueScale
deriving DecidableEq, Repr

inductive SpecificAttributes where
  | port (protocol : PortProtocol) (mappingLabel : String)
  | transceiver (attributes : TransceiverAttributes)
deriving DecidableEq, Repr

/-- A field that is not set is empty. -/
structure Component where
  name : String
  componentClass : ComponentClass
  description : String
  parent : String := ""
  children : List Component := []
  serialNum : String := ""
  mfgName : String := ""
  uri : Option String := none
  uuid : String
  specific : Option SpecificAttributes := none

/-- The OLT as the DMI server identifies it. -/
structure ManagedOlt where
  /-- The hash of `getUUID`. -/
  hash : String → String
  vendor : String
  serialNumber : String

structure Pon where
  id : UInt32
  technology : PonTechnology
deriving DecidableEq

structure Transceiver where
  id : UInt32
  uuid : String
  name : String
  pons : List Pon
  technology : TransceiverType
  pluggedIn : Bool
deriving DecidableEq

def getCageName (id : UInt32) : String := s!"sfp-plus-transceiver-cage-{id}"
def getTransceiverName (id : UInt32) : String := s!"sfp-plus-{id}"
def getPonName (id : UInt32) : String := s!"pon-{id}"

namespace ManagedOlt

variable (olt : ManagedOlt)

def getOltName : String := olt.vendor ++ "-" ++ olt.serialNumber
def getOltUUID : String := olt.hash olt.serialNumber

/-- The identifier of a part of the OLT. -/
def partUUID (name : String) : String := olt.hash (olt.serialNumber ++ "-" ++ name)

def getCageUUID (id : UInt32) : String := olt.partUUID (getCageName id)
def getTransceiverUUID (id : UInt32) : String := olt.partUUID (getTransceiverName id)
def getPonUUID (id : UInt32) : String := olt.partUUID (getPonName id)

end ManagedOlt

variable {left right : UInt32}

private theorem toString_injective (same : toString left = toString right) : left = right := by
  have digits := congrArg (fun text : String => Nat.ofDigitChars 10 text.toList 0) same
  have numbers : left.toNat = right.toNat := by
    simpa [toString, Nat.repr] using digits
  exact UInt32.toNat_inj.mp numbers

private theorem getCageName_injective (same : getCageName left = getCageName right) : left = right :=
  toString_injective ((String.append_right_inj _).mp same)

/-- Cages have identifiers of their own if the hash has no collisions. -/
theorem ManagedOlt.getCageUUID_inj {olt : ManagedOlt} (noCollision : Function.Injective olt.hash) :
    olt.getCageUUID left = olt.getCageUUID right ↔ left = right := by
  refine ⟨fun same => ?_, congrArg olt.getCageUUID⟩
  exact getCageName_injective ((String.append_right_inj _).mp (noCollision same))

def newTransceiver (olt : ManagedOlt) (id : UInt32) (pons : List Pon) : Transceiver where
  id := id
  uuid := olt.getTransceiverUUID id
  name := getTransceiverName id
  pons := pons
  technology := .undefined
  pluggedIn := true

structure Optics where
  technology : TransceiverType
  rxWavelength : List UInt32
  txWavelength : List UInt32
deriving DecidableEq, Repr

/-- Type and wavelengths of a transceiver: those of its only PON, or both. -/
def optics : List Pon → Option Optics
  | [] => none
  | [pon] => match pon.technology with
    | .gpon => some ⟨.gpon, [1490], [1550]⟩
    | .xgspon => some ⟨.xgspon, [1270], [1577]⟩
  | _ => some ⟨.comboGponXgspon, [1490, 1270], [1550, 1577]⟩

/-- All ports of a transceiver have the name of one PON port, and each the identifier of its own. -/
def createPortComponent (olt : ManagedOlt) (trans : Transceiver) (pon : Pon) : Component where
  name := getPonName trans.id
  componentClass := .port
  description := "bbsim-pon-port"
  uuid := olt.getPonUUID pon.id
  parent := trans.name
  specific := some (.port
    (match pon.technology with
      | .gpon => .gpon
      | .xgspon => .xgspon)
    s!"pon-{pon.id}")

def transceiverComponent (olt : ManagedOlt) (trans : Transceiver) (cageName : String)
    (optics : Optics) : Component where
  name := trans.name
  componentClass := .transceiver
  description := "bbsim-transceiver"
  uuid := trans.uuid
  parent := cageName
  specific := some (.transceiver {
    formFactor := .sfpPlus
    transType := optics.technology
    maxDistance := 10
    maxDistanceScale := .kilo
    rxWavelength := optics.rxWavelength
    txWavelength := optics.txWavelength
    wavelengthScale := .nano })
  children := trans.pons.map (createPortComponent olt trans)

/-- The component, and the transceiver with its technology set. -/
def createTransceiverComponent (olt : ManagedOlt) (trans : Transceiver) (cageName : String) :
    Except String (Component × Transceiver) :=
  match optics trans.pons with
  | none => .error s!"No pons in list for transceiver {trans.id}"
  | some optics =>
    .ok (transceiverComponent olt trans cageName optics, { trans with technology := optics.technology })

theorem exists_optics {pons : List Pon} (nonempty : pons ≠ []) : ∃ found, optics pons = some found := by
  match pons with
  | [] => exact absurd rfl nonempty
  | [⟨_, .gpon⟩] => exact ⟨_, rfl⟩
  | [⟨_, .xgspon⟩] => exact ⟨_, rfl⟩
  | _ :: _ :: _ => exact ⟨_, rfl⟩

/-- A cage without its transceiver. -/
def emptyCage (olt : ManagedOlt) (id : UInt32) : Component where
  name := getCageName id
  componentClass := .container
  description := "cage"
  uuid := olt.getCageUUID id
  parent := olt.getOltName

/-- A part that is named by its place; its serial number is its own name with its index. -/
def createPart (olt : ManagedOlt) (place : String) (componentClass : ComponentClass)
    (description serial : String) (index : Nat) : Component where
  name := place ++ toString index
  componentClass := componentClass
  description := description
  serialNum := serial ++ toString index
  mfgName := description
  uuid := olt.hash (place ++ toString index)

def createFanComponent (olt : ManagedOlt) (fanIdx : Nat) : Component :=
  createPart olt "Thermal/Fans/System Fan/" .fan "bbsim-fan" "bbsim-fan-serial-" fanIdx

def createProcessorComponent (olt : ManagedOlt) (cpuIdx : Nat) : Component :=
  createPart olt "Systems/1/Processors/" .cpu "bbsim-cpu" "bbsim-cpu-serial-" cpuIdx

def createMemoryComponent (olt : ManagedOlt) (memIdx : Nat) : Component :=
  createPart olt "Systems/1/Memory/" .memory "bbsim-ram" "bbsim-ram-serial-" memIdx

def createDiskComponent (olt : ManagedOlt) (diskIdx : Nat) : Component :=
  createPart olt "Systems/1/Disk/" .storage "bbsim-disk" "bbsim-disk-serial-" diskIdx

def createInnerSurroundingTempComponentSensor (olt : ManagedOlt) (sensorIdx : Nat) : Component :=
  createPart olt "Systems/1/Sensor/" .sensor "bbsim-istemp" "bbsim-sensor-istemp-serial-" sensorIdx

def createPowerSupplyComponent (olt : ManagedOlt) (psuIdx : Nat) : Component :=
  createPart olt "Thermal/PSU/SystemPSU/" .powerSupply "bbsim-psu" "bbsim-psu-serial-" psuIdx

end Bbsim.Dmi
