import Bbsim.Foundation.FiniteMap

/-! Resources of a PON port. The ids the ONUs of one PON hold. Serial numbers are pointers: every
ONU has its own, and the tables store and compare the pointers. -/

namespace Bbsim.Devices

open Foundation

abbrev SerialRef := Nat

structure AllocIdKey where
  ponId : UInt32
  onuId : UInt32
  entityId : UInt16
deriving DecidableEq

structure AllocIdVal where
  onuSn : SerialRef
  allocId : UInt16
deriving DecidableEq

structure PonResources where
  allocatedGemPorts : FiniteMap UInt16 SerialRef
  allocatedOnuIds : FiniteMap UInt32 SerialRef
  allocatedAllocIds : FiniteMap AllocIdKey AllocIdVal
deriving DecidableEq

namespace PonResources

def empty : PonResources := ⟨∅, ∅, ∅⟩

def storeOnuId (resources : PonResources) (onuId : UInt32) (onuSn : SerialRef) : PonResources :=
  { resources with allocatedOnuIds := resources.allocatedOnuIds.insert onuId onuSn }

def removeOnuId (resources : PonResources) (onuId : UInt32) : PonResources :=
  { resources with allocatedOnuIds := resources.allocatedOnuIds.erase onuId }

def isOnuIdAllocated (resources : PonResources) (onuId : UInt32) : Option SerialRef :=
  resources.allocatedOnuIds.lookup onuId

def storeGemPort (resources : PonResources) (gemPortId : UInt16) (onuSn : SerialRef) :
    PonResources :=
  { resources with allocatedGemPorts := resources.allocatedGemPorts.insert gemPortId onuSn }

def removeGemPort (resources : PonResources) (gemPortId : UInt16) : PonResources :=
  { resources with allocatedGemPorts := resources.allocatedGemPorts.erase gemPortId }

def isGemPortAllocated (resources : PonResources) (gemPortId : UInt16) : Option SerialRef :=
  resources.allocatedGemPorts.lookup gemPortId

def removeGemPortBySn (resources : PonResources) (onuSn : SerialRef) : PonResources :=
  { resources with
    allocatedGemPorts := FiniteMap.filterMap (fun _ sn => if sn = onuSn then none else some sn)
      resources.allocatedGemPorts }

def storeAllocId (resources : PonResources) (ponId onuId : UInt32) (entityId allocId : UInt16)
    (onuSn : SerialRef) : PonResources :=
  { resources with
    allocatedAllocIds := resources.allocatedAllocIds.insert ⟨ponId, onuId, entityId⟩
      ⟨onuSn, allocId⟩ }

def removeAllocId (resources : PonResources) (ponId onuId : UInt32) (entityId : UInt16) :
    PonResources :=
  { resources with
    allocatedAllocIds := resources.allocatedAllocIds.erase ⟨ponId, onuId, entityId⟩ }

def isAllocIdAllocated (resources : PonResources) (ponId onuId : UInt32) (entityId : UInt16) :
    Option AllocIdVal :=
  resources.allocatedAllocIds.lookup ⟨ponId, onuId, entityId⟩

def removeAllocIdsForOnuSn (resources : PonResources) (onuSn : SerialRef) : PonResources :=
  { resources with
    allocatedAllocIds := FiniteMap.filterMap
      (fun _ value => if onuSn = value.onuSn then none else some value)
      resources.allocatedAllocIds }

/-- What `enter_enabled` does with the id: a duplicate is only logged. -/
def claimOnuId (resources : PonResources) (onuId : UInt32) (onuSn : SerialRef) : PonResources :=
  match resources.isOnuIdAllocated onuId with
  | some _ => resources
  | none => resources.storeOnuId onuId onuSn

/-- `removeAllOnuIds`, `removeAllAllocIds` and `removeAllGemPorts`, as `clearAllResources` calls
them. -/
def removeAll (_ : PonResources) : PonResources := empty

/-- The resource part of `cleanupOnuState`. -/
def cleanup (resources : PonResources) (onuId : UInt32) (onuSn : SerialRef) : PonResources :=
  ((resources.removeOnuId onuId).removeAllocIdsForOnuSn onuSn).removeGemPortBySn onuSn

@[simp] theorem claimOnuId_allocatedAllocIds (resources : PonResources) (onuId : UInt32)
    (onuSn : SerialRef) :
    (resources.claimOnuId onuId onuSn).allocatedAllocIds = resources.allocatedAllocIds := by
  unfold claimOnuId
  split <;> rfl

end PonResources

end Bbsim.Devices
