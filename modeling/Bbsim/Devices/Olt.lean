import Bbsim.Devices.FlowResources
import Bbsim.Devices.OnuMessages

/-! The OLT and its flow calls. `FlowAdd` and `FlowRemove`, and the search for PONs and ONUs they
rest on. -/

namespace Bbsim.Devices

open Foundation

structure PonPort where
  id : UInt32
  internalState : PonState
  onus : List Onu
  resources : PonResources

/-- An ONU as the OLT's loops reach it: index of the PON, index on the PON. -/
abbrev Position := Nat × Nat

structure Olt where
  enablePerf : Bool
  flows : FiniteMap UInt64 Flow
  gemPortIDs : ResourceIds
  allocIDs : ResourceIds
  pons : List PonPort

/-- An error that a flow call returns. -/
inductive FlowFailure where
  | resource (error : FlowError)
  | cannotFindOnu (onuId ponId : UInt32)
  | onuIsCurrently (vendorSpecific : List UInt8) (state : OnuState)
  | flowNotFound
  | cannotFindOnuByFlowId (flowId : UInt64)

/-- How a flow call comes to grief instead of returning. -/
inductive FlowFault where
  | nilPon
  | nilMap
  | onu (fault : Fault)
deriving DecidableEq

namespace Olt

def onuAt (olt : Olt) (position : Position) : Option Onu :=
  olt.pons[position.1]?.bind fun pon => pon.onus[position.2]?

def setOnu (olt : Olt) (position : Position) (onu : Onu) : Olt :=
  { olt with
    pons := olt.pons.modify position.1 fun pon =>
      { pon with onus := pon.onus.set position.2 onu } }

def getPonById (olt : Olt) (id : UInt32) : Option Nat :=
  olt.pons.findIdx? fun pon => pon.id = id

/-- `GetOnuById` on the PON with this index. -/
def getOnuById (olt : Olt) (pon : Nat) (id : UInt32) : Option Position :=
  (olt.pons[pon]?.bind fun port => port.onus.findIdx? fun onu => onu.id = id).map (pon, ·)

/-- All ONUs in the order the OLT's loops visit them. -/
def positions (olt : Olt) : List Position :=
  (List.range olt.pons.length).flatMap fun pon =>
    (List.range ((olt.pons[pon]?.map fun port => port.onus.length).getD 0)).map (pon, ·)

def getOnuByFlowId (olt : Olt) (flowId : UInt64) : Option Position :=
  olt.positions.find? fun position => (olt.onuAt position).any fun onu => flowId ∈ onu.flowIds

/-- Record the GEM ports one by one, up to the first that fails. -/
def storeGemPorts (flow : Flow) : ResourceIds → List Int32 → ResourceIds × Option FlowError
  | table, [] => (table, none)
  | table, gem :: rest =>
    match storeGemPortId table flow gem with
    | none => (table, some (.gemForUnknownOnu gem flow.onuIndex flow.ponId))
    | some next => storeGemPorts flow next rest

def storeGemPortIdByFlow (table : ResourceIds) (flow : Flow) : ResourceIds × Option FlowError :=
  storeGemPorts flow table flow.gemPorts

/-- `FlowAdd` once the ONU is known to be active. -/
def flowAddOnu (olt : Olt) (position : Position) (onu : Onu) (flow : Flow) :
    Except FlowFault (Olt × Option FlowFailure) :=
  let onu := if olt.enablePerf then onu else { onu with flows := onu.flows ++ [flow.flowId] }
  match validateFlow olt.gemPortIDs olt.allocIDs flow with
  | some error => .ok (olt.setOnu position onu, some (.resource error))
  | none =>
    match storeGemPortIdByFlow olt.gemPortIDs flow with
    | (table, some error) =>
      .ok ({ olt with gemPortIDs := table }.setOnu position onu, some (.resource error))
    | (table, none) =>
      match Bbsim.Devices.storeAllocId olt.allocIDs flow, onu.send (.flowAdd flow) with
      | none, _ => .error .nilMap
      | some _, .error fault => .error (.onu fault)
      | some allocIDs, .ok onu =>
        .ok ({ olt with gemPortIDs := table, allocIDs := allocIDs }.setOnu position onu, none)

/-- The flow table is kept outside performance runs only. -/
def recordFlow (olt : Olt) (flow : Flow) : Olt :=
  if olt.enablePerf then olt else { olt with flows := olt.flows.insert flow.flowId flow }

/-- `none` is the empty reply, that is, success. -/
def flowAdd (olt : Olt) (flow : Flow) : Except FlowFault (Olt × Option FlowFailure) :=
  let olt := olt.recordFlow flow
  if flow.isOltFlow ∨ flow.flowType = .multicast then .ok (olt, none)
  else match olt.getPonById flow.ponId with
    -- a missing PON is logged, and then the nil PON is searched
    | none => .error .nilPon
    | some pon =>
      match olt.getOnuById pon flow.onuIndex with
      | none => .ok (olt, some (.cannotFindOnu flow.onuIndex flow.ponId))
      | some position =>
        match olt.onuAt position with
        | none => .error .nilPon
        | some onu =>
          if onu.internalState = .ponDisabled ∨ onu.internalState = .disabled then
            .ok (olt, some (.onuIsCurrently onu.vendorSpecific onu.internalState))
          else olt.flowAddOnu position onu flow

/-- The ONU of a stored flow. -/
def storedOnu (olt : Olt) (stored : Flow) : Option Position :=
  (olt.getPonById stored.ponId).bind fun pon => olt.getOnuById pon stored.onuIndex

def deleteOnuFlow (olt : Olt) (position : Position) (flowId : UInt64) : Olt :=
  match olt.onuAt position with
  | none => olt
  | some onu => olt.setOnu position { onu with flows := onu.flows.erase flowId }

/-- The removal from the flow tables, where they are kept; an error is a reply given early. -/
def forgetFlow (olt : Olt) (flowId : UInt64) : Except (Option FlowFailure) Olt :=
  if olt.enablePerf then .ok olt
  else match olt.flows.lookup flowId with
    | none => .error (some .flowNotFound)
    | some stored =>
      if stored.isOltFlow then .ok { olt with flows := olt.flows.erase flowId }
      else match olt.storedOnu stored with
        | none => .error none
        | some position =>
          .ok { olt.deleteOnuFlow position flowId with flows := olt.flows.erase flowId }

def freeResources (olt : Olt) (flowId : UInt64) : Olt :=
  { olt with
    gemPortIDs := ResourceIds.freeFlow olt.gemPortIDs flowId
    allocIDs := ResourceIds.freeFlow olt.allocIDs flowId }

def flowRemove (olt : Olt) (flow : Flow) : Except FlowFault (Olt × Option FlowFailure) :=
  let freed := olt.freeResources flow.flowId
  match freed.forgetFlow flow.flowId with
  | .error reply => .ok (freed, reply)
  | .ok olt =>
    if flow.isOltFlow ∨ flow.flowType = .multicast then .ok (olt, none)
    else match olt.getOnuByFlowId flow.flowId with
      | none => .ok (olt, some (.cannotFindOnuByFlowId flow.flowId))
      | some position =>
        match (olt.onuAt position).map (Onu.send (.flowRemoved flow)) with
        | none => .error .nilPon
        | some (.error fault) => .error (.onu fault)
        | some (.ok onu) => .ok (olt.setOnu position onu, none)

/-- The loop of one ONU takes the oldest message from its channel and handles it. -/
def consume (olt : Olt) (position : Position) : Option Olt :=
  olt.pons[position.1]?.bind fun pon => pon.onus[position.2]?.bind fun onu =>
    onu.takeCurrent.bind fun (message, onu) =>
      match (AttachedOnu.mk onu pon.resources).handle 0 message with
      | .error _ => none
      | .ok next =>
        some { olt with
          pons := olt.pons.modify position.1 fun pon =>
            { pon with onus := pon.onus.set position.2 next.onu, resources := next.resources } }

theorem onuAt_setOnu (olt : Olt) (position other : Position) (onu : Onu) :
    (olt.setOnu position onu).onuAt other =
      if other = position then (olt.onuAt position).map fun _ => onu else olt.onuAt other := by
  obtain ⟨pon, index⟩ := position
  obtain ⟨otherPon, otherIndex⟩ := other
  simp only [onuAt, setOnu, List.getElem?_modify, Prod.mk.injEq]
  cases found : olt.pons[otherPon]? with
  | none =>
    by_cases samePon : otherPon = pon
    · subst samePon
      simp [found]
    · simp [samePon]
  | some port =>
    by_cases samePon : otherPon = pon
    · subst samePon
      by_cases sameIndex : otherIndex = index
      · subst sameIndex
        cases old : port.onus[otherIndex]? with
        | none => simp [found, List.getElem?_eq_none_iff.mp old]
        | some was =>
          obtain ⟨inside, _⟩ := List.getElem?_eq_some_iff.mp old
          simp [found, inside]
      · simp [sameIndex, Ne.symm sameIndex]
    · simp [samePon, Ne.symm samePon]

theorem mem_positions_iff (olt : Olt) (position : Position) :
    position ∈ olt.positions ↔ (olt.onuAt position).isSome := by
  obtain ⟨pon, index⟩ := position
  simp only [positions, List.mem_flatMap, List.mem_range, List.mem_map, onuAt, Prod.mk.injEq]
  constructor
  · rintro ⟨_, inside, _, below, rfl, rfl⟩
    simp_all
  · intro present
    cases found : olt.pons[pon]? with
    | none => simp [found] at present
    | some port =>
      obtain ⟨inside, _⟩ := List.getElem?_eq_some_iff.mp found
      exact ⟨pon, inside, index, by simpa [found] using present, rfl, rfl⟩

variable {position : Position} {olt : Olt} {flowId : UInt64}

theorem getOnuByFlowId_eq_some (found : olt.getOnuByFlowId flowId = some position) :
    ∃ onu, olt.onuAt position = some onu ∧ flowId ∈ onu.flowIds := by
  have held := List.find?_some found
  cases present : olt.onuAt position with
  | none => simp [present] at held
  | some onu => exact ⟨onu, rfl, by simpa [present] using held⟩

theorem getOnuByFlowId_eq_none (absent : olt.getOnuByFlowId flowId = none) {onu : Onu}
    (present : olt.onuAt position = some onu) : flowId ∉ onu.flowIds := by
  have visited : position ∈ olt.positions := by simp [mem_positions_iff, present]
  have passed := List.find?_eq_none.mp absent position visited
  simpa [present] using passed

/-- The ids the searches compare, PON by PON. -/
def ids (olt : Olt) : List (UInt32 × List UInt32) :=
  olt.pons.map fun pon => (pon.id, pon.onus.map Onu.id)

theorem storedOnu_of_ids {olt next : Olt} (same : next.ids = olt.ids) (stored : Flow) :
    next.storedOnu stored = olt.storedOnu stored := by
  have ponOf : ∀ device : Olt, device.getPonById stored.ponId =
      device.ids.findIdx? fun entry => entry.1 = stored.ponId := by
    intro device
    simp [getPonById, ids, List.findIdx?_map, Function.comp_def]
  have onuOf : ∀ (device : Olt) pon, device.getOnuById pon stored.onuIndex =
      (device.ids[pon]?.bind fun entry => entry.2.findIdx? (· = stored.onuIndex)).map (pon, ·) := by
    intro device pon
    cases found : device.pons[pon]? <;>
      simp [getOnuById, ids, found, List.findIdx?_map, Function.comp_def]
  simp only [storedOnu, ponOf, onuOf, same]

theorem ids_setOnu {old onu : Onu} (present : olt.onuAt position = some old)
    (sameId : onu.id = old.id) :
    (olt.setOnu position onu).ids = olt.ids := by
  obtain ⟨port, found, listed⟩ := Option.bind_eq_some_iff.mp present
  obtain ⟨inside, rfl⟩ := List.getElem?_eq_some_iff.mp listed
  have sameIds : (port.onus.set position.2 onu).map Onu.id = port.onus.map Onu.id := by
    apply List.ext_getElem?
    intro index
    by_cases same : position.2 = index
    · subst same
      simp [inside, sameId]
    · simp [same]
  apply List.ext_getElem?
  intro pon
  simp only [ids, setOnu, List.getElem?_map, List.getElem?_modify]
  by_cases samePon : position.1 = pon
  · subst samePon
    simp [found, sameIds]
  · simp [samePon]

end Olt

end Bbsim.Devices
