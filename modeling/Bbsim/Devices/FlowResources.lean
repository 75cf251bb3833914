import Bbsim.Foundation.Run
import Bbsim.Devices.ResourceIds

/-! Concurrent use of the resource tables. Calls of `FlowAdd`, `FlowRemove` and `ActivateOnu`, each
advancing from one lock section to the next. `validateFlow` keeps its read lock on `GemPortIDs`
until it returns, so nobody writes that table while a call stands between its two checks. -/

namespace Bbsim.Devices

open Foundation ResourceIds

inductive FlowError where
  | gemInUse (gem : Int32) (uniId onuId : UInt32) (replicated : Bool) (flowId : UInt64)
  | allocIdInUse (allocId : Int32) (uniId onuId : UInt32) (flowId : UInt64)
  | gemForUnknownOnu (gem : Int32) (onuId ponId : UInt32)

/-- First half of `validateFlow`. -/
def validateGemPorts (gemPortIDs : ResourceIds) (flow : Flow) : Option FlowError :=
  (conflict gemPortIDs flow.ponId flow.onuIndex flow.gemPorts).map fun (gem, uni, onu) =>
    .gemInUse gem uni onu flow.replicateFlow flow.flowId

/-- Second half of `validateFlow`. -/
def validateAllocId (allocIDs : ResourceIds) (flow : Flow) : Option FlowError :=
  (conflict allocIDs flow.ponId flow.onuIndex [flow.allocId]).map fun (allocId, uni, onu) =>
    .allocIdInUse allocId uni onu flow.flowId

def validateFlow (gemPortIDs allocIDs : ResourceIds) (flow : Flow) : Option FlowError :=
  (validateGemPorts gemPortIDs flow).or (validateAllocId allocIDs flow)

def storeGemPortId (gemPortIDs : ResourceIds) (flow : Flow) (gem : Int32) : Option ResourceIds :=
  storeId gemPortIDs flow.ponId flow.onuIndex flow.portNo gem flow.flowId

/-- `none` is the write into the nil map of an ONU that was never activated. -/
def storeAllocId (allocIDs : ResourceIds) (flow : Flow) : Option ResourceIds :=
  storeId allocIDs flow.ponId flow.onuIndex flow.portNo flow.allocId flow.flowId

/-- Where a call stands: the lock section it takes next. -/
inductive Call where
  | checkGemPorts (flow : Flow)
  | checkAllocId (flow : Flow)
  | storing (flow : Flow) (stored : Nat)
  | freeGemPort (flow : Flow)
  | freeAllocId (flow : Flow)
  | enableAllocIds (ponId onuId : UInt32)
  | enableGemPorts (ponId onuId : UInt32)
  | returned (error : Option FlowError)

structure FlowTables where
  gemPortIDs : ResourceIds
  allocIDs : ResourceIds
  calls : List Call

/-- A request from VOLTHA. -/
inductive Request where
  | flowAdd (flow : Flow)
  | flowRemove (flow : Flow)
  | activateOnu (ponId onuId : UInt32)

def Request.entry : Request → Call
  | .flowAdd flow => .checkGemPorts flow
  | .flowRemove flow => .freeGemPort flow
  | .activateOnu ponId onuId => .enableAllocIds ponId onuId

inductive TableStep where
  | start (request : Request)
  | advance (caller : Nat)

/-- Some call holds the read lock of `GemPortIDs`. -/
def gemPortsRead (calls : List Call) : Bool :=
  calls.any fun
    | .checkAllocId _ => true
    | _ => false

namespace FlowTables

def proceed (tables : FlowTables) (caller : Nat) (next : Call) : FlowTables :=
  { tables with calls := tables.calls.set caller next }

/-- One lock section of a call; `none` where it has to wait or the process panics. -/
def lockSection (tables : FlowTables) (caller : Nat) : Call → Option FlowTables
  | .checkGemPorts flow =>
    match validateGemPorts tables.gemPortIDs flow with
    | some error => some (tables.proceed caller (.returned (some error)))
    | none => some (tables.proceed caller (.checkAllocId flow))
  | .checkAllocId flow =>
    match validateAllocId tables.allocIDs flow with
    | some error => some (tables.proceed caller (.returned (some error)))
    | none => some (tables.proceed caller (.storing flow 0))
  | .storing flow stored =>
    match flow.gemPorts[stored]? with
    | some gem =>
      if gemPortsRead tables.calls then none
      else match storeGemPortId tables.gemPortIDs flow gem with
        | none => some (tables.proceed caller
            (.returned (some (.gemForUnknownOnu gem flow.onuIndex flow.ponId))))
        | some table =>
          some ({ tables with gemPortIDs := table }.proceed caller (.storing flow (stored + 1)))
    | none =>
      (storeAllocId tables.allocIDs flow).map fun table =>
        { tables with allocIDs := table }.proceed caller (.returned none)
  | .freeGemPort flow =>
    if gemPortsRead tables.calls then none
    else some ({ tables with gemPortIDs := freeFlow tables.gemPortIDs flow.flowId }.proceed caller
      (.freeAllocId flow))
  | .freeAllocId flow =>
    some ({ tables with allocIDs := freeFlow tables.allocIDs flow.flowId }.proceed caller
      (.returned none))
  | .enableAllocIds ponId onuId =>
    (enableOnu tables.allocIDs ponId onuId).map fun table =>
      { tables with allocIDs := table }.proceed caller (.enableGemPorts ponId onuId)
  | .enableGemPorts ponId onuId =>
    if gemPortsRead tables.calls then none
    else (enableOnu tables.gemPortIDs ponId onuId).map fun table =>
      { tables with gemPortIDs := table }.proceed caller (.returned none)
  | .returned _ => none

def step (tables : FlowTables) : TableStep → Option FlowTables
  | .start request => some { tables with calls := tables.calls ++ [request.entry] }
  | .advance caller => tables.calls[caller]?.bind (tables.lockSection caller)

end FlowTables

/-- The flow of a call that has passed the GEM port check and not yet returned. -/
def Call.checked : Call → Option Flow
  | .checkAllocId flow => some flow
  | .storing flow _ => some flow
  | _ => none

/-- The flow of a call that has passed both checks and not yet returned. -/
def Call.validated : Call → Option Flow
  | .storing flow _ => some flow
  | _ => none

variable {call : Call}

theorem Call.checked_of_validated {flow : Flow} (validated : call.validated = some flow) :
    call.checked = some flow := by
  cases call <;> simp_all [Call.validated, Call.checked]

/-- Tables grow only by the ids of a validated flow, and a call gets checked or validated only by
passing the check. -/
structure SectionEffect (tables : FlowTables) (caller : Nat) (call : Call) (next : FlowTables) :
    Prop where
  gemPorts : ∀ pon onu id, Records next.gemPortIDs pon onu id →
    Records tables.gemPortIDs pon onu id ∨
      ∃ flow, call.validated = some flow ∧ pon = flow.ponId ∧ onu = flow.onuIndex ∧
        id ∈ flow.gemPorts
  allocIds : ∀ pon onu id, Records next.allocIDs pon onu id →
    Records tables.allocIDs pon onu id ∨
      ∃ flow, call.validated = some flow ∧ pon = flow.ponId ∧ onu = flow.onuIndex ∧
        id ∈ [flow.allocId]
  calls : ∃ after, next.calls = tables.calls.set caller after ∧
    (∀ flow, after.checked = some flow → call.checked = some flow ∨
      (call = .checkGemPorts flow ∧ validateGemPorts tables.gemPortIDs flow = none)) ∧
    (∀ flow, after.validated = some flow → call.validated = some flow ∨
      (call = .checkAllocId flow ∧ validateAllocId tables.allocIDs flow = none))

variable {tables next : FlowTables} {caller : Nat}

/-- A section that adds nothing to the tables, with a call that is past its checks. -/
private theorem effect_of_subset {call after : Call}
    (shape : next.calls = tables.calls.set caller after) (unchecked : after.checked = none)
    (gemPorts : ∀ pon onu id, Records next.gemPortIDs pon onu id → Records tables.gemPortIDs pon onu id)
    (allocIds : ∀ pon onu id, Records next.allocIDs pon onu id → Records tables.allocIDs pon onu id) :
    SectionEffect tables caller call next where
  gemPorts := fun pon onu id recorded => .inl (gemPorts pon onu id recorded)
  allocIds := fun pon onu id recorded => .inl (allocIds pon onu id recorded)
  calls := by
    refine ⟨after, shape, ?_, ?_⟩
    · intro flow checked
      cases unchecked.symm.trans checked
    · intro flow validated
      cases unchecked.symm.trans (Call.checked_of_validated validated)

private theorem effect_return (tables : FlowTables) (caller : Nat) (call : Call)
    (error : Option FlowError) :
    SectionEffect tables caller call (tables.proceed caller (.returned error)) :=
  effect_of_subset rfl rfl (fun _ _ _ recorded => recorded) fun _ _ _ recorded => recorded

theorem lockSection_effect (taken : tables.lockSection caller call = some next) :
    SectionEffect tables caller call next := by
  cases call with
  | checkGemPorts flow =>
    simp only [FlowTables.lockSection] at taken
    split at taken <;> obtain rfl := Option.some.inj taken
    · exact effect_return ..
    · next passed =>
      refine ⟨fun _ _ _ => Or.inl, fun _ _ _ => Or.inl, _, rfl, ?_, by simp [Call.validated]⟩
      rintro other same
      obtain rfl := Option.some.inj same
      exact Or.inr ⟨rfl, passed⟩
  | checkAllocId flow =>
    simp only [FlowTables.lockSection] at taken
    split at taken <;> obtain rfl := Option.some.inj taken
    · exact effect_return ..
    · next passed =>
      refine ⟨fun _ _ _ => Or.inl, fun _ _ _ => Or.inl, _, rfl, fun _ => Or.inl, ?_⟩
      rintro other same
      obtain rfl := Option.some.inj same
      exact Or.inr ⟨rfl, passed⟩
  | storing flow stored =>
    simp only [FlowTables.lockSection] at taken
    split at taken
    · next gem found =>
      split at taken
      · cases taken
      split at taken <;> obtain rfl := Option.some.inj taken
      · exact effect_return ..
      · next table put =>
        refine ⟨?_, fun _ _ _ => Or.inl, _, rfl, fun _ => Or.inl, fun _ => Or.inl⟩
        intro pon onu id recorded
        rcases records_storeId put recorded with old | ⟨rfl, rfl, rfl⟩
        · exact Or.inl old
        · exact Or.inr ⟨flow, rfl, rfl, rfl, List.mem_of_getElem? found⟩
    · obtain ⟨table, put, rfl⟩ := Option.map_eq_some_iff.mp taken
      refine ⟨fun _ _ _ => Or.inl, ?_, _, rfl, by simp [Call.checked], by simp [Call.validated]⟩
      intro pon onu id recorded
      rcases records_storeId put recorded with old | ⟨rfl, rfl, rfl⟩
      · exact Or.inl old
      · exact Or.inr ⟨flow, rfl, rfl, rfl, by simp⟩
  | freeGemPort flow =>
    obtain ⟨-, same⟩ := Option.ite_none_left_eq_some.mp taken
    obtain rfl := Option.some.inj same
    exact effect_of_subset rfl rfl (fun _ _ _ => records_freeFlow) fun _ _ _ recorded => recorded
  | freeAllocId flow =>
    obtain rfl := Option.some.inj taken
    exact effect_of_subset rfl rfl (fun _ _ _ recorded => recorded) fun _ _ _ => records_freeFlow
  | enableAllocIds ponId onuId =>
    obtain ⟨table, enabled, rfl⟩ := Option.map_eq_some_iff.mp taken
    exact effect_of_subset rfl rfl (fun _ _ _ recorded => recorded)
      fun _ _ _ => records_enableOnu enabled
  | enableGemPorts ponId onuId =>
    obtain ⟨-, advanced⟩ := Option.ite_none_left_eq_some.mp taken
    obtain ⟨table, enabled, rfl⟩ := Option.map_eq_some_iff.mp advanced
    exact effect_of_subset rfl rfl (fun _ _ _ => records_enableOnu enabled)
      fun _ _ _ recorded => recorded
  | returned error => cases taken

end Bbsim.Devices
