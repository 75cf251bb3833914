import Bbsim.Devices.FlowTracking

/-! What a failed FlowAdd leaves in the flow tables. The OLT keeps every flow by its id, and every
ONU lists the ids of its flows. `FlowAdd` writes to both before it validates the flow. -/

namespace Bbsim.Devices

open Foundation

namespace Olt

variable {olt next : Olt} {flow : Flow} {position : Position}

/-- The flow tables, the resource tables and the ONUs with their channels are as before. -/
structure Unchanged (olt next : Olt) : Prop where
  flows : ∀ flowId, next.flows.lookup flowId = olt.flows.lookup flowId
  onus : ∀ position, next.onuAt position = olt.onuAt position
  gemPortIDs : next.gemPortIDs = olt.gemPortIDs
  allocIDs : next.allocIDs = olt.allocIDs

/-- Outside performance runs the flow is recorded at once. -/
theorem recordFlow_lookup (perf : olt.enablePerf = false) (flowId : UInt64) :
    (olt.recordFlow flow).flows.lookup flowId =
      if flowId = flow.flowId then some flow else olt.flows.lookup flowId := by
  rw [recordFlow, perf]
  exact FiniteMap.lookup_insert_eq ..

theorem recordFlow_unchanged_iff :
    Unchanged olt (olt.recordFlow flow) ↔
      olt.enablePerf = true ∨ olt.flows.lookup flow.flowId = some flow := by
  have rest : ∀ flows : (∀ flowId, (olt.recordFlow flow).flows.lookup flowId =
      olt.flows.lookup flowId), Unchanged olt (olt.recordFlow flow) := fun flows =>
    ⟨flows, onuAt_recordFlow, recordFlow_gemPortIDs, recordFlow_allocIDs⟩
  cases perf : olt.enablePerf with
  | true =>
    refine iff_of_true (rest fun flowId => ?_) (.inl rfl)
    rw [recordFlow, if_pos perf]
  | false =>
    simp only [Bool.false_eq_true, false_or]
    constructor
    · intro unchanged
      rw [← unchanged.flows, recordFlow_lookup perf, if_pos rfl]
    · intro known
      refine rest fun flowId => ?_
      rw [recordFlow_lookup perf]
      split
      · next same => rw [same, known]
      · rfl

theorem onuAt_setOnu_same {onu : Onu} (present : olt.onuAt position = some onu) (other : Position) :
    (olt.setOnu position onu).onuAt other = olt.onuAt other := by
  rw [onuAt_setOnu]
  split
  · next same => rw [same, present, Option.map_some]
  · rfl

/-- A `FlowAdd` that returns an error has left everything as it was exactly in performance runs, or if
the same flow was recorded before and its ONU is unknown or disabled. -/
theorem flowAdd_all_or_nothing_iff {failure : FlowFailure}
    (failed : olt.flowAdd flow = .ok (next, some failure)) :
    Unchanged olt next ↔ olt.enablePerf = true ∨
      (olt.activeOnu flow = none ∧ olt.flows.lookup flow.flowId = some flow) := by
  rcases flowAdd_cases failed with ⟨-, -, replied⟩ | ⟨-, inactive, rfl, -⟩ |
    ⟨position, onu, -, active, present, ⟨-, -⟩⟩
  · cases replied
  · rw [recordFlow_unchanged_iff, and_iff_right inactive]
  · have here : (olt.recordFlow flow).onuAt position = some onu := by
      rw [onuAt_recordFlow, present]
    cases perf : olt.enablePerf with
    | true =>
      have recorded : olt.recordFlow flow = olt := by simp [recordFlow, perf]
      simp only [true_or, iff_true, Onu.listFlow, if_true, recorded]
      exact ⟨fun _ => rfl, onuAt_setOnu_same present, rfl, rfl⟩
    | false =>
      -- the ONU lists one flow more than before
      simp only [active, reduceCtorEq, false_and, Bool.false_eq_true, or_self, iff_false]
      intro unchanged
      have same := unchanged.onus position
      rw [onuAt_setOnu, if_pos rfl, present, here, Option.map_some] at same
      have grown := congrArg Onu.flows (Option.some.inj same)
      simp [Onu.listFlow] at grown

/-- The flow names an ONU the PON does not have. -/
def strayFlow : Flow := { upstreamFlow with onuId := 9 }

/-- The call returns a failure. -/
def refusesAdd (olt : Olt) (flow : Flow) : Bool :=
  match olt.flowAdd flow with
  | .ok (_, some _) => true
  | _ => false

theorem exists_failure_of_refusesAdd (refused : olt.refusesAdd flow = true) :
    ∃ after failure, olt.flowAdd flow = .ok (after, some failure) := by
  unfold refusesAdd at refused
  split at refused
  · next after failure returned => exact ⟨after, failure, returned⟩
  · cases refused

/-- The OLT after the first call for the stray flow. -/
def strayOlt : Olt := oneOnuOlt.recordFlow strayFlow

theorem flowAdd_all_or_nothing_repeated : ∃ after failure,
    strayOlt.flowAdd strayFlow = .ok (after, some failure) ∧ Unchanged strayOlt after := by
  obtain ⟨after, failure, failed⟩ :=
    exists_failure_of_refusesAdd (show strayOlt.refusesAdd strayFlow = true by decide +kernel)
  refine ⟨after, failure, failed, (flowAdd_all_or_nothing_iff failed).mpr (.inr ⟨?_, ?_⟩)⟩
  · decide +kernel
  · exact AList.lookup_insert _

theorem failed_flowAdd_is_recorded : ∃ after failure,
    oneOnuOlt.flowAdd strayFlow = .ok (after, some failure) ∧ ¬ Unchanged oneOnuOlt after := by
  obtain ⟨after, failure, failed⟩ :=
    exists_failure_of_refusesAdd (show oneOnuOlt.refusesAdd strayFlow = true by decide +kernel)
  have unknown : oneOnuOlt.activeOnu strayFlow = none := by decide +kernel
  refine ⟨after, failure, failed, fun unchanged => ?_⟩
  rcases flowAdd_cases failed with ⟨-, -, replied⟩ | ⟨-, -, rfl, -⟩ | ⟨_, _, -, active, -⟩
  · cases replied
  · have absent := unchanged.flows strayFlow.flowId
    rw [recordFlow_lookup rfl, if_pos rfl] at absent
    cases absent
  · rw [unknown] at active
    cases active

end Olt

end Bbsim.Devices
