import Bbsim.Devices.Olt

/-! What the flow calls do to the tables and to the ONUs. Seen from the message loops, a flow call
appends at most one message to the channel of one ONU. -/

namespace Bbsim.Devices

open Foundation

/-- The ONU without its `Flows` list. -/
def Onu.bare (onu : Onu) : Onu := { onu with flows := [] }

theorem Onu.id_of_bare {onu other : Onu} (same : onu.bare = other.bare) : onu.id = other.id := by
  simpa [Onu.bare] using congrArg Onu.id same

/-- The ONU with the flow in its list, which is kept outside performance runs only. -/
def Onu.listFlow (onu : Onu) (enablePerf : Bool) (flowId : UInt64) : Onu :=
  if enablePerf then onu else { onu with flows := onu.flows ++ [flowId] }

theorem Onu.bare_listFlow (onu : Onu) (enablePerf : Bool) (flowId : UInt64) :
    (onu.listFlow enablePerf flowId).bare = onu.bare := by
  unfold listFlow
  split <;> rfl

@[simp] theorem Onu.listFlow_id (onu : Onu) (enablePerf : Bool) (flowId : UInt64) :
    (onu.listFlow enablePerf flowId).id = onu.id :=
  id_of_bare (bare_listFlow ..)

theorem Onu.writable_listFlow (onu : Onu) (enablePerf : Bool) (flowId : UInt64) :
    (onu.listFlow enablePerf flowId).writable = onu.writable := by
  unfold listFlow
  split <;> rfl

/-- Neither an OLT trap flow nor a multicast flow. -/
def Flow.isOnuFlow (flow : Flow) : Bool := !(flow.isOltFlow || flow.flowType = .multicast)

theorem Flow.not_olt_of_isOnuFlow {flow : Flow} (onuFlow : flow.isOnuFlow = true) :
    ¬(flow.isOltFlow = true ∨ flow.flowType = .multicast) := by
  simpa [Flow.isOnuFlow] using onuFlow

/-- `FlowAdd` rejects flows for the other ONUs. -/
def Onu.active (onu : Onu) : Bool :=
  !(onu.internalState = .ponDisabled || onu.internalState = .disabled)

namespace Olt

def bareAt (olt : Olt) (position : Position) : Option Onu := (olt.onuAt position).map Onu.bare

variable {old onu : Onu}

theorem bareAt_setOnu {olt : Olt} {position : Position} (present : olt.onuAt position = some old)
    (other : Position) :
    (olt.setOnu position onu).bareAt other =
      if other = position then some onu.bare else olt.bareAt other := by
  rw [bareAt, onuAt_setOnu, present]
  split <;> rfl

private theorem bareAt_setOnu_of_same {olt : Olt} {position : Position}
    (present : olt.onuAt position = some old) (same : onu.bare = old.bare) (other : Position) :
    (olt.setOnu position onu).bareAt other = olt.bareAt other := by
  rw [bareAt_setOnu present]
  split
  · next here => rw [here, bareAt, present, Option.map_some, same]
  · rfl

/-- What a flow call leaves alone, and what becomes of the channels. -/
structure CallEffect (olt next : Olt) (sent : Option (Position × Message)) : Prop where
  ids : next.ids = olt.ids
  enablePerf : next.enablePerf = olt.enablePerf
  quiet : sent = none → ∀ position, next.bareAt position = olt.bareAt position
  sends : ∀ position message, sent = some (position, message) →
    ∃ onu, olt.bareAt position = some onu ∧ onu.writable = true ∧
      ∀ other, next.bareAt other =
        if other = position then some (onu.enqueue [message]) else olt.bareAt other

theorem CallEffect.of_eq {olt next : Olt} (ids : next.ids = olt.ids)
    (enablePerf : next.enablePerf = olt.enablePerf)
    (same : ∀ position, next.bareAt position = olt.bareAt position) : CallEffect olt next none where
  ids := ids
  enablePerf := enablePerf
  quiet := fun _ => same
  sends := by simp

variable {sent : Option (Position × Message)}

/-- A call that sends nothing, and then one more. -/
theorem CallEffect.after_quiet {olt middle next : Olt} (first : CallEffect olt middle none)
    (second : CallEffect middle next sent) :
    CallEffect olt next sent where
  ids := second.ids.trans first.ids
  enablePerf := second.enablePerf.trans first.enablePerf
  quiet := fun silent position => (second.quiet silent position).trans (first.quiet rfl position)
  sends := by
    intro position message sentHere
    obtain ⟨onu, present, isOpen, after⟩ := second.sends position message sentHere
    refine ⟨onu, (first.quiet rfl position).symm.trans present, isOpen, fun other => ?_⟩
    rw [after other, first.quiet rfl other]

/-- Replacing one ONU by one that differs in `Flows` only. -/
private theorem effect_setOnu {olt next : Olt} {position : Position} (pons : next.pons = olt.pons)
    (enablePerf : next.enablePerf = olt.enablePerf) (present : olt.onuAt position = some old)
    (same : onu.bare = old.bare) :
    CallEffect olt (next.setOnu position onu) none := by
  have here : next.onuAt position = some old := by rw [onuAt, pons]; exact present
  refine .of_eq ?_ enablePerf fun other => ?_
  · rw [ids_setOnu here (Onu.id_of_bare same), ids, ids, pons]
  · rw [bareAt_setOnu_of_same here same, bareAt, bareAt, onuAt, onuAt, pons]

private theorem effect_send {olt next : Olt} {position : Position} {message : Message}
    (pons : next.pons = olt.pons) (enablePerf : next.enablePerf = olt.enablePerf)
    (present : olt.onuAt position = some old) (same : onu.bare = old.bare)
    (isOpen : onu.writable = true) :
    CallEffect olt (next.setOnu position (onu.enqueue [message])) (some (position, message)) where
  ids := by
    have here : next.onuAt position = some old := by rw [onuAt, pons]; exact present
    have sameId : (onu.enqueue [message]).id = old.id := by
      rw [Onu.enqueue_id, Onu.id_of_bare same]
    rw [ids_setOnu here sameId, ids, ids, pons]
  enablePerf := enablePerf
  quiet := by simp
  sends := by
    rintro _ _ ⟨rfl, rfl⟩
    have here : next.onuAt position = some old := by rw [onuAt, pons]; exact present
    refine ⟨onu.bare, by rw [bareAt, present, Option.map_some, same], isOpen, fun other => ?_⟩
    rw [bareAt_setOnu here, bareAt, bareAt, onuAt, onuAt, pons]
    rfl

@[simp] theorem recordFlow_pons (olt : Olt) (flow : Flow) :
    (olt.recordFlow flow).pons = olt.pons := by
  unfold recordFlow
  split <;> rfl

@[simp] theorem recordFlow_enablePerf (olt : Olt) (flow : Flow) :
    (olt.recordFlow flow).enablePerf = olt.enablePerf := by
  unfold recordFlow
  split <;> rfl

theorem recordFlow_lookup_ne (olt : Olt) (flow : Flow) {other : UInt64} (different : other ≠ flow.flowId) :
    (olt.recordFlow flow).flows.lookup other = olt.flows.lookup other := by
  unfold recordFlow
  split
  · rfl
  · exact AList.lookup_insert_ne different

section Exits

variable {olt : Olt} {flow : Flow} {position : Position}

/-- The ONU a flow is for, unless it is disabled. -/
def activeOnu (olt : Olt) (flow : Flow) : Option Position :=
  (olt.storedOnu flow).filter fun position => (olt.onuAt position).any Onu.active

theorem onuAt_of_getOnuById {pon : Nat} {id : UInt32} (found : olt.getOnuById pon id = some position) :
    ∃ onu, olt.onuAt position = some onu := by
  obtain ⟨index, listed, rfl⟩ := Option.map_eq_some_iff.mp found
  obtain ⟨port, present, searched⟩ := Option.bind_eq_some_iff.mp listed
  obtain ⟨inside, -⟩ := List.findIdx?_eq_some_iff_getElem.mp searched
  exact ⟨port.onus[index], by simp [onuAt, present]⟩

theorem onuAt_of_storedOnu (stored : olt.storedOnu flow = some position) :
    ∃ onu, olt.onuAt position = some onu := by
  obtain ⟨pon, -, found⟩ := Option.bind_eq_some_iff.mp stored
  exact onuAt_of_getOnuById found

theorem onuAt_recordFlow (position : Position) :
    (olt.recordFlow flow).onuAt position = olt.onuAt position := by
  rw [onuAt, recordFlow_pons, onuAt]

theorem getPonById_recordFlow (id : UInt32) :
    (olt.recordFlow flow).getPonById id = olt.getPonById id := by
  rw [getPonById, recordFlow_pons, getPonById]

theorem getOnuById_recordFlow (pon : Nat) (id : UInt32) :
    (olt.recordFlow flow).getOnuById pon id = olt.getOnuById pon id := by
  rw [getOnuById, recordFlow_pons, getOnuById]

theorem flowAdd_of_not_isOnuFlow (other : flow.isOnuFlow = false) :
    olt.flowAdd flow = .ok (olt.recordFlow flow, none) := by
  have trap : flow.isOltFlow = true ∨ flow.flowType = .multicast := by
    by_contra neither
    simp_all [Flow.isOnuFlow]
  rw [flowAdd, if_pos trap]

theorem flowAdd_of_unknownPon (onuFlow : flow.isOnuFlow = true)
    (unknown : olt.getPonById flow.ponId = none) : olt.flowAdd flow = .error .nilPon := by
  simp only [flowAdd, if_neg (Flow.not_olt_of_isOnuFlow onuFlow), getPonById_recordFlow, unknown]

theorem flowAdd_of_active {onu : Onu} (onuFlow : flow.isOnuFlow = true)
    (active : olt.activeOnu flow = some position) (present : olt.onuAt position = some onu) :
    olt.flowAdd flow = (olt.recordFlow flow).flowAddOnu position onu flow := by
  obtain ⟨stored, on⟩ := Option.filter_eq_some_iff.mp active
  obtain ⟨pon, foundPon, foundOnu⟩ := Option.bind_eq_some_iff.mp stored
  have allowed : ¬(onu.internalState = .ponDisabled ∨ onu.internalState = .disabled) := by
    simpa [present, Onu.active] using on
  simp only [flowAdd, if_neg (Flow.not_olt_of_isOnuFlow onuFlow), getPonById_recordFlow, foundPon,
    getOnuById_recordFlow, foundOnu, onuAt_recordFlow, present, if_neg allowed]

theorem flowAdd_of_inactive (onuFlow : flow.isOnuFlow = true)
    (known : (olt.getPonById flow.ponId).isSome) (inactive : olt.activeOnu flow = none) :
    ∃ failure, olt.flowAdd flow = .ok (olt.recordFlow flow, some failure) := by
  obtain ⟨pon, foundPon⟩ := Option.isSome_iff_exists.mp known
  simp only [flowAdd, if_neg (Flow.not_olt_of_isOnuFlow onuFlow), getPonById_recordFlow, foundPon,
    getOnuById_recordFlow]
  cases foundOnu : olt.getOnuById pon flow.onuIndex with
  | none => exact ⟨_, rfl⟩
  | some position =>
    obtain ⟨onu, present⟩ := onuAt_of_getOnuById foundOnu
    have off : onu.internalState = .ponDisabled ∨ onu.internalState = .disabled := by
      simpa [activeOnu, storedOnu, foundPon, foundOnu, present, Onu.active, Option.filter,
        imp_iff_not_or] using inactive
    simp only [onuAt_recordFlow, present, if_pos off]
    exact ⟨_, rfl⟩

end Exits

section

variable {olt next : Olt} {flow : Flow} {position : Position} {onu : Onu} {table : ResourceIds}
  {reply : Option FlowFailure}

theorem onuIds_of_storeId {table after : ResourceIds} {ponId onuId portNo : UInt32} {id : Int32}
    {flowId : UInt64} (stored : ResourceIds.storeId table ponId onuId portNo id flowId = some after) :
    (ResourceIds.onuIds after ponId onuId).isSome := by
  obtain ⟨onuValues, -, put⟩ := Option.bind_eq_some_iff.mp stored
  simp [ResourceIds.onuIds_putOnuIds put]

theorem storeId_of_onuIds {table : ResourceIds} {ponId onuId : UInt32}
    (enabled : (ResourceIds.onuIds table ponId onuId).isSome) (portNo : UInt32) (id : Int32)
    (flowId : UInt64) :
    ∃ after, ResourceIds.storeId table ponId onuId portNo id flowId = some after := by
  obtain ⟨onuValues, found⟩ := Option.isSome_iff_exists.mp enabled
  obtain ⟨ponValues, present, -⟩ := Option.bind_eq_some_iff.mp found
  simp [ResourceIds.storeId, found, ResourceIds.putOnuIds, present]

/-- Where the ONU has its map, no GEM port fails. -/
theorem storeGemPorts_of_onuIds
    (enabled : (ResourceIds.onuIds table flow.ponId flow.onuIndex).isSome) (gems : List Int32) :
    (storeGemPorts flow table gems).2 = none := by
  induction gems generalizing table with
  | nil => rfl
  | cons gem rest ih =>
    obtain ⟨after, stored⟩ := storeId_of_onuIds enabled flow.portNo gem flow.flowId
    have stored : storeGemPortId table flow gem = some after := stored
    simp only [storeGemPorts, stored]
    exact ih (onuIds_of_storeId stored)

/-- So that only the first GEM port can fail, and then nothing has been stored. -/
theorem storeGemPorts_failed {table after : ResourceIds} {gems : List Int32} {error : FlowError}
    (failed : storeGemPorts flow table gems = (after, some error)) : after = table := by
  cases gems with
  | nil => cases failed
  | cons gem rest =>
    simp only [storeGemPorts] at failed
    split at failed
    · exact (Prod.mk.inj failed).1.symm
    · next next stored =>
      have later := storeGemPorts_of_onuIds (onuIds_of_storeId stored) rest
      rw [failed] at later
      cases later

theorem storeGemPorts_succeeds_iff {gems : List Int32} :
    (storeGemPorts flow table gems).2 = none ↔
      gems = [] ∨ (ResourceIds.onuIds table flow.ponId flow.onuIndex).isSome := by
  refine ⟨fun stored => ?_, ?_⟩
  · cases gems with
    | nil => exact .inl rfl
    | cons gem rest =>
      refine .inr ?_
      cases enabled : ResourceIds.onuIds table flow.ponId flow.onuIndex with
      | some values => rfl
      | none =>
        have failed : storeGemPortId table flow gem = none := by
          simp [storeGemPortId, ResourceIds.storeId, enabled]
        simp [storeGemPorts, failed] at stored
  · rintro (rfl | enabled)
    · rfl
    · exact storeGemPorts_of_onuIds enabled gems

theorem storeAllocId_eq_none_iff :
    storeAllocId table flow = none ↔ ResourceIds.onuIds table flow.ponId flow.onuIndex = none := by
  constructor
  · intro failed
    by_contra enabled
    obtain ⟨after, stored⟩ := storeId_of_onuIds (Option.isSome_iff_ne_none.mpr enabled) flow.portNo
      flow.allocId flow.flowId
    rw [storeAllocId, stored] at failed
    cases failed
  · intro missing
    simp [storeAllocId, ResourceIds.storeId, missing]

/-- The OLT with the flow recorded and with these resource tables. -/
def booked (olt : Olt) (flow : Flow) (gemPortIDs allocIDs : ResourceIds) : Olt :=
  { olt with flows := (olt.recordFlow flow).flows, gemPortIDs := gemPortIDs, allocIDs := allocIDs }

theorem recordFlow_gemPortIDs : (olt.recordFlow flow).gemPortIDs = olt.gemPortIDs := by
  unfold recordFlow
  split <;> rfl

theorem recordFlow_allocIDs : (olt.recordFlow flow).allocIDs = olt.allocIDs := by
  unfold recordFlow
  split <;> rfl

theorem booked_recordFlow : olt.booked flow olt.gemPortIDs olt.allocIDs = olt.recordFlow flow := by
  unfold booked recordFlow
  split <;> rfl

/-- The flow is valid, and no GEM port of it meets an ONU without its map. -/
def PassesChecks (olt : Olt) (flow : Flow) : Prop :=
  validateFlow olt.gemPortIDs olt.allocIDs flow = none ∧
    (flow.gemPorts = [] ∨ (ResourceIds.onuIds olt.gemPortIDs flow.ponId flow.onuIndex).isSome)

/-- What becomes of a `FlowAdd` for an active ONU: only a call without a failure goes past the
resource tables. -/
inductive AddOutcome (olt : Olt) (position : Position) (onu : Onu) (flow : Flow) :
    Except FlowFault (Olt × Option FlowFailure) → Prop where
  | rejected (failure : FlowFailure) (invalid : ¬ olt.PassesChecks flow) :
      AddOutcome olt position onu flow (.ok ((olt.recordFlow flow).setOnu position
        (onu.listFlow olt.enablePerf flow.flowId), some failure))
  | nilMap (valid : olt.PassesChecks flow)
      (missing : ResourceIds.onuIds olt.allocIDs flow.ponId flow.onuIndex = none) :
      AddOutcome olt position onu flow (.error .nilMap)
  | unsent (fault : Fault) (valid : olt.PassesChecks flow)
      (enabled : (ResourceIds.onuIds olt.allocIDs flow.ponId flow.onuIndex).isSome)
      (shut : onu.writable = false) : AddOutcome olt position onu flow (.error (.onu fault))
  | queued (gemPortIDs allocIDs : ResourceIds) (valid : olt.PassesChecks flow)
      (enabled : (ResourceIds.onuIds olt.allocIDs flow.ponId flow.onuIndex).isSome)
      (isOpen : onu.writable = true) :
      AddOutcome olt position onu flow (.ok ((olt.booked flow gemPortIDs allocIDs).setOnu position
        ((onu.listFlow olt.enablePerf flow.flowId).enqueue [.flowAdd flow]), none))

theorem flowAddOnu_outcome :
    olt.AddOutcome position onu flow ((olt.recordFlow flow).flowAddOnu position onu flow) := by
  simp only [flowAddOnu, recordFlow_enablePerf, recordFlow_gemPortIDs, recordFlow_allocIDs,
    recordFlow_pons]
  generalize listing : (if olt.enablePerf then onu
    else { onu with flows := onu.flows ++ [flow.flowId] }) = listed
  obtain rfl : onu.listFlow olt.enablePerf flow.flowId = listed := listing
  cases validated : validateFlow olt.gemPortIDs olt.allocIDs flow with
  | some error => exact .rejected _ (by simp [PassesChecks, validated])
  | none =>
    have passes : (storeGemPortIdByFlow olt.gemPortIDs flow).2 = none ↔ olt.PassesChecks flow := by
      rw [PassesChecks, and_iff_right validated]
      exact storeGemPorts_succeeds_iff
    obtain ⟨⟨table, gemError⟩, storing⟩ :
        ∃ result, storeGemPortIdByFlow olt.gemPortIDs flow = result := ⟨_, rfl⟩
    rw [storing] at passes ⊢
    cases gemError with
    | some error =>
      obtain rfl := storeGemPorts_failed storing
      change olt.AddOutcome position onu flow
        (.ok ((olt.booked flow olt.gemPortIDs olt.allocIDs).setOnu position _, _))
      rw [booked_recordFlow]
      exact .rejected _ fun valid => by simpa using passes.mpr valid
    | none =>
      have valid := passes.mp rfl
      cases stored : storeAllocId olt.allocIDs flow with
      | none => exact .nilMap valid (storeAllocId_eq_none_iff.mp stored)
      | some allocIDs =>
        have enabled : (ResourceIds.onuIds olt.allocIDs flow.ponId flow.onuIndex).isSome := by
          by_contra missing
          rw [storeAllocId_eq_none_iff.mpr (by simpa using missing)] at stored
          cases stored
        have channel := onu.writable_listFlow olt.enablePerf flow.flowId
        cases isOpen : (onu.listFlow olt.enablePerf flow.flowId).writable with
        | false =>
          rw [Onu.send_of_not_writable isOpen]
          exact .unsent _ valid enabled (channel ▸ isOpen)
        | true =>
          rw [Onu.send_of_writable isOpen]
          exact .queued table allocIDs valid enabled (channel ▸ isOpen)

/-- What a `FlowAdd` has done when it returns. -/
theorem flowAdd_cases (returned : olt.flowAdd flow = .ok (next, reply)) :
    (flow.isOnuFlow = false ∧ next = olt.recordFlow flow ∧ reply = none) ∨
    (flow.isOnuFlow = true ∧ olt.activeOnu flow = none ∧ next = olt.recordFlow flow ∧
      reply ≠ none) ∨
    ∃ position onu, flow.isOnuFlow = true ∧ olt.activeOnu flow = some position ∧
      olt.onuAt position = some onu ∧ olt.AddOutcome position onu flow (.ok (next, reply)) := by
  cases onuFlow : flow.isOnuFlow with
  | false =>
    rw [flowAdd_of_not_isOnuFlow onuFlow] at returned
    cases returned
    exact .inl ⟨rfl, rfl, rfl⟩
  | true =>
    refine .inr ?_
    cases known : olt.getPonById flow.ponId with
    | none =>
      rw [flowAdd_of_unknownPon onuFlow known] at returned
      cases returned
    | some pon =>
      cases active : olt.activeOnu flow with
      | none =>
        obtain ⟨failure, failed⟩ := flowAdd_of_inactive onuFlow (by simp [known]) active
        rw [failed] at returned
        cases returned
        exact .inl ⟨rfl, rfl, rfl, by simp⟩
      | some position =>
        obtain ⟨onu, present⟩ := onuAt_of_storedOnu (Option.filter_eq_some_iff.mp active).1
        rw [flowAdd_of_active onuFlow active present] at returned
        exact .inr ⟨position, onu, rfl, rfl, present, returned ▸ flowAddOnu_outcome⟩

theorem AddOutcome.result (outcome : olt.AddOutcome position onu flow (.ok (next, reply))) :
    ∃ gemPortIDs allocIDs messages, next = (olt.booked flow gemPortIDs allocIDs).setOnu position
      ((onu.listFlow olt.enablePerf flow.flowId).enqueue messages) := by
  cases outcome with
  | rejected failure invalid =>
    exact ⟨olt.gemPortIDs, olt.allocIDs, [], by rw [Onu.enqueue_nil, booked_recordFlow]⟩
  | queued gemPortIDs allocIDs => exact ⟨gemPortIDs, allocIDs, _, rfl⟩

theorem flowAdd_effect (onuFlow : flow.isOnuFlow = true)
    (returned : olt.flowAdd flow = .ok (next, reply)) :
    next.flows = (olt.recordFlow flow).flows ∧
      (CallEffect olt next none ∧ reply ≠ none ∨
        reply = none ∧ ∃ position onu, olt.storedOnu flow = some position ∧
          olt.bareAt position = some onu ∧ onu.internalState ≠ .disabled ∧
          CallEffect olt next (some (position, .flowAdd flow))) := by
  rcases flowAdd_cases returned with ⟨other, -⟩ | ⟨-, inactive, rfl, failed⟩ |
    ⟨position, onu, -, active, present, outcome⟩
  · cases onuFlow.symm.trans other
  · refine ⟨rfl, .inl ⟨.of_eq ?_ (recordFlow_enablePerf olt flow) fun position => ?_, failed⟩⟩
    · rw [ids, ids, recordFlow_pons]
    · rw [bareAt, bareAt, onuAt_recordFlow]
  · have listed := onu.bare_listFlow olt.enablePerf flow.flowId
    cases outcome with
    | rejected failure invalid =>
      exact ⟨rfl, .inl ⟨effect_setOnu (recordFlow_pons olt flow) (recordFlow_enablePerf olt flow)
        present listed, by simp⟩⟩
    | queued gemPortIDs allocIDs valid enabled isOpen =>
      obtain ⟨stored, on⟩ := Option.filter_eq_some_iff.mp active
      refine ⟨rfl, .inr ⟨rfl, position, onu.bare, stored, ?_, ?_,
        effect_send rfl rfl present listed ((onu.writable_listFlow ..).trans isOpen)⟩⟩
      · rw [bareAt, present, Option.map_some]
      · intro off
        have disabled : onu.internalState = .disabled := off
        simp [present, Onu.active, disabled] at on

end

variable {reply : Option FlowFailure}

variable {flowId : UInt64}

theorem forgetFlow_effect {olt next : Olt} (forgotten : olt.forgetFlow flowId = .ok next) :
    CallEffect olt next none ∧
      ∀ other, other ≠ flowId → next.flows.lookup other = olt.flows.lookup other := by
  unfold forgetFlow at forgotten
  split at forgotten
  · obtain rfl := Except.ok.inj forgotten
    exact ⟨.of_eq rfl rfl fun _ => rfl, fun _ _ => rfl⟩
  · have erased : ∀ other, other ≠ flowId →
        (olt.flows.erase flowId).lookup other = olt.flows.lookup other :=
      fun other different => AList.lookup_erase_ne different
    split at forgotten
    · cases forgotten
    · split at forgotten
      · obtain rfl := Except.ok.inj forgotten
        exact ⟨.of_eq rfl rfl fun _ => rfl, erased⟩
      · split at forgotten
        · cases forgotten
        · next position _ =>
          obtain rfl := Except.ok.inj forgotten
          refine ⟨?_, erased⟩
          cases present : olt.onuAt position with
          | none =>
            simp only [deleteOnuFlow, present]
            exact .of_eq rfl rfl fun _ => rfl
          | some onu =>
            have deleted : CallEffect olt
                (olt.setOnu position { onu with flows := onu.flows.erase flowId }) none :=
              effect_setOnu rfl rfl present rfl
            simp only [deleteOnuFlow, present]
            exact .of_eq deleted.ids rfl (deleted.quiet rfl)

/-- The flow table names an ONU for the flow. -/
def FlowKnown (olt : Olt) (flowId : UInt64) : Prop :=
  olt.enablePerf = false → ∃ stored, olt.flows.lookup flowId = some stored ∧
    stored.isOltFlow = false ∧ (olt.storedOnu stored).isSome

theorem FlowKnown.of_lookup {olt next : Olt} (known : olt.FlowKnown flowId)
    (ids : next.ids = olt.ids) (enablePerf : next.enablePerf = olt.enablePerf)
    (same : next.flows.lookup flowId = olt.flows.lookup flowId) : next.FlowKnown flowId := by
  intro kept
  obtain ⟨stored, found, onuFlow, located⟩ := known (enablePerf ▸ kept)
  exact ⟨stored, same.trans found, onuFlow, by rwa [storedOnu_of_ids ids]⟩

theorem flowKnown_recorded {olt next : Olt} {flow : Flow} (onuFlow : flow.isOnuFlow = true)
    (effect : CallEffect olt next sent) (flows : next.flows = (olt.recordFlow flow).flows)
    (stored : (olt.storedOnu flow).isSome) :
    next.FlowKnown flow.flowId := by
  intro kept
  rw [effect.enablePerf] at kept
  have notOlt := Flow.not_olt_of_isOnuFlow onuFlow
  refine ⟨flow, ?_, by simpa using fun isOlt => notOlt (.inl isOlt), ?_⟩
  · rw [flows, recordFlow, kept]
    exact AList.lookup_insert _
  · rwa [storedOnu_of_ids effect.ids]

theorem forgetFlow_of_flowKnown {olt : Olt} (known : olt.FlowKnown flowId) :
    ∃ next, olt.forgetFlow flowId = .ok next := by
  unfold forgetFlow
  cases perf : olt.enablePerf with
  | true => exact ⟨olt, by simp⟩
  | false =>
    obtain ⟨stored, found, onuFlow, located⟩ := known perf
    obtain ⟨position, present⟩ := Option.isSome_iff_exists.mp located
    simp [found, onuFlow, present]

theorem flowKnown_freeResources {olt : Olt} (known : olt.FlowKnown flowId) (freed : UInt64) :
    (olt.freeResources freed).FlowKnown flowId := known

/-- A holder of the flow after the flow table was cleared held it before. -/
private theorem holder_of_forgotten {olt middle : Olt} {position : Position}
    (effect : CallEffect olt middle none) (found : middle.getOnuByFlowId flowId = some position) :
    ∃ onu, middle.onuAt position = some onu ∧ olt.bareAt position = some onu.bare ∧
      flowId ∈ onu.flowIds := by
  obtain ⟨onu, present, member⟩ := getOnuByFlowId_eq_some found
  refine ⟨onu, present, ?_, member⟩
  rw [← effect.quiet rfl position, bareAt, present, Option.map_some]

theorem flowRemove_effect {olt next : Olt} {flow : Flow} (onuFlow : flow.isOnuFlow = true)
    (returned : olt.flowRemove flow = .ok (next, reply)) :
    (∀ other, other ≠ flow.flowId → next.flows.lookup other = olt.flows.lookup other) ∧
      (CallEffect olt next none ∧ (reply = none → ¬olt.FlowKnown flow.flowId) ∨
        reply = none ∧ ∃ position onu, olt.bareAt position = some onu ∧ flow.flowId ∈ onu.flowIds ∧
          CallEffect olt next (some (position, .flowRemoved flow))) := by
  have freed : CallEffect olt (olt.freeResources flow.flowId) none := .of_eq rfl rfl fun _ => rfl
  simp only [flowRemove, if_neg (Flow.not_olt_of_isOnuFlow onuFlow)] at returned
  split at returned
  · next early forgotten =>
    cases returned
    refine ⟨fun _ _ => rfl, .inl ⟨freed, fun _ known => ?_⟩⟩
    obtain ⟨_, kept⟩ := forgetFlow_of_flowKnown (flowKnown_freeResources known flow.flowId)
    rw [forgotten] at kept
    cases kept
  · next middle forgotten =>
    obtain ⟨cleared, flows⟩ := forgetFlow_effect forgotten
    have quiet := freed.after_quiet cleared
    split at returned
    · cases returned
      exact ⟨flows, .inl ⟨quiet, by simp⟩⟩
    · next position found =>
      obtain ⟨onu, present, bare, member⟩ := holder_of_forgotten quiet found
      rw [present, Option.map_some] at returned
      cases isOpen : onu.writable with
      | false =>
        simp [Onu.send_of_not_writable isOpen] at returned
      | true =>
        rw [Onu.send_of_writable isOpen] at returned
        cases returned
        exact ⟨flows, .inr ⟨rfl, position, onu.bare, bare, member,
          quiet.after_quiet (effect_send rfl rfl present rfl isOpen)⟩⟩

theorem flowRemove_succeeds {olt : Olt} {flow : Flow} {position : Position} {holder : Onu}
    (onuFlow : flow.isOnuFlow = true) (known : olt.FlowKnown flow.flowId)
    (present : olt.bareAt position = some holder) (member : flow.flowId ∈ holder.flowIds)
    (isOpen : ∀ other onu, olt.bareAt other = some onu → flow.flowId ∈ onu.flowIds →
      onu.writable = true) : ∃ next, olt.flowRemove flow = .ok (next, none) := by
  have freed : CallEffect olt (olt.freeResources flow.flowId) none := .of_eq rfl rfl fun _ => rfl
  obtain ⟨middle, forgotten⟩ := forgetFlow_of_flowKnown
    (flowKnown_freeResources known flow.flowId)
  have quiet := freed.after_quiet (forgetFlow_effect forgotten).1
  simp only [flowRemove, if_neg (Flow.not_olt_of_isOnuFlow onuFlow), forgotten]
  cases found : middle.getOnuByFlowId flow.flowId with
  | none =>
    rw [← quiet.quiet rfl position, bareAt] at present
    obtain ⟨onu, here, rfl⟩ := Option.map_eq_some_iff.mp present
    have holds : flow.flowId ∈ onu.flowIds := member
    exact absurd holds (getOnuByFlowId_eq_none found here)
  | some first =>
    obtain ⟨onu, here, bare, holds⟩ := holder_of_forgotten quiet found
    have writable : onu.writable = true := isOpen first onu.bare bare holds
    exact ⟨middle.setOnu first (onu.enqueue [.flowRemoved flow]), by
      simp [here, Onu.send_of_writable writable]⟩

theorem consume_effect {olt next : Olt} {position : Position}
    (taken : olt.consume position = some next) :
    ∃ onu message rest after resources, olt.onuAt position = some onu ∧
      onu.takeCurrent = some (message, rest) ∧
      (AttachedOnu.mk rest resources).handle 0 message = .ok after ∧
      next.flows = olt.flows ∧ next.enablePerf = olt.enablePerf ∧
      (after.onu.id = onu.id → next.ids = olt.ids) ∧
      ∀ other, next.bareAt other =
        if other = position then some after.onu.bare else olt.bareAt other := by
  unfold consume at taken
  obtain ⟨pon, foundPon, taken⟩ := Option.bind_eq_some_iff.mp taken
  obtain ⟨onu, foundOnu, taken⟩ := Option.bind_eq_some_iff.mp taken
  obtain ⟨⟨message, rest⟩, received, taken⟩ := Option.bind_eq_some_iff.mp taken
  have present : olt.onuAt position = some onu := by rw [onuAt, foundPon]; exact foundOnu
  dsimp only at taken
  split at taken
  · cases taken
  · next after handled =>
    obtain rfl := Option.some.inj taken
    -- the PON's resources play no part in the searches
    have sameOnus : ∀ other, ({ olt with
        pons := olt.pons.modify position.1 fun pon =>
          { pon with onus := pon.onus.set position.2 after.onu, resources := after.resources } } :
        Olt).onuAt other = (olt.setOnu position after.onu).onuAt other := by
      intro other
      simp only [onuAt, setOnu, List.getElem?_modify]
      cases olt.pons[other.1]? with
      | none => rfl
      | some port => by_cases same : position.1 = other.1 <;> simp [same]
    refine ⟨onu, message, rest, after, pon.resources, present, received, handled, rfl, rfl, ?_, ?_⟩
    · intro sameId
      rw [← ids_setOnu present sameId]
      simp only [ids, setOnu]
      apply List.ext_getElem?
      intro index
      simp only [List.getElem?_map, List.getElem?_modify]
      cases olt.pons[index]? with
      | none => rfl
      | some port => by_cases same : position.1 = index <;> simp [same]
    · intro other
      rw [bareAt, sameOnus, ← bareAt_setOnu present other, bareAt]

end Olt

end Bbsim.Devices
