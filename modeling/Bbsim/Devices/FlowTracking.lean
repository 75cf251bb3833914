import Bbsim.Devices.FlowCalls

/-! Flow tracking of the ONUs. `FlowAdd` answers before the ONU has heard of the flow: `FlowIds`
follows when the message loop gets to the message. Flow calls interleave with the loops of all ONUs,
and the flows VOLTHA may count on are recorded beside the OLT. -/

namespace Bbsim.Devices

open Foundation

namespace Message

def adds (message : Message) (flowId : UInt64) : Bool :=
  match message with
  | .flowAdd flow => flow.flowId = flowId
  | _ => false

def removes (message : Message) (flowId : UInt64) : Bool :=
  match message with
  | .flowRemoved flow => flow.flowId = flowId
  | _ => false

end Message

/-- Messages waiting for the loops of the ONUs. -/
def Olt.waiting (olt : Olt) : List Message :=
  olt.positions.flatMap fun position => ((olt.onuAt position).map Onu.pending).getD []

structure FlowTracking where
  olt : Olt
  /-- Flows whose `FlowAdd` returned success and that were not removed since, with their ONU. -/
  accepted : List (Position × UInt64)

inductive FlowStep where
  | flowAdd (flow : Flow)
  | flowRemove (flow : Flow)
  | consume (position : Position)

namespace FlowTracking

def acceptedAt (tracking : FlowTracking) (position : Position) : List UInt64 :=
  (tracking.accepted.filter fun entry => entry.1 = position).map Prod.snd

def step (tracking : FlowTracking) : FlowStep → Option FlowTracking
  | .flowAdd flow =>
    match tracking.olt.flowAdd flow with
    | .error _ => none
    | .ok (olt, some _) => some { tracking with olt := olt }
    | .ok (olt, none) =>
      some ⟨olt, tracking.accepted ++
        ((tracking.olt.storedOnu flow).map fun position => (position, flow.flowId)).toList⟩
  | .flowRemove flow =>
    match tracking.olt.flowRemove flow with
    | .error _ => none
    | .ok (olt, some _) => some { tracking with olt := olt }
    | .ok (olt, none) =>
      some ⟨olt, tracking.accepted.filter fun entry => entry.2 ≠ flow.flowId⟩
  | .consume position => (tracking.olt.consume position).map fun olt => { tracking with olt := olt }

/-- ONU flows with unique ids: an id is used again only once nothing of it is left. -/
def UniqueIds (tracking : FlowTracking) : FlowStep → Prop
  | .flowAdd flow => flow.isOnuFlow = true ∧
      (∀ entry ∈ tracking.accepted, entry.2 ≠ flow.flowId) ∧
      ∀ message ∈ tracking.olt.waiting,
        message.adds flow.flowId = false ∧ message.removes flow.flowId = false
  | .flowRemove flow => flow.isOnuFlow = true
  | .consume _ => True

/-- A flow is removed only after the ONU has handled its `FlowAdd`. -/
def AddsHandled (tracking : FlowTracking) : FlowStep → Prop
  | .flowRemove flow => ∀ message ∈ tracking.olt.waiting, message.adds flow.flowId = false
  | _ => True

end FlowTracking

/-- The flow ids of an ONU after one message. -/
def settle (flowIds : List UInt64) : Message → List UInt64
  | .flowAdd flow => flowIds ++ [flow.flowId]
  | .flowRemoved flow => flowIds.erase flow.flowId
  | _ => flowIds

variable {flowId : UInt64} {message : Message} {flowIds : List UInt64}

private theorem mem_of_mem_settle (unadded : message.adds flowId = false)
    (member : flowId ∈ settle flowIds message) :
    flowId ∈ flowIds := by
  cases message with
  | flowAdd flow =>
    rcases List.mem_append.mp member with old | new
    · exact old
    · simp_all [Message.adds]
  | flowRemoved flow => exact List.mem_of_mem_erase member
  | _ => exact member

variable {queue : List Message}

private theorem mem_of_mem_settled (unadded : ∀ message ∈ queue, message.adds flowId = false)
    (member : flowId ∈ queue.foldl settle flowIds) : flowId ∈ flowIds := by
  induction queue generalizing flowIds with
  | nil => exact member
  | cons message rest ih =>
    have later := ih (fun other present => unadded other (by simp [present])) member
    exact mem_of_mem_settle (unadded message (by simp)) later

private theorem count_settle (unremoved : message.removes flowId = false) :
    (settle flowIds message).count flowId =
      flowIds.count flowId + if message.adds flowId then 1 else 0 := by
  cases message with
  | flowAdd flow => simp [settle, Message.adds, List.count_singleton]
  | flowRemoved flow =>
    have different : flow.flowId ≠ flowId := by simpa [Message.removes] using unremoved
    simp [settle, Message.adds, List.count_erase_of_ne different.symm]
  | _ => rfl

/-- Without a removal in the channel, every waiting `FlowAdd` adds one occurrence. -/
theorem count_settled (unremoved : ∀ message ∈ queue, message.removes flowId = false) :
    (queue.foldl settle flowIds).count flowId =
      flowIds.count flowId + queue.countP (Message.adds · flowId) := by
  induction queue generalizing flowIds with
  | nil => simp
  | cons message rest ih =>
    rw [List.foldl_cons, ih fun other present => unremoved other (by simp [present]),
      count_settle (unremoved message (by simp)), List.countP_cons]
    omega

private theorem mem_settled_of_mem (unremoved : ∀ message ∈ queue, message.removes flowId = false)
    (member : flowId ∈ flowIds) :
    flowId ∈ queue.foldl settle flowIds := by
  have occurs := List.count_pos_iff.mpr member
  apply List.count_pos_iff.mp
  rw [count_settled unremoved]
  exact Nat.add_pos_left occurs _

variable {onu : Onu}

namespace Onu

/-- The flow ids of the ONU once its channel is drained. -/
def settledFlows (onu : Onu) : List UInt64 := onu.pending.foldl settle onu.flowIds

private theorem settledFlows_enqueue (isOpen : onu.writable = true) (message : Message) :
    (onu.enqueue [message]).settledFlows = settle onu.settledFlows message := by
  rw [settledFlows, pending_enqueue isOpen, List.foldl_append]
  rfl

/-- Receiving a flow message and handling it, on an ONU that is not disabled. -/
theorem handle_flowUpdate {rest : Onu} {resources : PonResources} {after : AttachedOnu}
    (handled : (AttachedOnu.mk rest resources).handle 0 message = .ok after)
    (isFlow : message.isFlowUpdate = true) (active : rest.internalState ≠ .disabled) :
    after.onu.flowIds = settle rest.flowIds message ∧ after.onu.channel = rest.channel ∧
      after.onu.internalState = rest.internalState ∧ after.onu.id = rest.id := by
  cases message with
  | flowAdd flow =>
    simp only [AttachedOnu.handle, handleFlowAdd] at handled
    split at handled
    · simp [Except.map] at handled
    · obtain rfl := Except.ok.inj handled
      exact ⟨rfl, rfl, rfl, rfl⟩
  | flowRemoved flow =>
    simp only [AttachedOnu.handle, handleFlowRemove] at handled
    rw [if_neg (fun off => active off.2)] at handled
    obtain rfl := Except.ok.inj handled
    exact ⟨rfl, rfl, rfl, rfl⟩
  | _ => simp [Message.isFlowUpdate, Message.flow?] at isFlow

end Onu

variable {olt : Olt} {flow : Flow}

namespace FlowTracking

structure Tracked (tracking : FlowTracking) : Prop where
  settled : ∀ position onu, tracking.olt.bareAt position = some onu →
    onu.settledFlows = tracking.acceptedAt position
  flowsOnly : ∀ position onu, tracking.olt.bareAt position = some onu →
    ∀ message ∈ onu.pending, message.isFlowUpdate = true
  active : ∀ position onu, tracking.olt.bareAt position = some onu →
    onu.pending ≠ [] ∨ onu.flowIds ≠ [] → onu.internalState ≠ .disabled ∧ onu.writable = true
  unique : (tracking.accepted.map Prod.snd).Nodup
  unremoved : ∀ entry ∈ tracking.accepted, ∀ position onu,
    tracking.olt.bareAt position = some onu →
      ∀ message ∈ onu.pending, message.removes entry.2 = false
  located : ∀ entry ∈ tracking.accepted, (tracking.olt.bareAt entry.1).isSome
  known : ∀ entry ∈ tracking.accepted, tracking.olt.FlowKnown entry.2

variable {tracking next : FlowTracking}

variable {position : Position}

theorem mem_acceptedAt :
    flowId ∈ tracking.acceptedAt position ↔ (position, flowId) ∈ tracking.accepted := by
  simp [acceptedAt]

private theorem acceptedAt_append (olt : Olt) (position other : Position) (flowId : UInt64) :
    (FlowTracking.mk olt (tracking.accepted ++ [(position, flowId)])).acceptedAt other =
      if other = position then tracking.acceptedAt other ++ [flowId]
      else tracking.acceptedAt other := by
  split
  · next same => simp [acceptedAt, same]
  · next different => simp [acceptedAt, Ne.symm different]

private theorem acceptedAt_filter (olt : Olt) (position : Position) (flowId : UInt64) :
    (FlowTracking.mk olt (tracking.accepted.filter fun entry => entry.2 ≠ flowId)).acceptedAt
      position = (tracking.acceptedAt position).filter (· ≠ flowId) := by
  simp only [acceptedAt, List.filter_map, List.filter_filter, Function.comp_def]
  congr 1
  apply List.filter_congr
  intro entry _
  exact Bool.and_comm _ _

/-- The messages of one ONU are among the waiting ones. -/
theorem mem_waiting (present : olt.bareAt position = some onu) (member : message ∈ onu.pending) :
    message ∈ olt.waiting := by
  obtain ⟨whole, here, rfl⟩ := Option.map_eq_some_iff.mp present
  refine List.mem_flatMap.mpr ⟨position, ?_, ?_⟩
  · simp [Olt.mem_positions_iff, here]
  · rw [here]
    exact member

namespace Tracked

/-- An accepted flow stands in the list of its ONU, or its `FlowAdd` is still waiting there. -/
theorem holder (tracked : Tracked tracking) (accepted : (position, flowId) ∈ tracking.accepted)
    (unadded : ∀ message ∈ tracking.olt.waiting, message.adds flowId = false) :
    ∃ onu, tracking.olt.bareAt position = some onu ∧ flowId ∈ onu.flowIds := by
  obtain ⟨onu, present⟩ := Option.isSome_iff_exists.mp (tracked.located _ accepted)
  refine ⟨onu, present, ?_⟩
  have settled : flowId ∈ onu.settledFlows := by
    rw [tracked.settled position onu present]
    exact mem_acceptedAt.mpr accepted
  exact mem_of_mem_settled (fun message member => unadded message (mem_waiting present member))
    settled

/-- Only the ONU of an accepted flow can hold it. -/
theorem holder_unique (tracked : Tracked tracking) {position other : Position}
    (accepted : (position, flowId) ∈ tracking.accepted)
    (present : tracking.olt.bareAt other = some onu) (member : flowId ∈ onu.flowIds) :
    other = position := by
  have settled : flowId ∈ onu.settledFlows :=
    mem_settled_of_mem (tracked.unremoved _ accepted other onu present) member
  rw [tracked.settled other onu present] at settled
  have both := mem_acceptedAt.mp settled
  have same := List.inj_on_of_nodup_map tracked.unique both accepted rfl
  exact congrArg Prod.fst same

/-- A call that sends nothing. -/
theorem quiet (tracked : Tracked tracking) (effect : Olt.CallEffect tracking.olt olt none)
    (known : ∀ entry ∈ tracking.accepted, olt.FlowKnown entry.2) :
    Tracked { tracking with olt := olt } where
  settled := fun position onu present =>
    tracked.settled position onu (effect.quiet rfl position ▸ present)
  flowsOnly := fun position onu present =>
    tracked.flowsOnly position onu (effect.quiet rfl position ▸ present)
  active := fun position onu present =>
    tracked.active position onu (effect.quiet rfl position ▸ present)
  unique := tracked.unique
  unremoved := fun entry accepted position onu present =>
    tracked.unremoved entry accepted position onu (effect.quiet rfl position ▸ present)
  located := fun entry accepted => by
    rw [effect.quiet rfl]
    exact tracked.located entry accepted
  known := known

variable {accepted : List (Position × UInt64)}

variable (tracked : Tracked tracking)
include tracked

/-- One ONU is replaced, with messages that were waiting there or are flow messages that remove no
accepted flow. -/
theorem replace {before after : Onu} (here : tracking.olt.bareAt position = some before)
    (bare : ∀ other, olt.bareAt other = if other = position then some after else tracking.olt.bareAt other)
    (settled : ∀ other, (FlowTracking.mk olt accepted).acceptedAt other = if other = position
      then after.settledFlows else tracking.acceptedAt other)
    (pending : ∀ message ∈ after.pending, message ∈ before.pending ∨ message.isFlowUpdate = true ∧
      ∀ entry ∈ accepted, message.removes entry.2 = false)
    (active : after.internalState ≠ .disabled ∧ after.writable = true)
    (unique : (accepted.map Prod.snd).Nodup)
    (unremoved : ∀ entry ∈ accepted, ∀ other onu, tracking.olt.bareAt other = some onu →
      ∀ old ∈ onu.pending, old.removes entry.2 = false)
    (located : ∀ entry ∈ accepted, (tracking.olt.bareAt entry.1).isSome)
    (known : ∀ entry ∈ accepted, olt.FlowKnown entry.2) : Tracked ⟨olt, accepted⟩ := by
  -- an ONU of the new state is the replaced one, or an old one
  have cases {other : Position} {onu : Onu} (present : olt.bareAt other = some onu) :
      other = position ∧ onu = after ∨ other ≠ position ∧ tracking.olt.bareAt other = some onu := by
    rw [bare other] at present
    split at present
    · next same => exact .inl ⟨same, (Option.some.inj present).symm⟩
    · next different => exact .inr ⟨different, present⟩
  constructor
  · intro other onu present
    rw [settled other]
    rcases cases present with ⟨rfl, rfl⟩ | ⟨different, old⟩
    · rw [if_pos rfl]
    · rw [if_neg different, tracked.settled other onu old]
  · intro other onu present message waits
    rcases cases present with ⟨rfl, rfl⟩ | ⟨_, old⟩
    · rcases pending message waits with earlier | ⟨isFlow, -⟩
      · exact tracked.flowsOnly other before here message earlier
      · exact isFlow
    · exact tracked.flowsOnly other onu old message waits
  · intro other onu present busy
    rcases cases present with ⟨rfl, rfl⟩ | ⟨_, old⟩
    · exact active
    · exact tracked.active other onu old busy
  · exact unique
  · intro entry member other onu present message waits
    rcases cases present with ⟨rfl, rfl⟩ | ⟨_, old⟩
    · rcases pending message waits with earlier | ⟨-, removes⟩
      · exact unremoved entry member other before here message earlier
      · exact removes entry member
    · exact unremoved entry member other onu old message waits
  · intro entry member
    rw [bare entry.1]
    split
    · rfl
    · exact located entry member
  · exact known

/-- A call that sends a flow message to an active ONU. -/
theorem send {holder : Onu} (effect : Olt.CallEffect tracking.olt olt (some (position, message)))
    (here : tracking.olt.bareAt position = some holder) (isFlow : message.isFlowUpdate = true)
    (active : holder.internalState ≠ .disabled)
    (settled : ∀ other, (FlowTracking.mk olt accepted).acceptedAt other = if other = position
      then settle (tracking.acceptedAt position) message else tracking.acceptedAt other)
    (unique : (accepted.map Prod.snd).Nodup)
    (unremoved : ∀ entry ∈ accepted, message.removes entry.2 = false ∧
      ∀ other onu, tracking.olt.bareAt other = some onu →
      ∀ old ∈ onu.pending, old.removes entry.2 = false)
    (located : ∀ entry ∈ accepted, (tracking.olt.bareAt entry.1).isSome)
    (known : ∀ entry ∈ accepted, olt.FlowKnown entry.2) : Tracked ⟨olt, accepted⟩ := by
  obtain ⟨onu, sameOnu, isOpen, after⟩ := effect.sends position message rfl
  obtain rfl : holder = onu := Option.some.inj (here.symm.trans sameOnu)
  refine tracked.replace here after ?_ ?_ ⟨active, by simpa using isOpen⟩ unique
    (fun entry member => (unremoved entry member).2) located known
  · rw [Onu.settledFlows_enqueue isOpen, tracked.settled position holder here]
    exact settled
  · intro old member
    rw [Onu.pending_enqueue isOpen] at member
    rcases List.mem_append.mp member with earlier | new
    · exact .inl earlier
    · rw [List.mem_singleton.mp new]
      exact .inr ⟨isFlow, fun entry member => (unremoved entry member).1⟩

private theorem flowAdd (fresh : tracking.UniqueIds (.flowAdd flow))
    (taken : tracking.step (.flowAdd flow) = some next) : Tracked next := by
  obtain ⟨onuFlow, unaccepted, unheard⟩ := fresh
  have others : ∀ (olt : Olt) sent, Olt.CallEffect tracking.olt olt sent →
      olt.flows = (tracking.olt.recordFlow flow).flows →
      ∀ entry ∈ tracking.accepted, olt.FlowKnown entry.2 := by
    intro olt sent effect flows entry member
    refine (tracked.known entry member).of_lookup effect.ids effect.enablePerf ?_
    rw [flows]
    exact Olt.recordFlow_lookup_ne tracking.olt flow (unaccepted entry member)
  simp only [step] at taken
  split at taken
  · cases taken
  · next olt failure returned =>
    obtain rfl := Option.some.inj taken
    obtain ⟨flows, ⟨effect, _⟩ | ⟨impossible, _⟩⟩ := Olt.flowAdd_effect onuFlow returned
    · exact tracked.quiet effect (others olt none effect flows)
    · cases impossible
  · next olt returned =>
    obtain rfl := Option.some.inj taken
    obtain ⟨flows, ⟨_, impossible⟩ | ⟨_, position, onu, stored, here, active, effect⟩⟩ :=
      Olt.flowAdd_effect onuFlow returned
    · exact absurd rfl impossible
    have listed : ((tracking.olt.storedOnu flow).map fun position => (position, flow.flowId)).toList
        = [(position, flow.flowId)] := by rw [stored]; rfl
    rw [listed]
    refine tracked.send effect here rfl active (fun other => ?_) ?_ ?_ ?_ ?_
    · rw [acceptedAt_append]
      split
      · next same => rw [same]; rfl
      · rfl
    · rw [List.map_append, List.nodup_append]
      refine ⟨tracked.unique, by simp, ?_⟩
      rintro id old _ new rfl
      obtain ⟨entry, member, rfl⟩ := List.mem_map.mp old
      exact unaccepted entry member (List.mem_singleton.mp new)
    · have new : ∀ other onu, tracking.olt.bareAt other = some onu →
          ∀ old ∈ onu.pending, old.removes flow.flowId = false :=
        fun other onu present message waits => (unheard message (mem_waiting present waits)).2
      refine List.forall_mem_append.mpr ⟨fun entry old => ⟨rfl, tracked.unremoved entry old⟩, ?_⟩
      exact List.forall_mem_singleton.mpr ⟨rfl, new⟩
    · refine List.forall_mem_append.mpr ⟨tracked.located, List.forall_mem_singleton.mpr ?_⟩
      rw [here]
      rfl
    · refine List.forall_mem_append.mpr ⟨others olt _ effect flows, List.forall_mem_singleton.mpr ?_⟩
      exact Olt.flowKnown_recorded onuFlow effect flows (by rw [stored]; rfl)

theorem nodup_acceptedAt (position : Position) : (tracking.acceptedAt position).Nodup :=
  tracked.unique.sublist (List.filter_sublist.map _)

/-- A `FlowRemove` of an accepted flow succeeds once the flow has been handled. -/
theorem flowRemove_succeeds (onuFlow : flow.isOnuFlow = true)
    (accepted : (position, flow.flowId) ∈ tracking.accepted)
    (unadded : ∀ message ∈ tracking.olt.waiting, message.adds flow.flowId = false) :
    ∃ olt, tracking.olt.flowRemove flow = .ok (olt, none) := by
  obtain ⟨onu, here, member⟩ := tracked.holder accepted unadded
  have known := tracked.known _ accepted
  refine Olt.flowRemove_succeeds onuFlow known here member fun other onu present holds => ?_
  exact (tracked.active other onu present (.inr (List.ne_nil_of_mem holds))).2

/-- Without a flow, the ONU that holds it has settled its removal, and the others lose nothing. -/
theorem acceptedAt_removed (here : tracking.olt.bareAt position = some onu)
    (member : flow.flowId ∈ onu.flowIds) (other : Position) :
    (FlowTracking.mk olt (tracking.accepted.filter fun entry => entry.2 ≠ flow.flowId)).acceptedAt
        other =
      if other = position then settle (tracking.acceptedAt position) (.flowRemoved flow)
      else tracking.acceptedAt other := by
  rw [acceptedAt_filter]
  by_cases same : other = position
  · rw [if_pos same, same, settle, (tracked.nodup_acceptedAt position).erase_eq_filter]
    refine List.filter_congr fun flowId _ => ?_
    by_cases removed : flowId = flow.flowId <;> simp [removed]
  · rw [if_neg same, List.filter_eq_self]
    intro flowId accepted
    refine decide_eq_true fun removed => same ?_
    rw [removed] at accepted
    exact (tracked.holder_unique (mem_acceptedAt.mp accepted) here member).symm

/-- A `FlowRemove` that reaches no ONU is for a flow that is not accepted. -/
theorem unaccepted_of_lost {reply : Option FlowFailure} (onuFlow : flow.isOnuFlow = true)
    (unadded : ∀ message ∈ tracking.olt.waiting, message.adds flow.flowId = false)
    (returned : tracking.olt.flowRemove flow = .ok (olt, reply))
    (lost : reply = none → ¬tracking.olt.FlowKnown flow.flowId) :
    ∀ entry ∈ tracking.accepted, entry.2 ≠ flow.flowId := by
  rintro ⟨position, flowId⟩ accepted rfl
  obtain ⟨next, succeeded⟩ := tracked.flowRemove_succeeds onuFlow accepted unadded
  rw [returned] at succeeded
  obtain ⟨_, rfl⟩ := Prod.mk.inj (Except.ok.inj succeeded)
  exact lost rfl (tracked.known _ accepted)

private theorem flowRemove (onuFlow : flow.isOnuFlow = true)
    (unadded : ∀ message ∈ tracking.olt.waiting, message.adds flow.flowId = false)
    (taken : tracking.step (.flowRemove flow) = some next) : Tracked next := by
  have others : ∀ (olt : Olt) sent, Olt.CallEffect tracking.olt olt sent →
      (∀ other, other ≠ flow.flowId → olt.flows.lookup other = tracking.olt.flows.lookup other) →
      ∀ entry ∈ tracking.accepted, entry.2 ≠ flow.flowId → olt.FlowKnown entry.2 := by
    intro olt sent effect flows entry member different
    exact (tracked.known entry member).of_lookup effect.ids effect.enablePerf
      (flows entry.2 different)
  simp only [step] at taken
  split at taken
  · cases taken
  · next olt failure returned =>
    obtain rfl := Option.some.inj taken
    obtain ⟨flows, ⟨effect, lost⟩ | ⟨impossible, _⟩⟩ := Olt.flowRemove_effect onuFlow returned
    · have absent := tracked.unaccepted_of_lost onuFlow unadded returned lost
      exact tracked.quiet effect fun entry member =>
        others olt none effect flows entry member (absent entry member)
    · cases impossible
  · next olt returned =>
    obtain rfl := Option.some.inj taken
    obtain ⟨flows, ⟨effect, lost⟩ | ⟨_, position, onu, here, member, effect⟩⟩ :=
      Olt.flowRemove_effect onuFlow returned
    · have absent := tracked.unaccepted_of_lost onuFlow unadded returned lost
      have kept : (tracking.accepted.filter fun entry => entry.2 ≠ flow.flowId) =
          tracking.accepted := by
        rw [List.filter_eq_self]
        intro entry accepted
        simpa using absent entry accepted
      rw [kept]
      exact tracked.quiet effect fun entry accepted =>
        others olt none effect flows entry accepted (absent entry accepted)
    · have busy := tracked.active position onu here (.inr (List.ne_nil_of_mem member))
      have old : ∀ entry ∈ tracking.accepted.filter (fun entry => entry.2 ≠ flow.flowId),
          entry ∈ tracking.accepted ∧ entry.2 ≠ flow.flowId := by
        intro entry accepted
        simpa using List.mem_filter.mp accepted
      refine tracked.send effect here rfl busy.1 (tracked.acceptedAt_removed here member) ?_ ?_ ?_ ?_
      · exact tracked.unique.sublist (List.filter_sublist.map _)
      · intro entry accepted
        obtain ⟨before, different⟩ := old entry accepted
        exact ⟨by simpa [Message.removes] using Ne.symm different, tracked.unremoved entry before⟩
      · exact fun entry accepted => tracked.located entry (old entry accepted).1
      · exact fun entry accepted =>
          others olt _ effect flows entry (old entry accepted).1 (old entry accepted).2

private theorem consume (taken : tracking.step (.consume position) = some next) : Tracked next := by
  obtain ⟨olt, consumed, rfl⟩ := Option.map_eq_some_iff.mp taken
  obtain ⟨onu, message, rest, after, resources, present, received, handled, flows, enablePerf, ids,
    bare⟩ := Olt.consume_effect consumed
  obtain ⟨chan, queue, channel, head, rfl⟩ := Onu.takeCurrent_eq_some received
  have here : tracking.olt.bareAt position = some onu.bare := by
    rw [Olt.bareAt, present, Option.map_some]
  have pending : onu.bare.pending = message :: queue := by
    simp [Onu.pending, Onu.bare, channel, head]
  obtain ⟨active, isOpen⟩ := tracked.active position onu.bare here (.inl (by simp [pending]))
  have isFlow := tracked.flowsOnly position onu.bare here message (by simp [pending])
  obtain ⟨flowIds, sameChannel, state, sameId⟩ := Onu.handle_flowUpdate handled isFlow active
  have afterPending : after.onu.bare.pending = queue := by
    simp [Onu.pending, Onu.bare, sameChannel]
  have afterOpen : after.onu.bare.writable = true := by
    simpa [Onu.writable, Onu.bare, sameChannel, channel] using isOpen
  have stays : after.onu.bare.internalState ≠ .disabled := fun off => active (state ▸ off)
  have drained : after.onu.bare.settledFlows = tracking.acceptedAt position := by
    have before := tracked.settled position onu.bare here
    rw [Onu.settledFlows, pending, List.foldl_cons] at before
    have same : after.onu.bare.flowIds = settle onu.bare.flowIds message := flowIds
    rw [Onu.settledFlows, afterPending, same]
    exact before
  refine tracked.replace here bare (fun other => ?_) ?_ ⟨stays, afterOpen⟩ tracked.unique
    tracked.unremoved tracked.located ?_
  · split
    · next same =>
      rw [same]
      exact drained.symm
    · rfl
  · intro waiting member
    rw [afterPending] at member
    exact .inl (by simp [pending, member])
  · intro entry accepted
    exact (tracked.known entry accepted).of_lookup (ids sameId) enablePerf (by rw [flows])

/-- While the `FlowAdd` of an accepted flow waits, no ONU holds the flow. -/
theorem unheld_of_waiting {position other : Position}
    (accepted : (position, flowId) ∈ tracking.accepted) (waits : message ∈ tracking.olt.waiting)
    (adds : message.adds flowId = true) (present : tracking.olt.bareAt other = some onu) :
    flowId ∉ onu.flowIds := by
  intro member
  obtain rfl := tracked.holder_unique accepted present member
  -- the waiting message and the entry of the list would both end up in the settled list
  obtain ⟨place, visited, pending⟩ := List.mem_flatMap.mp waits
  obtain ⟨waitingOnu, there⟩ := Option.isSome_iff_exists.mp
    ((Olt.mem_positions_iff _ _).mp visited)
  rw [there, Option.map_some, Option.getD_some] at pending
  have bare : tracking.olt.bareAt place = some waitingOnu.bare := by
    rw [Olt.bareAt, there, Option.map_some]
  have added : 0 < waitingOnu.bare.pending.countP (Message.adds · flowId) :=
    List.countP_pos_iff.mpr ⟨message, pending, adds⟩
  have counted : (tracking.acceptedAt place).count flowId = waitingOnu.bare.flowIds.count flowId +
      waitingOnu.bare.pending.countP (Message.adds · flowId) := by
    rw [← tracked.settled place waitingOnu.bare bare]
    exact count_settled (tracked.unremoved _ accepted place waitingOnu.bare bare)
  have there : (place, flowId) ∈ tracking.accepted :=
    mem_acceptedAt.mp (List.count_pos_iff.mp (by omega))
  obtain rfl : place = other := congrArg Prod.fst
    (List.inj_on_of_nodup_map tracked.unique there accepted rfl)
  obtain rfl := Option.some.inj (bare.symm.trans present)
  have once := List.nodup_iff_count_le_one.mp (tracked.nodup_acceptedAt place) flowId
  have listed := List.count_pos_iff.mpr member
  omega

theorem flowRemove_succeeds_iff (onuFlow : flow.isOnuFlow = true)
    (accepted : (position, flow.flowId) ∈ tracking.accepted) :
    (∃ olt, tracking.olt.flowRemove flow = .ok (olt, none)) ↔
      ∀ message ∈ tracking.olt.waiting, message.adds flow.flowId = false := by
  constructor
  · rintro ⟨olt, returned⟩ message waits
    by_contra adds
    rw [Bool.not_eq_false] at adds
    obtain ⟨_, ⟨_, lost⟩ | ⟨_, holder, onu, present, member, _⟩⟩ :=
      Olt.flowRemove_effect onuFlow returned
    · exact lost rfl (tracked.known _ accepted)
    · exact tracked.unheld_of_waiting accepted waits adds present member
  · exact tracked.flowRemove_succeeds onuFlow accepted

end Tracked

private theorem step_tracked {label : FlowStep} (tracked : Tracked tracking)
    (uniqueIds : tracking.UniqueIds label) (handled : tracking.AddsHandled label)
    (taken : tracking.step label = some next) : Tracked next := by
  cases label with
  | flowAdd flow => exact tracked.flowAdd uniqueIds taken
  | flowRemove flow => exact tracked.flowRemove uniqueIds handled taken
  | consume position => exact tracked.consume taken

instance (tracking : FlowTracking) (label : FlowStep) : Decidable (tracking.UniqueIds label) :=
  match label with
  | .flowAdd _ => inferInstanceAs (Decidable (_ ∧ _ ∧ _))
  | .flowRemove _ => inferInstanceAs (Decidable (_ = _))
  | .consume _ => inferInstanceAs (Decidable True)

instance (tracking : FlowTracking) (label : FlowStep) : Decidable (tracking.AddsHandled label) :=
  match label with
  | .flowAdd _ => inferInstanceAs (Decidable True)
  | .flowRemove _ => inferInstanceAs (Decidable (∀ message ∈ _, _ = _))
  | .consume _ => inferInstanceAs (Decidable True)

end FlowTracking

/-- No ONU holds a flow or has a message waiting. -/
def Olt.Untouched (olt : Olt) : Prop :=
  ∀ position onu, olt.onuAt position = some onu → onu.flowIds = [] ∧ onu.pending = []

theorem Olt.Untouched.tracked (untouched : olt.Untouched) : FlowTracking.Tracked ⟨olt, []⟩ := by
  have empty : ∀ position onu, olt.bareAt position = some onu →
      onu.flowIds = [] ∧ onu.pending = [] := by
    intro position onu present
    obtain ⟨whole, here, rfl⟩ := Option.map_eq_some_iff.mp present
    exact untouched position whole here
  constructor
  · intro position onu present
    obtain ⟨flowIds, pending⟩ := empty position onu present
    rw [Onu.settledFlows, flowIds, pending]
    rfl
  · intro position onu present message member
    rw [(empty position onu present).2] at member
    cases member
  · intro position onu present busy
    obtain ⟨flowIds, pending⟩ := empty position onu present
    exact absurd busy (by simp [flowIds, pending])
  · exact List.nodup_nil
  all_goals
    intro entry member
    cases member

/-- Where every flow is removed only after the ONU has handled its `FlowAdd`, a drained ONU holds
exactly the accepted flows, and the `FlowRemove` of an accepted flow succeeds exactly if its
`FlowAdd` is not waiting. -/
theorem flow_tracking_converges {olt : Olt} (untouched : olt.Untouched)
    {history : List (FlowTracking × FlowStep)} {final : FlowTracking}
    (run : Run FlowTracking.step ⟨olt, []⟩ history final)
    (uniqueIds : Meets FlowTracking.UniqueIds history)
    (handled : Meets FlowTracking.AddsHandled history) :
    (∀ position onu, final.olt.onuAt position = some onu → onu.pending = [] →
      onu.flowIds.Nodup ∧
        ∀ flowId, flowId ∈ onu.flowIds ↔ (position, flowId) ∈ final.accepted) ∧
    ∀ (flow : Flow) (position : Position), flow.isOnuFlow = true →
      (position, flow.flowId) ∈ final.accepted →
        ((∃ after, final.olt.flowRemove flow = .ok (after, none)) ↔
          ∀ message ∈ final.olt.waiting, message.adds flow.flowId = false) := by
  have both : Meets (fun tracking label => tracking.UniqueIds label ∧ tracking.AddsHandled label)
      history := fun entry member => ⟨uniqueIds entry member, handled entry member⟩
  have tracked : final.Tracked := run.invariant both untouched.tracked
    fun tracking label next held allowed taken =>
      FlowTracking.step_tracked held allowed.1 allowed.2 taken
  refine ⟨fun position onu present drained => ?_, fun flow position onuFlow accepted =>
    tracked.flowRemove_succeeds_iff onuFlow accepted⟩
  have settled := tracked.settled position onu.bare (by rw [Olt.bareAt, present, Option.map_some])
  have bareDrained : onu.bare.pending = [] := drained
  rw [Onu.settledFlows, bareDrained] at settled
  have same : onu.flowIds = final.acceptedAt position := settled
  rw [same]
  exact ⟨tracked.nodup_acceptedAt position, fun flowId => FlowTracking.mem_acceptedAt⟩

def enabledOnu : Onu where
  id := 1
  ponPortId := 0
  serialNumber := 0
  vendorSpecific := [0, 0, 0, 1]
  internalState := .enabled
  operState := .up
  flows := []
  flowIds := []
  uniPorts := [⟨0, 257, 0, .down, [], 0⟩]
  potsPorts := []
  mibDataSync := 0
  omciMsgCounter := 0
  omciResponseRate := 10
  retired := []
  channel := some {}
  loops := [⟨0, .waiting (some 0)⟩]

def oneOnuOlt : Olt where
  enablePerf := false
  flows := ∅
  gemPortIDs := (∅ : ResourceIds).insert 0 ((∅ : PonIds).insert 1 ∅)
  allocIDs := (∅ : ResourceIds).insert 0 ((∅ : PonIds).insert 1 ∅)
  pons := [⟨0, .enabled, [enabledOnu], .empty⟩]

def upstreamFlow : Flow where
  flowId := 64
  flowType := .upstream
  accessIntfId := 0
  onuId := 1
  uniId := 0
  portNo := 16
  gemportId := 1024
  allocId := 1024
  replicateFlow := false
  pbitToGemport := ∅
  classifier := ⟨0x0800, 900, 0, 255, 0, 0⟩

private theorem oneOnuOlt_untouched : oneOnuOlt.Untouched := by
  have visited : ∀ position ∈ oneOnuOlt.positions, ∀ onu ∈ oneOnuOlt.onuAt position,
      onu.flowIds = [] ∧ onu.pending = [] := by
    decide
  intro position onu present
  have inside : position ∈ oneOnuOlt.positions := by
    rw [Olt.mem_positions_iff, present]
    rfl
  exact visited position inside onu present

theorem flow_tracking_converges_oneRemoved : ∃ history final,
    Run FlowTracking.step ⟨oneOnuOlt, []⟩ history final ∧ final.accepted = [((0, 0), 65)] ∧
      ∀ onu, final.olt.onuAt (0, 0) = some onu → onu.pending = [] →
        65 ∈ onu.flowIds ∧ 64 ∉ onu.flowIds := by
  obtain ⟨history, final, run, meets, accepted⟩ := run_of_guarded_replay
    (fun (tracking : FlowTracking) label => tracking.UniqueIds label ∧ tracking.AddsHandled label)
    FlowTracking.step ⟨oneOnuOlt, []⟩
    [.flowAdd upstreamFlow, .consume (0, 0), .flowAdd { upstreamFlow with flowId := 65 },
      .flowRemove upstreamFlow, .consume (0, 0), .consume (0, 0)]
    (fun final => final.accepted = [((0, 0), 65)]) (by decide +kernel)
  have converges := flow_tracking_converges oneOnuOlt_untouched run
    (fun entry member => (meets entry member).1) fun entry member => (meets entry member).2
  refine ⟨history, final, run, accepted, fun onu present drained => ?_⟩
  simp [(converges.1 (0, 0) onu present drained).2, accepted]

/-- The call returns a failure. -/
def Olt.refusesRemove (olt : Olt) (flow : Flow) : Bool :=
  match olt.flowRemove flow with
  | .ok (_, some _) => true
  | _ => false

theorem Olt.exists_failure_of_refusesRemove (refused : olt.refusesRemove flow = true) :
    ∃ after failure, olt.flowRemove flow = .ok (after, some failure) := by
  unfold refusesRemove at refused
  split at refused
  · next after failure returned => exact ⟨after, failure, returned⟩
  · cases refused

/-- The flow is removed before the ONU has heard of it. -/
theorem flowRemove_fails_while_add_waits : ∃ history final,
    Run FlowTracking.step ⟨oneOnuOlt, []⟩ history final ∧ Meets FlowTracking.UniqueIds history ∧
      ((0, 0), upstreamFlow.flowId) ∈ final.accepted ∧
      ∃ after failure, final.olt.flowRemove upstreamFlow = .ok (after, some failure) := by
  obtain ⟨history, final, run, meets, accepted, refused⟩ := run_of_guarded_replay
    FlowTracking.UniqueIds FlowTracking.step ⟨oneOnuOlt, []⟩ [.flowAdd upstreamFlow]
    (fun final => ((0, 0), upstreamFlow.flowId) ∈ final.accepted ∧
      final.olt.refusesRemove upstreamFlow = true) (by decide +kernel)
  exact ⟨history, final, run, meets, accepted, Olt.exists_failure_of_refusesRemove refused⟩

end Bbsim.Devices
