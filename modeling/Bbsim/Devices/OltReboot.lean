import Bbsim.Devices.OnuLive
import Bbsim.Devices.OpenOltRequests

/-! The reboot of the OLT. `RestartOLT` deletes the OLT, which clears the resource tables, then
tries to disable every ONU, and initializes the OLT again. The loops of the ONUs go on meanwhile. -/

namespace Bbsim.Devices

open Foundation

structure Leftover where
  internalState : OnuState
  flows : List UInt64
  flowIds : List UInt64

def Onu.leftover (onu : Onu) : Leftover := ⟨onu.internalState, onu.flows, onu.flowIds⟩

namespace Leftover

variable {left : Leftover}

/-- What the `disable` event makes of it. -/
def disabled (left : Leftover) : Leftover :=
  match left.internalState.after .disable with
  | none => left
  | some state => ⟨state, [], left.flowIds⟩

def Idle (left : Leftover) : Prop :=
  left.internalState = .created ∨ left.internalState = .initialized ∨ left.internalState = .disabled

/-- Nothing is left, and the ONU is off. -/
structure Clean (left : Leftover) : Prop where
  idle : left.Idle
  flows : left.flows = []
  flowIds : left.flowIds = []

/-- No flow id is recorded, and the ONU can be disabled or is off and lists no flow. -/
structure Resettable (left : Leftover) : Prop where
  flowIds : left.flowIds = []
  ready : (left.internalState.after .disable).isSome ∨ left.Idle ∧ left.flows = []

private theorem disabled_disabled : left.disabled.disabled = left.disabled := by
  obtain ⟨state, flows, flowIds⟩ := left
  cases state <;> rfl

theorem clean_disabled_iff : left.disabled.Clean ↔ left.Resettable := by
  unfold disabled
  cases accepted : left.internalState.after .disable with
  | none =>
    refine ⟨fun clean => ⟨clean.flowIds, .inr ⟨clean.idle, clean.flows⟩⟩, fun ready => ?_⟩
    rcases ready.ready with can | ⟨idle, flows⟩
    · simp [accepted] at can
    · exact ⟨idle, flows, ready.flowIds⟩
  | some state =>
    obtain rfl := OnuState.after_disable accepted
    exact ⟨fun clean => ⟨clean.flowIds, .inl (by simp [accepted])⟩,
      fun ready => ⟨.inr (.inr rfl), rfl, ready.flowIds⟩⟩

end Leftover

/-- OMCI and flow messages change the ONU; the others only pass through it. -/
def Message.isRequest : Message → Bool
  | .omci _ | .flowAdd _ | .flowRemoved _ => true
  | _ => false

/-- What the message loop with this index does. -/
inductive LoopTurn where
  | select (index : Nat)
  | receive (index : Nat)
  | stop (index : Nat)

/-- The loop takes no request. -/
def Onu.idleTurn (onu : Onu) : LoopTurn → Bool
  | .receive index => (onu.receive index).all fun entry => !entry.1.isRequest
  | _ => true

variable {turn : LoopTurn}

namespace AttachedOnu

variable {attached next : AttachedOnu} {context : Nat}

def loopTurn (attached : AttachedOnu) (context : Nat) : LoopTurn → Option AttachedOnu
  | .select index => some (attached.withOnu (attached.onu.select index))
  | .receive index =>
    (attached.onu.receive index).bind fun (message, rest) =>
      ((attached.withOnu rest).handle context message).toOption
  | .stop index => some (attached.withOnu (attached.onu.stopLoop index))

private theorem leftover_tried_disable :
    (attached.tried context .disable).onu.leftover = attached.onu.leftover.disabled := by
  unfold tried
  cases accepted : attached.onu.internalState.after .disable with
  | none => simp [Leftover.disabled, Onu.leftover, accepted]
  | some state =>
    obtain rfl := OnuState.after_disable accepted
    simp [Leftover.disabled, Onu.leftover, accepted, entered, switchedOff]

private theorem resources_tried_disable (empty : attached.resources = .empty) :
    (attached.tried context .disable).resources = .empty := by
  unfold tried
  cases accepted : attached.onu.internalState.after .disable with
  | none => exact empty
  | some state =>
    obtain rfl := OnuState.after_disable accepted
    rw [Option.map_some, Option.getD_some, entered_effects.resources, empty]
    rfl

/-- A turn without a request changes no more than the channels and the loops. -/
theorem idle_loopTurn (idle : attached.onu.idleTurn turn = true)
    (taken : attached.loopTurn context turn = some next) :
    Onu.StaysLive attached.onu next.onu ∧ next.onu.leftover = attached.onu.leftover ∧
      next.resources = attached.resources := by
  cases turn with
  | select index =>
    obtain rfl := Option.some.inj taken
    unfold Onu.select
    split
    · exact ⟨Onu.staysLive_of_same rfl rfl, rfl, rfl⟩
    · exact ⟨Onu.staysLive_of_same rfl rfl, rfl, rfl⟩
  | stop index =>
    obtain rfl := Option.some.inj taken
    exact ⟨Onu.staysLive_of_same rfl rfl, rfl, rfl⟩
  | receive index =>
    obtain ⟨⟨message, rest⟩, received, handled⟩ := Option.bind_eq_some_iff.mp taken
    have passing : message.isRequest = false := by simpa [Onu.idleTurn, received] using idle
    obtain rfl : attached.withOnu rest = next := by
      cases message <;> first | exact Option.some.inj handled | cases passing
    refine ⟨Onu.staysLive_received received, ?_, rfl⟩
    rw [withOnu_onu, (Onu.receive_eq_some received).frame]
    rfl

end AttachedOnu

namespace Olt

variable {olt next : Olt} {position : Position} {act : AttachedOnu → Option AttachedOnu}

/-- An ONU acts on the resources of its PON; `none` is a crash. -/
def turnAt (olt : Olt) (position : Position) (act : AttachedOnu → Option AttachedOnu) : Option Olt :=
  match olt.pons[position.1]?, olt.onuAt position with
  | some port, some onu =>
    (act ⟨onu, port.resources⟩).map fun next =>
      { olt with
        pons := olt.pons.set position.1
          { port with onus := port.onus.set position.2 next.onu, resources := next.resources } }
  | _, _ => none

/-- What such a turn leaves of the OLT. -/
structure Turned (olt next : Olt) (position : Position) (before after : AttachedOnu) : Prop where
  here : olt.onuAt position = some before.onu
  owner : ∃ port ∈ olt.pons, port.resources = before.resources
  flows : next.flows = olt.flows
  gemPortIDs : next.gemPortIDs = olt.gemPortIDs
  allocIDs : next.allocIDs = olt.allocIDs
  onus : ∀ other, next.onuAt other = if other = position then some after.onu else olt.onuAt other
  resources : ∀ port ∈ next.pons, port.resources = after.resources ∨
    ∃ old ∈ olt.pons, port.resources = old.resources

theorem turned_of_turnAt (taken : olt.turnAt position act = some next) :
    ∃ before after, act before = some after ∧ Turned olt next position before after := by
  obtain ⟨pon, index⟩ := position
  unfold turnAt at taken
  split at taken
  · next port onu found present =>
    obtain ⟨after, acted, rfl⟩ := Option.map_eq_some_iff.mp taken
    refine ⟨⟨onu, port.resources⟩, after, acted, present,
      ⟨port, List.mem_of_getElem? found, rfl⟩, rfl, rfl, rfl, fun other => ?_, fun other member => ?_⟩
    · obtain ⟨insidePon, rfl⟩ := List.getElem?_eq_some_iff.mp found
      have inside : index < olt.pons[pon].onus.length := by
        simp only [onuAt, found, Option.bind_some] at present
        exact (List.getElem?_eq_some_iff.mp present).1
      obtain ⟨otherPon, otherIndex⟩ := other
      by_cases samePon : otherPon = pon
      · subst samePon
        by_cases sameIndex : otherIndex = index
        · subst sameIndex
          simp [onuAt, insidePon, inside]
        · simp [onuAt, insidePon, sameIndex, Ne.symm sameIndex]
      · simp [onuAt, samePon, Ne.symm samePon]
    · rcases List.mem_or_eq_of_mem_set member with old | rfl
      · exact .inr ⟨other, old, rfl⟩
      · exact .inl rfl
  · cases taken

/-- The tables of the PONs are made again. -/
def initOlt (olt : Olt) : Olt :=
  { olt with
    gemPortIDs := (List.range olt.pons.length).foldl (fun table pon => table.insert pon.toUInt32 ∅)
      olt.gemPortIDs
    allocIDs := (List.range olt.pons.length).foldl (fun table pon => table.insert pon.toUInt32 ∅)
      olt.allocIDs }

/-- The OLT holds no flow, no resource and no running ONU. -/
structure Clean (olt : Olt) : Prop where
  flows : olt.flows = ∅
  gemPortIDs : ∀ ponId onuId, ResourceIds.onuIds olt.gemPortIDs ponId onuId = none
  allocIDs : ∀ ponId onuId, ResourceIds.onuIds olt.allocIDs ponId onuId = none
  resources : ∀ port ∈ olt.pons, port.resources = .empty
  onus : ∀ position onu, olt.onuAt position = some onu → onu.leftover.Clean

/-- The OLT holds no flow, and every ONU can be reset. -/
structure Resettable (olt : Olt) : Prop where
  flows : olt.flows = ∅
  onus : ∀ position onu, olt.onuAt position = some onu → onu.leftover.Resettable

def Live (olt : Olt) : Prop := ∀ position onu, olt.onuAt position = some onu → onu.Live

@[simp] theorem onuAt_clearAllResources (olt : Olt) (position : Position) :
    olt.clearAllResources.onuAt position = olt.onuAt position := by
  rw [onuAt, onuAt, clearAllResources, List.getElem?_map]
  cases olt.pons[position.1]? <;> rfl

end Olt

/-- The OLT during `RestartOLT`. -/
structure RebootSite where
  oltState : OltState
  olt : Olt
  /-- The ONUs that are still to be disabled. -/
  remaining : List Position

inductive RebootStep where
  | disable
  /-- A loop of the ONU at this position has its turn. -/
  | turn (position : Position) (turn : LoopTurn)
  | init

namespace RebootSite

/-- The restart begins with the `delete` event; where that is refused, `RestartOLT` returns the
error. -/
def delete (oltState : OltState) (olt : Olt) : Option RebootSite :=
  (oltState.after .delete).map fun state => ⟨state, olt.clearAllResources, olt.positions⟩

def step (site : RebootSite) : RebootStep → Option RebootSite
  | .disable =>
    match site.remaining with
    | [] => none
    | position :: rest =>
      (site.olt.turnAt position fun attached => (attached.tryEvent 0 .disable).toOption).map
        fun olt => ⟨site.oltState, olt, rest⟩
  | .turn position turn =>
    (site.olt.turnAt position (AttachedOnu.loopTurn · 0 turn)).map fun olt => { site with olt := olt }
  | .init =>
    if site.remaining = [] then
      (site.oltState.after .init).map fun state => ⟨state, site.olt.initOlt, []⟩
    else none

/-- No loop takes a request. -/
def Idle (site : RebootSite) : RebootStep → Prop
  | .turn position turn => ∀ onu, site.olt.onuAt position = some onu → onu.idleTurn turn = true
  | _ => True

/-- The event was fired at the ONUs at these positions. -/
def Passed (before olt : Olt) (passed : List Position) : Prop :=
  ∀ position, (olt.onuAt position).map Onu.leftover = (before.onuAt position).map fun onu =>
    if position ∈ passed then onu.leftover.disabled else onu.leftover

/-- How far the reboot of an OLT has come. -/
structure Rebooting (before : Olt) (site : RebootSite) : Prop where
  state : site.oltState = .deleted ∨ site.oltState = .initialized ∧ site.remaining = []
  flows : site.olt.flows = before.flows
  gemPortIDs : ∀ ponId onuId, ResourceIds.onuIds site.olt.gemPortIDs ponId onuId = none
  allocIDs : ∀ ponId onuId, ResourceIds.onuIds site.olt.allocIDs ponId onuId = none
  resources : ∀ port ∈ site.olt.pons, port.resources = .empty
  live : site.olt.Live
  onus : ∃ passed, before.positions = passed ++ site.remaining ∧ Passed before site.olt passed

variable {before : Olt} {site next : RebootSite} {oltState : OltState}

private theorem rebooting_delete (live : before.Live) (begun : delete oltState before = some site) :
    Rebooting before site := by
  obtain ⟨state, accepted, rfl⟩ := Option.map_eq_some_iff.mp begun
  refine ⟨.inl ?_, rfl, fun _ _ => rfl, fun _ _ => rfl, fun port member => ?_,
    fun position onu here => ?_, [], rfl, fun position => ?_⟩
  · cases oltState <;> cases accepted <;> rfl
  · obtain ⟨old, -, rfl⟩ := List.mem_map.mp member
    rfl
  · exact live position onu (by simpa using here)
  · simp

variable {position : Position}

/-- A turn of one ONU that stores no resource. -/
theorem Rebooting.turned {olt : Olt} {old new : AttachedOnu} {passed remaining : List Position}
    (rebooting : Rebooting before site) (turned : site.olt.Turned olt position old new)
    (empty : old.resources = .empty → new.resources = .empty) (live : new.onu.Live)
    (state : site.oltState = .deleted ∨ site.oltState = .initialized ∧ remaining = [])
    (visited : before.positions = passed ++ remaining) (leftovers : Passed before olt passed) :
    Rebooting before ⟨site.oltState, olt, remaining⟩ := by
  refine ⟨state, turned.flows.trans rebooting.flows, ?_, ?_, fun port member => ?_,
    fun other onu here => ?_, passed, visited, leftovers⟩
  · rw [turned.gemPortIDs]
    exact rebooting.gemPortIDs
  · rw [turned.allocIDs]
    exact rebooting.allocIDs
  · rcases turned.resources port member with fresh | ⟨kept, listed, same⟩
    · obtain ⟨owner, listed, same⟩ := turned.owner
      exact fresh.trans (empty (same.symm.trans (rebooting.resources owner listed)))
    · exact same.trans (rebooting.resources kept listed)
  · rw [turned.onus] at here
    split at here
    · exact Option.some.inj here ▸ live
    · exact rebooting.live other onu here

/-- An ONU that is passed a second time is disabled already. -/
theorem passed_snoc {olt : Olt} {old : AttachedOnu} {context : Nat} {passed : List Position}
    (leftovers : Passed before site.olt passed)
    (turned : site.olt.Turned olt position old (old.tried context .disable)) :
    Passed before olt (passed ++ [position]) := by
  intro other
  rw [turned.onus]
  by_cases same : other = position
  · subst same
    have first := leftovers other
    rw [turned.here] at first
    obtain ⟨onu, present, same⟩ := Option.map_eq_some_iff.mp first.symm
    have again : onu.leftover.disabled = old.onu.leftover.disabled := by
      rw [← same]
      split
      · exact Leftover.disabled_disabled.symm
      · rfl
    simp [present, AttachedOnu.leftover_tried_disable, again]
  · simpa [same] using leftovers other

section

variable (rebooting : Rebooting before site)
include rebooting

theorem rebooting_disable (taken : site.step .disable = some next) : Rebooting before next := by
  unfold step at taken
  cases left : site.remaining with
  | nil => simp [left] at taken
  | cons position rest =>
    simp only [left] at taken
    obtain ⟨olt, turned, rfl⟩ := Option.map_eq_some_iff.mp taken
    obtain ⟨old, new, tried, turned⟩ := Olt.turned_of_turnAt turned
    have live : old.onu.Live := rebooting.live position old.onu turned.here
    rw [AttachedOnu.tryEvent_of_live live] at tried
    obtain rfl := Option.some.inj tried
    obtain ⟨passed, visited, leftovers⟩ := rebooting.onus
    have deleted : site.oltState = .deleted :=
      rebooting.state.resolve_right fun completed => by simp [left] at completed
    exact rebooting.turned turned AttachedOnu.resources_tried_disable (AttachedOnu.live_tried live)
      (.inl deleted) (by simpa [left] using visited) (passed_snoc leftovers turned)

private theorem rebooting_turn (idle : site.Idle (.turn position turn))
    (taken : site.step (.turn position turn) = some next) :
    Rebooting before next := by
  obtain ⟨olt, turned, rfl⟩ := Option.map_eq_some_iff.mp taken
  obtain ⟨old, new, acted, turned⟩ := Olt.turned_of_turnAt turned
  obtain ⟨stays, same, resources⟩ := AttachedOnu.idle_loopTurn (idle old.onu turned.here) acted
  obtain ⟨passed, visited, leftovers⟩ := rebooting.onus
  have live : new.onu.Live := stays.live (rebooting.live position old.onu turned.here)
  refine rebooting.turned turned resources.trans live rebooting.state visited fun other => ?_
  rw [turned.onus]
  split
  · next here =>
    subst here
    rw [← leftovers other, turned.here, Option.map_some, Option.map_some, same]
  · exact leftovers other

private theorem rebooting_init (taken : site.step .init = some next) : Rebooting before next := by
  unfold step at taken
  dsimp only at taken
  split at taken
  · next finished =>
    obtain ⟨state, accepted, rfl⟩ := Option.map_eq_some_iff.mp taken
    refine ⟨.inr ⟨?_, rfl⟩, rebooting.flows, ResourceIds.onuIds_foldl_insert rebooting.gemPortIDs _,
      ResourceIds.onuIds_foldl_insert rebooting.allocIDs _, rebooting.resources, rebooting.live, ?_⟩
    · generalize site.oltState = old at accepted
      cases old <;> cases accepted <;> rfl
    · obtain ⟨passed, visited, leftovers⟩ := rebooting.onus
      exact ⟨passed, finished ▸ visited, leftovers⟩
  · cases taken

end

private theorem rebooting_step {label : RebootStep} (rebooting : Rebooting before site)
    (idle : site.Idle label) (taken : site.step label = some next) : Rebooting before next := by
  cases label with
  | disable => exact rebooting_disable rebooting taken
  | turn position turn => exact rebooting_turn rebooting idle taken
  | init => exact rebooting_init rebooting taken

theorem Rebooting.clean_iff (rebooting : Rebooting before site)
    (completed : site.oltState = .initialized) : site.olt.Clean ↔ before.Resettable := by
  obtain ⟨passed, visited, leftovers⟩ := rebooting.onus
  have finished : site.remaining = [] := by
    rcases rebooting.state with deleted | ⟨-, finished⟩
    · simp [completed] at deleted
    · exact finished
  rw [finished, List.append_nil] at visited
  -- every ONU was passed
  have disabled (position : Position) : (site.olt.onuAt position).map Onu.leftover =
      (before.onuAt position).map fun onu => onu.leftover.disabled := by
    rw [leftovers, ← visited]
    cases present : before.onuAt position with
    | none => rfl
    | some onu => simp [Olt.mem_positions_iff, present]
  constructor
  · intro clean
    refine ⟨rebooting.flows.symm.trans clean.flows, fun position onu present => ?_⟩
    have after := disabled position
    rw [present, Option.map_some] at after
    obtain ⟨left, here, same⟩ := Option.map_eq_some_iff.mp after
    rw [← Leftover.clean_disabled_iff, ← same]
    exact clean.onus position left here
  · intro resettable
    refine ⟨rebooting.flows.trans resettable.flows, rebooting.gemPortIDs, rebooting.allocIDs,
      rebooting.resources, fun position left here => ?_⟩
    have after := disabled position
    rw [here] at after
    obtain ⟨onu, present, same⟩ := Option.map_eq_some_iff.mp after.symm
    rw [← same, Leftover.clean_disabled_iff]
    exact resettable.onus position onu present

/-- The next step of `RestartOLT` can be taken. -/
theorem Rebooting.proceeds (rebooting : Rebooting before site)
    (pending : site.oltState ≠ .initialized) :
    ∃ next, site.step (if site.remaining = [] then .init else .disable) = some next := by
  have deleted : site.oltState = .deleted :=
    rebooting.state.resolve_right fun completed => pending completed.1
  obtain ⟨passed, visited, leftovers⟩ := rebooting.onus
  cases left : site.remaining with
  | nil => exact ⟨_, by simp only [step, left, deleted]; rfl⟩
  | cons position rest =>
    have listed : position ∈ before.positions := by simp [visited, left]
    obtain ⟨old, present⟩ := Option.isSome_iff_exists.mp ((Olt.mem_positions_iff _ _).mp listed)
    have same := leftovers position
    rw [present] at same
    obtain ⟨onu, here, -⟩ := Option.map_eq_some_iff.mp same
    obtain ⟨port, found, -⟩ := Option.bind_eq_some_iff.mp here
    have live : (AttachedOnu.mk onu port.resources).onu.Live := rebooting.live position onu here
    rw [← Option.isSome_iff_exists]
    simp [step, left, Olt.turnAt, found, here, AttachedOnu.tryEvent_of_live live, Except.toOption]

section

variable {start : RebootSite} {history : List (RebootSite × RebootStep)}

/-- The loops of the ONUs take no request during the reboot. -/
theorem rebooting_run (live : before.Live) (begun : delete oltState before = some start)
    (run : Run step start history site) (idle : Meets Idle history) : Rebooting before site :=
  run.invariant idle (rebooting_delete live begun) fun _ _ _ => rebooting_step

/-- Until the reboot is completed `RestartOLT` can go on, and then the OLT is clean exactly if it held
no flow and every ONU could be reset. -/
theorem reboot_clean_iff (live : before.Live) (begun : delete oltState before = some start)
    (run : Run step start history site) (idle : Meets Idle history) :
    (site.oltState ≠ .initialized →
      ∃ next, site.step (if site.remaining = [] then .init else .disable) = some next) ∧
    (site.oltState = .initialized → (site.olt.Clean ↔ before.Resettable)) := by
  have rebooting := rebooting_run live begun run idle
  exact ⟨rebooting.proceeds, rebooting.clean_iff⟩

end

/-- The trap flow for LLDP packets on the uplink. -/
def lldpFlow : Flow :=
  ⟨1, .downstream, -1, -1, -1, 0, 0, 0, false, ∅, ⟨0x88cc, 0, 0, 255, 0, 0⟩⟩

/-- An OLT with one ONU, which has its maps, an ONU id, a GEM port and an alloc id. -/
def oltWith (flows : FiniteMap UInt64 Flow) (state : OnuState) : Olt where
  enablePerf := false
  flows := flows
  gemPortIDs := (∅ : ResourceIds).insert 0 ((∅ : PonIds).insert 1 ∅)
  allocIDs := (∅ : ResourceIds).insert 0 ((∅ : PonIds).insert 1 ∅)
  pons := [⟨0, .enabled,
    [{ Onu.create 1 0 0 [0, 0, 0, 1] [] [] 10 with internalState := state, channel := some {} }],
    ((PonResources.empty.storeOnuId 1 0).storeGemPort 1024 0).storeAllocId 0 1 32768 1024 0⟩]

theorem oltWith_onu {flows : FiniteMap UInt64 Flow} {state : OnuState} {onu : Onu}
    (here : (oltWith flows state).onuAt position = some onu) :
    onu.leftover = ⟨state, [], []⟩ ∧ onu.writable = true := by
  obtain ⟨port, found, listed⟩ := Option.bind_eq_some_iff.mp here
  obtain rfl := List.mem_singleton.mp (List.mem_of_getElem? found)
  obtain rfl := List.mem_singleton.mp (List.mem_of_getElem? listed)
  exact ⟨rfl, rfl⟩

private theorem oltWith_live (flows : FiniteMap UInt64 Flow) (state : OnuState) :
    (oltWith flows state).Live :=
  fun _ _ here _ _ => (oltWith_onu here).2

/-- A step of `RestartOLT` itself. -/
def isOwn : RebootStep → Bool
  | .turn _ _ => false
  | _ => true

theorem reboot_clean_enabled : ∃ start history site,
    delete .enabled (oltWith ∅ .enabled) = some start ∧ Run step start history site ∧
      site.oltState = .initialized ∧ site.olt.Clean := by
  have begun : delete .enabled (oltWith ∅ .enabled) =
      some ⟨.deleted, (oltWith ∅ .enabled).clearAllResources, [(0, 0)]⟩ := rfl
  obtain ⟨history, site, run, own, initialized⟩ := run_of_guarded_replay
    (fun _ label => isOwn label = true) step
    ⟨.deleted, (oltWith ∅ .enabled).clearAllResources, [(0, 0)]⟩ [.disable, .init]
    (fun site => site.oltState = .initialized) rfl
  have idle : Meets Idle history := by
    intro ⟨before, label⟩ member
    have ownStep : isOwn label = true := own _ member
    cases label with
    | disable | init => trivial
    | turn => cases ownStep
  have resettable : (oltWith ∅ .enabled).Resettable := by
    refine ⟨rfl, fun position onu here => ?_⟩
    rw [(oltWith_onu here).1]
    exact ⟨rfl, .inl rfl⟩
  refine ⟨_, history, site, begun, run, initialized, ?_⟩
  exact ((reboot_clean_iff (oltWith_live _ _) begun run idle).2 initialized).mpr resettable

/-- A trap flow of the OLT outlasts the reboot, and so does the state of an ONU that is being
discovered. -/
theorem reboot_keeps_flow : ∃ start history site,
    delete .enabled (oltWith ((∅ : FiniteMap UInt64 Flow).insert 1 lldpFlow) .discovered) =
        some start ∧
      Run step start history site ∧ site.oltState = .initialized ∧
      (site.olt.flows.lookup 1).map Flow.flowId = some 1 ∧
      (site.olt.onuAt (0, 0)).map Onu.internalState = some .discovered := by
  obtain ⟨history, site, run, left⟩ := run_of_replay step
    ⟨.deleted, (oltWith ((∅ : FiniteMap UInt64 Flow).insert 1 lldpFlow) .discovered)
      |>.clearAllResources, [(0, 0)]⟩ [.disable, .init]
    (fun site => site.oltState = .initialized ∧ (site.olt.flows.lookup 1).map Flow.flowId = some 1 ∧
      (site.olt.onuAt (0, 0)).map Onu.internalState = some .discovered) rfl
  exact ⟨_, history, site, rfl, run, left⟩

end RebootSite

end Bbsim.Devices
