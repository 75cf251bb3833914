import Bbsim.Devices.FlowAgreement
import Bbsim.Devices.OnuLive

/-! A PON disabled and enabled again. The callbacks of a PON's `InternalState` go through its ONUs
and fire an event at each; an ONU that refuses it is only logged. -/

namespace Bbsim.Devices

open Foundation

namespace PonPort

/-- An event of `InternalState`, with the turn of each ONU in the callback; a refused one is only
logged. -/
def tryEvent (port : PonPort) (tx : PortTx) (turn : AttachedOnu → Except Fault AttachedOnu) :
    Except Fault PonPort :=
  match port.internalState.after tx with
  | none => .ok port
  | some state =>
    (eachOnu turn port.onus port.resources).map fun (onus, resources) =>
      ⟨port.id, state, onus, resources⟩

def disable (port : PonPort) (context : Nat) : Except Fault PonPort :=
  port.tryEvent .disable fun attached => attached.ponDisabled context

def enable (port : PonPort) (mode : Mode) (context : Nat) : Except Fault PonPort :=
  port.tryEvent .enable fun attached => attached.ponEnabled mode port.internalState context

def onuStates (port : PonPort) : List OnuState := port.onus.map Onu.internalState

end PonPort

namespace OnuState

/-- How an ONU may be left by a PON that is down. -/
def Settled (state : OnuState) : Prop :=
  state = .created ∨ state = .initialized ∨ state = .disabled ∨ state = .ponDisabled

/-- The state before the PON went down next to the one after it came up. -/
def Back (before after : OnuState) : Prop :=
  before ≠ .created → after = .discovered ∨ after = .enabled

/-- The ONU waits to be activated, or its software is being transferred. -/
def Underway (state : OnuState) : Prop :=
  state = .discovered ∨ state = .imageDownloadStarted ∨ state = .imageDownloadInProgress

instance : DecidablePred Settled := fun _ => inferInstanceAs (Decidable (_ ∨ _))
instance : DecidableRel Back := fun _ _ => inferInstanceAs (Decidable (_ → _))
instance : DecidablePred Underway := fun _ => inferInstanceAs (Decidable (_ ∨ _))

/-- An ONU's turn when a disabled PON is enabled in the default mode. -/
def ponEnabled : OnuState → OnuState
  | .ponDisabled => .enabled
  | .disabled | .initialized => .discovered
  | state => state

/-- An ONU comes through the cycle unless it is underway: then it is left as it is, and the PON does not
expect it so when it comes up. -/
theorem cycle_iff (state : OnuState) :
    (state.tried .ponDisable).Settled ∧ state.Back (state.tried .ponDisable).ponEnabled ↔
      ¬ state.Underway := by
  cases state <;> decide

end OnuState

namespace AttachedOnu

variable {attached : AttachedOnu} {context : Nat}

/-- The two states that are passed over refuse the event as well. -/
theorem ponDisabled_eq : attached.ponDisabled context = attached.tryEvent context .ponDisable := by
  unfold ponDisabled
  split
  · next passed =>
    rw [tryEvent, event]
    rcases passed with initialized | disabled
    · rw [initialized]
      rfl
    · rw [disabled]
      rfl
  · rfl

private theorem initAndDiscover_of_disabled (disabled : attached.onu.internalState = .disabled) :
    ∃ next, attached.initAndDiscover context = .ok next ∧ next.onu.Live ∧
      next.onu.internalState = .discovered := by
  have live : (attached.entered context .initialized).onu.Live := fun _ _ => rfl
  refine ⟨(attached.entered context .initialized).tried context .discover, ?_, live_tried live, ?_⟩
  · have accepted :
        attached.event context .init = .ok (some (attached.entered context .initialized)) := by
      rw [event, disabled]
      rfl
    simp only [initAndDiscover, accepted, bind, Except.bind]
    exact tryEvent_of_live live
  · rw [tried_internalState, entered_internalState]
    rfl

private theorem ponEnabled_of_live (live : attached.onu.Live) :
    ∃ next, attached.ponEnabled .default .disabled context = .ok next ∧ next.onu.Live ∧
      next.onu.internalState = attached.onu.internalState.ponEnabled := by
  simp only [ponEnabled]
  cases state : attached.onu.internalState with
  | ponDisabled | initialized =>
    refine ⟨_, tryEvent_of_live live, live_tried live, ?_⟩
    rw [tried_internalState, state]
    rfl
  | disabled => exact initAndDiscover_of_disabled state
  | _ => exact ⟨attached, rfl, live, state⟩

end AttachedOnu

namespace PonPort

variable {port : PonPort} {tx : PortTx} {state : PonState} {context : Nat}
  {turn : AttachedOnu → Except Fault AttachedOnu} {change : OnuState → OnuState}
  {holds : Onu → Prop}

/-- The states of the ONUs are changed one by one. -/
theorem states_of_forall₂ {onus after : List Onu}
    (related : List.Forall₂ (fun before after =>
      holds after ∧ after.internalState = change before.internalState) onus after) :
    after.map Onu.internalState = (onus.map Onu.internalState).map change ∧
      ∀ onu ∈ after, holds onu := by
  induction related with
  | nil => exact ⟨rfl, by simp⟩
  | cons first _ ih =>
    refine ⟨by simp [first.2, ih.1], fun onu member => ?_⟩
    rcases List.mem_cons.mp member with rfl | later
    · exact first.1
    · exact ih.2 onu later

/-- An accepted event, where every ONU gets through its turn. -/
theorem tryEvent_of_turns (accepted : port.internalState.after tx = some state)
    (turns : ∀ onu ∈ port.onus, ∀ resources, ∃ after, turn ⟨onu, resources⟩ = .ok after ∧
      holds after.onu ∧ after.onu.internalState = change onu.internalState) :
    ∃ after, port.tryEvent tx turn = .ok after ∧ after.internalState = state ∧
      after.onuStates = port.onuStates.map change ∧ ∀ onu ∈ after.onus, holds onu := by
  have each : Yields (eachOnu turn port.onus port.resources) (fun _ => False) fun result =>
      List.Forall₂ (fun before after =>
        holds after ∧ after.internalState = change before.internalState) port.onus result.1 :=
    yields_eachOnu (fun onu member resources =>
      yields_never_iff.mpr (turns onu member resources)) port.resources
  obtain ⟨⟨onus, resources⟩, returned, related⟩ := yields_never_iff.mp each
  obtain ⟨states, kept⟩ := states_of_forall₂ related
  refine ⟨⟨port.id, state, onus, resources⟩, ?_, rfl, states, kept⟩
  rw [tryEvent, accepted]
  simp only [returned]
  rfl

private theorem disable_of_live (enabled : port.internalState = .enabled)
    (live : ∀ onu ∈ port.onus, onu.Live) (context : Nat) :
    ∃ down, port.disable context = .ok down ∧ down.internalState = .disabled ∧
      down.onuStates = port.onuStates.map (OnuState.tried · .ponDisable) ∧
      ∀ onu ∈ down.onus, onu.Live := by
  have accepted : port.internalState.after .disable = some .disabled := by rw [enabled]; rfl
  refine tryEvent_of_turns accepted fun onu member resources => ?_
  have awake : (AttachedOnu.mk onu resources).onu.Live := live onu member
  rw [AttachedOnu.ponDisabled_eq]
  exact ⟨_, AttachedOnu.tryEvent_of_live awake, AttachedOnu.live_tried awake,
    AttachedOnu.tried_internalState⟩

private theorem enable_of_live (disabled : port.internalState = .disabled)
    (live : ∀ onu ∈ port.onus, onu.Live) (context : Nat) :
    ∃ up, port.enable .default context = .ok up ∧ up.internalState = .enabled ∧
      up.onuStates = port.onuStates.map OnuState.ponEnabled ∧ ∀ onu ∈ up.onus, onu.Live := by
  have accepted : port.internalState.after .enable = some .enabled := by rw [disabled]; rfl
  refine tryEvent_of_turns accepted fun onu member resources => ?_
  rw [disabled]
  exact AttachedOnu.ponEnabled_of_live (live onu member)

/-- A PON that is disabled and enabled again settles its ONUs and brings them back exactly if none of
them was discovered, or in the first two states of an image download. -/
theorem cycle_brings_back_iff (enabled : port.internalState = .enabled)
    (live : ∀ onu ∈ port.onus, onu.Live) (context later : Nat) :
    ∃ down up, port.disable context = .ok down ∧ down.internalState = .disabled ∧
      down.enable .default later = .ok up ∧ up.internalState = .enabled ∧
      ((∀ state ∈ down.onuStates, state.Settled) ∧
          List.Forall₂ OnuState.Back port.onuStates up.onuStates ↔
        ∀ onu ∈ port.onus, ¬ onu.internalState.Underway) := by
  obtain ⟨down, wentDown, disabled, downStates, stillLive⟩ := disable_of_live enabled live context
  obtain ⟨up, cameUp, reenabled, upStates, -⟩ := enable_of_live disabled stillLive later
  refine ⟨down, up, wentDown, disabled, cameUp, reenabled, ?_⟩
  rw [upStates, downStates]
  simp only [onuStates, List.map_map, List.forall_mem_map, List.forall₂_map_left_iff,
    List.forall₂_map_right_iff, List.forall₂_same, ← OnuState.cycle_iff]
  exact ⟨fun both onu member => ⟨both.1 onu member, both.2 onu member⟩,
    fun each => ⟨fun onu member => (each onu member).1, fun onu member => (each onu member).2⟩⟩

def portOf (state : OnuState) : PonPort where
  id := 0
  internalState := .enabled
  onus := [{ Onu.create 1 0 0 [0, 0, 0, 1] [] [] 10 with internalState := state, channel := some {} }]
  resources := .empty

theorem cycle_brings_back_enabled :
    ∃ down up, (portOf .enabled).disable 0 = .ok down ∧ down.enable .default 0 = .ok up ∧
      (∀ state ∈ down.onuStates, state.Settled) ∧
      List.Forall₂ OnuState.Back (portOf .enabled).onuStates up.onuStates := by
  have live : ∀ onu ∈ (portOf .enabled).onus, onu.Live := by simp [portOf, Onu.Live, Onu.writable]
  obtain ⟨down, up, wentDown, -, cameUp, -, back⟩ := cycle_brings_back_iff rfl live 0 0
  exact ⟨down, up, wentDown, cameUp, back.mpr (by simp [portOf, OnuState.Underway])⟩

/-- An ONU that is being discovered, or downloading, stays as it is. -/
theorem cycle_leaves_download :
    ∃ down up, (portOf .imageDownloadStarted).disable 0 = .ok down ∧
      down.onuStates = [.imageDownloadStarted] ∧ down.enable .default 0 = .ok up ∧
      up.onuStates = [.imageDownloadStarted] :=
  ⟨_, _, rfl, rfl, rfl, rfl⟩

end PonPort

end Bbsim.Devices
