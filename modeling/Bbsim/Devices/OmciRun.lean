import Bbsim.Foundation.Run
import Bbsim.Devices.OmciEffects

/-! Runs of OMCI requests on one ONU. Requests are handled one after another. Between them come the
reboots they start and the calls of the OLT, the API and DMI, as the events of the state machine
they consist of, and whatever else touches the ONU, its channel and the tables of its PON. -/

namespace Bbsim.Devices

open Foundation Omci

inductive OmciStep where
  /-- `spare` is what the allocator left behind the received image. -/
  | request (context : Nat) (spare : List UInt8) (message : OmciMessage)
  /-- An event that is not one of the OMCI handler. -/
  | event (context : Nat) (tx : OnuTx)
  /-- Anything that touches neither the state machine, nor the MIB data sync, nor the images. -/
  | other (attached : AttachedOnu) (alarms : OnuAlarms)

namespace OmciOnu

def leavesAside (onu : OmciOnu) (attached : AttachedOnu) : Bool :=
  attached.onu.internalState = onu.attached.onu.internalState ∧
    attached.onu.mibDataSync = onu.attached.onu.mibDataSync

def step (library : OmciLibrary) (onu : OmciOnu) : OmciStep → Option OmciOnu
  | .request context spare message =>
    (onu.handleOmciRequest library context spare message).toOption.map Prod.fst
  | .event context tx =>
    if tx.isImage then none else (onu.attached.tryEvent context tx).toOption.map onu.withAttached
  | .other attached alarms =>
    if onu.leavesAside attached then some { onu with attached := attached, onuAlarmsInfo := alarms }
    else none

/-- The step of a baseline request. -/
def handles (request : RequestLayer) : OmciStep := .request 0 [] (firstMessage request)

/-- What a step other than a request leaves of the ONU. -/
structure Apart (before after : Progress) : Prop where
  images : after.images = before.images
  mibDataSync : after.mibDataSync = before.mibDataSync
  /-- No state of an image download is entered. -/
  internalState : after.internalState = before.internalState ∨
    ∃ tx, tx.isImage = false ∧ before.internalState.after tx = some after.internalState

variable {library : OmciLibrary} {onu next : OmciOnu} {label : OmciStep}

private theorem entered_mibDataSync {attached : AttachedOnu} {context : Nat} {state : OnuState} :
    (attached.entered context state).onu.mibDataSync = attached.onu.mibDataSync := by
  cases state with
  | enabled =>
    cases taken : attached.resources.isOnuIdAllocated attached.onu.id <;>
      simp [AttachedOnu.entered, taken]
  | disabled =>
    simp only [AttachedOnu.entered, AttachedOnu.switchedOff, Onu.switchedOff]
    split <;> simp
  | _ => rfl

theorem apart_event {context : Nat} {tx : OnuTx} {attached : AttachedOnu} (outside : tx.isImage = false)
    (tried : onu.attached.tryEvent context tx = .ok attached) :
    Apart onu.progress (onu.withAttached attached).progress := by
  obtain rfl := AttachedOnu.ensures_tryEvent.value tried
  cases accepted : onu.attached.onu.internalState.after tx with
  | none => exact ⟨rfl, rfl, .inl rfl⟩
  | some state =>
    refine ⟨rfl, entered_mibDataSync, .inr ⟨tx, outside, ?_⟩⟩
    simp [accepted]

/-- A step is a request that was skipped, one that was processed, or something else. -/
theorem step_cases (taken : step library onu label = some next) :
    (∃ context spare message, label = .request context spare message ∧ onu.skips = true ∧
        onu.handleOmciRequest library context spare message = .ok (next, .skipped) ∧
        next.progress = onu.progress) ∨
      (∃ context spare message response, label = .request context spare message ∧
        onu.skips = false ∧
        onu.handleOmciRequest library context spare message = .ok (next, .handled response) ∧
        Processed library spare message onu.progress next.progress response) ∨
      ((∀ context spare message, label ≠ .request context spare message) ∧
        Apart onu.progress next.progress) := by
  cases label with
  | request context spare message =>
    obtain ⟨⟨after, outcome⟩, handled, same⟩ := Option.map_eq_some_iff.mp taken
    obtain rfl : after = next := same
    have returned := eq_ok_of_toOption handled
    rcases handleOmciRequest_cases returned with ⟨skipped, rfl, rfl⟩ |
      ⟨answered, response, rfl, processed⟩
    · exact .inl ⟨context, spare, message, rfl, skipped, returned, rfl⟩
    · exact .inr (.inl ⟨context, spare, message, response, rfl, answered, returned,
        (ensures_processed message).value processed⟩)
  | event context tx =>
    obtain ⟨outside, tried⟩ := Option.ite_none_left_eq_some.mp taken
    obtain ⟨attached, found, rfl⟩ := Option.map_eq_some_iff.mp tried
    exact .inr (.inr ⟨fun _ _ _ same => OmciStep.noConfusion same,
      apart_event (by simpa using outside) (eq_ok_of_toOption found)⟩)
  | other attached alarms =>
    obtain ⟨aside, same⟩ := Option.ite_none_right_eq_some.mp taken
    obtain rfl := Option.some.inj same
    obtain ⟨state, sync⟩ := of_decide_eq_true aside
    exact .inr (.inr ⟨fun _ _ _ same => OmciStep.noConfusion same, rfl, sync, .inl state⟩)

end OmciOnu

end Bbsim.Devices
