import Bbsim.Devices.OmciRun

/-! MIB data sync. The counter of an ONU's MIB changes against the answers the ONU gave: successes
of the requests that change the MIB or the images, since the last MIB reset. -/

namespace Bbsim.Devices

open Foundation Omci

inductive SyncEffect where
  | restart
  | increment
  | keep
deriving DecidableEq

namespace SyncEffect

/-- The effect of a request, from what came of it. -/
def ofOutcome (request : RequestLayer) : OmciOutcome → SyncEffect
  | .skipped => .keep
  | .handled response =>
    if isMibReset request then .restart
    else if changesMib request ∧ resultOf response = some .success then .increment
    else .keep

def onCounter : SyncEffect → UInt8 → UInt8
  | .restart, _ => 0
  | .increment, counter => counter + 1
  | .keep, counter => counter

def onCount : SyncEffect → Nat → Nat
  | .restart, _ => 0
  | .increment, count => count + 1
  | .keep, count => count

private theorem onCounter_toNat (effect : SyncEffect) {counter : UInt8} {count : Nat}
    (agrees : counter.toNat = count % 256) :
    (effect.onCounter counter).toNat = effect.onCount count % 256 := by
  cases effect with
  | restart => rfl
  | keep => exact agrees
  | increment =>
    change (counter + 1).toNat = (count + 1) % 256
    rw [UInt8.toNat_add, agrees]
    exact Nat.mod_add_mod count 256 1

end SyncEffect

variable {response : Option ResponsePacket} {request : RequestLayer}

theorem SyncEffect.ofOutcome_answered {result : OmciResult} (changes : changesMib request = true)
    (answered : resultOf response = some result) (mds : UInt8) :
    (ofOutcome request (.handled response)).onCounter mds = syncAfter result mds := by
  have other : isMibReset request = false := by cases request <;> first | rfl | cases changes
  simp only [ofOutcome, other, changes, answered, syncAfter]
  cases result <;> rfl

private theorem changesMib_of_changesEntity (changes : changesEntity request = true) :
    changesMib request = true := by
  cases request <;> first | rfl | cases changes

namespace OmciOnu

variable {library : OmciLibrary} {onu next : OmciOnu} {spare : List UInt8}

def mibDataSync (onu : OmciOnu) : UInt8 := onu.attached.onu.mibDataSync

theorem Processed.mibDataSync {message : OmciMessage} {before after : Progress}
    (processed : Processed library spare message before after response) :
    after.mibDataSync =
      (SyncEffect.ofOutcome message.request (.handled response)).onCounter before.mibDataSync := by
  cases processed with
  | mibReset asked progress =>
    subst progress
    rw [asked]
    rfl
  | changed result asked answered progress =>
    subst progress
    exact (SyncEffect.ofOutcome_answered (changesMib_of_changesEntity asked) answered _).symm
  | started request asked answered progress | activated request asked answered progress
  | committed request asked answered progress
  | ended request images success asked judged answered progress =>
    subst progress
    exact (SyncEffect.ofOutcome_answered (asked ▸ rfl) answered _).symm
  | received request images asked appended progress | acknowledged request asked answered progress =>
    subst progress
    rw [asked]
    rfl
  | unchanged outside reads unanswered progress =>
    subst progress
    have keeps : ¬ (changesMib message.request = true ∧ resultOf response = some .success) := by
      rintro ⟨changes, answered⟩
      rw [unanswered changes] at answered
      cases answered
    simp only [SyncEffect.ofOutcome, reads, if_neg keeps]
    rfl

/-- What a step has the counter do, by the answer it gives. -/
def syncEffect (library : OmciLibrary) (onu : OmciOnu) : OmciStep → SyncEffect
  | .request context spare message =>
    match onu.handleOmciRequest library context spare message with
    | .ok (_, outcome) => .ofOutcome message.request outcome
    | .error _ => .keep
  | .event .. | .other .. => .keep

/-- Successful changes since the last MIB reset. -/
def changesCounted (library : OmciLibrary) (history : List (OmciOnu × OmciStep)) : Nat :=
  history.foldl (fun count entry => (syncEffect library entry.1 entry.2).onCount count) 0

private theorem step_mibDataSync {label : OmciStep} (taken : step library onu label = some next) :
    next.mibDataSync = (syncEffect library onu label).onCounter onu.mibDataSync := by
  rcases step_cases taken with ⟨context, spare, message, rfl, -, returned, same⟩ |
    ⟨context, spare, message, response, rfl, -, returned, processed⟩ | ⟨other, apart⟩
  · rw [syncEffect, returned]
    exact congrArg Progress.mibDataSync same
  · rw [syncEffect, returned]
    exact processed.mibDataSync
  · cases label with
    | request context spare message => exact absurd rfl (other context spare message)
    | event | other => exact apart.mibDataSync

/-- From a new ONU on, the counter is the number of successful changes since the last MIB reset, modulo
256, and no other request moves it. -/
theorem mibDataSync_counts_changes {start final : OmciOnu} {history : List (OmciOnu × OmciStep)}
    (run : Run (step library) start history final) (fresh : start.mibDataSync = 0) :
    final.mibDataSync.toNat = changesCounted library history % 256 ∧
      ∀ onu label next, step library onu label = some next →
        syncEffect library onu label = .keep → next.mibDataSync = onu.mibDataSync := by
  refine ⟨?_, ?_⟩
  · have meets : Meets (fun _ _ => True) history := fun _ _ => trivial
    refine run.tracks (fun count onu => onu.mibDataSync.toNat = count % 256) meets ?_ ?_
    · rw [fresh]
      rfl
    · intro count onu label next agrees _ taken
      rw [step_mibDataSync taken]
      exact SyncEffect.onCounter_toNat _ agrees
  · intro onu label next taken keeps
    rw [step_mibDataSync taken, keeps]
    rfl

def gemPort (entity : UInt16) : Option MeBasePacket := some ⟨268, entity⟩

/-- A GEM port is created twice, which is refused, then the MIB is reset and two changes follow. -/
def resetBetweenChanges : List OmciStep :=
  [.create (gemPort 1024), .create (gemPort 1024), .mibReset, .create (gemPort 1025),
    .delete (gemPort 1025)].map handles

theorem mibDataSync_counts_two : ∃ history final,
    Run (step summingLibrary) (enabledOn .empty) history final ∧ final.mibDataSync = 2 ∧
      changesCounted summingLibrary history % 256 = 2 := by
  obtain ⟨history, final, run, two⟩ := run_of_replay (step summingLibrary) (enabledOn .empty)
    resetBetweenChanges (fun onu => onu.mibDataSync = 2) (by decide +kernel)
  refine ⟨history, final, run, two, ?_⟩
  rw [← (mibDataSync_counts_changes run rfl).1, two]
  rfl

end OmciOnu

end Bbsim.Devices
