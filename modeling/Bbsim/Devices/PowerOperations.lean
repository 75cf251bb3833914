import Bbsim.Devices.PonSite

/-! Power operations that fail. `HandleShutdownONU` and `HandlePowerOnONU` with the error they
return and the alarms they have emitted by then. Both tell the world first and ask the state machine
afterwards. -/

namespace Bbsim.Devices

open Foundation

inductive PowerOperation where
  | shutdown
  | powerOn (oltState : OltState)

namespace AttachedOnu

def power (attached : AttachedOnu) (context : Nat) : PowerOperation → Except Fault PowerOutcome
  | .shutdown => attached.shutdownOnu context
  | .powerOn oltState => attached.powerOnOnu oltState context

variable {attached : AttachedOnu} {context : Nat} {oltState : OltState}

/-- What a failed operation must leave alone. -/
structure Undisturbed (attached next : AttachedOnu) : Prop where
  internalState : next.onu.internalState = attached.onu.internalState
  operState : next.onu.operState = attached.onu.operState
  uniPorts : next.onu.uniPorts = attached.onu.uniPorts
  potsPorts : next.onu.potsPorts = attached.onu.potsPorts
  resources : next.resources = attached.resources

theorem ensures_sendOmciAlarm_undisturbed {raiseOmciAlarm : Bool} {alarmType : String} :
    Ensures (attached.sendOmciAlarmNotificationMsg raiseOmciAlarm alarmType)
      (Undisturbed attached) := by
  unfold sendOmciAlarmNotificationMsg
  split
  · rw [Ensures, yields_map, Onu.yields_send]
    split
    · exact ⟨rfl, rfl, rfl, rfl, rfl⟩
    · trivial
  · exact ⟨rfl, rfl, rfl, rfl, rfl⟩

private theorem ensures_raiseLos_undisturbed : Ensures attached.raiseLos (Undisturbed attached) := by
  unfold raiseLos
  split
  · exact ⟨rfl, rfl, rfl, rfl, rfl⟩
  · exact ensures_sendOmciAlarm_undisturbed

end AttachedOnu

/-- The state machine takes the events of the operation. -/
def PowerOperation.Accepted (state : OnuState) : PowerOperation → Prop
  | .shutdown => (state.after .disable).isSome = true
  | .powerOn oltState =>
    oltState = .deleted ∨ state = .created ∨ state = .initialized ∨ state = .disabled

/-- A failure without effect. -/
def PowerOutcome.Harmless (attached : AttachedOnu) (outcome : PowerOutcome) : Prop :=
  outcome.error.isSome = true → attached.Undisturbed outcome.attached ∧ outcome.alarms = []

/-- What can come of an operation: an accepted one returns no error, and one that is not accepted leaves
the ONU as it was after it has emitted alarms. -/
inductive PowerOutcome.Possible (attached : AttachedOnu) (operation : PowerOperation) :
    PowerOutcome → Prop where
  | done {next : AttachedOnu} {alarms : List PowerAlarm}
      (accepted : operation.Accepted attached.onu.internalState) :
      Possible attached operation ⟨next, alarms, none⟩
  | failed {next : AttachedOnu} {alarms : List PowerAlarm} {tx : OnuTx}
      (refused : ¬ operation.Accepted attached.onu.internalState)
      (undisturbed : attached.Undisturbed next) (emitted : alarms ≠ []) :
      Possible attached operation ⟨next, alarms, some tx⟩

theorem OnuState.initialized_of_discover {state next : OnuState}
    (accepted : state.after .discover = some next) : state = .initialized := by
  cases state <;> first | rfl | cases accepted

namespace AttachedOnu

variable {attached : AttachedOnu} {context : Nat} {oltState : OltState}

private theorem ensures_shutdownOnu :
    Ensures (attached.shutdownOnu context) (PowerOutcome.Possible attached .shutdown) := by
  unfold shutdownOnu
  dsimp only
  rw [Ensures, yields_bind]
  refine ensures_raiseLos_undisturbed.mono fun informed undisturbed => ?_
  rw [yields_bind]
  refine ensures_event.mono fun next same => ?_
  subst same
  cases accepted : informed.onu.internalState.after .disable with
  | none =>
    refine .failed ?_ undisturbed (by simp)
    rw [PowerOperation.Accepted, ← undisturbed.internalState, accepted]
    decide
  | some state =>
    refine .done ?_
    rw [PowerOperation.Accepted, ← undisturbed.internalState, accepted]
    rfl

private theorem ensures_powerUp_state :
    Ensures (attached.powerUp context) fun powered =>
      if attached.onu.internalState = .created ∨ attached.onu.internalState = .disabled then
        powered.onu.internalState = .initialized
      else powered = attached := by
  unfold powerUp
  split
  · next off =>
    refine ensures_tryEvent.mono fun next same => ?_
    subst same
    have accepted : attached.onu.internalState.after .init = some .initialized := by
      rcases off with off | off <;> rw [off] <;> rfl
    rw [accepted, Option.map_some, Option.getD_some]
    exact entered_internalState
  · rfl

private theorem ensures_powerOnOnu :
    Ensures (attached.powerOnOnu oltState context)
      (PowerOutcome.Possible attached (.powerOn oltState)) := by
  unfold powerOnOnu
  dsimp only
  split
  · next deleted => exact .done (.inl deleted)
  · next present =>
    rw [Ensures, yields_bind, initIfOff_eq, yields_map]
    refine ensures_powerUp_state.mono fun powered state => ?_
    rw [yields_bind]
    refine ensures_sendOmciAlarm_undisturbed.mono fun informed undisturbed => ?_
    rw [yields_bind]
    refine ensures_event.mono fun next same => ?_
    subst same
    split at state
    · -- an ONU that was off is initialised now, and takes the events that follow
      next off =>
      have accepted : PowerOperation.Accepted attached.onu.internalState (.powerOn oltState) :=
        .inr (off.imp_right .inr)
      have discover : informed.onu.internalState.after .discover = some .discovered := by
        rw [undisturbed.internalState, state]
        rfl
      rw [discover, Option.map_some]
      dsimp only
      split
      · rw [yields_bind]
        refine ensures_event.mono fun last same => ?_
        subst same
        rw [entered_internalState]
        exact .done accepted
      · exact .done accepted
    · next on =>
      subst state
      cases discover : informed.onu.internalState.after .discover with
      | none =>
        refine .failed ?_ undisturbed (by simp)
        rintro (deleted | created | initialized | disabled)
        · exact present deleted
        · exact on (.inl created)
        · rw [undisturbed.internalState, initialized] at discover
          cases discover
        · exact on (.inr disabled)
      | some next =>
        have initialized : powered.onu.internalState = .initialized := by
          rw [← undisturbed.internalState]
          exact OnuState.initialized_of_discover discover
        rw [Option.map_some]
        dsimp only
        rw [if_neg fun disabled => on (.inr disabled)]
        exact .done (.inr (.inr (.inl initialized)))

private theorem ensures_power (operation : PowerOperation) :
    Ensures (attached.power context operation) (PowerOutcome.Possible attached operation) := by
  cases operation with
  | shutdown => exact ensures_shutdownOnu
  | powerOn oltState => exact ensures_powerOnOnu

end AttachedOnu

/-- A power operation that fails leaves the ONU as it was, but it has no effect only if it does not fail:
its alarms go out before the state machine refuses it. -/
theorem failed_power_operation_harmless_iff {attached : AttachedOnu} {context : Nat}
    {operation : PowerOperation} {outcome : PowerOutcome}
    (returned : attached.power context operation = .ok outcome) :
    (outcome.error.isSome = true → attached.Undisturbed outcome.attached) ∧
      (outcome.Harmless attached ↔ operation.Accepted attached.onu.internalState) := by
  cases (AttachedOnu.ensures_power operation).value returned with
  | done accepted =>
    refine ⟨fun failed => ?_, iff_of_true (fun failed => ?_) accepted⟩
    · cases failed
    · cases failed
  | failed refused undisturbed emitted =>
    refine ⟨fun _ => undisturbed, iff_of_false (fun harmless => ?_) refused⟩
    exact emitted (harmless rfl).2

/-- A PON with one ONU. -/
def poweredSite : PonSite := .create 0 [⟨[0, 0, 0, 1], [⟨0, 257, 0, .down, [], 0⟩], [], 10⟩]

/-- The ONU is discovered and activated. -/
def activated : List PonStep :=
  [.onu 0 1 (.event .init), .onu 0 1 (.event .discover), .onu 0 1 (.activate 1)]

/-- The operation on the ONU of the PON returns, and its alarms and error meet a test. -/
def PonSite.powers (site : PonSite) (operation : PowerOperation)
    (test : List PowerAlarm → Option OnuTx → Bool) : Bool :=
  (site.attachedAt 0).any fun attached =>
    (attached.power 1 operation).toOption.any fun outcome => test outcome.alarms outcome.error

theorem PonSite.exists_of_powers {site : PonSite} {operation : PowerOperation}
    {test : List PowerAlarm → Option OnuTx → Bool} (powered : site.powers operation test = true) :
    ∃ attached outcome, site.attachedAt 0 = some attached ∧
      attached.power 1 operation = .ok outcome ∧ test outcome.alarms outcome.error = true := by
  obtain ⟨attached, present, returned⟩ := Option.any_eq_true .. |>.mp powered
  obtain ⟨outcome, returned, passed⟩ := Option.any_eq_true .. |>.mp returned
  exact ⟨attached, outcome, present, eq_ok_of_toOption returned, passed⟩

theorem shutdown_of_activated_harmless :
    ∃ history site attached outcome, Run PonSite.step poweredSite history site ∧
      site.attachedAt 0 = some attached ∧ attached.power 1 .shutdown = .ok outcome ∧
      outcome.error = none ∧ outcome.Harmless attached := by
  obtain ⟨history, site, run, powered⟩ := run_of_replay PonSite.step poweredSite activated
    (fun site => site.powers .shutdown (fun _ error => error.isNone &&
      (site.attachedAt 0).any fun attached => attached.onu.internalState = .enabled) = true)
    (by decide +kernel)
  obtain ⟨attached, outcome, present, returned, passed⟩ := PonSite.exists_of_powers powered
  obtain ⟨accepted, state⟩ := Bool.and_eq_true .. |>.mp passed
  have enabled : attached.onu.internalState = .enabled := by simpa [present] using state
  have harmless := (failed_power_operation_harmless_iff returned).2.mpr (by
    rw [PowerOperation.Accepted, enabled]
    rfl)
  exact ⟨history, site, attached, outcome, run, present, returned, Option.isNone_iff_eq_none.mp accepted,
    harmless⟩

/-- Powering on an ONU that is on takes a loss of signal back, and shutting down one that is off sends a
dying gasp and a loss of signal; both return an error. -/
theorem failed_power_operations_raise_alarms :
    (∃ history site attached outcome, Run PonSite.step poweredSite history site ∧
      site.attachedAt 0 = some attached ∧ attached.power 1 (.powerOn .enabled) = .ok outcome ∧
      outcome.error = some .discover ∧
      outcome.alarms = [.onuAlarmLos 0 1 "off", .omciLos false]) ∧
    ∃ history site attached outcome, Run PonSite.step poweredSite history site ∧
      site.attachedAt 0 = some attached ∧ attached.power 1 .shutdown = .ok outcome ∧
      outcome.error = some .disable ∧
      outcome.alarms = [.dyingGasp 0 1 "on", .onuAlarmLos 0 1 "on"] := by
  constructor
  · obtain ⟨history, site, run, powered⟩ := run_of_replay PonSite.step poweredSite activated
      (fun site => site.powers (.powerOn .enabled) (fun alarms error =>
        error = some .discover ∧ alarms = [.onuAlarmLos 0 1 "off", .omciLos false]) = true)
      (by decide +kernel)
    obtain ⟨attached, outcome, present, returned, passed⟩ := PonSite.exists_of_powers powered
    exact ⟨history, site, attached, outcome, run, present, returned, of_decide_eq_true passed⟩
  · obtain ⟨history, site, run, powered⟩ := run_of_replay PonSite.step poweredSite
      (activated ++ ([.onu 0 1 .shutdown] : List PonStep))
      (fun site => site.powers .shutdown (fun alarms error =>
        error = some .disable ∧ alarms = [.dyingGasp 0 1 "on", .onuAlarmLos 0 1 "on"]) = true)
      (by decide +kernel)
    obtain ⟨attached, outcome, present, returned, passed⟩ := PonSite.exists_of_powers powered
    exact ⟨history, site, attached, outcome, run, present, returned, of_decide_eq_true passed⟩

end Bbsim.Devices
