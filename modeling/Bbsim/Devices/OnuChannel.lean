import Bbsim.Foundation.Run
import Bbsim.Devices.OnuActions
import Bbsim.Devices.OnuEffects

/-! The channel of an ONU. The channel is made when the ONU is initialised and closed when it is
disabled, or later with the last of its flows. Writers look at the state of the ONU only in part, so
the discipline below says when each may run. -/

namespace Bbsim.Devices

open Foundation

/-- Whether a Set of the administrative state changes the port it is for. -/
def changesPort {Port : Type} (meId : Port → UInt16) (operState : Port → PortState)
    (ports : List Port) (entity : UInt16) (adminState : UInt8) : Bool :=
  (ports.find? fun port => meId port = entity).any fun port =>
    ((operState port).after (if adminState = 1 then .disable else .enable)).isSome

namespace Onu

/-- Messages that may not be handled once the channel is closed: a flow message brings the ONU to
close it again or to be written again, and a Set that changes a port sends an alarm. -/
def disturbs (onu : Onu) : Message → Bool
  | .flowAdd _ | .flowRemoved _ => true
  | .omci (.setUniAdminState entity adminState) =>
    changesPort UniPort.meId UniPort.operState onu.uniPorts entity adminState
  | .omci (.setPotsAdminState entity adminState) =>
    changesPort PotsPort.meId PotsPort.operState onu.potsPorts entity adminState
  | _ => false

/-- No message that may still be handled needs the channel. -/
def Quiet (onu : Onu) : Prop := ∀ message ∈ onu.reachable, onu.disturbs message = false

instance (onu : Onu) : Decidable onu.Quiet := inferInstanceAs (Decidable (∀ _ ∈ _, _))

/-- The ONU with every port down, as `enter_disabled` leaves the ports. -/
@[simps] def portsOff (onu : Onu) : Onu :=
  { onu with
    uniPorts := onu.uniPorts.map fun uni => { uni with operState := .down }
    potsPorts := onu.potsPorts.map fun pots => { pots with operState := .down } }

/-- An accepted disable of an ONU without flows closes the channel. -/
def MayDisable (onu : Onu) : Prop :=
  (onu.internalState.after .disable).isSome → onu.flowIds = [] → onu.portsOff.Quiet

instance (onu : Onu) : Decidable onu.MayDisable := inferInstanceAs (Decidable (_ → _ → _))

/-- Handling a removed flow closes the channel when it was the last flow of a disabled ONU. -/
def MayReceive (onu : Onu) (loop : Nat) : Prop :=
  match onu.receive loop with
  | some (.flowRemoved flow, rest) =>
    rest.internalState = .disabled → rest.flowIds.erase flow.flowId = [] → rest.Quiet
  | _ => True

instance (onu : Onu) (loop : Nat) : Decidable (onu.MayReceive loop) := by
  unfold MayReceive
  split <;> infer_instance

end Onu

/-- When an action may run. Actions without a case are free. -/
def Disciplined (attached : AttachedOnu) : OnuAction → Prop
  | .event .disable | .deleteOnu => attached.onu.MayDisable
  | .shutdown => attached.onu.internalState ≠ .created ∧ attached.onu.MayDisable
  | .setAlarm alarmType _ =>
    alarmType = "ONU_ALARM_LOS" → attached.onu.internalState ≠ .created ∧
      ¬(attached.onu.internalState = .disabled ∧ attached.onu.flowIds = [])
  | .omciMsgOut _ | .flowAdd _ => attached.onu.internalState ≠ .created
  | .receive loop => attached.onu.MayReceive loop
  | _ => True

instance (attached : AttachedOnu) (action : OnuAction) : Decidable (Disciplined attached action) := by
  unfold Disciplined
  split <;> infer_instance

variable {message : Message}

namespace Onu

/-- The channel exists and takes messages. -/
structure Open (onu : Onu) : Prop where
  writable : onu.writable = true
  exists_channel : onu.internalState ≠ .created

/-- What links the state of the ONU, its flows and its channel. -/
structure Sound (onu : Onu) : Prop where
  created : onu.internalState = .created → onu.flowIds = [] ∧ onu.reachable = []
  shut : onu.internalState ≠ .created → onu.writable = false →
    onu.internalState = .disabled ∧ onu.flowIds = [] ∧ onu.Quiet

variable {onu other : Onu}

theorem Open.sound (isOpen : onu.Open) : onu.Sound :=
  ⟨fun created => absurd created isOpen.exists_channel,
    fun _ shut => absurd (isOpen.writable.symm.trans shut) (by simp)⟩

theorem Sound.isOpen (sound : onu.Sound) (exists_channel : onu.internalState ≠ .created)
    (busy : ¬(onu.internalState = .disabled ∧ onu.flowIds = [])) : onu.Open := by
  refine ⟨?_, exists_channel⟩
  cases writable : onu.writable with
  | true => rfl
  | false =>
    obtain ⟨disabled, drained, -⟩ := sound.shut exists_channel writable
    exact absurd ⟨disabled, drained⟩ busy

/-- A message can be handled: the channel is open, or nothing needs it any more. -/
def Ready (onu : Onu) (message : Message) : Prop :=
  onu.Open ∨ onu.internalState = .disabled ∧ onu.disturbs message = false

theorem Sound.ready (sound : onu.Sound) (reached : message ∈ onu.reachable) :
    onu.Ready message := by
  have exists_channel : onu.internalState ≠ .created := by
    intro created
    rw [(sound.created created).2] at reached
    cases reached
  cases writable : onu.writable with
  | true => exact .inl ⟨writable, exists_channel⟩
  | false =>
    obtain ⟨disabled, -, quiet⟩ := sound.shut exists_channel writable
    exact .inr ⟨disabled, quiet message reached⟩

/-- The ports are as before, and no message has become reachable. -/
structure Quieter (onu other : Onu) : Prop where
  uniPorts : other.uniPorts = onu.uniPorts
  potsPorts : other.potsPorts = onu.potsPorts
  reachable : other.reachable ⊆ onu.reachable

theorem Quieter.disturbs (quieter : Quieter onu other) (message : Message) :
    other.disturbs message = onu.disturbs message := by
  unfold Onu.disturbs
  rw [quieter.uniPorts, quieter.potsPorts]

theorem Quieter.quiet (quieter : Quieter onu other) (quiet : onu.Quiet) : other.Quiet := by
  intro message reached
  rw [quieter.disturbs]
  exact quiet message (quieter.reachable reached)

/-- All that the invariant speaks of is as before. -/
structure Calm (onu other : Onu) : Prop extends Quieter onu other where
  internalState : other.internalState = onu.internalState
  flowIds : other.flowIds = onu.flowIds
  writable : other.writable = onu.writable

theorem Calm.sound (calm : Calm onu other) (sound : onu.Sound) : other.Sound := by
  constructor
  · intro created
    obtain ⟨drained, unreached⟩ := sound.created (calm.internalState ▸ created)
    refine ⟨calm.flowIds.trans drained, ?_⟩
    exact List.eq_nil_of_subset_nil (unreached ▸ calm.reachable)
  · intro exists_channel shut
    rw [calm.internalState] at exists_channel ⊢
    rw [calm.flowIds]
    obtain ⟨disabled, drained, quiet⟩ := sound.shut exists_channel (calm.writable ▸ shut)
    exact ⟨disabled, drained, calm.quiet quiet⟩

theorem Calm.isOpen (calm : Calm onu other) (isOpen : onu.Open) : other.Open :=
  ⟨calm.writable.trans isOpen.writable, calm.internalState ▸ isOpen.exists_channel⟩

theorem Calm.ready (calm : Calm onu other) (ready : onu.Ready message) : other.Ready message := by
  rcases ready with isOpen | ⟨disabled, silent⟩
  · exact .inl (calm.isOpen isOpen)
  · exact .inr ⟨calm.internalState.trans disabled, (calm.disturbs message).trans silent⟩

theorem Open.enqueue (isOpen : onu.Open) (messages : List Message) : (onu.enqueue messages).Open :=
  ⟨(writable_enqueue messages).trans isOpen.writable, isOpen.exists_channel⟩

end Onu

/-- The one fault that is not about a channel: a flow for a UNI the ONU does not have. -/
def Harmless (fault : Fault) : Prop := fault = .nilUni

namespace AttachedOnu

variable {attached : AttachedOnu} {context : Nat} {tx : OnuTx}

/-- Entering a state other than disabled, with an open channel. -/
theorem yields_enter (isOpen : attached.onu.Open) {state : OnuState} (other : state ≠ .disabled) :
    Yields (attached.enter context state) Harmless fun entered => entered.onu.Open := by
  have writable := isOpen.writable
  cases state with
  | disabled => contradiction
  | initialized => exact ⟨rfl, isOpen.exists_channel⟩
  | discovered => simpa [enter, enterDiscovered, writable, withOnu] using isOpen.enqueue _
  | enabled =>
    simp only [enter, enterEnabled]
    split
    · exact isOpen
    · simpa [writable] using isOpen.enqueue _
  | _ => exact ⟨isOpen.writable, isOpen.exists_channel⟩

/-- An accepted event other than disable leaves the channel open. -/
theorem yields_event (sound : attached.onu.Sound) (other : tx ≠ .disable) :
    Yields (attached.event context tx) Harmless fun next =>
      ∀ entered, next = some entered → entered.onu.Open := by
  unfold event
  cases accepted : attached.onu.internalState.after tx with
  | none => simp
  | some state =>
    have notDisabled : state ≠ .disabled := by
      rintro rfl
      exact other (OnuState.disabled_of_after accepted)
    have exists_channel := OnuState.created_not_entered accepted
    simp only [yields_map, Option.some.injEq, forall_eq']
    by_cases first : tx = .init
    · subst first
      obtain rfl := OnuState.after_init accepted
      exact ⟨rfl, exists_channel⟩
    · obtain ⟨notCreated, active⟩ := OnuState.source_of_after accepted first
      have before := sound.isOpen notCreated fun idle => active idle.1
      have moved : (attached.withOnu (attached.onu.moveTo state)).onu.Open :=
        ⟨before.writable, exists_channel⟩
      exact yields_enter moved notDisabled

private theorem yields_tryEvent (sound : attached.onu.Sound) (other : tx ≠ .disable) :
    Yields (attached.tryEvent context tx) Harmless fun next =>
      next.onu.Sound ∧ (attached.onu.Open → next.onu.Open) := by
  unfold tryEvent
  rw [yields_map]
  refine (yields_event sound other).mono ?_
  intro next entered
  cases next with
  | none => exact ⟨sound, id⟩
  | some after => exact ⟨(entered after rfl).sound, fun _ => entered after rfl⟩

/-- After the initial event in a state that accepts it the channel is open. -/
theorem yields_tryEvent_init (accepted : (attached.onu.internalState.after .init).isSome) :
    Yields (attached.tryEvent context .init) Harmless fun next => next.onu.Open := by
  obtain ⟨state, entered⟩ := Option.isSome_iff_exists.mp accepted
  obtain rfl := OnuState.after_init entered
  rw [tryEvent, event, entered]
  exact ⟨rfl, by simp [enterInitialized, withOnu]⟩

theorem yields_alarm (isOpen : attached.onu.Open) (raiseOmciAlarm : Bool) (alarmType : String) :
    Yields (attached.sendOmciAlarmNotificationMsg raiseOmciAlarm alarmType) Harmless fun next =>
      next.onu.Open ∧ ∃ messages, (∀ message ∈ messages, ∀ onu : Onu, onu.disturbs message = false) ∧
        next = attached.withOnu (attached.onu.enqueue messages) := by
  unfold sendOmciAlarmNotificationMsg
  split
  · simp only [yields_map, Onu.yields_send, isOpen.writable, if_true]
    refine ⟨isOpen.enqueue _, _, ?_, rfl⟩
    intro message member onu
    rw [List.mem_singleton.mp member]
    rfl
  · refine ⟨isOpen, [], by simp, ?_⟩
    rw [Onu.enqueue_nil]
    rfl

private theorem yields_sendIf (guard : Bool) (isOpen : guard = true → attached.onu.Open)
    (sound : attached.onu.Sound) (message : Message) :
    Yields (attached.sendIf guard message) Harmless fun next => next.onu.Sound := by
  unfold sendIf
  cases guard with
  | false => exact sound
  | true =>
    have ready := isOpen rfl
    simpa [ready.writable] using (ready.enqueue [message]).sound

variable (sound : attached.onu.Sound)
include sound

theorem yields_tryEvent_sound (other : tx ≠ .disable) :
    Yields (attached.tryEvent context tx) Harmless fun next => next.onu.Sound :=
  (yields_tryEvent sound other).mono fun _ => And.left

private theorem yields_initAndDiscover :
    Yields (attached.initAndDiscover context) Harmless fun next => next.onu.Sound := by
  rw [initAndDiscover, yields_bind]
  refine (yields_event sound (by simp)).mono ?_
  intro next entered
  cases next with
  | none => exact sound
  | some initialized => exact yields_tryEvent_sound (entered _ rfl).sound (by simp)

private theorem yields_ponEnabled (mode : Mode) (source : PonState) :
    Yields (attached.ponEnabled mode source context) Harmless fun next => next.onu.Sound := by
  unfold ponEnabled
  split
  · exact yields_initAndDiscover sound
  · exact yields_initAndDiscover sound
  · exact yields_tryEvent_sound sound (by simp)
  · exact yields_tryEvent_sound sound (by simp)
  · split
    · exact yields_tryEvent_sound sound (by simp)
    · exact yields_initAndDiscover sound
    · exact yields_tryEvent_sound sound (by simp)
    · exact sound
  · split
    · exact yields_tryEvent_sound sound (by simp)
    · exact yields_initAndDiscover sound
    · exact yields_tryEvent_sound sound (by simp)
    · exact sound
  · exact sound

private theorem yields_ponDisabled :
    Yields (attached.ponDisabled context) Harmless fun next => next.onu.Sound := by
  unfold ponDisabled
  split
  · exact sound
  · exact yields_tryEvent_sound sound (by simp)

private theorem yields_reDiscoverOnu (oltState : OltState) :
    Yields (attached.reDiscoverOnu oltState context) Harmless fun next => next.onu.Sound := by
  unfold reDiscoverOnu
  split
  · exact sound
  · split
    · next discovered =>
      have isOpen := sound.isOpen (by simp [discovered]) (by simp [discovered])
      simpa [isOpen.writable] using (isOpen.enqueue _).sound
    · rw [yields_exceptBind]
      exact (yields_tryEvent_sound sound (by simp)).mono fun middle middleSound =>
        yields_tryEvent_sound middleSound (by simp)

theorem yields_powerUp : Yields (attached.powerUp context) Harmless fun next => next.onu.Open := by
  unfold powerUp
  split
  · next off =>
    apply yields_tryEvent_init
    rcases off with off | off <;> rw [off] <;> rfl
  · next on =>
    obtain ⟨notCreated, active⟩ := not_or.mp on
    exact sound.isOpen notCreated fun idle => active idle.1

private theorem yields_handlePowerOnOnu (oltState : OltState) :
    Yields (attached.handlePowerOnOnu oltState context) Harmless fun next => next.onu.Sound := by
  rw [handlePowerOnOnu_eq]
  split
  · exact sound
  · simp only [yields_exceptBind]
    refine (yields_powerUp sound).mono fun on isOpen => (yields_alarm isOpen _ _).mono ?_
    rintro cleared ⟨stillOpen, -⟩
    refine (yields_event stillOpen.sound (by simp)).mono ?_
    intro next entered
    cases next with
    | none => exact stillOpen.sound
    | some discovered =>
      dsimp only
      split
      · exact yields_tryEvent_sound (entered _ rfl).sound (by simp)
      · exact (entered _ rfl).sound

end AttachedOnu

variable {Port : Type}

/-- Only the entity ids of the ports matter once all of them are down. -/
theorem changesPort_of_down {meId : Port → UInt16} {operState : Port → PortState}
    {first second : Port → Port}
    (firstDown : ∀ port, meId (first port) = meId port ∧ operState (first port) = .down)
    (secondDown : ∀ port, meId (second port) = meId port ∧ operState (second port) = .down)
    (ports : List Port) (entity : UInt16) (adminState : UInt8) :
    changesPort meId operState (ports.map first) entity adminState =
      changesPort meId operState (ports.map second) entity adminState := by
  simp only [changesPort, List.find?_map, Option.any_map, Function.comp_def, firstDown, secondDown]

theorem UniPort.disable_getD (uni : UniPort) :
    (uni.disable.getD uni).meId = uni.meId ∧ (uni.disable.getD uni).operState = .down := by
  cases state : uni.operState <;> simp [UniPort.disable, PortState.after, state, transition, portEvents]

theorem PotsPort.disable_getD (pots : PotsPort) :
    (pots.disable.getD pots).meId = pots.meId ∧ (pots.disable.getD pots).operState = .down := by
  cases state : pots.operState <;>
    simp [PotsPort.disable, PortState.after, state, transition, portEvents]

namespace Onu

variable {onu : Onu}

private theorem disturbs_switchedOff (message : Message) :
    onu.switchedOff.disturbs message = onu.portsOff.disturbs message := by
  unfold disturbs
  split
  · rfl
  · rfl
  · rw [switchedOff_uniPorts, portsOff_uniPorts]
    apply changesPort_of_down UniPort.disable_getD
    exact fun _ => ⟨rfl, rfl⟩
  · rw [switchedOff_potsPorts, portsOff_potsPorts]
    apply changesPort_of_down PotsPort.disable_getD
    exact fun _ => ⟨rfl, rfl⟩
  · rfl

private theorem quiet_switchedOff (isOpen : onu.writable = true) (quiet : onu.portsOff.Quiet) :
    onu.switchedOff.Quiet := by
  intro message reached
  rw [disturbs_switchedOff]
  rcases mem_reachable.mp reached with current | ⟨chan, number, found, taken⟩
  · rw [pending_switchedOff isOpen] at current
    rcases List.mem_append.mp current with before | announced
    · exact quiet message (mem_reachable.mpr (.inl before))
    · -- the indication and the alarms of the ports that go down
      simp only [List.mem_cons, List.mem_append, uniAlarms, potsAlarms, List.mem_map] at announced
      rcases announced with rfl | ⟨uni, -, rfl⟩ | ⟨pots, -, rfl⟩ <;> rfl
  · rw [switchedOff_retired] at found
    refine quiet message (mem_reachable.mpr (.inr ⟨chan, number, found, ?_⟩))
    simpa [readers] using taken

theorem sound_switchedOff (isOpen : onu.writable = true) (disabled : onu.internalState = .disabled)
    (quiet : onu.flowIds = [] → onu.portsOff.Quiet) : onu.switchedOff.Sound := by
  constructor
  · intro created
    rw [switchedOff_internalState, disabled] at created
    cases created
  · intro _ shut
    rw [switchedOff_internalState, switchedOff_flowIds]
    by_cases drained : onu.flowIds = []
    · exact ⟨disabled, drained, quiet_switchedOff isOpen (quiet drained)⟩
    · rw [writable_switchedOff drained, isOpen] at shut
      cases shut

end Onu

namespace AttachedOnu

variable {attached : AttachedOnu} {context : Nat}

variable (sound : attached.onu.Sound)
include sound

theorem yields_tryDisable (may : attached.onu.MayDisable) :
    Yields (attached.tryEvent context .disable) Harmless fun next => next.onu.Sound := by
  unfold tryEvent event
  cases accepted : attached.onu.internalState.after .disable with
  | none => exact sound
  | some state =>
    obtain rfl : state = .disabled := by
      cases before : attached.onu.internalState <;> rw [before] at accepted <;>
        cases accepted <;> rfl
    obtain ⟨notCreated, active⟩ := OnuState.source_of_after accepted (by simp)
    have isOpen := sound.isOpen notCreated fun idle => active idle.1
    simp only [enter, yields_map, yields_enterDisabled, withOnu_onu, Onu.writable_moveTo]
    rw [if_pos isOpen.writable]
    exact Onu.sound_switchedOff isOpen.writable rfl (may (by simp [accepted]))

private theorem yields_deleteOnu (may : attached.onu.MayDisable) :
    Yields (attached.deleteOnu context) Harmless fun next => next.onu.Sound := by
  unfold deleteOnu
  split
  · exact sound
  · exact yields_tryDisable sound may

private theorem yields_handleShutdownOnu (exists_channel : attached.onu.internalState ≠ .created)
    (may : attached.onu.MayDisable) :
    Yields (attached.handleShutdownOnu context) Harmless fun next => next.onu.Sound := by
  rw [handleShutdownOnu_eq, yields_exceptBind, raiseLos]
  split
  · exact yields_tryDisable sound may
  · next active =>
    have isOpen := sound.isOpen exists_channel fun idle => active idle.1
    refine (yields_alarm isOpen _ _).mono ?_
    rintro alarmed ⟨stillOpen, messages, harmless, rfl⟩
    apply yields_tryDisable stillOpen.sound
    -- the alarm waits in the channel too, but disturbs nothing
    intro accepted drained message reached
    rcases Onu.mem_reachable.mp reached with current | replaced
    · have pending : (attached.onu.enqueue messages).pending = attached.onu.pending ++ messages :=
        Onu.pending_enqueue isOpen.writable messages
      rcases List.mem_append.mp (pending ▸ current) with before | alarm
      · exact may accepted drained message (Onu.mem_reachable.mpr (.inl before))
      · exact harmless message alarm _
    · exact may accepted drained message (Onu.mem_reachable.mpr (.inr replaced))

end AttachedOnu

namespace Onu

variable {onu : Onu} {index : Nat}

private theorem yields_changePort_sound {changed : Option Port} {alarm : Port → Message}
    {store : Onu → Port → Onu} (sound : onu.Sound) (ready : onu.Open ∨ changed = none)
    (stores : ∀ next port, next.Open → (store next port).Open) :
    Yields (onu.changePort changed alarm store) Harmless Onu.Sound := by
  refine yields_changePort.mpr ⟨fun _ => sound, fun port found => ?_⟩
  have isOpen : onu.Open := ready.resolve_right (by simp [found])
  rw [if_pos isOpen.writable]
  exact (stores _ port (isOpen.enqueue _)).sound

/-- A Set of the administrative state of a port that the ONU has. -/
theorem yields_setPort {meId : Port → UInt16} {operState : Port → PortState} {ports : List Port}
    {disable enable : Port → Option Port} {raised cleared : Port → Message}
    {store : Onu → Port → Onu} {entity : UInt16} {adminState : UInt8} (sound : onu.Sound)
    (disables : ∀ port, (operState port).after .disable = none → disable port = none)
    (enables : ∀ port, (operState port).after .enable = none → enable port = none)
    (stores : ∀ next port, next.Open → (store next port).Open)
    (ready : onu.Open ∨ changesPort meId operState ports entity adminState = false)
    (found : ports.findIdx? (fun port => meId port = entity) = some index) :
    Yields (if adminState = 1
      then onu.changePort (ports[index]?.bind disable) raised store
      else onu.changePort (ports[index]?.bind enable) cleared store)
        Harmless Onu.Sound := by
  rw [changesPort, find?_of_findIdx? found] at ready
  split
  · next lock =>
    refine yields_changePort_sound sound (ready.imp_right ?_) stores
    cases ports[index]? with
    | none => simp
    | some port => simpa [lock] using disables port
  · next unlock =>
    refine yields_changePort_sound sound (ready.imp_right ?_) stores
    cases ports[index]? with
    | none => simp
    | some port => simpa [unlock] using enables port

private theorem calm_incrementMibDataSync : Calm onu onu.incrementMibDataSync :=
  ⟨⟨rfl, rfl, List.Subset.refl _⟩, rfl, rfl, rfl⟩

private theorem calm_countOmciMsg : Calm onu onu.countOmciMsg :=
  ⟨⟨rfl, rfl, List.Subset.refl _⟩, rfl, rfl, rfl⟩

end Onu

namespace AttachedOnu

variable {attached : AttachedOnu} {context : Nat}

variable {request : OmciRequest}

private theorem yields_processOmci (sound : attached.onu.Sound)
    (ready : attached.onu.Ready (.omci request)) :
    Yields (attached.processOmci context request) Harmless fun result => result.1.onu.Sound := by
  have counts (mds : UInt8) : Onu.Calm attached.onu { attached.onu with mibDataSync := mds } :=
    ⟨⟨rfl, rfl, List.Subset.refl _⟩, rfl, rfl, rfl⟩
  apply yields_processOmci_of
  · exact fun mds => (counts mds).sound sound
  · intro mds tx image
    have other : tx ≠ .disable := by
      rintro rfl
      cases image
    have tried : Yields ((attached.withOnu { attached.onu with mibDataSync := mds }).tryEvent context tx)
        Harmless fun next => next.onu.Sound :=
      yields_tryEvent_sound ((counts mds).sound sound) other
    exact tried.value (tryEvent_image image)
  · rintro entity adminState index rfl found
    have set : Yields (if adminState = 1 then attached.onu.disableUni index
        else attached.onu.enableUni index) Harmless Onu.Sound := by
      rw [Onu.disableUni, Onu.enableUni, Onu.changeUni, Onu.changeUni]
      refine Onu.yields_setPort sound (fun _ => Option.map_eq_none_iff.mpr)
        (fun _ => Option.map_eq_none_iff.mpr) ?_ (ready.imp_right And.right) found
      exact fun _ _ isOpen => ⟨isOpen.writable, isOpen.exists_channel⟩
    exact set.mono fun _ after => Onu.calm_incrementMibDataSync.sound after
  · rintro entity adminState index rfl found
    have set : Yields (if adminState = 1 then attached.onu.disableOnePots index
        else attached.onu.enablePots index) Harmless Onu.Sound := by
      rw [Onu.disableOnePots, Onu.enablePots, Onu.changePots, Onu.changePots]
      refine Onu.yields_setPort sound (fun _ => Option.map_eq_none_iff.mpr)
        (fun _ => Option.map_eq_none_iff.mpr) ?_ (ready.imp_right And.right) found
      exact fun _ _ isOpen => ⟨isOpen.writable, isOpen.exists_channel⟩
    exact set.mono fun _ after => Onu.calm_incrementMibDataSync.sound after

private theorem yields_handleOmciRequest (sound : attached.onu.Sound)
    (ready : attached.onu.Ready (.omci request)) :
    Yields (attached.handleOmciRequest context request) Harmless fun result =>
      result.1.onu.Sound := by
  have calm : Onu.Calm attached.onu (attached.mapOnu Onu.countOmciMsg).onu := Onu.calm_countOmciMsg
  unfold handleOmciRequest
  dsimp only
  split
  · exact calm.sound sound
  · rw [yields_map]
    exact yields_processOmci (calm.sound sound) (calm.ready ready)

variable {onu : Onu}

private theorem yields_handleFlowAdd (isOpen : onu.Open) (flow : Flow) :
    Yields (onu.handleFlowAdd flow) Harmless Onu.Sound := by
  unfold Onu.handleFlowAdd
  split
  · rfl
  · exact Onu.Open.sound ⟨isOpen.writable, isOpen.exists_channel⟩

private theorem yields_handleFlowRemove (isOpen : onu.Open) {flow : Flow}
    (quiet : onu.internalState = .disabled → onu.flowIds.erase flow.flowId = [] → onu.Quiet) :
    Yields (onu.handleFlowRemove flow) Harmless Onu.Sound := by
  unfold Onu.handleFlowRemove
  dsimp only
  split
  · next last =>
    obtain ⟨drained, disabled⟩ := last
    have writable : ({ onu with flowIds := onu.flowIds.erase flow.flowId } : Onu).writable = true :=
      isOpen.writable
    rw [Onu.yields_closeChannel, if_pos writable]
    have quieter : Onu.Quieter onu
        ({ onu with flowIds := onu.flowIds.erase flow.flowId } : Onu).markClosed := by
      refine ⟨rfl, rfl, ?_⟩
      have pending : ({ onu with flowIds := onu.flowIds.erase flow.flowId } : Onu).markClosed.pending =
          onu.pending := by
        cases channel : onu.channel <;> simp [Onu.pending, channel]
      exact Onu.reachable_of_fewer_readers (by rw [pending]; exact List.Subset.refl _) rfl
        fun _ _ => Nat.le_refl _
    refine ⟨fun created => ?_, fun _ _ => ⟨disabled, drained, quieter.quiet (quiet disabled drained)⟩⟩
    exact absurd created isOpen.exists_channel
  · exact Onu.Open.sound ⟨isOpen.writable, isOpen.exists_channel⟩

private theorem yields_handle (sound : attached.onu.Sound) (ready : attached.onu.Ready message)
    (quiet : ∀ flow, message = .flowRemoved flow → attached.onu.internalState = .disabled →
      attached.onu.flowIds.erase flow.flowId = [] → attached.onu.Quiet) :
    Yields (attached.handle context message) Harmless fun next => next.onu.Sound := by
  cases message with
  | omci request =>
    rw [handle, yields_map]
    exact yields_handleOmciRequest sound ready
  | flowAdd flow =>
    have isOpen : attached.onu.Open := ready.resolve_right (by simp [Onu.disturbs])
    rw [handle, yields_map]
    exact yields_handleFlowAdd isOpen flow
  | flowRemoved flow =>
    have isOpen : attached.onu.Open := ready.resolve_right (by simp [Onu.disturbs])
    rw [handle, yields_map]
    exact yields_handleFlowRemove isOpen (quiet flow rfl)
  | _ => exact sound

theorem calm_received {onu rest : Onu} (received : Onu.Received onu message rest) :
    Onu.Calm onu rest := by
  refine ⟨⟨?_, ?_, received.rest_reachable⟩, ?_, ?_, received.writable⟩ <;> rw [received.frame]

private theorem yields_takeTurn (sound : attached.onu.Sound) {loop : Nat}
    (may : attached.onu.MayReceive loop) :
    Yields (attached.takeTurn context loop) Harmless fun next => next.onu.Sound := by
  unfold takeTurn
  cases turn : attached.onu.receive loop with
  | none => exact sound
  | some entry =>
    obtain ⟨message, rest⟩ := entry
    have received := Onu.receive_eq_some turn
    have calm : Onu.Calm attached.onu (attached.withOnu rest).onu := calm_received received
    apply yields_handle (calm.sound sound) (calm.ready (sound.ready received.message_reachable))
    rintro flow rfl
    simpa [Onu.MayReceive, turn] using may

theorem calm_stopLoop (loop : Nat) : Onu.Calm onu (onu.stopLoop loop) :=
  ⟨⟨rfl, rfl, Onu.reachable_stopLoop loop⟩, rfl, rfl, rfl⟩

private theorem sound_discard (sound : attached.onu.Sound) (loop : Nat) :
    (attached.discard loop).onu.Sound := by
  unfold discard
  cases turn : attached.onu.receive loop with
  | none => exact sound
  | some entry =>
    exact (calm_stopLoop loop).sound ((calm_received (Onu.receive_eq_some turn)).sound sound)

/-- One step keeps the invariant and uses no channel wrongly. -/
theorem yields_perform (sound : attached.onu.Sound) {action : OnuAction}
    (allowed : Disciplined attached action) :
    Yields (attached.perform context action) Harmless fun next => next.onu.Sound := by
  cases action with
  | event tx =>
    by_cases off : tx = .disable
    · subst off
      exact yields_tryDisable sound allowed
    · exact yields_tryEvent_sound sound off
  | activate id =>
    have calm : Onu.Calm attached.onu (attached.mapOnu ({ · with id := id })).onu :=
      ⟨⟨rfl, rfl, List.Subset.refl _⟩, rfl, rfl, rfl⟩
    exact yields_tryEvent_sound (calm.sound sound) (by simp)
  | ponEnabled mode source => exact yields_ponEnabled sound mode source
  | ponDisabled => exact yields_ponDisabled sound
  | shutdown => exact yields_handleShutdownOnu sound allowed.1 allowed.2
  | powerOn oltState => exact yields_handlePowerOnOnu sound oltState
  | reDiscover oltState => exact yields_reDiscoverOnu sound oltState
  | deleteOnu => exact yields_deleteOnu sound allowed
  | setAlarm alarmType status =>
    by_cases los : alarmType = "ONU_ALARM_LOS"
    · obtain ⟨exists_channel, busy⟩ := allowed los
      exact (yields_alarm (sound.isOpen exists_channel busy) _ _).mono fun _ after => after.1.sound
    · rw [perform, setAlarm, sendOmciAlarmNotificationMsg, if_neg los]
      exact sound
  | omciMsgOut request =>
    refine yields_sendIf _ (fun guard => sound.isOpen allowed fun idle => ?_) sound _
    exact of_decide_eq_true guard idle.1
  | flowAdd flow =>
    refine yields_sendIf _ (fun guard => sound.isOpen allowed fun idle => ?_) sound _
    exact (of_decide_eq_true guard).1 idle.1
  | flowRemove flow =>
    refine yields_sendIf _ (fun guard => ?_) sound _
    have held : flow.flowId ∈ attached.onu.flowIds := of_decide_eq_true guard
    have flows : attached.onu.flowIds ≠ [] := List.ne_nil_of_mem held
    exact sound.isOpen (fun created => flows (sound.created created).1) fun idle => flows idle.2
  | packetOut packet =>
    refine yields_sendIf _ (fun guard => ?_) sound _
    have enabled : attached.onu.internalState = .enabled := of_decide_eq_true guard
    exact sound.isOpen (by simp [enabled]) (by simp [enabled])
  | spawn =>
    have calm : Onu.Calm attached.onu (attached.onu.spawnLoop context) :=
      ⟨⟨rfl, rfl, Onu.reachable_spawnLoop context⟩, rfl, rfl, rfl⟩
    exact calm.sound sound
  | select loop =>
    have calm : Onu.Calm attached.onu (attached.onu.select loop) := by
      refine ⟨⟨?_, ?_, Onu.reachable_select loop⟩, ?_, ?_, ?_⟩ <;> unfold Onu.select <;> split <;> rfl
    exact calm.sound sound
  | receive loop => exact yields_takeTurn sound allowed
  | discard loop => exact sound_discard sound loop
  | stop loop => exact (calm_stopLoop loop).sound sound
  | others resources => exact sound

end AttachedOnu

theorem Onu.sound_create (id ponPortId : UInt32) (serialNumber : SerialRef)
    (vendorSpecific : List UInt8) (uniPorts : List UniPort) (potsPorts : List PotsPort)
    (omciResponseRate : UInt8) :
    (Onu.create id ponPortId serialNumber vendorSpecific uniPorts potsPorts omciResponseRate).Sound :=
  ⟨fun _ => ⟨rfl, rfl⟩, fun exists_channel => absurd rfl exists_channel⟩

/-- From a new ONU on, disciplined actions in any order neither send on a missing or closed channel
nor close a channel twice: the only way one can fail is a flow for a UNI that does not exist. -/
theorem onu_channel_disciplined {id ponPortId : UInt32} {serialNumber : SerialRef}
    {vendorSpecific : List UInt8} {uniPorts : List UniPort} {potsPorts : List PotsPort}
    {omciResponseRate : UInt8} {resources : PonResources}
    {history : List (AttachedOnu × Nat × OnuAction)} {final : AttachedOnu}
    (run : Run AttachedOnu.step ⟨Onu.create id ponPortId serialNumber vendorSpecific uniPorts
      potsPorts omciResponseRate, resources⟩ history final)
    (disciplined : Meets (fun attached label => Disciplined attached label.2) history)
    {action : OnuAction} (allowed : Disciplined final action) (context : Nat) :
    (∃ next, final.perform context action = .ok next) ∨
      final.perform context action = .error .nilUni := by
  have sound : final.onu.Sound := by
    apply run.invariant disciplined
    · exact Onu.sound_create _ _ _ _ _ _ _
    · intro attached label next before permitted taken
      exact (AttachedOnu.yields_perform before permitted).value (eq_ok_of_toOption taken)
  cases outcome : final.perform context action with
  | ok next => exact .inl ⟨next, rfl⟩
  | error fault =>
    have harmless : fault = .nilUni := (AttachedOnu.yields_perform sound allowed).error outcome
    exact .inr (by rw [harmless])

def newOnu : AttachedOnu :=
  ⟨Onu.create 1 0 0 [0, 0, 0, 1] [⟨0, 257, 0, .down, [], 0⟩] [] 10, .empty⟩

def bringUp : List (Nat × OnuAction) :=
  [(0, .event .init), (0, .event .discover), (0, .activate 1)]

/-- An ONU with an alarm in its channel is shut down, and powered on once more. -/
theorem onu_channel_disciplined_powerCycle : ∃ history final,
    Run AttachedOnu.step newOnu history final ∧
      ((∃ next, final.perform 0 (.powerOn .enabled) = .ok next) ∨
        final.perform 0 (.powerOn .enabled) = .error .nilUni) := by
  obtain ⟨history, final, run, disciplined, -⟩ := run_of_guarded_replay
    (fun attached (label : Nat × OnuAction) => Disciplined attached label.2) AttachedOnu.step newOnu
    (bringUp ++ ([(0, .setAlarm "ONU_ALARM_LOS" "on"), (0, .shutdown)] : List (Nat × OnuAction)))
    (fun _ => True) (by decide +kernel)
  have allowed : Disciplined final (.powerOn .enabled) := trivial
  exact ⟨history, final, run, onu_channel_disciplined run disciplined allowed 0⟩

/-- `HandleShutdownONU` closes the channel of an ONU without flows; the API then sets its alarm. -/
theorem setAlarm_after_shutdown_sends_on_closed : ∃ history final,
    Run AttachedOnu.step newOnu history final ∧
      final.perform 0 (.setAlarm "ONU_ALARM_LOS" "on") = .error .sendOnClosedChannel := by
  obtain ⟨history, final, run, failed⟩ := run_of_replay AttachedOnu.step newOnu
    (bringUp ++ ([(0, .shutdown)] : List (Nat × OnuAction)))
    (fun final => fails (final.perform 0 (.setAlarm "ONU_ALARM_LOS" "on")) .sendOnClosedChannel = true)
    (by decide +kernel)
  exact ⟨history, final, run, eq_error_of_fails failed⟩

end Bbsim.Devices
