import Bbsim.Devices.Delivery

/-! ONUs that take messages. Once an ONU is initialised its channel stays open until the ONU is
disabled, whatever its loops do and in whatever order the events come. -/

namespace Bbsim.Devices

open Foundation

/-- Between the event that initialises it and the one that disables it, the ONU has an open channel. -/
def Onu.Live (onu : Onu) : Prop :=
  onu.internalState ≠ .created → onu.internalState ≠ .disabled → onu.writable = true

namespace Onu

variable {onu next : Onu} {index : Nat}

/-- The channel stays open, and the ONU is neither disabled nor newly created. -/
structure StaysLive (onu next : Onu) : Prop where
  writable : onu.writable = true → next.writable = true
  created : onu.internalState = .created → next.internalState = .created
  disabled : onu.internalState = .disabled → next.internalState = .disabled

theorem StaysLive.live (stays : StaysLive onu next) (live : onu.Live) : next.Live :=
  fun notCreated notDisabled => stays.writable <|
    live (fun created => notCreated (stays.created created))
      fun disabled => notDisabled (stays.disabled disabled)

theorem staysLive_of_same (channel : next.writable = onu.writable)
    (internalState : next.internalState = onu.internalState) : StaysLive onu next :=
  ⟨channel.trans, internalState.trans, internalState.trans⟩

theorem ensures_send_staysLive (message : Message) : Ensures (onu.send message) (StaysLive onu) := by
  rw [Ensures, yields_send]
  split
  · exact staysLive_of_same (writable_enqueue _) rfl
  · trivial

theorem staysLive_received {message : Message} (received : onu.receive index = some (message, next)) :
    StaysLive onu next := by
  have turn := receive_eq_some received
  exact staysLive_of_same turn.writable (by rw [turn.frame])

theorem staysLive_tried {tx : OnuTx} (image : tx.isImage = true) : StaysLive onu (onu.tried tx) := by
  refine ⟨fun isOpen => isOpen, fun created => ?_, fun disabled => ?_⟩
  · rw [tried_internalState, created]
    cases tx <;> first | rfl | cases image
  · rw [tried_internalState, disabled]
    cases tx <;> first | rfl | cases image

end Onu

namespace AttachedOnu

variable {attached next : AttachedOnu} {context : Nat} {tx : OnuTx} {state : OnuState}

private theorem live_entered (live : attached.onu.Live)
    (accepted : attached.onu.internalState.after tx = some state) :
    (attached.entered context state).onu.Live := by
  intro notCreated notDisabled
  rw [entered_internalState] at notCreated notDisabled
  by_cases initial : tx = .init
  · subst initial
    obtain rfl := OnuState.after_init accepted
    rfl
  · obtain ⟨created, disabled⟩ := OnuState.source_of_after accepted initial
    have isOpen := live created disabled
    cases state with
    | created => exact absurd rfl notCreated
    | disabled => exact absurd rfl notDisabled
    | initialized => rfl
    | enabled =>
      unfold entered
      cases attached.resources.isOnuIdAllocated attached.onu.id <;> simpa using isOpen
    | discovered => simpa [entered] using isOpen
    | _ => exact isOpen

/-- The ONU after an event, which may be refused. -/
def tried (attached : AttachedOnu) (context : Nat) (tx : OnuTx) : AttachedOnu :=
  ((attached.onu.internalState.after tx).map (attached.entered context)).getD attached

@[simp] theorem tried_internalState :
    (attached.tried context tx).onu.internalState = attached.onu.internalState.tried tx := by
  rw [tried, OnuState.tried]
  cases attached.onu.internalState.after tx with
  | none => rfl
  | some state => exact entered_internalState

section

variable (live : attached.onu.Live)
include live

theorem live_tried : (attached.tried context tx).onu.Live := by
  unfold tried
  cases accepted : attached.onu.internalState.after tx with
  | none => exact live
  | some state => exact live_entered live accepted

/-- Whatever the event, its callback gets through: only the initial one is accepted where the channel
may be missing or closed. -/
theorem event_of_live :
    attached.event context tx =
      .ok ((attached.onu.internalState.after tx).map (attached.entered context)) := by
  unfold event
  cases accepted : attached.onu.internalState.after tx with
  | none => rfl
  | some state =>
    by_cases initial : tx = .init
    · subst initial
      obtain rfl := OnuState.after_init accepted
      rfl
    · obtain ⟨created, disabled⟩ := OnuState.source_of_after accepted initial
      simp only [enter_of_writable (live created disabled)]
      rfl

theorem tryEvent_of_live : attached.tryEvent context tx = .ok (attached.tried context tx) := by
  rw [tryEvent, event_of_live live]
  rfl

private theorem ensures_tryEvent_live :
    Ensures (attached.tryEvent context tx) fun next => next.onu.Live := by
  rw [tryEvent_of_live live]
  exact live_tried live

end

private theorem ensures_processOmci_staysLive {request : OmciRequest} :
    Ensures (attached.processOmci context request) fun result =>
      Onu.StaysLive attached.onu result.1.onu := by
  apply ensures_processOmci_of
  · exact fun _ => Onu.staysLive_of_same rfl rfl
  · intro mds tx image
    have stays : Onu.StaysLive { attached.onu with mibDataSync := mds } _ :=
      Onu.staysLive_tried image
    exact ⟨stays.writable, stays.created, stays.disabled⟩
  · intro onu moved
    have state : onu.internalState = attached.onu.internalState := by rw [moved.frame]
    exact Onu.staysLive_of_same moved.writable state

private theorem ensures_handle_live (live : attached.onu.Live) (message : Message) :
    Ensures (attached.handle context message) fun next => next.onu.Live := by
  cases message with
  | omci request =>
    rw [handle, Ensures, yields_map, handleOmciRequest]
    dsimp only
    split
    · exact live
    · rw [yields_map]
      exact ensures_processOmci_staysLive.mono fun _ stays => stays.live live
  | flowAdd flow =>
    rw [handle, Ensures, yields_map, Onu.handleFlowAdd]
    split
    · trivial
    · exact live
  | flowRemoved flow =>
    rw [handle, Ensures, yields_map, Onu.handleFlowRemove]
    dsimp only
    split
    · -- the channel is closed with the last flow of a disabled ONU
      next last =>
      rw [Onu.yields_closeChannel]
      split
      · exact fun _ notDisabled => absurd last.2 notDisabled
      · trivial
    · exact live
  | _ => exact live

end AttachedOnu

namespace LoopSite

variable {site next : LoopSite}

theorem step_live (live : site.onu.Live) {label : LoopStep} (taken : site.step label = some next) :
    next.onu.Live := by
  have changed := step_changed taken
  unfold onu at live ⊢
  generalize next.attached = attached at changed ⊢
  cases changed with
  | loops loops | responded uni service eapolState dhcpState groupAddresses => exact live
  | event tx tried => exact (AttachedOnu.ensures_tryEvent_live live).value tried
  | sent message sent => exact ((Onu.ensures_send_staysLive message).value sent).live live
  | @handled index message rest next received handled =>
    have before : (site.attached.withOnu rest).onu.Live := (Onu.staysLive_received received).live live
    exact (AttachedOnu.ensures_handle_live before message).value handled
  | discarded received => exact (Onu.staysLive_received received).live live

end LoopSite

/-- What an ONU and its UNIs keep from their creation on. -/
structure Onu.Coherent (onu : Onu) : Prop where
  live : onu.Live
  unis : ∀ uni ∈ onu.uniPorts, uni.Coherent

/-- What also the loops of the UNIs keep: a UNI that is up has one that receives. -/
structure DeliverySite.Coherent (delivery : DeliverySite) : Prop where
  onu : delivery.onu.Coherent
  received : ∀ index uni, delivery.onu.uniPorts[index]? = some uni → uni.operState = .up →
    delivery.receives index = true

theorem DeliverySite.step_live {delivery next : DeliverySite} {label : DeliveryStep}
    (live : delivery.onu.Live) (taken : delivery.step label = some next) : next.onu.Live := by
  cases label with
  | onu label =>
    obtain ⟨after, moved, rfl⟩ := Option.map_eq_some_iff.mp taken
    exact LoopSite.step_live live moved
  | forward index position =>
    rw [forward_onu taken]
    exact live

end Bbsim.Devices
