import Bbsim.Devices.OnuActions
import Bbsim.Devices.OnuEffects

/-! What an action changes on the PON. The part of an action that the other ONUs of the PON can see:
the id of the ONU, whether it is past its enabling, and the tables of ONU ids and alloc ids. -/

namespace Bbsim.Devices

open Foundation

/-- Enabled, or in one of the states of an image download. -/
def OnuState.pastEnable : OnuState → Bool
  | .created | .initialized | .discovered | .disabled | .ponDisabled => false
  | _ => true

def Onu.pastEnable (onu : Onu) : Bool := onu.internalState.pastEnable

inductive PonChange where
  | nothing
  /-- The ONU is enabled, with this id. -/
  | enable (id : UInt32)
  /-- `ActivateOnu` of an ONU that refuses to be enabled. -/
  | rename (id : UInt32)
  | cleanup
  | resetMib
  | storeAllocId (entity allocId : UInt16)
  | removeAllocId (entity : UInt16)

namespace PonChange

def id : PonChange → UInt32 → UInt32
  | .enable id, _ | .rename id, _ => id
  | _, id => id

def pastEnable : PonChange → Bool → Bool
  | .enable _, _ => true
  | .cleanup, _ => false
  | _, past => past

/-- The table of ONU ids after the change. -/
def onuIds (attached : AttachedOnu) : PonChange → FiniteMap UInt32 SerialRef
  | .enable id => (attached.resources.claimOnuId id attached.onu.serialNumber).allocatedOnuIds
  | .cleanup => (attached.resources.removeOnuId attached.onu.id).allocatedOnuIds
  | _ => attached.resources.allocatedOnuIds

/-- The table of alloc ids after the change. -/
def allocIds (attached : AttachedOnu) : PonChange → FiniteMap AllocIdKey AllocIdVal
  | .cleanup | .resetMib =>
    (attached.resources.removeAllocIdsForOnuSn attached.onu.serialNumber).allocatedAllocIds
  | .storeAllocId entity allocId =>
    (attached.resources.storeAllocId attached.onu.ponPortId attached.onu.id entity allocId
      attached.onu.serialNumber).allocatedAllocIds
  | .removeAllocId entity =>
    (attached.resources.removeAllocId attached.onu.ponPortId attached.onu.id entity).allocatedAllocIds
  | _ => attached.resources.allocatedAllocIds

end PonChange

def Onu.eventChange (onu : Onu) (tx : OnuTx) : PonChange :=
  match onu.internalState.after tx with
  | some .enabled => .enable onu.id
  | some .disabled | some .ponDisabled => .cleanup
  | _ => .nothing

namespace AttachedOnu

def omciChange (attached : AttachedOnu) : OmciRequest → PonChange
  | .mibReset => .resetMib
  | .setTCont entity allocId =>
    if allocId = 255 ∨ allocId = 65535 then .removeAllocId entity
    else if (attached.resources.isAllocIdAllocated attached.onu.ponPortId attached.onu.id
        entity).isSome then .nothing
    else .storeAllocId entity allocId
  | _ => .nothing

/-- The change a message makes when it is handled: some OMCI requests are dropped. -/
def messageChange (attached : AttachedOnu) : Message → PonChange
  | .omci request =>
    if attached.onu.countOmciMsg.omciMsgCounter > attached.onu.omciResponseRate then .nothing
    else attached.omciChange request
  | _ => .nothing

def change (attached : AttachedOnu) : OnuAction → PonChange
  | .event tx => attached.onu.eventChange tx
  | .activate id =>
    if (attached.onu.internalState.after .enable).isSome then .enable id else .rename id
  | .ponEnabled mode source =>
    if source = .disabled ∧ (mode = .default ∨ mode = .onlyPon) ∧
        attached.onu.internalState = .ponDisabled then .enable attached.onu.id
    else .nothing
  | .ponDisabled => attached.onu.eventChange .ponDisable
  | .shutdown | .deleteOnu => attached.onu.eventChange .disable
  | .powerOn oltState =>
    -- only a power cycle enables the ONU, a first power-on leaves it discovered
    if oltState ≠ .deleted ∧ attached.onu.internalState = .disabled then .enable attached.onu.id
    else .nothing
  | .receive loop =>
    match attached.onu.receive loop with
    | none => .nothing
    | some (message, _) => attached.messageChange message
  | _ => .nothing

end AttachedOnu

/-- The action had this effect and no other. -/
structure Moved (attached : AttachedOnu) (change : PonChange) (next : AttachedOnu) : Prop where
  serialNumber : next.onu.serialNumber = attached.onu.serialNumber
  ponPortId : next.onu.ponPortId = attached.onu.ponPortId
  id : next.onu.id = change.id attached.onu.id
  pastEnable : next.onu.pastEnable = change.pastEnable attached.onu.pastEnable
  onuIds : next.resources.allocatedOnuIds = change.onuIds attached
  allocIds : next.resources.allocatedAllocIds = change.allocIds attached

/-- The parts of an ONU that its PON knows. -/
structure Onu.Alike (onu next : Onu) : Prop where
  serialNumber : next.serialNumber = onu.serialNumber
  ponPortId : next.ponPortId = onu.ponPortId
  id : next.id = onu.id
  internalState : next.internalState = onu.internalState

namespace Moved

variable {attached middle next : AttachedOnu} {change : PonChange}

theorem of_alike (alike : Onu.Alike attached.onu next.onu)
    (onuIds : next.resources.allocatedOnuIds = attached.resources.allocatedOnuIds)
    (allocIds : next.resources.allocatedAllocIds = attached.resources.allocatedAllocIds) :
    Moved attached .nothing next :=
  ⟨alike.serialNumber, alike.ponPortId, alike.id,
    congrArg OnuState.pastEnable alike.internalState, onuIds, allocIds⟩

theorem withOnu {onu : Onu} (alike : Onu.Alike attached.onu onu) :
    Moved attached .nothing (attached.withOnu onu) :=
  of_alike alike rfl rfl

theorem mapOnu {onuChange : Onu → Onu} (alike : Onu.Alike attached.onu (onuChange attached.onu)) :
    Moved attached .nothing (attached.mapOnu onuChange) :=
  of_alike alike rfl rfl

theorem refl (attached : AttachedOnu) : Moved attached .nothing attached :=
  of_alike ⟨rfl, rfl, rfl, rfl⟩ rfl rfl

/-- Something that the PON does not see comes first. -/
theorem after (quiet : Moved attached .nothing middle) (moved : Moved middle change next) :
    Moved attached change next := by
  have id : middle.onu.id = attached.onu.id := quiet.id
  have past : middle.onu.pastEnable = attached.onu.pastEnable := quiet.pastEnable
  have ids : middle.resources.allocatedOnuIds = attached.resources.allocatedOnuIds := quiet.onuIds
  have allocs : middle.resources.allocatedAllocIds = attached.resources.allocatedAllocIds :=
    quiet.allocIds
  refine ⟨moved.serialNumber.trans quiet.serialNumber, moved.ponPortId.trans quiet.ponPortId,
    id ▸ moved.id, past ▸ moved.pastEnable, moved.onuIds.trans ?_, moved.allocIds.trans ?_⟩
  · cases change <;>
      simp only [PonChange.onuIds, PonResources.claimOnuId, PonResources.isOnuIdAllocated,
        PonResources.storeOnuId, PonResources.removeOnuId, ids, id, quiet.serialNumber]
    split <;> simp [ids]
  · cases change <;>
      simp only [PonChange.allocIds, PonResources.removeAllocIdsForOnuSn, PonResources.storeAllocId,
        PonResources.removeAllocId, allocs, id, quiet.serialNumber, quiet.ponPortId]

end Moved

/-- Events into other states leave an ONU before or past its enabling. -/
theorem OnuState.pastEnable_after {state entered : OnuState} {tx : OnuTx}
    (accepted : state.after tx = some entered) (enabled : entered ≠ .enabled)
    (disabled : entered ≠ .disabled) (ponDisabled : entered ≠ .ponDisabled) :
    entered.pastEnable = state.pastEnable := by
  cases tx <;> cases state <;> cases accepted <;> first | rfl | contradiction

variable {state : OnuState}

theorem OnuState.not_pastEnable_of_enabled {tx : OnuTx}
    (accepted : state.after tx = some .enabled) : state.pastEnable = false := by
  cases tx <;> cases state <;> first | rfl | cases accepted

theorem OnuState.pastEnable_tried {tx : OnuTx} (image : tx.isImage = true) :
    (state.tried tx).pastEnable = state.pastEnable := by
  cases tx <;> cases state <;> first | rfl | cases image

theorem Onu.eventChange_enable (onu : Onu) :
    onu.eventChange .enable =
      if (onu.internalState.after .enable).isSome then .enable onu.id else .nothing := by
  unfold eventChange
  cases onu.internalState <;> rfl

/-- Most events change nothing that the PON knows. -/
def OnuTx.quiet : OnuTx → Bool
  | .enable | .disable | .ponDisable => false
  | _ => true

theorem Onu.eventChange_eq_nothing {onu : Onu} {tx : OnuTx} (quiet : tx.quiet = true) :
    onu.eventChange tx = .nothing := by
  unfold eventChange
  cases tx <;> cases onu.internalState <;> first | rfl | cases quiet

namespace AttachedOnu

variable {attached : AttachedOnu} {context : Nat} {tx : OnuTx}

theorem moved_entered (accepted : attached.onu.internalState.after tx = some state) :
    Moved attached (attached.onu.eventChange tx) (attached.entered context state) := by
  have effects : attached.Effects context state (attached.entered context state) := entered_effects
  have resources := effects.resources
  have past : (attached.entered context state).onu.pastEnable = state.pastEnable := by
    rw [Onu.pastEnable, entered_internalState]
  cases state with
  | enabled =>
    rw [Onu.eventChange, accepted]
    refine ⟨effects.serialNumber, effects.ponPortId, effects.id, past, congrArg _ resources, ?_⟩
    rw [resources]
    exact PonResources.claimOnuId_allocatedAllocIds ..
  | disabled | ponDisabled =>
    rw [Onu.eventChange, accepted]
    exact ⟨effects.serialNumber, effects.ponPortId, effects.id, past, by rw [resources]; rfl,
      by rw [resources]; rfl⟩
  | _ =>
    rw [Onu.eventChange, accepted]
    refine ⟨effects.serialNumber, effects.ponPortId, effects.id, past.trans ?_,
      congrArg _ resources, congrArg _ resources⟩
    exact OnuState.pastEnable_after accepted (by decide) (by decide) (by decide)

theorem moved_entered_quiet (accepted : attached.onu.internalState.after tx = some state)
    (quiet : tx.quiet = true) :
    Moved attached .nothing (attached.entered context state) := by
  rw [← attached.onu.eventChange_eq_nothing quiet]
  exact moved_entered accepted

theorem ensures_tryEvent_moves :
    Ensures (attached.tryEvent context tx) (Moved attached (attached.onu.eventChange tx)) := by
  refine ensures_tryEvent.mono fun next same => ?_
  subst same
  cases accepted : attached.onu.internalState.after tx with
  | none =>
    rw [Onu.eventChange, accepted]
    exact .refl attached
  | some state => exact moved_entered accepted

theorem ensures_tryEvent_quiet (quiet : tx.quiet = true) :
    Ensures (attached.tryEvent context tx) (Moved attached .nothing) := by
  rw [← attached.onu.eventChange_eq_nothing quiet]
  exact ensures_tryEvent_moves

end AttachedOnu

variable {message : Message}

namespace Onu

variable {onu : Onu} {index : Nat} {raiseOmciAlarm : Bool}

theorem ensures_send_alike : Ensures (onu.send message) (Alike onu) := by
  rw [Ensures, yields_send]
  split
  · exact ⟨rfl, rfl, rfl, rfl⟩
  · trivial

theorem PortMoved.alike {next : Onu} (moved : PortMoved onu next) : Alike onu next := by
  rw [moved.frame]
  exact ⟨rfl, rfl, rfl, rfl⟩

theorem alike_of_receive {rest : Onu} (received : onu.receive index = some (message, rest)) :
    Alike onu rest := by
  rw [(receive_eq_some received).frame]
  exact ⟨rfl, rfl, rfl, rfl⟩

end Onu

namespace AttachedOnu

variable {attached : AttachedOnu} {context : Nat}

private theorem moved_setTCont {entity allocId : UInt16} :
    Moved attached (attached.omciChange (.setTCont entity allocId))
      (attached.setTCont entity allocId).1 := by
  simp only [setTCont, omciChange]
  split
  · exact ⟨rfl, rfl, rfl, rfl, rfl, rfl⟩
  · cases attached.resources.isAllocIdAllocated attached.onu.ponPortId attached.onu.id entity with
    | some _ => exact .refl attached
    | none => exact ⟨rfl, rfl, rfl, rfl, rfl, rfl⟩

private theorem moved_createGemPort {entity : UInt16} :
    Moved attached .nothing (attached.createGemPort entity).1 := by
  unfold createGemPort
  split
  · exact ⟨rfl, rfl, rfl, rfl, rfl, rfl⟩
  · split
    · exact .refl attached
    · exact ⟨rfl, rfl, rfl, rfl, rfl, rfl⟩

variable {request : OmciRequest}

private theorem ensures_processOmci_change :
    Ensures (attached.processOmci context request) fun result =>
      Moved attached (attached.omciChange request) result.1 := by
  have onus : Ensures (attached.processOmci context request) fun result =>
      Moved attached .nothing (attached.withOnu result.1.onu) := by
    refine @ensures_processOmci_of attached context request
      (fun onu => Moved attached .nothing (attached.withOnu onu)) ?_ ?_ ?_
    · exact fun _ => .withOnu ⟨rfl, rfl, rfl, rfl⟩
    · exact fun _ _ image => ⟨rfl, rfl, rfl, OnuState.pastEnable_tried image, rfl, rfl⟩
    · intro onu moved
      have alike := moved.alike
      exact .withOnu ⟨alike.serialNumber, alike.ponPortId, alike.id, alike.internalState⟩
  have quiet (kept : attached.omciResources request = attached.resources) :
      Ensures (attached.processOmci context request) fun result =>
        Moved attached .nothing result.1 := by
    refine ensures_of_ok fun result returned => ?_
    have moved := onus.value returned
    have resources := (ensures_processOmci_resources.value returned).trans kept
    exact ⟨moved.serialNumber, moved.ponPortId, moved.id, moved.pastEnable, congrArg _ resources,
      congrArg _ resources⟩
  cases request with
  | mibReset | deleteGemPort entity => exact ⟨rfl, rfl, rfl, rfl, rfl, rfl⟩
  | setTCont entity allocId => exact moved_setTCont
  | createGemPort entity => exact moved_createGemPort
  | _ => exact quiet rfl

theorem ensures_handle_change :
    Ensures (attached.handle context message) (Moved attached (attached.messageChange message)) := by
  cases message with
  | omci request =>
    rw [handle, Ensures, yields_map, messageChange]
    have counted : Moved attached .nothing (attached.mapOnu Onu.countOmciMsg) :=
      .mapOnu ⟨rfl, rfl, rfl, rfl⟩
    by_cases dropped : attached.onu.countOmciMsg.omciMsgCounter > attached.onu.omciResponseRate
    · rw [if_pos dropped, show attached.handleOmciRequest context request = _ from if_pos dropped]
      exact counted
    · rw [if_neg dropped, show attached.handleOmciRequest context request = _ from if_neg dropped,
        yields_map]
      exact ensures_processOmci_change.mono fun result moved => counted.after moved
  | flowAdd flow =>
    rw [handle, Ensures, yields_map, Onu.handleFlowAdd]
    split
    · trivial
    · exact .withOnu ⟨rfl, rfl, rfl, rfl⟩
  | flowRemoved flow =>
    rw [handle, Ensures, yields_map, Onu.handleFlowRemove]
    dsimp only
    split
    · rw [Onu.yields_closeChannel]
      split
      · exact .withOnu ⟨rfl, rfl, rfl, rfl⟩
      · trivial
    · exact .withOnu ⟨rfl, rfl, rfl, rfl⟩
  | _ => exact .refl attached

/-- A call that leaves the resources alone, and the ONU as the PON knows it. -/
structure Unseen (attached next : AttachedOnu) : Prop where
  onu : Onu.Alike attached.onu next.onu
  resources : next.resources = attached.resources

variable {next : AttachedOnu}

theorem Unseen.moved (unseen : Unseen attached next) : Moved attached .nothing next :=
  .of_alike unseen.onu (by rw [unseen.resources]) (by rw [unseen.resources])

theorem Unseen.eventChange (unseen : Unseen attached next) (tx : OnuTx) :
    next.onu.eventChange tx = attached.onu.eventChange tx := by
  rw [Onu.eventChange, Onu.eventChange, unseen.onu.internalState, unseen.onu.id]

private theorem ensures_sendIf_unseen {guard : Bool} :
    Ensures (attached.sendIf guard message) (Unseen attached) := by
  unfold sendIf
  split
  · rw [Ensures, yields_map]
    exact Onu.ensures_send_alike.mono fun onu alike => ⟨alike, rfl⟩
  · exact ⟨⟨rfl, rfl, rfl, rfl⟩, rfl⟩

theorem ensures_sendOmciAlarm_unseen {raiseOmciAlarm : Bool} {alarmType : String} :
    Ensures (attached.sendOmciAlarmNotificationMsg raiseOmciAlarm alarmType) (Unseen attached) := by
  unfold sendOmciAlarmNotificationMsg
  split
  · rw [Ensures, yields_map]
    exact Onu.ensures_send_alike.mono fun onu alike => ⟨alike, rfl⟩
  · exact ⟨⟨rfl, rfl, rfl, rfl⟩, rfl⟩

private theorem ensures_raiseLos_unseen : Ensures attached.raiseLos (Unseen attached) := by
  unfold raiseLos
  split
  · exact ⟨⟨rfl, rfl, rfl, rfl⟩, rfl⟩
  · exact ensures_sendOmciAlarm_unseen

private theorem ensures_handleShutdownOnu_change :
    Ensures (attached.handleShutdownOnu context)
      (Moved attached (attached.onu.eventChange .disable)) := by
  rw [handleShutdownOnu_eq, Ensures, yields_exceptBind]
  refine ensures_raiseLos_unseen.mono fun alarmed unseen => ?_
  rw [← unseen.eventChange]
  exact ensures_tryEvent_moves.mono fun next moved => unseen.moved.after moved

private theorem ensures_deleteOnu_change :
    Ensures (attached.deleteOnu context) (Moved attached (attached.onu.eventChange .disable)) := by
  unfold deleteOnu
  split
  · next off =>
    have refused : attached.onu.eventChange .disable = .nothing := by
      rw [Onu.eventChange, off]
      rfl
    rw [refused]
    exact .refl attached
  · exact ensures_tryEvent_moves

private theorem ensures_ponDisabled_change :
    Ensures (attached.ponDisabled context)
      (Moved attached (attached.onu.eventChange .ponDisable)) := by
  unfold AttachedOnu.ponDisabled
  split
  · next off =>
    have refused : attached.onu.eventChange .ponDisable = .nothing := by
      rcases off with off | off <;> rw [Onu.eventChange, off] <;> rfl
    rw [refused]
    exact .refl attached
  · exact ensures_tryEvent_moves

private theorem ensures_activate_change {id : UInt32} :
    Ensures ((attached.mapOnu ({ · with id := id })).tryEvent context .enable)
      (Moved attached (attached.change (.activate id))) := by
  have renamed : (attached.mapOnu ({ · with id := id })).onu.eventChange .enable =
      if (attached.onu.internalState.after .enable).isSome then .enable id else .nothing :=
    Onu.eventChange_enable _
  refine ensures_tryEvent_moves.mono fun next moved => ?_
  rw [renamed] at moved
  rw [change]
  split at moved
  · next accepted =>
    rw [if_pos accepted]
    exact ⟨moved.serialNumber, moved.ponPortId, moved.id, moved.pastEnable, moved.onuIds,
      moved.allocIds⟩
  · next refused =>
    rw [if_neg refused]
    exact ⟨moved.serialNumber, moved.ponPortId, moved.id, moved.pastEnable, moved.onuIds,
      moved.allocIds⟩

private theorem ensures_initAndDiscover_quiet :
    Ensures (attached.initAndDiscover context) (Moved attached .nothing) := by
  rw [initAndDiscover, Ensures, yields_bind]
  refine ensures_event.mono fun result same => ?_
  subst same
  cases accepted : attached.onu.internalState.after .init with
  | none => exact .refl attached
  | some state =>
    have first : Moved attached .nothing (attached.entered context state) :=
      moved_entered_quiet accepted rfl
    have then_discover : Ensures ((attached.entered context state).tryEvent context .discover)
        (Moved (attached.entered context state) .nothing) := ensures_tryEvent_quiet rfl
    exact then_discover.mono fun next moved => first.after moved

private theorem ensures_ponEnabled_change {mode : Mode} {source : PonState} :
    Ensures (attached.ponEnabled mode source context)
      (Moved attached (attached.change (.ponEnabled mode source))) := by
  have enabling : attached.onu.internalState = .ponDisabled →
      Ensures (attached.tryEvent context .enable) (Moved attached (.enable attached.onu.id)) := by
    intro off
    have accepted : attached.onu.eventChange .enable = .enable attached.onu.id := by
      rw [Onu.eventChange_enable, off]
      rfl
    rw [← accepted]
    exact ensures_tryEvent_moves
  have initialising : Ensures (attached.tryEvent context .init) (Moved attached .nothing) :=
    ensures_tryEvent_quiet rfl
  have discovering : Ensures (attached.tryEvent context .discover) (Moved attached .nothing) :=
    ensures_tryEvent_quiet rfl
  cases source with
  | created =>
    cases mode with
    | default | onlyPon => exact ensures_initAndDiscover_quiet
    | onlyOnu | both => exact .refl attached
  | enabled => cases mode <;> exact .refl attached
  | disabled =>
    cases mode with
    | onlyOnu | both => exact initialising
    | default | onlyPon =>
      by_cases off : attached.onu.internalState = .ponDisabled
      · rw [change, if_pos ⟨rfl, by decide, off⟩]
        simp only [ponEnabled, off]
        exact enabling off
      · rw [change, if_neg fun all => off all.2.2]
        simp only [ponEnabled]
        split
        · next same => exact absurd same off
        · exact ensures_initAndDiscover_quiet
        · exact discovering
        · exact .refl attached

private theorem ensures_powerUp_quiet :
    Ensures (attached.powerUp context) fun next => Moved attached .nothing next ∧
      (attached.onu.internalState = .disabled → next.onu.internalState = .initialized) := by
  unfold powerUp
  split
  · next off =>
    refine ensures_tryEvent.mono fun next same => ?_
    subst same
    have accepted : attached.onu.internalState.after .init = some .initialized := by
      rcases off with off | off <;> rw [off] <;> rfl
    rw [accepted, Option.map_some, Option.getD_some]
    exact ⟨moved_entered_quiet accepted rfl, fun _ => entered_internalState⟩
  · next on => exact ⟨.refl attached, fun off => absurd (.inr off) on⟩

variable {oltState : OltState}

private theorem ensures_handlePowerOnOnu_change :
    Ensures (attached.handlePowerOnOnu oltState context)
      (Moved attached (attached.change (.powerOn oltState))) := by
  rw [handlePowerOnOnu_eq]
  split
  · next deleted =>
    rw [change, if_neg fun both => both.1 deleted]
    exact .refl attached
  · next present =>
    simp only [Ensures, yields_exceptBind]
    refine ensures_powerUp_quiet.mono ?_
    rintro on ⟨raised, initialized⟩
    refine ensures_sendOmciAlarm_unseen.mono fun cleared unseen => ?_
    have before : Moved attached .nothing cleared := raised.after unseen.moved
    refine ensures_event.mono fun result same => ?_
    subst same
    by_cases off : attached.onu.internalState = .disabled
    · -- the events of a power cycle are all accepted
      have accepted : cleared.onu.internalState.after .discover = some .discovered := by
        rw [unseen.onu.internalState, initialized off]
        rfl
      have discovered : Moved attached .nothing (cleared.entered context .discovered) :=
        before.after (moved_entered_quiet accepted rfl)
      have enabling : (cleared.entered context .discovered).onu.eventChange .enable =
          .enable attached.onu.id := by
        rw [Onu.eventChange_enable, entered_internalState, discovered.id]
        rfl
      rw [accepted, change, if_pos ⟨present, off⟩]
      simp only [Option.map_some, if_pos off]
      rw [← enabling]
      exact ensures_tryEvent_moves.mono fun next moved => discovered.after moved
    · rw [change, if_neg fun both => off both.2]
      cases accepted : cleared.onu.internalState.after .discover with
      | none => exact before
      | some state =>
        simp only [Option.map_some, if_neg off]
        exact before.after (moved_entered_quiet accepted rfl)

private theorem ensures_reDiscoverOnu_quiet :
    Ensures (attached.reDiscoverOnu oltState context) (Moved attached .nothing) := by
  unfold reDiscoverOnu
  split
  · exact .refl attached
  · split
    · rw [Ensures, yields_map]
      exact Onu.ensures_send_alike.mono fun onu alike => .withOnu alike
    · rw [Ensures, yields_exceptBind]
      have initialising : Ensures (attached.tryEvent context .init) (Moved attached .nothing) :=
        ensures_tryEvent_quiet rfl
      refine initialising.mono fun next first => ?_
      have discovering : Ensures (next.tryEvent context .discover) (Moved next .nothing) :=
        ensures_tryEvent_quiet rfl
      exact discovering.mono fun last second => first.after second

variable {loop : Nat}

private theorem ensures_takeTurn_change :
    Ensures (attached.takeTurn context loop) (Moved attached (attached.change (.receive loop))) := by
  rw [takeTurn, change]
  cases received : attached.onu.receive loop with
  | none => exact .refl attached
  | some taken =>
    obtain ⟨message, rest⟩ := taken
    dsimp only
    have frame := (Onu.receive_eq_some received).frame
    have same : (attached.withOnu rest).messageChange message = attached.messageChange message := by
      rw [frame]
      rfl
    rw [← same]
    have unseen : Moved attached .nothing (attached.withOnu rest) := .withOnu (Onu.alike_of_receive received)
    exact ensures_handle_change.mono fun next moved => unseen.after moved

private theorem moved_discard : Moved attached .nothing (attached.discard loop) := by
  unfold discard
  split
  · exact .refl attached
  · next message rest received =>
    obtain ⟨serialNumber, ponPortId, id, internalState⟩ := Onu.alike_of_receive received
    exact .withOnu ⟨serialNumber, ponPortId, id, internalState⟩

theorem ensures_perform_change {action : OnuAction}
    (own : ∀ resources, action ≠ .others resources) :
    Ensures (attached.perform context action) (Moved attached (attached.change action)) := by
  have sends : ∀ (guard : Bool) (message : Message),
      Ensures (attached.sendIf guard message) (Moved attached .nothing) :=
    fun guard message => ensures_sendIf_unseen.mono fun next unseen => unseen.moved
  cases action with
  | event tx => exact ensures_tryEvent_moves
  | activate id => exact ensures_activate_change
  | ponEnabled mode source => exact ensures_ponEnabled_change
  | ponDisabled => exact ensures_ponDisabled_change
  | shutdown => exact ensures_handleShutdownOnu_change
  | powerOn oltState => exact ensures_handlePowerOnOnu_change
  | reDiscover oltState => exact ensures_reDiscoverOnu_quiet
  | deleteOnu => exact ensures_deleteOnu_change
  | setAlarm alarmType status =>
    exact ensures_sendOmciAlarm_unseen.mono fun next unseen => unseen.moved
  | omciMsgOut request | flowAdd flow | flowRemove flow | packetOut packet => exact sends _ _
  | spawn | stop loop => exact .mapOnu ⟨rfl, rfl, rfl, rfl⟩
  | select loop =>
    apply Moved.mapOnu
    unfold Onu.select
    split <;> exact ⟨rfl, rfl, rfl, rfl⟩
  | receive loop => exact ensures_takeTurn_change
  | discard loop => exact moved_discard
  | others resources => exact absurd rfl (own resources)

variable {action : OnuAction} {id : UInt32} {entity allocId : UInt16}

private theorem not_pastEnable_of_eventChange {onu : Onu} {tx : OnuTx}
    (enables : onu.eventChange tx = .enable id) : onu.pastEnable = false := by
  unfold Onu.eventChange at enables
  split at enables
  · next accepted => exact OnuState.not_pastEnable_of_enabled accepted
  all_goals cases enables

/-- Handling a message never enables the ONU. -/
theorem messageChange_ne_enable : attached.messageChange message ≠ .enable id := by
  cases message with
  | omci request =>
    simp only [messageChange]
    split
    · simp
    · cases request with
      | setTCont entity allocId =>
        simp only [omciChange]
        split
        · simp
        · split <;> simp
      | _ => simp [omciChange]
  | _ => simp [messageChange]

/-- Only an ONU that is not past its enabling is enabled. -/
theorem not_pastEnable_of_change (enables : attached.change action = .enable id) :
    attached.onu.pastEnable = false := by
  cases action with
  | event | ponDisabled | shutdown | deleteOnu => exact not_pastEnable_of_eventChange enables
  | activate =>
    simp only [change] at enables
    split at enables
    · next accepted =>
      have event : attached.onu.eventChange .enable = .enable attached.onu.id := by
        rw [Onu.eventChange_enable, if_pos accepted]
      exact not_pastEnable_of_eventChange event
    · cases enables
  | ponEnabled mode source =>
    simp only [change] at enables
    split at enables
    · next off =>
      rw [Onu.pastEnable, off.2.2]
      rfl
    · cases enables
  | powerOn oltState =>
    simp only [change] at enables
    split at enables
    · next off =>
      rw [Onu.pastEnable, off.2]
      rfl
    · cases enables
  | receive loop =>
    simp only [change] at enables
    split at enables
    · cases enables
    · exact absurd enables messageChange_ne_enable
  | _ => cases enables

private theorem eventChange_ne_storeAllocId {onu : Onu} {tx : OnuTx} :
    onu.eventChange tx ≠ .storeAllocId entity allocId := by
  unfold Onu.eventChange
  split <;> simp

/-- A Set is stored only under a key that is free. -/
theorem free_of_omciChange (stores : attached.omciChange request = .storeAllocId entity allocId) :
    attached.resources.isAllocIdAllocated attached.onu.ponPortId attached.onu.id entity = none := by
  cases request with
  | setTCont target stored =>
    simp only [omciChange] at stores
    split at stores
    · cases stores
    · split at stores
      · cases stores
      · next free =>
        obtain ⟨rfl, -⟩ := PonChange.storeAllocId.inj stores
        simpa using free
  | _ => cases stores

theorem free_of_change (stores : attached.change action = .storeAllocId entity allocId) :
    attached.resources.isAllocIdAllocated attached.onu.ponPortId attached.onu.id entity = none := by
  cases action with
  | event | ponDisabled | shutdown | deleteOnu => exact absurd stores eventChange_ne_storeAllocId
  | activate | ponEnabled | powerOn =>
    simp only [change] at stores
    split at stores <;> cases stores
  | receive loop =>
    simp only [change] at stores
    split at stores
    · cases stores
    · next message rest received =>
      cases message with
      | omci request =>
        simp only [messageChange] at stores
        split at stores
        · cases stores
        · exact free_of_omciChange stores
      | _ => cases stores
  | _ => cases stores

end AttachedOnu

end Bbsim.Devices
