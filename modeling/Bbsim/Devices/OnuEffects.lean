import Bbsim.Devices.OnuMessages

/-! What an event leaves behind. The ONU and the resources of its PON after an accepted event, as
one function of the state entered, wherever the callback gets through. Events of an image download
have no callbacks, so they always go through. -/

namespace Bbsim.Devices

open Foundation

namespace AttachedOnu

def entered (attached : AttachedOnu) (context : Nat) (state : OnuState) : AttachedOnu :=
  let moved := attached.withOnu (attached.onu.moveTo state)
  match state with
  | .initialized => moved.enterInitialized context
  | .discovered => moved.withOnu (moved.onu.enqueue [.onuDiscIndication])
  | .enabled =>
    match attached.resources.isOnuIdAllocated attached.onu.id with
    | some _ => moved
    | none =>
      ⟨moved.onu.enqueue [.onuIndication .up],
        attached.resources.storeOnuId attached.onu.id attached.onu.serialNumber⟩
  | .disabled => moved.switchedOff
  | .ponDisabled => moved.enterPonDisabled
  | _ => moved

variable {attached : AttachedOnu} {context : Nat} {state : OnuState} {tx : OnuTx}

theorem ensures_enter :
    Ensures ((attached.withOnu (attached.onu.moveTo state)).enter context state)
      (· = attached.entered context state) := by
  cases state with
  | discovered => simp [enter, enterDiscovered, entered]
  | enabled =>
    cases taken : attached.resources.isOnuIdAllocated attached.onu.id <;>
      simp [enter, enterEnabled, entered, withOnu, taken]
  | disabled => simp [enter, entered]
  | _ => rfl

/-- An event does nothing where it is refused. -/
theorem ensures_event :
    Ensures (attached.event context tx)
      (· = (attached.onu.internalState.after tx).map (attached.entered context)) := by
  unfold event
  cases attached.onu.internalState.after tx with
  | none => rfl
  | some state =>
    rw [Ensures, yields_map]
    exact ensures_enter.mono fun next same => by rw [same, Option.map_some]

theorem ensures_tryEvent :
    Ensures (attached.tryEvent context tx)
      (· = ((attached.onu.internalState.after tx).map (attached.entered context)).getD attached) := by
  rw [tryEvent, Ensures, yields_map]
  exact ensures_event.mono fun next same => by rw [same]

/-- With an open channel the callback gets through. -/
theorem enter_of_writable (isOpen : attached.onu.writable = true) :
    (attached.withOnu (attached.onu.moveTo state)).enter context state =
      .ok (attached.entered context state) := by
  have returns : Returns ((attached.withOnu (attached.onu.moveTo state)).enter context state) := by
    cases state with
    | enabled =>
      cases taken : attached.resources.isOnuIdAllocated attached.onu.id <;>
        simp [enter, enterEnabled, withOnu, taken, isOpen]
    | _ => simp [enter, enterDiscovered, isOpen]
  obtain ⟨next, entered⟩ := returns_iff.mp returns
  rw [entered, ensures_enter.value entered]

/-- What entering a state leaves of the ONU and of the resources of its PON. -/
structure Effects (attached : AttachedOnu) (context : Nat) (state : OnuState) (next : AttachedOnu) :
    Prop where
  internalState : next.onu.internalState = state
  id : next.onu.id = attached.onu.id
  serialNumber : next.onu.serialNumber = attached.onu.serialNumber
  ponPortId : next.onu.ponPortId = attached.onu.ponPortId
  /-- Only three states touch the resources of the PON. -/
  resources : next.resources =
    match state with
    | .enabled => attached.resources.claimOnuId attached.onu.id attached.onu.serialNumber
    | .disabled | .ponDisabled =>
      attached.resources.cleanup attached.onu.id attached.onu.serialNumber
    | _ => attached.resources
  /-- The list of flows is emptied with the ONU's other state. -/
  flows : next.onu.flows =
    if state = .disabled ∨ state = .ponDisabled then [] else attached.onu.flows
  loops : next.onu.loops =
    if state = .initialized then attached.onu.loops ++ [⟨context, .turning⟩] else attached.onu.loops
  retired : next.onu.retired =
    if state = .initialized then attached.onu.retired ++ attached.onu.channel.toList
    else attached.onu.retired
  channel : next.onu.channel.isSome =
    (decide (state = .initialized) || attached.onu.channel.isSome)
  uniPorts : next.onu.uniPorts =
    if state = .disabled then attached.onu.uniPorts.map fun uni => uni.disable.getD uni
    else attached.onu.uniPorts

theorem entered_effects : attached.Effects context state (attached.entered context state) := by
  cases state with
  | enabled =>
    cases taken : attached.resources.isOnuIdAllocated attached.onu.id <;>
      constructor <;> simp [entered, taken, PonResources.claimOnuId]
  | _ =>
    constructor <;> simp [entered, enterInitialized, enterPonDisabled, cleanupOnuState, switchedOff]

@[simp] theorem entered_internalState :
    (attached.entered context state).onu.internalState = state := entered_effects.internalState

end AttachedOnu

namespace Onu

variable {onu : Onu} {index : Nat} {raiseOmciAlarm : Bool}

/-- An event of a port changes no more of the ONU than its ports and what waits in its channel. -/
structure PortMoved (onu next : Onu) : Prop where
  frame : next = { onu with
    uniPorts := next.uniPorts, potsPorts := next.potsPorts, channel := next.channel }
  writable : next.writable = onu.writable

theorem ensures_changePort_portMoved {Port : Type} {changed : Option Port} {alarm : Port → Message}
    {store : Onu → Port → Onu} (stores : ∀ port, PortMoved (onu.enqueue [alarm port])
      (store (onu.enqueue [alarm port]) port)) :
    Ensures (onu.changePort changed alarm store) (PortMoved onu) := by
  refine yields_changePort.mpr ⟨fun _ => ⟨rfl, rfl⟩, fun port _ => ?_⟩
  split
  · exact ⟨(stores port).frame, (stores port).writable.trans (writable_enqueue _)⟩
  · trivial

theorem ensures_changeUni_portMoved {change : UniPort → Option UniPort} :
    Ensures (onu.changeUni index change raiseOmciAlarm) (PortMoved onu) :=
  ensures_changePort_portMoved fun _ => ⟨rfl, rfl⟩

theorem ensures_changePots_portMoved {change : PotsPort → Option PotsPort} :
    Ensures (onu.changePots index change raiseOmciAlarm) (PortMoved onu) :=
  ensures_changePort_portMoved fun _ => ⟨rfl, rfl⟩

end Onu

def OnuTx.isImage : OnuTx → Bool
  | .init | .discover | .enable | .disable | .ponDisable => false
  | _ => true

/-- The state after an event, which may be refused. -/
def OnuState.tried (state : OnuState) (tx : OnuTx) : OnuState := (state.after tx).getD state

/-- One event completes a download, and only while it is in progress. -/
theorem OnuState.tried_complete {state : OnuState} {tx : OnuTx} (before : state ≠ .imageDownloadComplete)
    (complete : state.tried tx = .imageDownloadComplete) :
    state = .imageDownloadInProgress ∧ tx = .completeImageDownload := by
  cases tx <;> cases state <;> first | exact ⟨rfl, rfl⟩ | contradiction

/-- The ONU after an event without callbacks. -/
@[simps!] def Onu.tried (onu : Onu) (tx : OnuTx) : Onu := onu.moveTo (onu.internalState.tried tx)

namespace AttachedOnu

variable {attached : AttachedOnu} {context : Nat} {tx : OnuTx}

private theorem enter_image {state entered : OnuState} (accepted : state.after tx = some entered)
    (image : tx.isImage = true) : attached.enter context entered = .ok attached := by
  cases tx <;> cases image <;> cases state <;> cases accepted <;> rfl

theorem tryEvent_image (image : tx.isImage = true) :
    attached.tryEvent context tx = .ok (attached.mapOnu (Onu.tried · tx)) := by
  unfold tryEvent event
  cases accepted : attached.onu.internalState.after tx with
  | none =>
    have stays : attached.onu.tried tx = attached.onu := by
      rw [Onu.tried, OnuState.tried, accepted]
      rfl
    rw [mapOnu, stays]
    rfl
  | some state =>
    have moves : attached.onu.tried tx = attached.onu.moveTo state := by
      rw [Onu.tried, OnuState.tried, accepted]
      rfl
    change Except.map _ (Except.map some (enter _ context state)) = _
    rw [mapOnu, moves, enter_image accepted image]
    rfl

/-- The counter and the event of a request on the images. -/
def imageMoved (attached : AttachedOnu) (tx : OnuTx) : AttachedOnu :=
  attached.mapOnu fun onu => onu.incrementMibDataSync.tried tx

theorem imageEvent_eq (image : tx.isImage = true) :
    attached.imageEvent context tx = .ok (attached.imageMoved tx, .success) := by
  rw [imageEvent, tryEvent_image image]
  rfl

variable {request : OmciRequest}

/-- The tables of the PON after a request: only four requests touch them. -/
def omciResources (attached : AttachedOnu) : OmciRequest → PonResources
  | .mibReset => attached.mibReset.resources
  | .setTCont entity allocId => (attached.setTCont entity allocId).1.resources
  | .createGemPort entity => (attached.createGemPort entity).1.resources
  | .deleteGemPort entity => (attached.deleteGemPort entity).resources
  | _ => attached.resources

theorem ensures_processOmci_resources :
    Ensures (attached.processOmci context request)
      (·.1.resources = attached.omciResources request) := by
  have event {tx : OnuTx} (image : tx.isImage = true) :
      Ensures (attached.imageEvent context tx) (·.1.resources = attached.resources) := by
    rw [imageEvent_eq image]
    rfl
  have silent {tx : OnuTx} (image : tx.isImage = true) (result : OmciResult) :
      Ensures ((attached.tryEvent context tx).map (·, result))
        (·.1.resources = attached.resources) := by
    rw [tryEvent_image image]
    rfl
  cases request with
  | mibReset | setTCont entity allocId | createGemPort entity | deleteGemPort entity => rfl
  | setUniAdminState entity adminState | setPotsAdminState entity adminState =>
    rw [processOmci]
    unfold setAdminState
    split
    · rfl
    · rw [Ensures, yields_map]
      generalize (if adminState = 1 then _ else _ : Except Fault Onu) = set
      cases set <;> trivial
  | startSoftwareDownload | activateSoftware | commitSoftware => exact event rfl
  | downloadSection =>
    rw [processOmci]
    split
    · rfl
    · exact silent rfl _
  | endSoftwareDownload success =>
    cases success with
    | true => exact event rfl
    | false => exact silent rfl _
  | other changesMib => cases changesMib <;> rfl

variable {raises : Fault → Prop} {holds : Onu → Prop}

private theorem yields_setAdminState_of {port : Option Nat} {adminState : UInt8}
    {lock unlock : Onu → Nat → Except Fault Onu} (kept : holds attached.onu)
    (changed : ∀ index, port = some index →
      Yields (if adminState = 1 then lock attached.onu index else unlock attached.onu index) raises
        fun onu => holds onu.incrementMibDataSync) :
    Yields (attached.setAdminState port adminState lock unlock) raises fun result =>
      holds result.1.onu := by
  cases port with
  | none => exact kept
  | some index => exact yields_map.mpr (changed index rfl)

variable (counts : ∀ mds, holds { attached.onu with mibDataSync := mds })
  (tries : ∀ mds tx, tx.isImage = true → holds (Onu.tried { attached.onu with mibDataSync := mds } tx))
include counts tries

/-- A request sets a port, or moves no more of the ONU than the counter of MIB changes and the state of
a download. -/
theorem yields_processOmci_of
    (unis : ∀ entity adminState index, request = .setUniAdminState entity adminState →
      attached.onu.findUniByEntityId entity = some index →
      Yields (if adminState = 1 then attached.onu.disableUni index
      else attached.onu.enableUni index) raises fun onu => holds onu.incrementMibDataSync)
    (pots : ∀ entity adminState index, request = .setPotsAdminState entity adminState →
      attached.onu.findPotsByEntityId entity = some index →
      Yields (if adminState = 1 then attached.onu.disableOnePots index
      else attached.onu.enablePots index) raises fun onu => holds onu.incrementMibDataSync) :
    Yields (attached.processOmci context request) raises fun result => holds result.1.onu := by
  have kept : holds attached.onu := counts attached.onu.mibDataSync
  have counted : holds attached.onu.incrementMibDataSync := counts (attached.onu.mibDataSync + 1)
  have event {tx : OnuTx} (image : tx.isImage = true) :
      Yields (attached.imageEvent context tx) raises fun result => holds result.1.onu := by
    rw [imageEvent_eq image]
    exact tries _ tx image
  have silent {tx : OnuTx} (image : tx.isImage = true) (result : OmciResult) :
      Yields ((attached.tryEvent context tx).map (·, result)) raises fun after =>
        holds after.1.onu := by
    rw [tryEvent_image image]
    exact tries attached.onu.mibDataSync tx image
  cases request with
  | mibReset => exact counts 0
  | setUniAdminState entity adminState =>
    exact yields_setAdminState_of kept fun index => unis entity adminState index rfl
  | setPotsAdminState entity adminState =>
    exact yields_setAdminState_of kept fun index => pots entity adminState index rfl
  | setTCont entity allocId =>
    simp only [processOmci, setTCont, yields_ok]
    split
    · exact counted
    · split
      · exact kept
      · exact counted
  | createGemPort entity =>
    simp only [processOmci, createGemPort, yields_ok]
    split
    · exact counted
    · split
      · exact kept
      · exact counted
  | deleteGemPort entity => exact counted
  | startSoftwareDownload | activateSoftware | commitSoftware => exact event rfl
  | downloadSection =>
    rw [processOmci]
    split
    · exact kept
    · exact silent rfl _
  | endSoftwareDownload success =>
    cases success with
    | true => exact event rfl
    | false => exact silent rfl _
  | other changesMib =>
    cases changesMib with
    | true => exact counted
    | false => exact kept

/-- The rule where it does not matter which port is set, and how. -/
theorem ensures_processOmci_of
    (ports : ∀ onu, attached.onu.PortMoved onu → holds onu.incrementMibDataSync) :
    Ensures (attached.processOmci context request) fun result => holds result.1.onu := by
  refine yields_processOmci_of counts tries ?_ ?_
  · intro entity adminState index _ _
    split
    · exact Onu.ensures_changeUni_portMoved.mono ports
    · exact Onu.ensures_changeUni_portMoved.mono ports
  · intro entity adminState index _ _
    split
    · exact Onu.ensures_changePots_portMoved.mono ports
    · exact Onu.ensures_changePots_portMoved.mono ports

end AttachedOnu

end Bbsim.Devices
