import Bbsim.Devices.Onu

/-! What an ONU does with messages and calls. The handlers of the `ProcessOnuMessages` loop, and the
calls of the OLT, the API and DMI that write to the ONU's channel or drive its state machine.
Messages on the OLT's channel are not part of this model. -/

namespace Bbsim.Devices

open Foundation

theorem find?_of_findIdx? {Item : Type} {test : Item → Bool} {items : List Item} {index : Nat}
    (found : items.findIdx? test = some index) : items.find? test = items[index]? := by
  obtain ⟨inside, holds, first⟩ := List.findIdx?_eq_some_iff_getElem.mp found
  rw [List.getElem?_eq_getElem inside, List.find?_eq_some_iff_getElem]
  exact ⟨holds, index, inside, rfl, fun earlier before => by simpa using first earlier before⟩

theorem mem_modify {Item : Type} {items : List Item} {index : Nat} {change : Item → Item} {item : Item}
    (member : item ∈ items.modify index change) :
    item ∈ items ∨ ∃ before ∈ items, item = change before := by
  obtain ⟨position, found⟩ := List.mem_iff_getElem?.mp member
  rw [List.getElem?_modify] at found
  obtain ⟨before, present, rfl⟩ := Option.map_eq_some_iff.mp found
  split
  · exact .inr ⟨before, List.mem_of_getElem? present, rfl⟩
  · exact .inl (List.mem_of_getElem? present)

namespace Onu

/-- An event of a port's `OperState`: an accepted one sends its alarm, a refused one is logged. -/
def changePort {Port : Type} (onu : Onu) (changed : Option Port) (alarm : Port → Message)
    (store : Onu → Port → Onu) : Except Fault Onu :=
  match changed with
  | none => .ok onu
  | some port => (onu.send (alarm port)).map (store · port)

theorem yields_changePort {Port : Type} {onu : Onu} {changed : Option Port} {alarm : Port → Message}
    {store : Onu → Port → Onu} {raises : Fault → Prop} {post : Onu → Prop} :
    Yields (onu.changePort changed alarm store) raises post ↔
      (changed = none → post onu) ∧ ∀ port, changed = some port →
        if onu.writable then post (store (onu.enqueue [alarm port]) port) else raises onu.sendFault := by
  cases changed <;> simp [changePort]

def changeUni (onu : Onu) (index : Nat) (change : UniPort → Option UniPort)
    (raiseOmciAlarm : Bool) : Except Fault Onu :=
  onu.changePort (onu.uniPorts[index]?.bind change) (·.alarm raiseOmciAlarm) fun onu uni =>
    { onu with uniPorts := onu.uniPorts.set index uni }

def enableUni (onu : Onu) (index : Nat) : Except Fault Onu :=
  onu.changeUni index UniPort.enable false

def disableUni (onu : Onu) (index : Nat) : Except Fault Onu :=
  onu.changeUni index UniPort.disable true

def changePots (onu : Onu) (index : Nat) (change : PotsPort → Option PotsPort)
    (raiseOmciAlarm : Bool) : Except Fault Onu :=
  onu.changePort (onu.potsPorts[index]?.bind change) (·.alarm raiseOmciAlarm) fun onu pots =>
    { onu with potsPorts := onu.potsPorts.set index pots }

def enablePots (onu : Onu) (index : Nat) : Except Fault Onu :=
  onu.changePots index PotsPort.enable false

def disableOnePots (onu : Onu) (index : Nat) : Except Fault Onu :=
  onu.changePots index PotsPort.disable true

def findUniById (onu : Onu) (uniId : UInt32) : Option Nat :=
  onu.uniPorts.findIdx? fun uni => uni.id = uniId

def findUniByEntityId (onu : Onu) (entity : UInt16) : Option Nat :=
  onu.uniPorts.findIdx? fun uni => uni.meId = entity

def findPotsByEntityId (onu : Onu) (entity : UInt16) : Option Nat :=
  onu.potsPorts.findIdx? fun pots => pots.meId = entity

def findUniByPortNo (onu : Onu) (portNo : UInt32) : Option Nat :=
  onu.uniPorts.findIdx? fun uni => uni.portNo = portNo

/-- A UNI appears once for each of its services with a membership. -/
def findUniWithIgmpMembership (onu : Onu) : List Nat :=
  (List.range onu.uniPorts.length).flatMap fun index =>
    List.replicate ((onu.uniPorts[index]?.map UniPort.memberships).getD 0) index

/-- A flow for an unknown UNI is logged, and then the nil UNI is used. -/
def handleFlowAdd (onu : Onu) (flow : Flow) : Except Fault Onu :=
  match onu.findUniById flow.uniId.toUInt32 with
  | none => .error .nilUni
  | some index =>
    .ok { onu with
      flowIds := onu.flowIds ++ [flow.flowId]
      uniPorts := onu.uniPorts.modify index (UniPort.handleFlow flow) }

def handleFlowRemove (onu : Onu) (flow : Flow) : Except Fault Onu :=
  let onu := { onu with flowIds := onu.flowIds.erase flow.flowId }
  if onu.flowIds = [] ∧ onu.internalState = .disabled then onu.closeChannel else .ok onu

def incrementMibDataSync (onu : Onu) : Onu := { onu with mibDataSync := onu.mibDataSync + 1 }

def maxOmciMsgCounter : UInt8 := 10

def countOmciMsg (onu : Onu) : Onu :=
  { onu with
    omciMsgCounter :=
      if onu.omciMsgCounter < maxOmciMsgCounter then onu.omciMsgCounter + 1 else 1 }

end Onu

/-- The verdict on a request: the result code of its answer, where it gets one. -/
inductive OmciResult where
  | success
  | attributeFailure
  | processingError
deriving DecidableEq, Repr

/-- An alarm of a power operation: an indication on the OLT's channel, which takes every message here, or
an OMCI notification on the ONU's own channel. -/
inductive PowerAlarm where
  | dyingGasp (intfId onuId : UInt32) (status : String)
  | onuAlarmLos (intfId onuId : UInt32) (status : String)
  | omciLos (raiseOmciAlarm : Bool)
deriving DecidableEq, Repr

/-- A power operation that returns. The error is the event that was refused. -/
structure PowerOutcome where
  attached : AttachedOnu
  alarms : List PowerAlarm
  error : Option OnuTx

namespace AttachedOnu

def mapOnu (attached : AttachedOnu) (change : Onu → Onu) : AttachedOnu :=
  attached.withOnu (change attached.onu)

/-- A Set of the administrative state: 1 locks the port, anything else unlocks it. -/
def setAdminState (attached : AttachedOnu) (port : Option Nat) (adminState : UInt8)
    (lock unlock : Onu → Nat → Except Fault Onu) : Except Fault (AttachedOnu × OmciResult) :=
  match port with
  | none => .ok (attached, .attributeFailure)
  | some index =>
    (if adminState = 1 then lock attached.onu index else unlock attached.onu index).map fun onu =>
      (attached.withOnu onu.incrementMibDataSync, .success)

/-- A Set on a T-CONT: alloc ids 255 and 65535 free it, any other is stored under the entity. -/
def setTCont (attached : AttachedOnu) (entity allocId : UInt16) : AttachedOnu × OmciResult :=
  let onu := attached.onu
  if allocId = 255 ∨ allocId = 65535 then
    (⟨onu.incrementMibDataSync, attached.resources.removeAllocId onu.ponPortId onu.id entity⟩,
      .success)
  else match attached.resources.isAllocIdAllocated onu.ponPortId onu.id entity with
    | some _ => (attached, .attributeFailure)
    | none =>
      (⟨onu.incrementMibDataSync,
        attached.resources.storeAllocId onu.ponPortId onu.id entity allocId onu.serialNumber⟩,
        .success)

/-- GEM port 4069 is reserved for multicast and shared by the ONUs. -/
def createGemPort (attached : AttachedOnu) (entity : UInt16) : AttachedOnu × OmciResult :=
  if entity = 4069 then (attached.mapOnu Onu.incrementMibDataSync, .success)
  else match attached.resources.isGemPortAllocated entity with
    | some _ => (attached, .processingError)
    | none =>
      (⟨attached.onu.incrementMibDataSync,
        attached.resources.storeGemPort entity attached.onu.serialNumber⟩, .success)

def deleteGemPort (attached : AttachedOnu) (entity : UInt16) : AttachedOnu :=
  ⟨attached.onu.incrementMibDataSync, attached.resources.removeGemPort entity⟩

def mibReset (attached : AttachedOnu) : AttachedOnu :=
  ⟨{ attached.onu with mibDataSync := 0 },
    (attached.resources.removeAllocIdsForOnuSn attached.onu.serialNumber).removeGemPortBySn
      attached.onu.serialNumber⟩

/-- A software image request that was answered with success. -/
def imageEvent (attached : AttachedOnu) (context : Nat) (tx : OnuTx) :
    Except Fault (AttachedOnu × OmciResult) :=
  ((attached.mapOnu Onu.incrementMibDataSync).tryEvent context tx).map (·, .success)

/-- The reboots that `reboot` and `activateSoftware` start run in goroutines of their own. -/
def processOmci (attached : AttachedOnu) (context : Nat) :
    OmciRequest → Except Fault (AttachedOnu × OmciResult)
  | .mibReset => .ok (attached.mibReset, .success)
  | .setUniAdminState entity adminState =>
    attached.setAdminState (attached.onu.findUniByEntityId entity) adminState Onu.disableUni
      Onu.enableUni
  | .setPotsAdminState entity adminState =>
    attached.setAdminState (attached.onu.findPotsByEntityId entity) adminState Onu.disableOnePots
      Onu.enablePots
  | .setTCont entity allocId => .ok (attached.setTCont entity allocId)
  | .createGemPort entity => .ok (attached.createGemPort entity)
  | .deleteGemPort entity => .ok (attached.deleteGemPort entity, .success)
  | .startSoftwareDownload => attached.imageEvent context .startImageDownload
  | .downloadSection =>
    if attached.onu.internalState = .imageDownloadInProgress then .ok (attached, .success)
    else (attached.tryEvent context .progressImageDownload).map (·, .success)
  | .endSoftwareDownload true => attached.imageEvent context .completeImageDownload
  | .endSoftwareDownload false =>
    (attached.tryEvent context .failImageDownload).map (·, .processingError)
  | .activateSoftware => attached.imageEvent context .activateImage
  | .commitSoftware => attached.imageEvent context .commitImage
  | .other changesMib =>
    .ok (if changesMib then attached.mapOnu Onu.incrementMibDataSync else attached, .success)

/-- `none` where the response rate has the ONU drop the request. -/
def handleOmciRequest (attached : AttachedOnu) (context : Nat) (request : OmciRequest) :
    Except Fault (AttachedOnu × Option OmciResult) :=
  let counted := attached.mapOnu Onu.countOmciMsg
  if counted.onu.omciMsgCounter > counted.onu.omciResponseRate then .ok (counted, none)
  else (counted.processOmci context request).map fun (next, result) => (next, some result)

/-- The message loop on one message. Indications and alarms go to VOLTHA and packets to the UNIs,
which leaves the ONU as it is. -/
def handle (attached : AttachedOnu) (context : Nat) : Message → Except Fault AttachedOnu
  | .omci request => (attached.handleOmciRequest context request).map Prod.fst
  | .flowAdd flow => (attached.onu.handleFlowAdd flow).map attached.withOnu
  | .flowRemoved flow => (attached.onu.handleFlowRemove flow).map attached.withOnu
  | .onuDiscIndication | .onuIndication _ | .uniStatusAlarm .. | .onuPacketOut _ => .ok attached

def losAlarm (raiseOmciAlarm : Bool) : Message := .uniStatusAlarm 257 raiseOmciAlarm

/-- `SendOMCIAlarmNotificationMsg`. -/
def sendOmciAlarmNotificationMsg (attached : AttachedOnu) (raiseOmciAlarm : Bool)
    (alarmType : String) : Except Fault AttachedOnu :=
  if alarmType = "ONU_ALARM_LOS" then
    (attached.onu.send (losAlarm raiseOmciAlarm)).map attached.withOnu
  else .ok attached

def setAlarm (attached : AttachedOnu) (alarmType status : String) : Except Fault AttachedOnu :=
  attached.sendOmciAlarmNotificationMsg (status = "on") alarmType

/-- `HandleShutdownONU` raises the alarm first, unless the ONU is off already. -/
def raiseLos (attached : AttachedOnu) : Except Fault AttachedOnu :=
  if attached.onu.internalState = .disabled then .ok attached
  else attached.sendOmciAlarmNotificationMsg true "ONU_ALARM_LOS"

/-- `HandleShutdownONU`. -/
def shutdownOnu (attached : AttachedOnu) (context : Nat) : Except Fault PowerOutcome := do
  let onu := attached.onu
  let alarms := [.dyingGasp onu.ponPortId onu.id "on", .onuAlarmLos onu.ponPortId onu.id "on"] ++
    if onu.internalState = .disabled then [] else [.omciLos true]
  let informed ← attached.raiseLos
  match ← informed.event context .disable with
  | none => return ⟨informed, alarms, some .disable⟩
  | some disabled => return ⟨disabled, alarms, none⟩

/-- The ONU that `HandleShutdownONU` leaves. -/
def handleShutdownOnu (attached : AttachedOnu) (context : Nat) : Except Fault AttachedOnu :=
  (attached.shutdownOnu context).map PowerOutcome.attached

/-- `none` where the first event of `HandlePowerOnONU` is refused. -/
def initIfOff (attached : AttachedOnu) (context : Nat) : Except Fault (Option AttachedOnu) :=
  if attached.onu.internalState = .created ∨ attached.onu.internalState = .disabled then
    attached.event context .init
  else .ok (some attached)

/-- `HandlePowerOnONU`. -/
def powerOnOnu (attached : AttachedOnu) (oltState : OltState) (context : Nat) :
    Except Fault PowerOutcome := do
  let initialState := attached.onu.internalState
  if oltState = .deleted then return ⟨attached, [], none⟩
  match ← attached.initIfOff context with
  | none => return ⟨attached, [], some .init⟩
  | some powered =>
    let alarms := [.onuAlarmLos powered.onu.ponPortId powered.onu.id "off", .omciLos false]
    let informed ← powered.sendOmciAlarmNotificationMsg false "ONU_ALARM_LOS"
    match ← informed.event context .discover with
    | none => return ⟨informed, alarms, some .discover⟩
    | some discovered =>
      if initialState = .disabled then
        match ← discovered.event context .enable with
        | none => return ⟨discovered, alarms, some .enable⟩
        | some enabled => return ⟨enabled, alarms, none⟩
      else return ⟨discovered, alarms, none⟩

/-- The ONU that `HandlePowerOnONU` leaves. -/
def handlePowerOnOnu (attached : AttachedOnu) (oltState : OltState) (context : Nat) :
    Except Fault AttachedOnu :=
  (attached.powerOnOnu oltState context).map PowerOutcome.attached

/-- An ONU that is off is initialised first. -/
def powerUp (attached : AttachedOnu) (context : Nat) : Except Fault AttachedOnu :=
  if attached.onu.internalState = .created ∨ attached.onu.internalState = .disabled then
    attached.tryEvent context .init
  else .ok attached

section

variable {attached : AttachedOnu} {context : Nat} {oltState : OltState}

theorem handleShutdownOnu_eq :
    attached.handleShutdownOnu context =
      attached.raiseLos.bind fun attached => attached.tryEvent context .disable := by
  unfold handleShutdownOnu shutdownOnu
  cases attached.raiseLos with
  | error fault => rfl
  | ok informed =>
    change Except.map _ (informed.event context .disable >>= _) = informed.tryEvent context .disable
    rw [tryEvent]
    cases informed.event context .disable with
    | error fault => rfl
    | ok next => cases next <;> rfl

/-- An ONU that is off accepts to be initialised. -/
theorem initIfOff_eq :
    attached.initIfOff context = (attached.powerUp context).map some := by
  unfold initIfOff powerUp
  split
  · next off =>
    have accepted : attached.onu.internalState.after .init = some .initialized := by
      rcases off with off | off <;> rw [off] <;> rfl
    rw [tryEvent, event, accepted]
    dsimp only
    cases (attached.withOnu (attached.onu.moveTo .initialized)).enter context .initialized <;> rfl
  · rfl

theorem handlePowerOnOnu_eq :
    attached.handlePowerOnOnu oltState context =
      if oltState = .deleted then .ok attached
      else (attached.powerUp context).bind fun powered =>
        (powered.sendOmciAlarmNotificationMsg false "ONU_ALARM_LOS").bind fun cleared =>
          (cleared.event context .discover).bind fun
            | none => .ok cleared
            | some discovered =>
              if attached.onu.internalState = .disabled then discovered.tryEvent context .enable
              else .ok discovered := by
  unfold handlePowerOnOnu powerOnOnu
  dsimp only
  rw [initIfOff_eq]
  split
  · rfl
  · cases attached.powerUp context with
    | error fault => rfl
    | ok powered =>
      simp only [Except.map, bind, Except.bind]
      cases powered.sendOmciAlarmNotificationMsg false "ONU_ALARM_LOS" with
      | error fault => rfl
      | ok informed =>
        dsimp only
        cases informed.event context .discover with
        | error fault => rfl
        | ok next =>
          cases next with
          | none => rfl
          | some discovered =>
            by_cases off : attached.onu.internalState = .disabled
            · simp only [if_pos off, tryEvent]
              cases discovered.event context .enable with
              | error fault => rfl
              | ok last => cases last <;> rfl
            · simp only [if_neg off, pure, Except.pure]

end

def reDiscoverOnu (attached : AttachedOnu) (oltState : OltState) (context : Nat) :
    Except Fault AttachedOnu :=
  if oltState = .deleted then .ok attached
  else if attached.onu.internalState = .discovered then
    (attached.onu.send .onuDiscIndication).map attached.withOnu
  else (attached.tryEvent context .init).bind fun attached => attached.tryEvent context .discover

/-- `DeleteOnu`, up to the goroutine that rediscovers the ONU later. -/
def deleteOnu (attached : AttachedOnu) (context : Nat) : Except Fault AttachedOnu :=
  if attached.onu.internalState = .disabled then .ok attached
  else attached.tryEvent context .disable

/-- An ONU that accepts to be initialised is then discovered. -/
def initAndDiscover (attached : AttachedOnu) (context : Nat) : Except Fault AttachedOnu := do
  match ← attached.event context .init with
  | none => return attached
  | some initialized => initialized.tryEvent context .discover

/-- The ONU's turn when its PON is enabled. -/
def ponEnabled (attached : AttachedOnu) (mode : Mode) (source : PonState) (context : Nat) :
    Except Fault AttachedOnu :=
  match source, mode with
  | .created, .default | .created, .onlyPon => attached.initAndDiscover context
  | .disabled, .onlyOnu | .disabled, .both => attached.tryEvent context .init
  | .disabled, .default | .disabled, .onlyPon =>
    match attached.onu.internalState with
    | .ponDisabled => attached.tryEvent context .enable
    | .disabled => attached.initAndDiscover context
    | .initialized => attached.tryEvent context .discover
    | _ => .ok attached
  | _, _ => .ok attached

/-- The ONU's turn when its PON is disabled. -/
def ponDisabled (attached : AttachedOnu) (context : Nat) : Except Fault AttachedOnu :=
  if attached.onu.internalState = .initialized ∨ attached.onu.internalState = .disabled then
    .ok attached
  else attached.tryEvent context .ponDisable

end AttachedOnu

end Bbsim.Devices
