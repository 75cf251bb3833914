import Bbsim.Devices.OnuLoop

/-! Actions on an ONU. Everything that touches one ONU and its channel: events of its state machine,
calls of the OLT, the API and DMI, and the turns of its message loops. An action is one step here:
calls and handlers run in any order, but not inside one another. -/

namespace Bbsim.Devices

inductive OnuAction where
  | event (tx : OnuTx)
  /-- `ActivateOnu` sets the id and then enables. -/
  | activate (id : UInt32)
  | ponEnabled (mode : Mode) (source : PonState)
  | ponDisabled
  | shutdown
  | powerOn (oltState : OltState)
  | reDiscover (oltState : OltState)
  | deleteOnu
  | setAlarm (alarmType status : String)
  | omciMsgOut (request : OmciRequest)
  /-- A `FlowAdd` whose ids pass the checks. -/
  | flowAdd (flow : Flow)
  | flowRemove (flow : Flow)
  | packetOut (packet : PacketMessage)
  /-- `Enable` starts a loop for each ONU after a reboot or a new connection. -/
  | spawn
  | select (loop : Nat)
  | receive (loop : Nat)
  /-- A loop whose context is cancelled receives a message, drops it and ends. -/
  | discard (loop : Nat)
  | stop (loop : Nat)
  /-- The other ONUs of the PON change its resources. -/
  | others (resources : PonResources)

namespace AttachedOnu

/-- A call that leaves a message for the ONU where its guard lets it. -/
def sendIf (attached : AttachedOnu) (guard : Bool) (message : Message) : Except Fault AttachedOnu :=
  if guard then (attached.onu.send message).map attached.withOnu else .ok attached

/-- The OLT drops OMCI messages only for a disabled ONU. -/
def omciMsgOut (attached : AttachedOnu) (request : OmciRequest) : Except Fault AttachedOnu :=
  attached.sendIf (attached.onu.internalState ≠ .disabled) (.omci request)

def flowAdd (attached : AttachedOnu) (flow : Flow) : Except Fault AttachedOnu :=
  attached.sendIf
    (attached.onu.internalState ≠ .disabled ∧ attached.onu.internalState ≠ .ponDisabled)
    (.flowAdd flow)

/-- `FlowRemove` finds the ONU by the flow id. -/
def flowRemove (attached : AttachedOnu) (flow : Flow) : Except Fault AttachedOnu :=
  attached.sendIf (flow.flowId ∈ attached.onu.flowIds) (.flowRemoved flow)

def packetOut (attached : AttachedOnu) (packet : PacketMessage) : Except Fault AttachedOnu :=
  attached.sendIf (attached.onu.internalState = .enabled) (.onuPacketOut packet)

/-- A loop receives a message and handles it. -/
def takeTurn (attached : AttachedOnu) (context loop : Nat) : Except Fault AttachedOnu :=
  match attached.onu.receive loop with
  | none => .ok attached
  | some (message, rest) => (attached.withOnu rest).handle context message

def discard (attached : AttachedOnu) (loop : Nat) : AttachedOnu :=
  match attached.onu.receive loop with
  | none => attached
  | some (_, rest) => attached.withOnu (rest.stopLoop loop)

/-- An action while the OLT has this enable context. -/
def perform (attached : AttachedOnu) (context : Nat) : OnuAction → Except Fault AttachedOnu
  | .event tx => attached.tryEvent context tx
  | .activate id => (attached.mapOnu ({ · with id := id })).tryEvent context .enable
  | .ponEnabled mode source => attached.ponEnabled mode source context
  | .ponDisabled => attached.ponDisabled context
  | .shutdown => attached.handleShutdownOnu context
  | .powerOn oltState => attached.handlePowerOnOnu oltState context
  | .reDiscover oltState => attached.reDiscoverOnu oltState context
  | .deleteOnu => attached.deleteOnu context
  | .setAlarm alarmType status => attached.setAlarm alarmType status
  | .omciMsgOut request => attached.omciMsgOut request
  | .flowAdd flow => attached.flowAdd flow
  | .flowRemove flow => attached.flowRemove flow
  | .packetOut packet => attached.packetOut packet
  | .spawn => .ok (attached.mapOnu (Onu.spawnLoop · context))
  | .select loop => .ok (attached.mapOnu (Onu.select · loop))
  | .receive loop => attached.takeTurn context loop
  | .discard loop => .ok (attached.discard loop)
  | .stop loop => .ok (attached.mapOnu (Onu.stopLoop · loop))
  | .others resources => .ok { attached with resources := resources }

/-- A step with the context the OLT has then. A goroutine that comes to grief ends the run. -/
def step (attached : AttachedOnu) (label : Nat × OnuAction) : Option AttachedOnu :=
  (attached.perform label.1 label.2).toOption

end AttachedOnu

end Bbsim.Devices
