import Mathlib.Tactic.Simps.Basic
import Bbsim.Foundation.Outcome
import Bbsim.Devices.PonResources
import Bbsim.Devices.UniPort

/-! ONU devices. An ONU with its channels and the goroutines that read them, and the callbacks of
its state machine. A channel holds 2048 messages before a sender has to wait; here it is unbounded,
which admits every run of the bounded one. -/

namespace Bbsim.Devices

open Foundation

structure Chan where
  queue : List Message := []
  closed : Bool := false

/-- Where a `ProcessOnuMessages` loop stands. -/
inductive LoopPoint where
  /-- Starting up or handling a message: `o.Channel` is read again at the next turn. -/
  | turning
  /-- In the `select`, on the channel with this number, or on the nil channel. -/
  | waiting (channel : Option Nat)
deriving DecidableEq, Repr

structure OnuLoop where
  context : Nat
  point : LoopPoint
deriving DecidableEq, Repr

structure Onu where
  id : UInt32
  ponPortId : UInt32
  serialNumber : SerialRef
  vendorSpecific : List UInt8
  internalState : OnuState
  operState : PortState
  flows : List UInt64
  flowIds : List UInt64
  uniPorts : List UniPort
  potsPorts : List PotsPort
  mibDataSync : UInt8
  omciMsgCounter : UInt8
  omciResponseRate : UInt8
  /-- Channels replaced since, oldest first; a channel's number is its position here. -/
  retired : List Chan
  channel : Option Chan
  loops : List OnuLoop

/-- How a goroutine that uses an ONU comes to grief. -/
inductive Fault where
  | sendOnNilChannel
  | sendOnClosedChannel
  | closeOfNilChannel
  | closeOfClosedChannel
  | nilUni
deriving DecidableEq, Repr

namespace Onu

/-- `CreateONU`: there is no channel and no loop yet. -/
def create (id ponPortId : UInt32) (serialNumber : SerialRef) (vendorSpecific : List UInt8)
    (uniPorts : List UniPort) (potsPorts : List PotsPort) (omciResponseRate : UInt8) : Onu where
  id := id
  ponPortId := ponPortId
  serialNumber := serialNumber
  vendorSpecific := vendorSpecific
  internalState := .created
  operState := .down
  flows := []
  flowIds := []
  uniPorts := uniPorts
  potsPorts := potsPorts
  mibDataSync := 0
  omciMsgCounter := 0
  omciResponseRate := omciResponseRate
  retired := []
  channel := none
  loops := []

/-- Number of the current channel, once it exists. -/
def channelNumber (onu : Onu) : Option Nat := onu.channel.map fun _ => onu.retired.length

/-- Messages waiting in the current channel. -/
def pending (onu : Onu) : List Message := (onu.channel.map Chan.queue).getD []

def send (message : Message) (onu : Onu) : Except Fault Onu :=
  match onu.channel with
  | none => .error .sendOnNilChannel
  | some chan =>
    if chan.closed then .error .sendOnClosedChannel
    else .ok { onu with channel := some { chan with queue := chan.queue ++ [message] } }

def sendAll (onu : Onu) : List Message → Except Fault Onu
  | [] => .ok onu
  | message :: rest => (onu.send message).bind fun next => next.sendAll rest

def closeChannel (onu : Onu) : Except Fault Onu :=
  match onu.channel with
  | none => .error .closeOfNilChannel
  | some chan =>
    if chan.closed then .error .closeOfClosedChannel
    else .ok { onu with channel := some { chan with closed := true } }

/-- Receive from the current channel. -/
def takeCurrent (onu : Onu) : Option (Message × Onu) :=
  match onu.channel with
  | some { queue := message :: rest, closed } =>
    some (message, { onu with channel := some { queue := rest, closed } })
  | _ => none

@[simps] def makeChannel (onu : Onu) : Onu :=
  { onu with retired := onu.retired ++ onu.channel.toList, channel := some {} }

/-- `go o.ProcessOnuMessages(...)`. -/
@[simps] def spawnLoop (onu : Onu) (context : Nat) : Onu :=
  { onu with loops := onu.loops ++ [⟨context, .turning⟩] }

/-- The state machine enters a state, before its callback runs. -/
@[simps] def moveTo (onu : Onu) (state : OnuState) : Onu := { onu with internalState := state }

/-- An `OperState` event whose error is only logged. -/
@[simps] def operEvent (onu : Onu) (tx : PortTx) : Onu :=
  { onu with operState := (onu.operState.after tx).getD onu.operState }

/-- Alarms of the UNIs that are up. -/
def uniAlarms (onu : Onu) : List Message :=
  (onu.uniPorts.filter fun uni => uni.disable.isSome).map (UniPort.alarm · true)

def potsAlarms (onu : Onu) : List Message :=
  (onu.potsPorts.filter fun pots => pots.disable.isSome).map (PotsPort.alarm · true)

/-- `uni.Disable()` on every UNI. -/
def disableUnis (onu : Onu) : Except Fault Onu :=
  (onu.sendAll onu.uniAlarms).map fun onu =>
    { onu with uniPorts := onu.uniPorts.map fun uni => uni.disable.getD uni }

/-- `pots.Disable()` on every POTS port. -/
def disablePots (onu : Onu) : Except Fault Onu :=
  (onu.sendAll onu.potsAlarms).map fun onu =>
    { onu with potsPorts := onu.potsPorts.map fun pots => pots.disable.getD pots }

end Onu

/-- An ONU together with the resources of its PON. -/
structure AttachedOnu where
  onu : Onu
  resources : PonResources

namespace AttachedOnu

@[simps] def withOnu (attached : AttachedOnu) (onu : Onu) : AttachedOnu := { attached with onu := onu }

/-- `cleanupOnuState`, without the alarm sequence numbers. -/
def cleanupOnuState (attached : AttachedOnu) : AttachedOnu :=
  ⟨{ attached.onu with flows := [] },
    attached.resources.cleanup attached.onu.id attached.onu.serialNumber⟩

def enterInitialized (attached : AttachedOnu) (context : Nat) : AttachedOnu :=
  attached.withOnu ((attached.onu.makeChannel.operEvent .enable).spawnLoop context)

def enterDiscovered (attached : AttachedOnu) : Except Fault AttachedOnu :=
  (attached.onu.send .onuDiscIndication).map attached.withOnu

/-- A duplicate id is only logged. -/
def enterEnabled (attached : AttachedOnu) : Except Fault AttachedOnu :=
  match attached.resources.isOnuIdAllocated attached.onu.id with
  | some _ => .ok attached
  | none =>
    (attached.onu.send (.onuIndication .up)).map fun onu =>
      ⟨onu, attached.resources.storeOnuId attached.onu.id attached.onu.serialNumber⟩

def enterDisabled (attached : AttachedOnu) : Except Fault AttachedOnu := do
  let cleaned := attached.cleanupOnuState
  let onu ← (cleaned.onu.operEvent .disable).send (.onuIndication .down)
  let onu ← onu.disableUnis
  let onu ← onu.disablePots
  let onu ← if onu.flowIds = [] then onu.closeChannel else .ok onu
  return cleaned.withOnu onu

def enterPonDisabled (attached : AttachedOnu) : AttachedOnu := attached.cleanupOnuState

/-- The callback of the state just entered. -/
def enter (attached : AttachedOnu) (context : Nat) : OnuState → Except Fault AttachedOnu
  | .initialized => .ok (attached.enterInitialized context)
  | .discovered => attached.enterDiscovered
  | .enabled => attached.enterEnabled
  | .disabled => attached.enterDisabled
  | .ponDisabled => .ok attached.enterPonDisabled
  | _ => .ok attached

/-- `InternalState.Event`; `none` where the state machine refuses the event. -/
def event (attached : AttachedOnu) (context : Nat) (tx : OnuTx) :
    Except Fault (Option AttachedOnu) :=
  match attached.onu.internalState.after tx with
  | none => .ok none
  | some state =>
    ((attached.withOnu (attached.onu.moveTo state)).enter context state).map some

/-- An event whose refusal is only logged. -/
def tryEvent (attached : AttachedOnu) (context : Nat) (tx : OnuTx) : Except Fault AttachedOnu :=
  (attached.event context tx).map fun next => next.getD attached

end AttachedOnu

variable {raises : Fault → Prop}

namespace Onu

/-- The current channel exists and is not closed. -/
def writable (onu : Onu) : Bool := onu.channel.any fun chan => !chan.closed

@[simps] def enqueue (onu : Onu) (messages : List Message) : Onu :=
  { onu with channel := onu.channel.map fun chan => { chan with queue := chan.queue ++ messages } }

@[simps] def markClosed (onu : Onu) : Onu :=
  { onu with channel := onu.channel.map fun chan => { chan with closed := true } }

variable {onu : Onu}

@[simp] theorem writable_enqueue (messages : List Message) :
    (onu.enqueue messages).writable = onu.writable := by
  cases channel : onu.channel <;> simp [writable, enqueue, channel]

@[simp] theorem writable_moveTo (state : OnuState) : (onu.moveTo state).writable = onu.writable := rfl

@[simp] theorem enqueue_nil : onu.enqueue [] = onu := by
  obtain ⟨⟩ := onu
  simp [enqueue]

private theorem enqueue_enqueue (first second : List Message) :
    (onu.enqueue first).enqueue second = onu.enqueue (first ++ second) := by
  cases channel : onu.channel <;> simp [enqueue, channel]

theorem send_of_writable (isOpen : onu.writable = true) (message : Message) :
    onu.send message = .ok (onu.enqueue [message]) := by
  cases channel : onu.channel with
  | none => simp [writable, channel] at isOpen
  | some chan => simp_all [writable, send, enqueue]

/-- What becomes of a send where the channel cannot be written. -/
def sendFault (onu : Onu) : Fault :=
  if onu.channel.isNone then .sendOnNilChannel else .sendOnClosedChannel

theorem send_of_not_writable (shut : onu.writable = false) (message : Message) :
    onu.send message = .error onu.sendFault := by
  cases channel : onu.channel with
  | none => simp [send, sendFault, channel]
  | some chan => simp_all [writable, send, sendFault]

theorem sendAll_of_writable (isOpen : onu.writable = true) (messages : List Message) :
    onu.sendAll messages = .ok (onu.enqueue messages) := by
  induction messages generalizing onu with
  | nil => rw [enqueue_nil, sendAll]
  | cons message rest ih =>
    have later : (onu.enqueue [message]).sendAll rest = .ok ((onu.enqueue [message]).enqueue rest) :=
      ih (by simpa using isOpen)
    rw [enqueue_enqueue] at later
    simpa only [sendAll, send_of_writable isOpen message, Except.bind, List.singleton_append] using later

theorem closeChannel_of_writable (isOpen : onu.writable = true) :
    onu.closeChannel = .ok onu.markClosed := by
  cases channel : onu.channel with
  | none => simp [writable, channel] at isOpen
  | some chan => simp_all [writable, closeChannel, markClosed]

def closeFault (onu : Onu) : Fault :=
  if onu.channel.isNone then .closeOfNilChannel else .closeOfClosedChannel

private theorem closeChannel_of_not_writable (shut : onu.writable = false) :
    onu.closeChannel = .error onu.closeFault := by
  cases channel : onu.channel with
  | none => simp [closeChannel, closeFault, channel]
  | some chan => simp_all [writable, closeChannel, closeFault]

variable {post : Onu → Prop} {message : Message}

@[simp] theorem yields_send :
    Yields (onu.send message) raises post ↔
      if onu.writable then post (onu.enqueue [message]) else raises onu.sendFault := by
  cases isOpen : onu.writable with
  | false => simp [send_of_not_writable isOpen]
  | true => simp [send_of_writable isOpen]

@[simp] theorem yields_closeChannel :
    Yields onu.closeChannel raises post ↔
      if onu.writable then post onu.markClosed else raises onu.closeFault := by
  cases isOpen : onu.writable with
  | false => simp [closeChannel_of_not_writable isOpen]
  | true => simp [closeChannel_of_writable isOpen]

theorem pending_enqueue (isOpen : onu.writable = true) (messages : List Message) :
    (onu.enqueue messages).pending = onu.pending ++ messages := by
  cases channel : onu.channel with
  | none => simp [writable, channel] at isOpen
  | some chan => simp [pending, channel]

theorem takeCurrent_eq_some {rest : Onu} (received : onu.takeCurrent = some (message, rest)) :
    ∃ chan queue, onu.channel = some chan ∧ chan.queue = message :: queue ∧
      rest = { onu with channel := some { chan with queue := queue } } := by
  unfold takeCurrent at received
  split at received
  · next first queue closed channel =>
    cases received
    exact ⟨_, queue, channel, rfl, rfl⟩
  · cases received

@[simps] def unisDown (onu : Onu) : Onu :=
  { onu.enqueue onu.uniAlarms with uniPorts := onu.uniPorts.map fun uni => uni.disable.getD uni }

@[simps] def potsDown (onu : Onu) : Onu :=
  { onu.enqueue onu.potsAlarms with
    potsPorts := onu.potsPorts.map fun pots => pots.disable.getD pots }

/-- The ONU as `enter_disabled` leaves it. -/
def switchedOff (onu : Onu) : Onu :=
  let down := (({ onu with flows := [] }.operEvent .disable).enqueue [.onuIndication .down])
    |>.unisDown.potsDown
  if onu.flowIds = [] then down.markClosed else down

@[simp] theorem switchedOff_internalState : onu.switchedOff.internalState = onu.internalState := by
  unfold switchedOff
  split <;> simp

@[simp] theorem switchedOff_id : onu.switchedOff.id = onu.id := by
  unfold switchedOff
  split <;> simp

@[simp] theorem switchedOff_serialNumber : onu.switchedOff.serialNumber = onu.serialNumber := by
  unfold switchedOff
  split <;> simp

@[simp] theorem switchedOff_ponPortId : onu.switchedOff.ponPortId = onu.ponPortId := by
  unfold switchedOff
  split <;> simp

@[simp] theorem switchedOff_flows : onu.switchedOff.flows = [] := by
  unfold switchedOff
  split <;> simp

@[simp] theorem switchedOff_flowIds : onu.switchedOff.flowIds = onu.flowIds := by
  unfold switchedOff
  split <;> simp

@[simp] theorem switchedOff_uniPorts :
    onu.switchedOff.uniPorts = onu.uniPorts.map fun uni => uni.disable.getD uni := by
  unfold switchedOff
  split <;> simp

@[simp] theorem switchedOff_potsPorts :
    onu.switchedOff.potsPorts = onu.potsPorts.map fun pots => pots.disable.getD pots := by
  unfold switchedOff
  split <;> simp

@[simp] theorem switchedOff_retired : onu.switchedOff.retired = onu.retired := by
  unfold switchedOff
  split <;> simp

@[simp] theorem switchedOff_loops : onu.switchedOff.loops = onu.loops := by
  unfold switchedOff
  split <;> simp

@[simp] theorem switchedOff_channel_isSome :
    onu.switchedOff.channel.isSome = onu.channel.isSome := by
  unfold switchedOff
  split <;> simp

@[simp] theorem writable_unisDown : onu.unisDown.writable = onu.writable :=
  writable_enqueue _

@[simp] theorem writable_potsDown : onu.potsDown.writable = onu.writable :=
  writable_enqueue _

theorem pending_switchedOff (isOpen : onu.writable = true) :
    onu.switchedOff.pending =
      onu.pending ++ (.onuIndication .down :: (onu.uniAlarms ++ onu.potsAlarms)) := by
  cases channel : onu.channel with
  | none => simp [writable, channel] at isOpen
  | some chan =>
    unfold switchedOff
    split <;> simp [pending, channel, uniAlarms, potsAlarms]

theorem writable_switchedOff (flows : onu.flowIds ≠ []) :
    onu.switchedOff.writable = onu.writable := by
  rw [switchedOff, if_neg flows, writable_potsDown, writable_unisDown, writable_enqueue]
  rfl

private theorem disableUnis_of_writable (isOpen : onu.writable = true) :
    onu.disableUnis = .ok onu.unisDown := by
  simp [disableUnis, sendAll_of_writable isOpen, Except.map, unisDown, enqueue]

private theorem disablePots_of_writable (isOpen : onu.writable = true) :
    onu.disablePots = .ok onu.potsDown := by
  simp [disablePots, sendAll_of_writable isOpen, Except.map, potsDown, enqueue]

end Onu

namespace AttachedOnu

variable {attached : AttachedOnu}

def switchedOff (attached : AttachedOnu) : AttachedOnu :=
  ⟨attached.onu.switchedOff,
    attached.resources.cleanup attached.onu.id attached.onu.serialNumber⟩

private theorem enterDisabled_of_writable (isOpen : attached.onu.writable = true) :
    attached.enterDisabled = .ok attached.switchedOff := by
  have cleaned : (attached.cleanupOnuState.onu.operEvent .disable).writable = true := isOpen
  simp only [enterDisabled, Onu.send_of_writable cleaned, bind, Except.bind]
  rw [Onu.disableUnis_of_writable (by simpa using cleaned)]
  simp only
  rw [Onu.disablePots_of_writable (by simpa using cleaned)]
  simp only
  by_cases drained : attached.onu.flowIds = []
  · rw [if_pos (by simpa [cleanupOnuState] using drained),
      Onu.closeChannel_of_writable (by simpa using cleaned)]
    rw [switchedOff, Onu.switchedOff, if_pos drained]
    rfl
  · rw [if_neg (by simpa [cleanupOnuState] using drained)]
    rw [switchedOff, Onu.switchedOff, if_neg drained]
    rfl

private theorem enterDisabled_of_not_writable (shut : attached.onu.writable = false) :
    attached.enterDisabled = .error attached.onu.sendFault := by
  have cleaned : (attached.cleanupOnuState.onu.operEvent .disable).writable = false := shut
  simp only [enterDisabled, Onu.send_of_not_writable cleaned]
  rfl

@[simp] theorem yields_enterDisabled {post : AttachedOnu → Prop} :
    Yields attached.enterDisabled raises post ↔
      if attached.onu.writable then post attached.switchedOff
      else raises attached.onu.sendFault := by
  cases isOpen : attached.onu.writable with
  | false => simp [enterDisabled_of_not_writable isOpen]
  | true => simp [enterDisabled_of_writable isOpen]

end AttachedOnu

end Bbsim.Devices
