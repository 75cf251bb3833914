import Bbsim.Foundation.Run
import Bbsim.Devices.OnuEffects
import Bbsim.Devices.OnuLoop

/-! Consumers of the channels. Who receives from the channel of an ONU and from the packet channels
of its UNIs. Calls of the OLT, the API and DMI appear as the events and messages they consist of, in
any order. Enable contexts are numbered: the number of the present one is how many were made, and 0
stands for the nil context before the first `Enable`. -/

namespace Bbsim.Devices

open Foundation

/-- The message unlocks a UNI that was up before and is not now. -/
def Onu.reopens (onu : Onu) : Message → Bool
  | .omci (.setUniAdminState entity adminState) =>
    adminState ≠ 1 && (onu.uniPorts.find? fun uni => uni.meId = entity).any fun uni =>
      uni.operState = .down && 0 < uni.packetLoops
  | _ => false

def Onu.respond (onu : Onu) (uni service : Nat) (change : Service → Service) : Onu :=
  { onu with uniPorts := onu.uniPorts.modify uni (UniPort.respond service change) }

structure LoopSite where
  attached : AttachedOnu
  contexts : Nat
  /-- The present context is cancelled. -/
  cancelled : Bool
  /-- `Enable` calls that have made their context and not yet come to this ONU. -/
  resuming : Nat

inductive LoopStep where
  /-- `Enable` replaces the context, and cancels the one before. -/
  | connect
  /-- `Enable` comes to the ONU after a reboot or on a new connection: `go onu.ProcessOnuMessages`.
  The events of `ReDiscoverOnu` before it are steps of their own. -/
  | spawn
  /-- `RestartOLT` cancels the context. -/
  | cancel
  | event (tx : OnuTx)
  | send (message : Message)
  | select (loop : Nat)
  | receive (loop : Nat)
  /-- A loop that is cancelled receives a message, drops it and ends. -/
  | discard (loop : Nat)
  | stop (loop : Nat)
  /-- Something else changes a service: a responder, a timer or an API call. -/
  | respond (uni service : Nat) (eapolState : EapolState) (dhcpState : DhcpState)
      (groupAddresses : List String)

namespace LoopSite

def onu (site : LoopSite) : Onu := site.attached.onu

def create (attached : AttachedOnu) : LoopSite := ⟨attached, 0, false, 0⟩

def live (site : LoopSite) (loop : OnuLoop) : Bool :=
  loop.context = site.contexts && !site.cancelled

@[simps] def withAttached (site : LoopSite) (attached : AttachedOnu) : LoopSite :=
  { site with attached := attached }

def withOnu (site : LoopSite) (onu : Onu) : LoopSite := site.withAttached (site.attached.withOnu onu)

def step (site : LoopSite) : LoopStep → Option LoopSite
  | .connect =>
    some { site with
      contexts := site.contexts + 1
      cancelled := false
      resuming := if site.contexts = 0 then site.resuming else site.resuming + 1 }
  | .spawn =>
    if site.resuming = 0 then none
    else some { site.withOnu (site.onu.spawnLoop site.contexts) with resuming := site.resuming - 1 }
  | .cancel => some { site with cancelled := true }
  | .event tx => (site.attached.tryEvent site.contexts tx).toOption.map site.withAttached
  | .send message => (site.onu.send message).toOption.map site.withOnu
  | .select index => some (site.withOnu (site.onu.select index))
  | .receive index =>
    if site.onu.loops[index]?.any site.live then
      (site.onu.receive index).bind fun (message, rest) =>
        ((site.attached.withOnu rest).handle site.contexts message).toOption.map site.withAttached
    else none
  | .discard index =>
    if site.onu.loops[index]?.any site.live then none
    else (site.onu.receive index).map fun (_, rest) => site.withOnu (rest.stopLoop index)
  | .stop index => some (site.withOnu (site.onu.stopLoop index))
  | .respond uni service eapolState dhcpState groupAddresses =>
    some (site.withOnu (site.onu.respond uni service
      (Service.respond eapolState dhcpState groupAddresses)))

/-- The loop receives from the current channel, or will at its next turn. -/
def consumes (site : LoopSite) (loop : OnuLoop) : Bool :=
  site.live loop &&
    (loop.point = .turning || loop.point = .waiting (some site.onu.retired.length))

def consumers (site : LoopSite) : Nat := site.onu.loops.countP site.consumes

/-- Messages of the channel with this number. -/
def queueOf (site : LoopSite) (number : Nat) : List Message :=
  ((site.onu.retired ++ site.onu.channel.toList)[number]?.map Chan.queue).getD []

/-- The loop waits on a channel that holds no message for it. -/
def idle (site : LoopSite) (loop : OnuLoop) : Bool :=
  match loop.point with
  | .turning => false
  | .waiting none => true
  | .waiting (some number) => (site.queueOf number).isEmpty

/-- When a step may be taken. Steps without a case are free. -/
def Orderly (site : LoopSite) : LoopStep → Prop
  | .connect => site.resuming = 0
  | .event .init =>
    (site.onu.internalState.after .init).isSome →
      site.resuming = 0 ∧ ∀ loop ∈ site.onu.loops, site.live loop → site.idle loop
  | .receive index => ∀ entry ∈ site.onu.receive index, site.onu.reopens entry.1 = false
  | _ => True

instance (site : LoopSite) (label : LoopStep) : Decidable (site.Orderly label) := by
  unfold Orderly
  split <;> infer_instance

end LoopSite

namespace Onu

/-- At most one `HandlePackets` loop for each UNI. -/
def PacketLoopsSingle (onu : Onu) : Prop := ∀ uni ∈ onu.uniPorts, uni.packetLoops ≤ 1

/-- No loop of the ONU is started, stopped or moved and no channel replaced. -/
structure SameLoops (onu other : Onu) : Prop where
  loops : other.loops = onu.loops
  retired : other.retired = onu.retired
  exists_channel : other.channel.isSome = onu.channel.isSome
  packetLoops : onu.PacketLoopsSingle → other.PacketLoopsSingle

variable {onu other : Onu}

theorem SameLoops.refl (onu : Onu) : SameLoops onu onu := ⟨rfl, rfl, rfl, fun single => single⟩

private theorem sameLoops_enqueue (messages : List Message) : SameLoops onu (onu.enqueue messages) :=
  ⟨rfl, rfl, by simp, fun single => single⟩

theorem ensures_send (message : Message) : Ensures (onu.send message) (SameLoops onu) := by
  simpa using fun _ => sameLoops_enqueue [message]

private theorem ensures_closeChannel : Ensures onu.closeChannel (SameLoops onu) := by
  simpa using fun _ => ⟨rfl, rfl, by simp, fun single => single⟩

/-- A port that is stored with no more loops than one leaves the loops of the ONU as they are. -/
theorem ensures_changePort {Port : Type} {changed : Option Port} {alarm : Port → Message}
    {store : Onu → Port → Onu}
    (stores : ∀ port, changed = some port → SameLoops onu (store (onu.enqueue [alarm port]) port)) :
    Ensures (onu.changePort changed alarm store) (SameLoops onu) := by
  refine yields_changePort.mpr ⟨fun _ => SameLoops.refl onu, fun port found => ?_⟩
  split
  · exact stores port found
  · trivial

private theorem ensures_changeUni {index : Nat} {change : UniPort → Option UniPort}
    (single : ∀ uni changed, onu.uniPorts[index]? = some uni → change uni = some changed →
      uni.packetLoops ≤ 1 → changed.packetLoops ≤ 1) (raiseOmciAlarm : Bool) :
    Ensures (onu.changeUni index change raiseOmciAlarm) (SameLoops onu) := by
  refine ensures_changePort fun changed found => ⟨rfl, rfl, by simp, fun before other member => ?_⟩
  obtain ⟨uni, present, accepted⟩ := Option.bind_eq_some_iff.mp found
  rcases List.mem_or_eq_of_mem_set member with old | rfl
  · exact before other old
  · exact single uni _ present accepted (before uni (List.mem_of_getElem? present))

theorem sameLoops_respond (uni service : Nat) (change : Service → Service) :
    SameLoops onu (onu.respond uni service change) := by
  refine ⟨rfl, rfl, rfl, fun single port member => ?_⟩
  rcases mem_modify member with old | ⟨before, present, rfl⟩
  · exact single port old
  · exact single before present

private theorem ensures_changePots {index : Nat} {change : PotsPort → Option PotsPort}
    (raiseOmciAlarm : Bool) :
    Ensures (onu.changePots index change raiseOmciAlarm) (SameLoops onu) :=
  ensures_changePort fun _ _ => ⟨rfl, rfl, by simp, fun single => single⟩

end Onu

namespace AttachedOnu

variable {attached : AttachedOnu} {context : Nat} {tx : OnuTx}

private theorem sameLoops_entered {state : OnuState} (other : state ≠ .initialized) :
    Onu.SameLoops attached.onu (attached.entered context state).onu := by
  refine ⟨?_, ?_, ?_, ?_⟩
  · rw [entered_effects.loops, if_neg other]
  · rw [entered_effects.retired, if_neg other]
  · simp [entered_effects.channel, other]
  · intro single uni member
    rw [entered_effects.uniPorts] at member
    split at member
    · obtain ⟨before, present, rfl⟩ := List.mem_map.mp member
      have same : (before.disable.getD before).packetLoops = before.packetLoops := by
        cases state : before.operState <;>
          simp [UniPort.disable, state, PortState.after, transition, portEvents]
      rw [same]
      exact single before present
    · exact single uni member

theorem ensures_tryEvent_same (later : tx ≠ .init) :
    Ensures (attached.tryEvent context tx) fun next => Onu.SameLoops attached.onu next.onu := by
  refine ensures_tryEvent.mono fun next same => ?_
  subst same
  cases accepted : attached.onu.internalState.after tx with
  | none => exact Onu.SameLoops.refl _
  | some state =>
    apply sameLoops_entered
    rintro rfl
    exact later (OnuState.init_of_after accepted)

private theorem ensures_setUni {entity : UInt16} {adminState : UInt8}
    (settled : attached.onu.reopens (.omci (.setUniAdminState entity adminState)) = false)
    {index : Nat} (found : attached.onu.findUniByEntityId entity = some index) :
    Ensures (if adminState = 1 then attached.onu.disableUni index else attached.onu.enableUni index)
      (Onu.SameLoops attached.onu) := by
  split
  · apply Onu.ensures_changeUni
    intro uni changed _ accepted single
    obtain ⟨state, -, rfl⟩ := Option.map_eq_some_iff.mp accepted
    exact single
  · next unlock =>
    apply Onu.ensures_changeUni
    intro uni changed present accepted single
    obtain ⟨state, up, rfl⟩ := Option.map_eq_some_iff.mp accepted
    -- the UNI was down, so it has not been up before
    have down : uni.operState = .down := by
      cases before : uni.operState
      · rfl
      · rw [before] at up
        cases up
    have never : uni.packetLoops = 0 := by
      simpa [Onu.reopens, find?_of_findIdx? found, present, unlock, down] using settled
    simp [never]

private theorem ensures_processOmci {request : OmciRequest}
    (settled : attached.onu.reopens (.omci request) = false) :
    Ensures (attached.processOmci context request) fun result =>
      Onu.SameLoops attached.onu result.1.onu := by
  have same : ∀ onu : Onu, onu.loops = attached.onu.loops → onu.retired = attached.onu.retired →
      onu.channel = attached.onu.channel → onu.uniPorts = attached.onu.uniPorts →
      Onu.SameLoops attached.onu onu := by
    intro onu loops retired channel uniPorts
    exact ⟨loops, retired, by rw [channel], fun single => by rwa [Onu.PacketLoopsSingle, uniPorts]⟩
  have counting {onu : Onu} (loops : Onu.SameLoops attached.onu onu) :
      Onu.SameLoops attached.onu onu.incrementMibDataSync :=
    ⟨loops.loops, loops.retired, loops.exists_channel, loops.packetLoops⟩
  apply yields_processOmci_of
  · exact fun _ => same _ rfl rfl rfl rfl
  · exact fun _ _ _ => same _ rfl rfl rfl rfl
  · rintro entity adminState index rfl found
    exact (ensures_setUni settled found).mono fun _ => counting
  · intro entity adminState index _ _
    split
    · exact (Onu.ensures_changePots true).mono fun _ => counting
    · exact (Onu.ensures_changePots false).mono fun _ => counting

theorem ensures_handle {message : Message} (settled : attached.onu.reopens message = false) :
    Ensures (attached.handle context message) fun next => Onu.SameLoops attached.onu next.onu := by
  cases message with
  | omci request =>
    rw [handle, Ensures, yields_map, handleOmciRequest]
    dsimp only
    split
    · exact ⟨rfl, rfl, rfl, fun single => single⟩
    · rw [yields_map]
      have counted : (attached.mapOnu Onu.countOmciMsg).onu.reopens (.omci request) = false := settled
      exact (ensures_processOmci counted).mono fun _ same =>
        ⟨same.loops, same.retired, same.exists_channel, same.packetLoops⟩
  | flowAdd flow =>
    rw [handle, Ensures, yields_map, Onu.handleFlowAdd]
    split
    · trivial
    · refine ⟨rfl, rfl, rfl, fun single uni member => ?_⟩
      rcases mem_modify member with old | ⟨before, present, rfl⟩
      · exact single uni old
      · rw [UniPort.handleFlow_packetLoops]
        exact single before present
  | flowRemoved flow =>
    rw [handle, Ensures, yields_map, Onu.handleFlowRemove]
    dsimp only
    split
    · exact Onu.ensures_closeChannel.mono fun _ same =>
        ⟨same.loops, same.retired, same.exists_channel, same.packetLoops⟩
    · exact ⟨rfl, rfl, rfl, fun single => single⟩
  | _ => exact Onu.SameLoops.refl _

end AttachedOnu

namespace LoopSite

variable {site next : LoopSite}

inductive Changed (site : LoopSite) : AttachedOnu → Prop where
  /-- Loops are started, moved or stopped. -/
  | loops (loops : List OnuLoop) : Changed site (site.attached.withOnu { site.onu with loops := loops })
  | event {next : AttachedOnu} (tx : OnuTx)
      (tried : site.attached.tryEvent site.contexts tx = .ok next) : Changed site next
  | sent {onu : Onu} (message : Message) (sent : site.onu.send message = .ok onu) :
      Changed site (site.attached.withOnu onu)
  | handled {index : Nat} {message : Message} {rest : Onu} {next : AttachedOnu}
      (received : site.onu.receive index = some (message, rest))
      (handled : (site.attached.withOnu rest).handle site.contexts message = .ok next) :
      Changed site next
  /-- A message is received and dropped. -/
  | discarded {index : Nat} {message : Message} {rest : Onu}
      (received : site.onu.receive index = some (message, rest)) :
      Changed site (site.attached.withOnu (rest.stopLoop index))
  | responded (uni service : Nat) (eapolState : EapolState) (dhcpState : DhcpState)
      (groupAddresses : List String) :
      Changed site (site.attached.withOnu (site.onu.respond uni service
        (Service.respond eapolState dhcpState groupAddresses)))

theorem step_changed {label : LoopStep} (taken : site.step label = some next) :
    site.Changed next.attached := by
  cases label with
  | connect | cancel =>
    obtain rfl := Option.some.inj taken
    exact .loops site.onu.loops
  | spawn =>
    obtain ⟨-, same⟩ := Option.ite_none_left_eq_some.mp taken
    obtain rfl := Option.some.inj same
    exact .loops _
  | event tx =>
    obtain ⟨attached, returned, rfl⟩ := Option.map_eq_some_iff.mp taken
    exact .event tx (eq_ok_of_toOption returned)
  | send message =>
    obtain ⟨sent, returned, rfl⟩ := Option.map_eq_some_iff.mp taken
    exact .sent message (eq_ok_of_toOption returned)
  | select index =>
    obtain rfl := Option.some.inj taken
    have frame : site.onu.select index = { site.onu with loops := (site.onu.select index).loops } := by
      unfold Onu.select
      split <;> rfl
    change site.Changed (site.attached.withOnu (site.onu.select index))
    rw [frame]
    exact .loops _
  | receive index =>
    obtain ⟨-, turn⟩ := Option.ite_none_right_eq_some.mp taken
    obtain ⟨⟨message, rest⟩, received, handled⟩ := Option.bind_eq_some_iff.mp turn
    obtain ⟨attached, returned, rfl⟩ := Option.map_eq_some_iff.mp handled
    exact .handled received (eq_ok_of_toOption returned)
  | discard index =>
    obtain ⟨-, dropped⟩ := Option.ite_none_left_eq_some.mp taken
    obtain ⟨⟨message, rest⟩, received, rfl⟩ := Option.map_eq_some_iff.mp dropped
    exact .discarded received
  | stop index =>
    obtain rfl := Option.some.inj taken
    exact .loops _
  | respond uni service eapolState dhcpState groupAddresses =>
    obtain rfl := Option.some.inj taken
    exact .responded uni service eapolState dhcpState groupAddresses

end LoopSite

end Bbsim.Devices
