import Bbsim.Foundation.Protocol
import Bbsim.Devices.Nni
import Bbsim.Devices.ServiceLocks
import Bbsim.Bbr.Reflector
import Bbsim.Responders.EapolWire

/-! One of the responders of a service of BBSim against BBR. What the service sends is indicated to BBR's
ONU, and what BBR sends is performed by BBSim: packets for the NNI are answered by the DHCP server there,
packets for the ONU go to the service they are for. Frames of EAPOL cross in bytes. The message that
starts an attempt is handled at once. -/

namespace Bbsim.Bbr

open Foundation Devices Responders

/-- A packet on its way to the service, with the ids of the message that carries it. -/
inductive PacketDown where
  | eapol (intfId onuId : UInt32) (packet : EapolPacket)
  | dhcp (packet : Dhcp.NniPacket)

/-- A service on the port of an ONU of BBR, with what BBR's calls have given to it and to its ONU. -/
def ReflectorOnu.attach (onu : ReflectorOnu) (subscriber : Subscriber) : Subscriber :=
  { subscriber with
    ponPortId := onu.ponPortId
    onuId := onu.id
    portNo := onu.id
    service := { subscriber.service with gemPort := onu.id, channel := .served, packetCh := .served } }

structure Bench where
  reflector : ReflectorOnu
  subscriber : Subscriber
  downstream : List PacketDown
  /-- The timers of the attempts of the responder in question. -/
  timers : Nat
  /-- The loop of BBR's ONU has been cancelled. -/
  cancelled : Bool

namespace Bench

variable (bench : Bench) (md5 : List UInt8 → List UInt8)

/-- The packets that BBR does not ignore. -/
def messageOf (indication : PacketIndication) : Option ReflectorMessage :=
  match indication.frame with
  | ⟨_, _, .eapol type length eap⟩ => some (.onuPacketIn indication.portNo indication.intfId 0
      (.eapol (decodeEAPOL (serializeEapol type length eap))))
  | ⟨srcMac, dstMac, .dhcp vlan _ layer⟩ => some (.onuPacketIn indication.portNo indication.intfId 0
      (.dhcp ⟨srcMac, dstMac, [vlan], layer⟩))
  | ⟨_, _, .igmp ..⟩ => none

def deliver (messages : List ReflectorMessage) : Bench :=
  { bench with reflector := { bench.reflector with channel := bench.reflector.channel ++ messages } }

/-- BBR looks for the PON, and on it for the ONU that has the port number for its id; it ends where
there is none. -/
def indicate : Option PacketIndication → Option Bench
  | none => some bench
  | some indication =>
    match messageOf indication with
    | none => some bench
    | some message =>
      if indication.intfId = bench.reflector.ponPortId ∧ indication.portNo = bench.reflector.id then
        some (bench.deliver [message])
      else none

/-- `FindServiceByMacAddress` among the services of BBR's ONU. -/
def knows (reflector : ReflectorOnu) (mac : Mac) : Bool :=
  reflector.uniPorts.any fun uni => uni.services.any fun service => service.hwAddress = mac

/-- An indication from the NNI is found by its destination; BBR ends where there is none. -/
def indicateNni (packet : Dhcp.NniPacket) : Option Bench :=
  if knows bench.reflector packet.dstMac then
    some (bench.deliver [.onuPacketIn bench.reflector.id 0 0 (.dhcp packet)])
  else none

/-- A packet reaches the service that has its address, on the UNI that has its port number. -/
def send (intfId onuId portNo : UInt32) (dstMac : Mac) (packet : PacketDown) : Bench :=
  if intfId = bench.subscriber.ponPortId ∧ onuId = bench.subscriber.onuId ∧
      portNo = bench.subscriber.portNo ∧ dstMac = bench.subscriber.service.hwAddress then
    { bench with downstream := bench.downstream ++ [packet] }
  else bench

/-- `handleFlowAdd` as far as the flow gives the service its GEM port, and its UNI the port number. -/
def storeFlow (flow : Flow) : Bench :=
  { bench with
    subscriber := { bench.subscriber with
      portNo := flow.portNo
      service := bench.subscriber.service.addGemPort flow.onuGemPort flow.classifier.ethType
        flow.classifier.oVid flow.classifier.iVid } }

/-- A call of BBR, with what BBSim does about it. The OLT accepts the flow; the attempt at DHCP that it
starts, where the service needs one, is none of the responder in question. -/
def perform : OpenOltCall → Option Bench
  | .flowAdd flow => some (bench.storeFlow flow)
  | .onuPacketOut intfId onuId portNo _ (.eapol ⟨_, dstMac, .eapol type length eap⟩) =>
    some (bench.send intfId onuId portNo dstMac
      (.eapol intfId onuId (decodeEAPOL (serializeEapol type length eap))))
  | .onuPacketOut _ _ _ _ (.eapol _) => some bench
  | .onuPacketOut intfId onuId portNo _ (.dhcp packet) =>
    some (bench.send intfId onuId portNo packet.dstMac (.dhcp packet))
  | .uplinkPacketOut packet =>
    match handleNniPacket true ⟨some packet, false, false⟩ with
    | .error _ => none
    | .ok (replies, _) => replies.foldlM indicateNni bench

/-- An attempt that is accepted gets a timer. -/
def start (responder : Responder) : Option Bench :=
  let outcome := match responder with
    | .eapol => bench.subscriber.startAuth true
    | .dhcp => bench.subscriber.startDhcp true
  outcome.bind fun (subscriber, sent) =>
    { bench with
      subscriber := subscriber
      timers := bench.timers + sent.toList.length }.indicate sent.join

/-- A timer ends, and whatever attempt is under way fails. -/
def failed (responder : Responder) : Bench :=
  let service := bench.subscriber.service
  { bench with
    subscriber := match responder with
      | .eapol => bench.subscriber.withEapol (Eapol.fire service.eapolState .authFailed)
      | .dhcp => bench.subscriber.withDhcp (Dhcp.fire service.dhcpState .failed)
    timers := bench.timers - 1 }

def succeeded : Responder → Bool
  | .eapol => bench.subscriber.service.eapolState = .responseSuccessReceived
  | .dhcp => bench.subscriber.service.dhcpState = .ackReceived

/-- After a success the timer only starts again. -/
def expire (responder : Responder) (retry : Bool) : Option Bench :=
  if bench.timers = 0 then none
  else if bench.succeeded responder then some bench
  else if retry then (bench.failed responder).start responder
  else some (bench.failed responder)

/-- `HandlePackets` of the service. -/
def receive : Option Bench :=
  match bench.downstream with
  | [] => none
  | packet :: later =>
    if bench.subscriber.service.packetCh = .served then
      let outcome := match packet with
        | .eapol intfId onuId packet =>
          (bench.subscriber.handleEapolPacket md5 intfId onuId true packet).toOption
        | .dhcp packet => some (bench.subscriber.handleDhcpPacket true (some packet.layer))
      outcome.bind fun (subscriber, sent) =>
        { bench with subscriber := subscriber, downstream := later }.indicate sent
    else none

/-- A loop that was cancelled takes no more messages. -/
def reflect : Option Bench :=
  if bench.cancelled then none
  else
    (bench.reflector.turn md5).bind fun outcome =>
      outcome.toOption.bind fun (next, calls) =>
        calls.foldlM perform { bench with reflector := next }

/-- Whoever waits on `DoneChannel` takes one message and cancels the loop. -/
def finish : Option Bench :=
  if 0 < bench.reflector.done ∧ bench.cancelled = false then some { bench with cancelled := true }
  else none

def step (responder : Responder) (retry : Bool) : TalkStep → Option Bench
  | .start => bench.start responder
  | .expire => bench.expire responder retry
  | .receive => bench.receive md5
  | .serve => bench.reflect md5
  | .stop => bench.finish

variable {bench md5}

/-- The parties are an image of a protocol if each of their parts is. -/
theorem isImage {State Server Up Down : Type} {protocol : Protocol State Server Up Down}
    {image : Talk State Server Up Down → Bench} {responder : Responder}
    (timers : ∀ talk, (image talk).timers = talk.timers)
    (succeeded : ∀ talk, (image talk).succeeded responder = protocol.complete talk.state)
    (start : ∀ talk, (image talk).start responder = some (image (protocol.start talk)))
    (failed : ∀ talk, (image talk).failed responder = image (protocol.failed talk))
    (receive : ∀ talk, (image talk).receive md5 = (protocol.receive talk).map image)
    (serve : ∀ talk, (image talk).reflect md5 = (protocol.serveNext talk).map image)
    (stop : ∀ talk, (image talk).finish =
      (protocol.stop talk.server).map fun server => image { talk with server := server })
    (retry : Bool) : IsImage (protocol.step · retry) (step · md5 responder retry) image := by
  intro talk label
  cases label with
  | start => exact start talk
  | expire =>
    change (image talk).expire responder retry = (protocol.expire talk retry).map image
    rw [expire, Protocol.expire, failed, start, succeeded, timers]
    split
    · rfl
    · split
      · rfl
      · cases retry <;> rfl
  | receive => exact receive talk
  | serve => exact serve talk
  | stop => exact (stop talk).trans (Option.map_map ..).symm

/-- BBR's turn with a message, where it makes one call. -/
theorem reflect_eq {later : Bench} {message : ReflectorMessage} {next : ReflectorOnu}
    {call : OpenOltCall}
    (processed : later.reflector.process md5 message = .ok (next, [call]))
    (running : later.cancelled = false) (few : later.reflector.done ≤ 2)
    (waiting : bench = { later with
      reflector := { later.reflector with channel := message :: later.reflector.channel } }) :
    bench.reflect md5 = { later with reflector := next }.perform call := by
  have turned : bench.reflector.turn md5 = some (.ok (next, [call])) := by
    rw [waiting, ReflectorOnu.turn]
    dsimp only
    rw [if_neg (Nat.not_lt.mpr few), processed]
  have going : ¬ bench.cancelled = true := by
    rw [waiting]
    exact Bool.eq_false_iff.mp running
  rw [reflect, if_neg going, turned, waiting]
  change [call].foldlM perform { later with reflector := next } = _
  simp only [List.foldlM_cons, List.foldlM_nil, bind_pure]

end Bench

end Bbsim.Bbr
