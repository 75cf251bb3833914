import Bbsim.Responders.Md5
import Bbsim.Bbr.Bench

/-! DHCP through BBR. The DHCP client of a service, BBR's relay for its ONU and the DHCP server on
the NNI of the same BBSim. With each Ack BBR reports the ONU as done. Its loop is cancelled some
time after the first report, and stops by itself at the third. -/

namespace Bbsim.Bbr

open Foundation Devices Responders

inductive Reply where
  | offer
  | ack
deriving DecidableEq

/-- A reply comes up from the NNI before it is sent down. -/
inductive Leg where
  | discover
  | request
  | reply (reply : Reply)

structure Relay where
  done : Nat
  cancelled : Bool

/-- What BBR does with a message, and the server with what BBR sends out. -/
def Relay.take (relay : Relay) : Leg → Relay × List Leg × List Reply
  | .discover => (relay, [.reply .offer], [])
  | .request => (relay, [.reply .ack], [])
  | .reply .offer => (relay, [], [.offer])
  | .reply .ack => (⟨relay.done + 1, relay.cancelled⟩, [], [.ack])

def dhcpProtocol : Protocol DhcpState Relay Leg Reply where
  idle state := (state.after .start).isSome
  begun := .discoverySent
  opening := .discover
  fail state := Dhcp.fire state .failed
  complete state := state = .ackReceived
  respond state
    | .offer => (Dhcp.fire state .requestSent, [.request])
    | .ack => (Dhcp.fire state .ackReceived, [])
  serve relay leg :=
    if relay.cancelled = true ∨ 2 < relay.done then none else some (relay.take leg)
  stop relay := if 0 < relay.done ∧ relay.cancelled = false then some ⟨relay.done, true⟩ else none

abbrev DhcpTalk := Talk DhcpState Relay Leg Reply

theorem dhcpProtocol_lawful : dhcpProtocol.Lawful where
  fail_idle state := by cases state <;> rfl
  fail_incomplete state := by cases state <;> decide
  respond_idle state message := by cases state <;> cases message <;> decide

/-- What is left of an attempt, leg by leg. -/
def dhcpWeights : Protocol.Weights DhcpState Leg Reply where
  state _ := 0
  up
    | .discover => 6
    | .reply .offer => 5
    | .request => 3
    | .reply .ack => 2
  down
    | .offer => 4
    | .ack => 1

/-- The attempts that are under way do not fill BBR's channel of reports. -/
def Relay.isOpen (relay : Relay) (up : List Leg) (down : List Reply) : Prop :=
  relay.cancelled = false ∧ relay.done + up.length + down.count .offer ≤ 2

private theorem dhcpProtocol_handles : dhcpProtocol.Handles dhcpWeights Relay.isOpen where
  serve relay leg later down held := by
    obtain ⟨running, few⟩ := held
    rw [List.length_cons] at few
    have taken := not_or.mpr ⟨Bool.eq_false_iff.mp running, show ¬ 2 < relay.done by omega⟩
    have one : (relay.take leg).1.done + (relay.take leg).2.1.length +
        (relay.take leg).2.2.count .offer = relay.done + 1 := by
      rcases leg with _ | _ | _ | _ <;> rfl
    refine ⟨(relay.take leg).1, (relay.take leg).2.1, (relay.take leg).2.2, if_neg taken, ⟨?_, ?_⟩, ?_⟩
    · rcases leg with _ | _ | _ | _ <;> exact running
    · rw [List.length_append, List.count_append]
      omega
    · rcases leg with _ | _ | _ | _ <;> exact of_decide_eq_true rfl
  respond relay up message later state held := by
    obtain ⟨running, few⟩ := held
    have one : (dhcpProtocol.respond state message).2.length = [message].count .offer := by
      cases message <;> rfl
    rw [← List.singleton_append, List.count_append] at few
    refine ⟨⟨running, ?_⟩, ?_⟩
    · rw [List.length_append]
      omega
    · cases message <;> exact of_decide_eq_true rfl

private theorem dhcp_canReach {retry : Bool} {talk : DhcpTalk} (timed : dhcpProtocol.Timed talk)
    (held : talk.server.isOpen talk.up talk.down) :
    CanReach (dhcpProtocol.step · retry) dhcpProtocol.completed talk := by
  refine Protocol.canReach_completed dhcpProtocol_lawful dhcpProtocol_handles ?_ timed held
  intro ⟨done, cancelled⟩ timers ⟨running, few⟩
  obtain rfl : cancelled = false := running
  have path : replay (dhcpProtocol.step · retry) ⟨.discoverySent, timers, ⟨done, false⟩, [.discover], []⟩
      [.serve, .serve, .receive, .serve, .serve, .receive] =
        some ⟨.ackReceived, timers, ⟨done + 1, false⟩, [], []⟩ := by
    obtain rfl | rfl | rfl : done = 0 ∨ done = 1 ∨ done = 2 := by
      change done ≤ 2 at few
      omega
    all_goals rfl
  obtain ⟨history, run, -⟩ := exists_run_of_replay path
  exact ⟨history, _, run, rfl⟩

/-- BBR's loop has stopped, and no Ack is on its way. -/
structure Stranded (talk : DhcpTalk) : Prop where
  stopped : talk.server.cancelled = true ∨ 2 < talk.server.done
  noAck : .ack ∉ talk.down
  unacknowledged : talk.state ≠ .ackReceived

private theorem stranded_keeps : dhcpProtocol.Keeps Stranded where
  begun _ _ _ _ _ stranded := ⟨stranded.stopped, stranded.noAck, nofun⟩
  fail talk incomplete stranded := by
    refine ⟨stranded.stopped, stranded.noAck, ?_⟩
    exact of_decide_eq_false (dhcpProtocol_lawful.fail_incomplete talk.state incomplete)
  respond state _ _ _ message _ stranded := by
    refine ⟨stranded.stopped, fun member => stranded.noAck (List.mem_cons_of_mem _ member), ?_⟩
    have before := stranded.unacknowledged
    cases message with
    | offer =>
      intro after
      apply before
      cases state <;> first | rfl | cases after
    | ack => exact absurd List.mem_cons_self stranded.noAck
  serve _ _ _ _ _ _ _ _ _ served stranded := by
    cases (if_pos stranded.stopped).symm.trans served
  stop talk _ taken stranded := by
    have cancelled := (Option.ite_none_right_eq_some.mp taken).2
    cases cancelled
    exact ⟨.inl rfl, stranded.noAck, stranded.unacknowledged⟩

/-- An ONU of BBR, and a service of BBSim on its port that it knows the address of. -/
structure DhcpPair where
  onu : ReflectorOnu
  subscriber : Subscriber
  known : Bench.knows onu subscriber.service.hwAddress = true
  six : subscriber.service.hwAddress.length = 6
  clientIp : List UInt8
  /-- The address that the server makes. -/
  made : Dhcp.createIpFromMacAddress subscriber.service.hwAddress = .ok clientIp

namespace DhcpPair

variable (pair : DhcpPair) (md5 : List UInt8 → List UInt8)

def caller : Dhcp.Caller := (pair.onu.attach pair.subscriber).dhcpCaller

def name : List UInt8 :=
  Dhcp.hostname pair.caller.gemPortId pair.caller.ponPortId pair.caller.onuId

def discover : DhcpLayer :=
  Dhcp.createDHCPDisc pair.caller.ponPortId pair.caller.onuId pair.caller.gemPortId
    pair.caller.hwAddress

def request : DhcpLayer :=
  Dhcp.createDHCPReq pair.caller.ponPortId pair.caller.onuId pair.caller.hwAddress
    pair.clientIp pair.caller.gemPortId

/-- A packet of the client, behind its tags. -/
def outgoing (tags : List UInt16) (layer : DhcpLayer) : Dhcp.NniPacket :=
  ⟨pair.caller.hwAddress, broadcast, tags, layer⟩

/-- The server's reply, which has the tags of BBR until BBR takes one off. -/
def incoming (tags : List UInt16) (type : DhcpMsgType) (layer : DhcpLayer) : Dhcp.NniPacket :=
  serverReply type (pair.outgoing [900, 900] layer) tags pair.name pair.clientIp

def reply (tags : List UInt16) : Reply → Dhcp.NniPacket
  | .offer => pair.incoming tags .offer pair.discover
  | .ack => pair.incoming tags .ack pair.request

def indicated (layer : DhcpLayer) : ReflectorMessage :=
  .onuPacketIn pair.onu.id pair.onu.ponPortId 0
    (.dhcp (pair.outgoing [vlanIdentifier pair.caller.tag] layer))

def message : Leg → ReflectorMessage
  | .discover => pair.indicated pair.discover
  | .request => pair.indicated pair.request
  | .reply reply => .onuPacketIn pair.onu.id 0 0 (.dhcp (pair.reply [900, 900] reply))

def bench (talk : DhcpTalk) : Bench where
  reflector :=
    { pair.onu with channel := talk.up.map pair.message, done := talk.server.done }
  subscriber := (pair.onu.attach pair.subscriber).withDhcp talk.state
  downstream := talk.down.map fun reply => .dhcp (pair.reply [900] reply)
  timers := talk.timers
  cancelled := talk.server.cancelled

section

variable (talk : DhcpTalk)
include talk

theorem bench_append (more : List Leg) :
    pair.bench { talk with up := talk.up ++ more } =
      (pair.bench talk).deliver (more.map pair.message) := by
  simp only [bench, Bench.deliver, List.map_append]

/-- BBR finds its ONU for whatever the service sends. -/
theorem indicate_image {indication : PacketIndication} {leg : Leg}
    (pon : indication.intfId = pair.onu.ponPortId) (port : indication.portNo = pair.onu.id)
    (carries : Bench.messageOf indication = some (pair.message leg)) :
    (pair.bench talk).indicate (some indication) =
      some (pair.bench { talk with up := talk.up ++ [leg] }) := by
  rw [Bench.indicate, carries, bench_append]
  exact if_pos ⟨pon, port⟩

private theorem start_image :
    (pair.bench talk).start .dhcp = some (pair.bench (dhcpProtocol.start talk)) := by
  obtain ⟨state, timers, relay, up, down⟩ := talk
  have begun := @pair.indicate_image ⟨.discoverySent, timers + 1, relay, up, down⟩
    pair.caller.discovery .discover rfl rfl rfl
  cases state <;> first | exact begun | rfl

theorem receive_image :
    (pair.bench talk).receive md5 = (dhcpProtocol.receive talk).map pair.bench := by
  obtain ⟨state, timers, relay, up, down⟩ := talk
  cases down with
  | nil => rfl
  | cons reply later =>
    cases reply with
    | offer =>
      exact @pair.indicate_image ⟨Dhcp.fire state .requestSent, timers, relay, up, later⟩
        (pair.caller.request pair.clientIp) .request rfl rfl rfl
    | ack =>
      change _ = some (pair.bench ⟨_, timers, relay, up ++ [], later⟩)
      rw [List.append_nil]
      rfl

/-- A packet that BBR sends out comes back as a reply. -/
theorem perform_uplink {type : DhcpMsgType} {layer : DhcpLayer} {reply : Reply}
    (named : Dhcp.getPacketHostName layer = .ok pair.name)
    (same : layer.clientHwAddr = pair.caller.hwAddress)
    (served : Dhcp.handleServerPacket (pair.outgoing [900, 900] layer) =
      Dhcp.handleClientPacket type (pair.outgoing [900, 900] layer))
    (replied : pair.incoming [900, 900] type layer = pair.reply [900, 900] reply) :
    (pair.bench talk).perform (.uplinkPacketOut (pair.outgoing [900, 900] layer)) =
      some (pair.bench { talk with up := talk.up ++ [.reply reply] }) := by
  have answered := @handleClientPacket_eq (pair.outgoing [900, 900] layer) 900 900 rfl type _
    pair.clientIp named (same ▸ pair.made)
  rw [if_neg (not_not.mpr (same ▸ pair.six))] at answered
  have handled : handleNniPacket true ⟨some (pair.outgoing [900, 900] layer), false, false⟩ =
      .ok ([pair.reply [900, 900] reply], none) := by
    rw [handleNniPacket]
    dsimp only
    rw [served, answered, ← replied]
    rfl
  have known : Bench.knows pair.onu (pair.reply [900, 900] reply).dstMac = true := by
    rw [← replied]
    change Bench.knows pair.onu layer.clientHwAddr = true
    rw [same]
    exact pair.known
  rw [Bench.perform, handled, pair.bench_append]
  simp only [List.foldlM_cons, List.foldlM_nil, bind_pure]
  exact if_pos known

/-- A reply that BBR sends down arrives at the service. -/
theorem perform_packetOut (reply : Reply) :
    (pair.bench talk).perform (.onuPacketOut pair.onu.ponPortId pair.onu.id pair.onu.id 1
        (.dhcp (pair.reply [900] reply))) =
      some (pair.bench { talk with down := talk.down ++ [reply] }) := by
  have toClient : (pair.reply [900] reply).dstMac = pair.subscriber.service.hwAddress := by
    cases reply <;> rfl
  refine (congrArg some (if_pos ⟨rfl, rfl, rfl, toClient⟩)).trans ?_
  simp only [bench, List.map_append]
  rfl

theorem reflect_image :
    (pair.bench talk).reflect md5 = (dhcpProtocol.serveNext talk).map pair.bench := by
  obtain ⟨state, timers, ⟨done, cancelled⟩, up, down⟩ := talk
  cases up with
  | nil => cases cancelled <;> rfl
  | cons leg later =>
    by_cases stopped : cancelled = true ∨ 2 < done
    · have refused : dhcpProtocol.serve ⟨done, cancelled⟩ leg = none := if_pos stopped
      simp only [Protocol.serveNext, refused, Option.map_none]
      cases cancelled with
      | true => rfl
      | false =>
        have full : 2 < done := stopped.resolve_left Bool.false_ne_true
        have turned : (pair.bench ⟨state, timers, ⟨done, false⟩, leg :: later, down⟩).reflector.turn
            md5 = some (.error .doneChannelFull) := if_pos full
        simp only [Bench.reflect, turned]
        rfl
    · obtain ⟨running, few⟩ := not_or.mp stopped
      obtain rfl := Bool.eq_false_iff.mpr running
      have served : dhcpProtocol.serve ⟨done, false⟩ leg = some (Relay.take ⟨done, false⟩ leg) :=
        if_neg stopped
      simp only [Protocol.serveNext, served, Option.map_some]
      have turn := @Bench.reflect_eq (pair.bench ⟨state, timers, ⟨done, false⟩, leg :: later, down⟩)
        md5 (pair.bench ⟨state, timers, ⟨done, false⟩, later, down⟩)
      rcases leg with _ | _ | _ | _ <;>
        refine (turn rfl rfl (Nat.not_lt.mp few) rfl).trans ?_ <;>
        simp only [Relay.take, List.append_nil]
      · exact pair.perform_uplink ⟨state, timers, ⟨done, false⟩, later, down⟩ rfl rfl rfl rfl
      · exact pair.perform_uplink ⟨state, timers, ⟨done, false⟩, later, down⟩ rfl rfl rfl rfl
      · exact pair.perform_packetOut ⟨state, timers, ⟨done, false⟩, later, down⟩ .offer
      · exact pair.perform_packetOut ⟨state, timers, ⟨done + 1, false⟩, later, down⟩ .ack

private theorem finish_image : (pair.bench talk).finish =
    (dhcpProtocol.stop talk.server).map fun server => pair.bench { talk with server := server } := by
  change (if 0 < talk.server.done ∧ talk.server.cancelled = false then _ else _) = Option.map _ (ite _ _ _)
  split <;> rfl

end

theorem isImage (retry : Bool) :
    IsImage (dhcpProtocol.step · retry) (Bench.step · md5 .dhcp retry) pair.bench :=
  Bench.isImage (fun _ => rfl) (fun _ => rfl) pair.start_image (fun _ => rfl)
    (pair.receive_image md5) (pair.reflect_image md5) pair.finish_image retry

/-- No attempt has been started. -/
def begin : Bench := pair.bench ⟨.created, 0, ⟨0, false⟩, [], []⟩

variable {pair md5} {retry : Bool} {history : List (Bench × TalkStep)} {final : Bench}
  (run : Run (Bench.step · md5 .dhcp retry) pair.begin history final)
include run

end DhcpPair

/-- ONU 1 on PON 0, as BBR has it. -/
def dhcpPair : DhcpPair :=
  ⟨⟨1, 0, .dhcpFlowSent, [⟨0, 257, 0, .down, [Subscriber.fresh.service], 0⟩], [], 0⟩,
    Subscriber.fresh, rfl, rfl, [10, 1, 0, 0], rfl⟩

theorem exists_run_of_path {path : List TalkStep} {talk : DhcpTalk} (followed : replay
    (dhcpProtocol.step · true) ⟨.created, 0, ⟨0, false⟩, [], []⟩ path = some talk) :
    ∃ history, Run (Bench.step · Responders.md5 .dhcp true) dhcpPair.begin history (dhcpPair.bench talk) :=
  (dhcpPair.isImage Responders.md5 true).run_of_replay followed

end Bbsim.Bbr
