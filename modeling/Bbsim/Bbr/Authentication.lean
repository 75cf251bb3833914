import Bbsim.Devices.CreateOlt
import Bbsim.Responders.Md5
import Bbsim.Bbr.Bench

/-! Authentication against BBR. The EAPOL client of a service and the authenticator that BBR plays
for it. Neither side numbers its attempts, and BBR does not look at the response to its challenge,
so that the frames of all attempts are alike. -/

namespace Bbsim.Bbr

open Foundation Devices Responders

inductive AuthUp where
  | start
  | identity
  | challenge
  /-- BBR's message to itself. -/
  | flow

inductive AuthDown where
  | identity
  | challenge
  | success
deriving DecidableEq

/-- The server is whether BBR has gone on to its DHCP flow; `reached` is whether the service has the
address that BBR writes to. -/
def authProtocol (reached : Bool) : Protocol EapolState Bool AuthUp AuthDown where
  idle state := (state.after .startAuth).isSome
  begun := .startSent
  opening := .start
  fail state := Eapol.fire state .authFailed
  complete state := state = .responseSuccessReceived
  respond state
    | .identity =>
      if state = .startSent then (.responseIdentitySent, [.identity]) else (Eapol.drop state, [])
    | .challenge =>
      if state = .responseIdentitySent then (.responseChallengeSent, [.challenge])
      else (Eapol.drop state, [])
    | .success =>
      if state = .responseChallengeSent then (.responseSuccessReceived, [])
      else (Eapol.drop state, [])
  serve heard
    | .start => some (heard, [], if reached then [.identity] else [])
    | .identity => some (heard, [], if reached then [.challenge] else [])
    | .challenge => some (true, if heard then [] else [.flow], if reached then [.success] else [])
    | .flow => some (heard, [], [])
  stop _ := none

abbrev AuthTalk := Talk EapolState Bool AuthUp AuthDown

theorem authProtocol_lawful (reached : Bool) : (authProtocol reached).Lawful where
  fail_idle state := by cases state <;> rfl
  fail_incomplete state := by cases state <;> exact fun incomplete => incomplete
  respond_idle state message idle := by
    cases state <;> cases idle <;> cases message <;> rfl

/-- What a client may still send counts with its state. -/
def authWeights : Protocol.Weights EapolState AuthUp AuthDown where
  state
    | .startSent => 5
    | .responseIdentitySent => 3
    | _ => 0
  up
    | .start | .identity => 2
    | .challenge => 3
    | .flow => 1
  down _ := 1

private theorem authProtocol_handles (reached : Bool) :
    (authProtocol reached).Handles authWeights fun _ _ _ => True where
  serve heard message later down _ := by
    cases message <;> refine ⟨_, _, _, rfl, trivial, ?_⟩ <;> cases heard <;> cases reached <;> decide
  respond _ _ message _ state _ := by
    refine ⟨trivial, ?_⟩
    cases state <;> cases message <;> cases reached <;> decide

/-- A service that can be reached can always be authenticated. -/
theorem auth_canReach {retry : Bool} {talk : AuthTalk} (timed : (authProtocol true).Timed talk) :
    CanReach ((authProtocol true).step · retry) (authProtocol true).completed talk := by
  refine Protocol.canReach_completed (authProtocol_lawful true) (authProtocol_handles true) ?_ timed
    trivial
  intro heard timers _
  have path : replay ((authProtocol true).step · retry) ⟨.startSent, timers, heard, [.start], []⟩
      [.serve, .receive, .serve, .receive, .serve, .receive] =
        some ⟨.responseSuccessReceived, timers, true, if heard then [] else [.flow], []⟩ := by
    cases heard <;> rfl
  obtain ⟨history, run, -⟩ := exists_run_of_replay path
  exact ⟨history, _, run, rfl⟩

/-- A service that is told of its success, or is about to be, can be reached, and BBR has heard of it. -/
def AuthSound (reached : Bool) (talk : AuthTalk) : Prop :=
  talk.state = .responseSuccessReceived ∨ .success ∈ talk.down → talk.server = true ∧ reached = true

private theorem auth_keeps (reached : Bool) : (authProtocol reached).Keeps (AuthSound reached) where
  begun _ _ _ _ _ sound told := sound (.inr (told.resolve_left nofun))
  fail talk incomplete sound told := by
    have other := (authProtocol_lawful reached).fail_incomplete talk.state incomplete
    exact sound (.inr (told.resolve_left (of_decide_eq_false other)))
  respond state _ _ _ message _ sound told := by
    have succeeds : ((authProtocol reached).respond state message).1 = .responseSuccessReceived →
        state = .responseSuccessReceived ∨ message = .success := by
      cases reached <;> cases state <;> cases message <;> decide
    rcases told with success | member
    · rcases succeeds success with before | rfl
      · exact sound (.inl before)
      · exact sound (.inr List.mem_cons_self)
    · exact sound (.inr (List.mem_cons_of_mem _ member))
  serve _ _ heard message _ _ after _ more served sound told := by
    have sent : .success ∈ more → after = true ∧ reached = true := by
      cases reached <;> cases message <;> cases served <;> first | exact fun _ => ⟨rfl, rfl⟩ | exact nofun
    have stays : heard = true → after = true := by
      cases message <;> cases served <;> first | exact id | exact fun _ => rfl
    rcases told with success | member
    · exact (sound (.inl success)).imp_left stays
    · rcases List.mem_append.mp member with before | now
      · exact (sound (.inr before)).imp_left stays
      · exact sent now
  stop _ _ stopped := by cases stopped

/-- An ONU of BBR with a UNI to write to and a service to install a flow for, and the service of BBSim
on the same port. -/
structure AuthPair where
  md5 : List UInt8 → List UInt8
  digest : ∀ data, (md5 data).length = 16
  onu : ReflectorOnu
  uni : UniPort
  found : onu.findUniByPortNo 0 = some uni
  flow : Flow
  installs : onu.sendDhcpFlow = .ok [.flowAdd flow]
  subscriber : Subscriber

namespace AuthPair

variable (pair : AuthPair)

/-- What a side makes of the challenge in a layer that it has received. -/
def digestOf (eap : Eap) : List UInt8 :=
  pair.md5 (eap.id :: Eapol.password ++ eap.received.contents.drop 6)

def identityResponse : Eap := Eapol.createEAPIdentityResponse 1

def challengeRequest : Eap :=
  ReflectorOnu.createEAPChallengeRequest 1 (0x10 :: pair.digestOf identityResponse)

def challengeResponse : Eap :=
  Eapol.createEAPChallengeResponse 1 (0x10 :: pair.digestOf pair.challengeRequest)

/-- The layer that BBR sends. -/
def request : AuthDown → Eap
  | .identity => ReflectorOnu.createEAPIdentityRequest 1
  | .challenge => pair.challengeRequest
  | .success => ReflectorOnu.createEAPSuccess 1

/-- An EAPOL packet that carries the layer. -/
def carried (eap : Eap) : EapolPacket := ⟨some .eap, some eap.received⟩

/-- An indication that BBR's ONU finds in its channel. -/
def indicated (packet : EapolPacket) : ReflectorMessage :=
  .onuPacketIn pair.onu.id pair.onu.ponPortId 0 (.eapol packet)

def message : AuthUp → ReflectorMessage
  | .start => pair.indicated ⟨some .start, none⟩
  | .identity => pair.indicated (carried identityResponse)
  | .challenge => pair.indicated (carried pair.challengeResponse)
  | .flow => .sendDhcpFlow

theorem wellFormed_identityResponse : identityResponse.WellFormed :=
  ⟨rfl, rfl, List.cons_ne_nil _ _, rfl⟩

theorem challenge_length (eap : Eap) : 22 = 5 + ((0x10 : UInt8) :: pair.digestOf eap).length := by
  rw [List.length_cons, digestOf, pair.digest]

private theorem wellFormed_challengeResponse : pair.challengeResponse.WellFormed :=
  ⟨rfl, rfl, List.cons_ne_nil _ _, pair.challenge_length _⟩

theorem wellFormed_request (message : AuthDown) : (pair.request message).WellFormed := by
  cases message with
  | challenge => exact ⟨rfl, rfl, List.cons_ne_nil _ _, pair.challenge_length _⟩
  | identity | success => exact ⟨rfl, rfl, List.cons_ne_nil _ _, rfl⟩

theorem getMD5Data_received {eap : Eap} (formed : eap.WellFormed) :
    Eapol.getMD5Data pair.md5 eap.received = .ok (pair.digestOf eap) := by
  have some : 0 < eap.typeData.length := List.length_pos_of_ne_nil formed.data
  have long : 6 ≤ eap.received.contents.length := by
    change 6 ≤ eap.serializeTo.length
    rw [Eap.serializeTo_eq formed.data]
    simp only [List.length_cons]
    omega
  rw [Eapol.getMD5Data, if_neg (Nat.not_lt.mpr long)]
  rfl

def service (state : EapolState) : Subscriber := (pair.onu.attach pair.subscriber).withEapol state

/-- BBR's ONU has installed its EAPOL flow, and the service listens. -/
def bench (talk : AuthTalk) : Bench where
  reflector :=
    { pair.onu with
      internalState := if talk.server then .dhcpFlowSent else .eapolFlowSent
      channel := talk.up.map pair.message
      done := 0 }
  subscriber := pair.service talk.state
  downstream := talk.down.map fun message =>
    .eapol pair.onu.ponPortId pair.onu.id (carried (pair.request message))
  timers := talk.timers
  cancelled := false

/-- The address that BBR writes to: the ids of the OLT and of the service are left at 0. -/
def mac : Mac := [0x2e, 0, pair.onu.ponPortId.toUInt8, pair.onu.id.toUInt8,
  pair.uni.id.toUInt8, 0]

def reached : Bool := pair.mac = pair.subscriber.service.hwAddress

private theorem bench_append (talk : AuthTalk) (more : List AuthUp) :
    pair.bench { talk with up := talk.up ++ more } =
      (pair.bench talk).deliver (more.map pair.message) := by
  simp only [bench, Bench.deliver, List.map_append]

/-- BBR finds its ONU for whatever the service sends. -/
theorem indicate_image (talk : AuthTalk) {indication : PacketIndication} {message : AuthUp}
    (pon : indication.intfId = pair.onu.ponPortId) (port : indication.portNo = pair.onu.id)
    (carries : Bench.messageOf indication = some (pair.message message)) :
    (pair.bench talk).indicate (some indication) =
      some (pair.bench { talk with up := talk.up ++ [message] }) := by
  rw [Bench.indicate, carries, bench_append]
  exact if_pos ⟨pon, port⟩

private theorem start_image (talk : AuthTalk) :
    (pair.bench talk).start .eapol =
      some (pair.bench ((authProtocol pair.reached).start talk)) := by
  obtain ⟨state, timers, heard, up, down⟩ := talk
  have begun := @pair.indicate_image ⟨.startSent, timers + 1, heard, up, down⟩
    (pair.service .startSent).eapStart .start rfl rfl rfl
  cases state <;> first | exact begun | rfl

def caller (state : EapolState) : Eapol.Caller :=
  (pair.service state).eapolCaller pair.onu.ponPortId pair.onu.id

theorem indicate_response (state : EapolState) (talk : AuthTalk) {eap : Eap} {message : AuthUp}
    (formed : eap.WellFormed) (carries : pair.message message = pair.indicated (carried eap)) :
    (pair.bench talk).indicate (some ((pair.caller state).response eap)) =
      some (pair.bench { talk with up := talk.up ++ [message] }) := by
  refine pair.indicate_image talk rfl rfl ?_
  rw [carries, carried, ← decodeEAPOL_serializeEapol formed eap.length]
  rfl

private theorem indicate_silent (talk : AuthTalk) :
    (pair.bench talk).indicate none = some (pair.bench { talk with up := talk.up ++ [] }) := by
  rw [List.append_nil]
  rfl

/-- The service responds as the client of the protocol does. -/
theorem handleEap_image (state : EapolState) (message : AuthDown) :
    ∃ sent, Eapol.handleEap pair.md5 (pair.caller state) state true
        (pair.request message).received =
          .ok (((authProtocol pair.reached).respond state message).1, sent) ∧
      ∀ talk, (pair.bench talk).indicate sent = some (pair.bench { talk with
        up := talk.up ++ ((authProtocol pair.reached).respond state message).2 }) := by
  cases message with
  | identity =>
    cases state with
    | startSent =>
      exact ⟨_, rfl, fun talk => pair.indicate_response _ talk wellFormed_identityResponse rfl⟩
    | _ => exact ⟨none, rfl, pair.indicate_silent⟩
  | challenge =>
    cases state with
    | responseIdentitySent =>
      have data := pair.getMD5Data_received (pair.wellFormed_request .challenge)
      refine ⟨some ((pair.caller .responseIdentitySent).response pair.challengeResponse), ?_,
        fun talk => pair.indicate_response _ talk pair.wellFormed_challengeResponse rfl⟩
      rw [Eapol.handleEap, data]
      rfl
    | _ => exact ⟨none, rfl, pair.indicate_silent⟩
  | success => cases state <;> exact ⟨none, rfl, pair.indicate_silent⟩

section

variable (talk : AuthTalk)
include talk

theorem receive_image :
    (pair.bench talk).receive pair.md5 =
      ((authProtocol pair.reached).receive talk).map pair.bench := by
  obtain ⟨state, timers, heard, up, down⟩ := talk
  cases down with
  | nil => rfl
  | cons message later =>
    obtain ⟨sent, handled, indicated⟩ := pair.handleEap_image state message
    have packet : (pair.service state).handleEapolPacket pair.md5 pair.onu.ponPortId
        pair.onu.id true (carried (pair.request message)) =
          .ok (pair.service ((authProtocol pair.reached).respond state message).1, sent) :=
      congrArg (Except.map _) handled
    change Option.bind (Except.toOption ((pair.service state).handleEapolPacket _ _ _ _ _)) _ = _
    rw [packet]
    exact indicated ⟨_, timers, heard, up, later⟩

private theorem process_indicated (packet : EapolPacket) :
    (pair.bench talk).reflector.process pair.md5 (pair.indicated packet) =
      ((pair.bench talk).reflector.handleEapolPacket pair.md5 pair.onu.id
        pair.onu.ponPortId pair.uni.id packet).mapError .eapol := by
  have found : (pair.bench talk).reflector.findUniByPortNo 0 = some pair.uni := pair.found
  simp only [indicated, ReflectorOnu.process, found]

/-- A frame of BBR arrives if the service has the address that it is sent to. -/
theorem perform_image (message : AuthDown) :
    (pair.bench talk).perform (ReflectorOnu.eapolPacketOut pair.uni.id pair.onu.id
        pair.onu.ponPortId (pair.request message)) =
      some (pair.bench
        { talk with down := talk.down ++ if pair.reached then [message] else [] }) := by
  have arrived := decodeEAPOL_serializeEapol (pair.wellFormed_request message)
    (pair.request message).length
  change some (Bench.send _ _ _ _ pair.mac (.eapol _ _ (decodeEAPOL (serializeEapol _ _ _)))) = _
  rw [arrived, Bench.send]
  by_cases same : pair.mac = pair.subscriber.service.hwAddress
  · rw [show pair.reached = true from decide_eq_true same, if_pos rfl, bench, bench, List.map_append]
    exact congrArg some (if_pos ⟨rfl, rfl, rfl, same⟩)
  · rw [show pair.reached = false from decide_eq_false same, if_neg Bool.false_ne_true,
      List.append_nil]
    exact congrArg some (if_neg fun all => same all.2.2.2)

/-- The service has what the flow gives to it. -/
theorem storeFlow_image : (pair.bench talk).storeFlow pair.flow = pair.bench talk := by
  have numbers : pair.flow.portNo = pair.onu.id ∧ pair.flow.onuGemPort = pair.onu.id := by
    have installs := pair.installs
    unfold ReflectorOnu.sendDhcpFlow at installs
    split at installs
    · have flow := OpenOltCall.flowAdd.inj (List.cons.inj (Except.ok.inj installs)).1
      rw [← flow]
      exact ⟨rfl, UInt32.toUInt32_toInt32 _⟩
    · cases installs
  unfold Bench.storeFlow Service.addGemPort
  rw [numbers.1, numbers.2]
  split <;> rfl

theorem reflect_image :
    (pair.bench talk).reflect pair.md5 =
      ((authProtocol pair.reached).serveNext talk).map pair.bench := by
  obtain ⟨state, timers, heard, up, down⟩ := talk
  cases up with
  | nil => rfl
  | cons message later =>
    have turn := @Bench.reflect_eq (pair.bench ⟨state, timers, heard, message :: later, down⟩)
      pair.md5 (pair.bench ⟨state, timers, heard, later, down⟩)
    have packet := pair.process_indicated ⟨state, timers, heard, later, down⟩
    have performed := pair.perform_image ⟨state, timers, heard, later, down⟩
    cases message
    all_goals simp only [Protocol.serveNext, authProtocol, Option.map_some, List.append_nil]
    case start => exact (turn (packet _) rfl (Nat.zero_le _) rfl).trans (performed .identity)
    case identity =>
      have answered := packet (carried identityResponse)
      rw [ReflectorOnu.handleEapolPacket, carried] at answered
      dsimp only at answered
      rw [pair.getMD5Data_received wellFormed_identityResponse] at answered
      exact (turn answered rfl (Nat.zero_le _) rfl).trans (performed .challenge)
    case challenge =>
      refine (turn (packet _) rfl (Nat.zero_le _) rfl).trans ?_
      cases heard with
      | false =>
        have noted : (pair.bench ⟨state, timers, false, later, down⟩).reflector.eventSendDhcpFlow =
            (pair.bench ⟨state, timers, true, later ++ [.flow], down⟩).reflector := by
          simp only [bench, List.map_append]
          rfl
        rw [noted]
        exact pair.perform_image ⟨state, timers, true, later ++ [.flow], down⟩ .success
      | true =>
        rw [if_pos rfl, List.append_nil]
        exact performed .success
    case flow =>
      refine (@turn .sendDhcpFlow _ _ (congrArg (Except.map _) pair.installs) rfl (Nat.zero_le _)
        rfl).trans ?_
      exact congrArg some (pair.storeFlow_image ⟨state, timers, heard, later, down⟩)

end

theorem isImage (retry : Bool) : IsImage ((authProtocol pair.reached).step · retry)
    (Bench.step · pair.md5 .eapol retry) pair.bench :=
  Bench.isImage (fun _ => rfl) (fun _ => rfl) pair.start_image (fun _ => rfl) pair.receive_image
    pair.reflect_image (fun _ => rfl) retry

/-- No attempt has been started. -/
def begin : Bench := pair.bench ⟨.created, 0, false, [], []⟩

variable {pair} {retry : Bool}

/-- The talk behind a state that has been reached. -/
theorem exists_talk {history : List (Bench × TalkStep)} {final : Bench}
    (run : Run (Bench.step · pair.md5 .eapol retry) pair.begin history final) :
    ∃ talk, final = pair.bench talk ∧ (authProtocol pair.reached).Timed talk ∧
      AuthSound pair.reached talk := by
  obtain ⟨_, talk, abstractRun, same⟩ := (pair.isImage retry).abstract_run run
  refine ⟨talk, same, ?_, ?_⟩
  · exact (Protocol.timed_keeps (authProtocol_lawful _)).run abstractRun nofun
  · exact (auth_keeps pair.reached).run abstractRun nofun

theorem staysWithinReach_iff :
    StaysWithinReach (Bench.step · pair.md5 .eapol retry) (·.succeeded .eapol)
      pair.begin ↔ pair.reached = true := by
  constructor
  · intro within
    obtain ⟨history, final, run, succeeded⟩ := within [] _ .start
    obtain ⟨talk, rfl, -, sound⟩ := exists_talk run
    exact (sound (.inl (of_decide_eq_true succeeded))).2
  · intro reached history final run
    obtain ⟨talk, rfl, timed, -⟩ := exists_talk run
    rw [(pair.isImage retry).canReach_iff]
    rw [reached] at timed ⊢
    exact auth_canReach timed

end AuthPair

/-- For a service that needs no DHCP the flow of BBR starts nothing, so that BBR has nothing to report
and its loop goes on. -/
structure QuietPair extends AuthPair where
  needless : subscriber.service.needsDhcp = false

/-- ONU 1 on PON 0, as BBR has it. -/
def firstOnu : ReflectorOnu :=
  ⟨1, 0, .eapolFlowSent, [⟨0, 257, 0, .down, [Subscriber.fresh.service], 0⟩], [], 0⟩

def firstPair (needsDhcp : Bool) : AuthPair where
  md5 := md5
  digest := length_md5
  onu := firstOnu
  uni := ⟨0, 257, 0, .down, [Subscriber.fresh.service], 0⟩
  found := rfl
  flow := firstOnu.flow ⟨0x0800, 900, 0, 255, 68, 67⟩
  installs := rfl
  subscriber := { Subscriber.fresh with
    service := { Subscriber.fresh.service with needsDhcp := needsDhcp } }

end Bbsim.Bbr
