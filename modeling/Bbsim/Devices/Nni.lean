import Bbsim.Responders.DhcpServer

/-! The NNI and its DHCP server. `handleNniPacket` gives DHCP packets to the server and forwards
what it answers. The server trusts what it is given: it reads six bytes of the client's address,
answers replies, and takes an inner tag of 0 for none. -/

namespace Bbsim.Devices

open Foundation Responders Dhcp

/-- The layers that `handleNniPacket` looks for. -/
structure NniTraffic where
  dhcp : Option NniPacket
  isLldp : Bool
  isIcmp : Bool

inductive NniError where
  | server (fault : ServerFault)
  | send
deriving DecidableEq

/-- What is forwarded to VOLTHA, and the error that is returned. LLDP and ICMP packets are ignored, and
the others are dropped. -/
def handleNniPacket (sends : Bool) (packet : NniTraffic) :
    Except ServerFault (List NniPacket × Option NniError) :=
  match packet.dhcp with
  | none => .ok ([], none)
  | some dhcp =>
    match handleServerPacket dhcp with
    | .error fault => if fault.isPanic then .error fault else .ok ([], some (.server fault))
    | .ok reply => if sends then .ok ([reply], none) else .ok ([], some .send)

/-- An error is returned only where nothing is forwarded. -/
theorem ensures_handleNniPacket (sends : Bool) (packet : NniTraffic) :
    Ensures (handleNniPacket sends packet) fun result => result.2 ≠ none → result.1 = [] := by
  unfold handleNniPacket
  split
  · exact fun _ => rfl
  · split
    · split
      · trivial
      · exact fun _ => rfl
    · split
      · exact fun failed => absurd rfl failed
      · exact fun _ => rfl

/-- The reply is one to this request. -/
structure Answers (packet reply : NniPacket) : Prop where
  tags : reply.tags = packet.tags
  xid : reply.layer.xid = packet.layer.xid
  clientHwAddr : reply.layer.clientHwAddr = packet.layer.clientHwAddr
  request : packet.layer.operation ≠ .reply

/-- The server returns, with an error or with an answer. -/
def ServesSafely (packet : NniPacket) : Prop :=
  Yields (handleServerPacket packet) (fun fault => fault.isPanic = false) (Answers packet)

/-- A packet with a host name whose client can be answered. -/
structure Answerable (packet : NniPacket) : Prop where
  long : 6 ≤ packet.layer.clientHwAddr.length
  answered : packet.layer.clientHwAddr.length = 6 →
    packet.layer.operation ≠ .reply ∧ packet.tags.tail ≠ [0]

def hasHostname (layer : DhcpLayer) : Bool := layer.options.any fun option => option.type = .hostname

theorem createIpFromMacAddress_eq (mac : Mac) :
    (6 ≤ mac.length ∧ ∃ ip, createIpFromMacAddress mac = .ok ip) ∨
      (mac.length < 6 ∧ createIpFromMacAddress mac = .error .shortAddress) := by
  match mac with
  | [] | [_] | [_, _] | [_, _, _] | [_, _, _, _] | [_, _, _, _, _] => exact .inr ⟨by simp, rfl⟩
  | _ :: _ :: a :: b :: c :: d :: _ => exact .inl ⟨by simp, _, rfl⟩

theorem getPacketHostName_eq (layer : DhcpLayer) :
    (hasHostname layer = true ∧ ∃ name, getPacketHostName layer = .ok name) ∨
      (hasHostname layer = false ∧ getPacketHostName layer = .error .hostnameNotFound) := by
  unfold hasHostname getPacketHostName
  split
  · next absent =>
    refine .inr ⟨?_, rfl⟩
    rw [List.any_eq_false]
    exact List.find?_eq_none.mp absent
  · next option found =>
    refine .inl ⟨?_, _, rfl⟩
    rw [List.any_eq_true]
    have isName := List.find?_some found
    exact ⟨option, List.mem_of_find?_eq_some found, isName⟩

/-- The tags of a reply, from what was read of those of the request. -/
def replyTags (oTag iTag : UInt16) : List UInt16 := if iTag ≠ 0 then [oTag, iTag] else [oTag]

theorem getTagsFromPacket_eq {tags : List UInt16} (stack : tags.length = 1 ∨ tags.length = 2) :
    ∃ oTag iTag, Dhcp.getTagsFromPacket tags = .ok (oTag, iTag) ∧
      (replyTags oTag iTag = tags ↔ tags.tail ≠ [0]) := by
  match tags with
  | [] => simp at stack
  | [oTag] => exact ⟨oTag, 0, rfl, by simp [replyTags]⟩
  | [oTag, iTag] =>
    refine ⟨oTag, iTag, rfl, ?_⟩
    by_cases none : iTag = 0 <;> simp [replyTags, none]
  | _ :: _ :: _ :: _ =>
    simp only [List.length_cons] at stack
    omega

/-- The reply to a packet, with the host name that was found and the address that was made. -/
def serverReply (replyType : DhcpMsgType) (packet : NniPacket) (tags : List UInt16)
    (name clientIp : List UInt8) : NniPacket where
  srcMac := dhcpServerMacAddress
  dstMac := packet.layer.clientHwAddr
  tags := tags
  layer := {
    operation := .reply
    xid := packet.layer.xid
    clientHwAddr := packet.layer.clientHwAddr
    clientIp := clientIp
    yourClientIp := clientIp
    options := messageType replyType ::
      getDefaultDhcpServerOptions name (getOption82 packet.layer) ++
        [⟨.clientId, 1 :: packet.layer.clientHwAddr⟩] }

section

variable {packet : NniPacket} {oTag iTag : UInt16}
  (read : Dhcp.getTagsFromPacket packet.tags = .ok (oTag, iTag))
include read

/-- With tags, a host name and an address of the client the reply is made, and sent to six bytes. -/
theorem handleClientPacket_eq (replyType : DhcpMsgType) {name clientIp : List UInt8}
    (named : getPacketHostName packet.layer = .ok name)
    (made : createIpFromMacAddress packet.layer.clientHwAddr = .ok clientIp) :
    handleClientPacket replyType packet =
      if packet.layer.clientHwAddr.length ≠ 6 then .error .invalidDstMac
      else .ok (serverReply replyType packet (replyTags oTag iTag) name clientIp) := by
  have reply : createDefaultDhcpReply packet.layer.xid packet.layer.clientHwAddr =
      .ok ⟨.reply, packet.layer.xid, packet.layer.clientHwAddr, clientIp, clientIp, []⟩ := by
    rw [createDefaultDhcpReply, made]
    rfl
  rw [handleClientPacket, read, named]
  dsimp only [bind, Except.bind]
  rw [reply]
  rfl

private theorem handleClientPacket_unnamed (replyType : DhcpMsgType)
    (absent : getPacketHostName packet.layer = .error .hostnameNotFound) :
    handleClientPacket replyType packet = .error .hostnameNotFound := by
  rw [handleClientPacket, read, absent]
  rfl

private theorem handleClientPacket_short (replyType : DhcpMsgType) {name : List UInt8}
    (named : getPacketHostName packet.layer = .ok name)
    (short : createIpFromMacAddress packet.layer.clientHwAddr = .error .shortAddress) :
    handleClientPacket replyType packet = .error .shortAddress := by
  rw [handleClientPacket, read, named]
  dsimp only [bind, Except.bind]
  rw [createDefaultDhcpReply, short]
  rfl

end

theorem yields_handleClientPacket_iff (replyType : DhcpMsgType) {packet : NniPacket}
    (stack : packet.tags.length = 1 ∨ packet.tags.length = 2) :
    Yields (handleClientPacket replyType packet) (fun fault => fault.isPanic = false)
        (Answers packet) ↔
      (hasHostname packet.layer = true → Answerable packet) := by
  obtain ⟨oTag, iTag, read, same⟩ := getTagsFromPacket_eq stack
  rcases getPacketHostName_eq packet.layer with ⟨named, name, found⟩ | ⟨unnamed, absent⟩
  · rcases createIpFromMacAddress_eq packet.layer.clientHwAddr with ⟨long, ip, made⟩ | ⟨short, panics⟩
    · rw [handleClientPacket_eq read replyType found made]
      by_cases six : packet.layer.clientHwAddr.length = 6
      · rw [if_neg (not_not.mpr six), yields_ok]
        constructor
        · exact fun answers _ => ⟨long, fun _ => ⟨answers.request, same.mp answers.tags⟩⟩
        · intro answerable
          obtain ⟨request, inner⟩ := (answerable named).answered six
          exact ⟨same.mpr inner, rfl, rfl, request⟩
      · rw [if_pos six]
        exact iff_of_true rfl fun _ => ⟨long, fun isSix => absurd isSix six⟩
    · rw [handleClientPacket_short read replyType found panics, yields_error]
      exact iff_of_false Bool.noConfusion fun answerable =>
        absurd (answerable named).long (Nat.not_le.mpr short)
  · rw [handleClientPacket_unnamed read replyType absent]
    exact iff_of_true rfl fun named => absurd named (by rw [unnamed]; exact Bool.false_ne_true)

/-- The server answers packets of this kind. -/
def isServed (packet : NniPacket) : Bool :=
  (getDhcpMessageType packet.layer = some .discover ∨ getDhcpMessageType packet.layer = some .request) ∧
    hasHostname packet.layer

theorem servesSafely_iff {packet : NniPacket}
    (stack : packet.tags.length = 1 ∨ packet.tags.length = 2) :
    ServesSafely packet ↔ (isServed packet = true → Answerable packet) := by
  unfold ServesSafely handleServerPacket
  split
  · next discover =>
    rw [handleDiscover, yields_handleClientPacket_iff .offer stack]
    simp [isServed, discover]
  · next request =>
    rw [handleRequest, yields_handleClientPacket_iff .ack stack]
    simp [isServed, request]
  · next noDiscover noRequest =>
    refine iff_of_true rfl fun served => ?_
    obtain ⟨discover | request, -⟩ := of_decide_eq_true served
    · exact (noDiscover discover).elim
    · exact (noRequest request).elim

/-- For a packet with one tag or two, the server returns an error or a reply to it, and nothing is
forwarded with an error, exactly if a packet that the server would answer has an address of six bytes or
more and, with six bytes, is no reply and has no inner tag 0. -/
theorem dhcp_server_safe_iff (packet : NniPacket)
    (stack : packet.tags.length = 1 ∨ packet.tags.length = 2) :
    (ServesSafely packet ∧ ∀ sends traffic, traffic.dhcp = some packet →
        Ensures (handleNniPacket sends traffic) fun result => result.2 ≠ none → result.1 = []) ↔
      (isServed packet = true → Answerable packet) := by
  rw [and_iff_left fun sends traffic _ => ensures_handleNniPacket sends traffic]
  exact servesSafely_iff stack

/-- A Discover with a host name. -/
def discoverPacket (operation : DhcpOp) (clientHwAddr : Mac) (tags : List UInt16) : NniPacket where
  srcMac := [0x2e, 0, 0, 1, 0, 0]
  dstMac := broadcast
  tags := tags
  layer := {
    operation := operation
    xid := 1
    clientHwAddr := clientHwAddr
    options := [messageType .discover, ⟨.hostname, []⟩] }

theorem discoverPacket_safe :
    let packet := discoverPacket .request [0x2e, 0, 0, 1, 0, 0] [900, 901]
    isServed packet = true ∧ ServesSafely packet := by
  refine ⟨by decide, ((dhcp_server_safe_iff _ (.inr rfl)).mpr fun _ => ?_).1⟩
  exact ⟨by decide, fun _ => ⟨by decide, by decide⟩⟩

/-- An address of five bytes is read beyond its end, a reply is answered, and an inner tag of 0 is not
given back. -/
theorem dhcp_server_unsafe :
    handleServerPacket (discoverPacket .request [0x2e, 0, 0, 1, 0] [900]) = .error .shortAddress ∧
      (∃ reply, handleServerPacket (discoverPacket .reply [0x2e, 0, 0, 1, 0, 0] [900]) = .ok reply) ∧
      ∃ reply, handleServerPacket (discoverPacket .request [0x2e, 0, 0, 1, 0, 0] [900, 0]) = .ok reply ∧
        reply.tags = [900] :=
  ⟨rfl, ⟨_, rfl⟩, _, rfl, rfl⟩

end Bbsim.Devices
