import Bbsim.Foundation.Outcome
import Bbsim.Responders.Dhcp

/-! The DHCP server. It answers a Discover with an Offer and a Request with an Ack, and keeps no
state: the address that a client gets is made of the client's MAC address. -/

namespace Bbsim.Responders.Dhcp

open Foundation

/-- A DHCP packet on the NNI, with its VLAN tags from the outermost on. -/
structure NniPacket where
  srcMac : Mac
  dstMac : Mac
  tags : List UInt16
  layer : DhcpLayer
deriving DecidableEq

inductive ServerFault where
  | notTagged
  | hostnameNotFound
  | cannotHandleDhcpPacketOfType (type : Option DhcpMsgType)
  /-- `createIpFromMacAddress` reads beyond the address. -/
  | shortAddress
  /-- The Ethernet layer takes addresses of six bytes only. -/
  | invalidDstMac
deriving DecidableEq, Repr

/-- The fault is a panic, the others are returned. -/
def ServerFault.isPanic : ServerFault → Bool
  | .shortAddress => true
  | _ => false

def dhcpServerMacAddress : Mac := [0xaa, 0xbb, 0xcc, 0xdd, 0xee, 0xff]

def option82 : DhcpOpt := .other 82

/-- An inner tag of 0 stands for none. -/
def getTagsFromPacket : List UInt16 → Except ServerFault (UInt16 × UInt16)
  | [] => .error .notTagged
  | [oTag] => .ok (oTag, 0)
  | oTag :: iTag :: _ => .ok (oTag, iTag)

def getPacketHostName (layer : DhcpLayer) : Except ServerFault (List UInt8) :=
  match layer.options.find? fun option => option.type = .hostname with
  | none => .error .hostnameNotFound
  | some option => .ok option.data

def getOption82 (layer : DhcpLayer) : List UInt8 :=
  match layer.options.find? fun option => option.type = option82 with
  | none => []
  | some option => option.data

def createIpFromMacAddress : Mac → Except ServerFault (List UInt8)
  | _ :: _ :: a :: b :: c :: d :: _ => .ok [10 + a, b, c, d]
  | _ => .error .shortAddress

def createDefaultDhcpReply (xid : UInt32) (mac : Mac) : Except ServerFault DhcpLayer := do
  let clientIp ← createIpFromMacAddress mac
  return {
    operation := .reply
    xid := xid
    clientHwAddr := mac
    clientIp := clientIp
    yourClientIp := clientIp
    options := [] }

def getDefaultDhcpServerOptions (hostname relay : List UInt8) : List DhcpOption :=
  [⟨.hostname, hostname⟩, ⟨option82, relay⟩]

/-- The packet that carries a layer to the client, and the tags that are pushed on it. -/
def serializeServerDHCPPacket (clientMac : Mac) (layer : DhcpLayer) (tags : List UInt16) :
    Except ServerFault NniPacket :=
  if clientMac.length ≠ 6 then .error .invalidDstMac
  else .ok { srcMac := dhcpServerMacAddress, dstMac := clientMac, tags := tags, layer := layer }

/-- `handleDiscover` and `handleRequest`, which differ in the type of the reply. -/
def handleClientPacket (replyType : DhcpMsgType) (packet : NniPacket) :
    Except ServerFault NniPacket := do
  let (oTag, iTag) ← getTagsFromPacket packet.tags
  let clientMac := packet.layer.clientHwAddr
  let hostname ← getPacketHostName packet.layer
  let reply ← createDefaultDhcpReply packet.layer.xid clientMac
  let options := messageType replyType ::
    getDefaultDhcpServerOptions hostname (getOption82 packet.layer) ++ [⟨.clientId, 1 :: clientMac⟩]
  serializeServerDHCPPacket clientMac { reply with options := options }
    (if iTag ≠ 0 then [oTag, iTag] else [oTag])

def handleDiscover : NniPacket → Except ServerFault NniPacket := handleClientPacket .offer

def handleRequest : NniPacket → Except ServerFault NniPacket := handleClientPacket .ack

/-- A reply that comes to the server is logged, and handled by its message type like a request. -/
def handleServerPacket (packet : NniPacket) : Except ServerFault NniPacket :=
  match getDhcpMessageType packet.layer with
  | some .discover => handleDiscover packet
  | some .request => handleRequest packet
  | type => .error (.cannotHandleDhcpPacketOfType type)

variable {packet reply : NniPacket}

private theorem ensures_createDefaultDhcpReply (xid : UInt32) (mac : Mac) :
    Ensures (createDefaultDhcpReply xid mac) fun reply =>
      createIpFromMacAddress mac = .ok reply.yourClientIp := by
  rw [createDefaultDhcpReply]
  cases createIpFromMacAddress mac with
  | error fault => trivial
  | ok ip => rfl

private theorem ensures_handleClientPacket (replyType : DhcpMsgType) :
    Ensures (handleClientPacket replyType packet) fun reply =>
      createIpFromMacAddress packet.layer.clientHwAddr = .ok reply.layer.yourClientIp := by
  unfold handleClientPacket
  refine ensures_bind_of_forall fun _ => ensures_bind_of_forall fun _ => ?_
  rw [Ensures, yields_bind]
  refine (ensures_createDefaultDhcpReply _ _).mono fun reply given => ?_
  unfold serializeServerDHCPPacket
  split
  · trivial
  · exact given

/-- Whatever the server answers, it gives the client the address of its MAC address. -/
theorem handleServerPacket_yourClientIp (answered : handleServerPacket packet = .ok reply) :
    createIpFromMacAddress packet.layer.clientHwAddr = .ok reply.layer.yourClientIp := by
  unfold handleServerPacket at answered
  split at answered
  · exact (ensures_handleClientPacket .offer).value answered
  · exact (ensures_handleClientPacket .ack).value answered
  · cases answered

end Bbsim.Responders.Dhcp
