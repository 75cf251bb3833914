import Bbsim.Foundation.DecimalText
import Bbsim.PacketHandlers.PacketTags
import Bbsim.Devices.Nni

/-! A whole DHCP exchange. The client of a service and the server of the NNI, with the S-tag pushed
on the way to the server and popped on the way back. The two sides build their messages
independently. -/

namespace Bbsim.Devices

open Foundation Responders Dhcp PacketHandlers

/-- The text that `macAddressToTxId` gives to `Atoi`. -/
def decimals (mac : Mac) : String := String.join (mac.map fun byte => toString byte.toNat)

/-- `Atoi` takes up to 18 digits; with an error of it the simulator is ended. -/
structure IsTxId (text : String) : Prop where
  digits : ∀ char ∈ text.toList, char.isDigit = true
  nonempty : text.toList ≠ []
  short : text.toList.length ≤ 18

private theorem byteDecimals_length : ∀ byte : Fin 256,
    0 < (toString byte.val).toList.length ∧ (toString byte.val).toList.length ≤ 3 := by
  decide +kernel

private theorem decimals_cons (byte : UInt8) (mac : Mac) :
    (decimals (byte :: mac)).toList = (toString byte.toNat).toList ++ (decimals mac).toList := by
  rw [decimals, decimals, String.toList_join, String.toList_join, List.map_cons, List.flatMap_cons]

private theorem decimals_length (mac : Mac) :
    mac.length ≤ (decimals mac).toList.length ∧ (decimals mac).toList.length ≤ 3 * mac.length := by
  induction mac with
  | nil => decide
  | cons byte rest ih =>
    have length := byteDecimals_length ⟨byte.toNat, byte.toNat_lt⟩
    dsimp only at length
    rw [decimals_cons, List.length_append, List.length_cons]
    omega

theorem isTxId_decimals {mac : Mac} (six : mac.length = 6) : IsTxId (decimals mac) := by
  obtain ⟨long, short⟩ := decimals_length mac
  refine ⟨fun char member => ?_, fun empty => ?_, by omega⟩
  · rw [decimals, String.toList_join, List.mem_flatMap] at member
    obtain ⟨text, made, member⟩ := member
    obtain ⟨byte, -, rfl⟩ := List.mem_map.mp made
    exact isDigit_of_mem_toString member
  · rw [empty, List.length_nil] at long
    omega

/-- A client's frame, which has one tag. -/
def nniPacket : Frame → Option NniPacket
  | ⟨srcMac, dstMac, .dhcp vlan _ layer⟩ => some ⟨srcMac, dstMac, [vlan], layer⟩
  | _ => none

def pushTag (tag : Int) (packet : NniPacket) : NniPacket :=
  { packet with tags := vlanIdentifier tag :: packet.tags }

def popTag (packet : NniPacket) : Option NniPacket :=
  match packet.tags with
  | [] => none
  | _ :: inner => some { packet with tags := inner }

/-- What the server gets, what it answers, and what is left of that for the client. -/
structure RoundTrip where
  sent : NniPacket
  reply : NniPacket
  returned : NniPacket

def roundTrip (stag : Int) (frame : Frame) : Option RoundTrip := do
  let sent := pushTag stag (← nniPacket frame)
  let reply ← (handleServerPacket sent).toOption
  let returned ← popTag reply
  return ⟨sent, reply, returned⟩

/-- The round trip of a client's packet that is answered. -/
def answeredTrip (caller : Caller) (stag : Int) (layer : DhcpLayer) (replyType : DhcpMsgType)
    (clientIp : List UInt8) : RoundTrip :=
  let sent : NniPacket :=
    ⟨caller.hwAddress, broadcast, [vlanIdentifier stag, vlanIdentifier caller.tag], layer⟩
  let reply := serverReply replyType sent sent.tags
    (hostname caller.gemPortId caller.ponPortId caller.onuId) clientIp
  ⟨sent, reply, { reply with tags := [vlanIdentifier caller.tag] }⟩

/-- Both round trips, and the state that the client is left in. -/
structure Dialogue where
  discovery : RoundTrip
  request : RoundTrip
  state : DhcpState

/-- `none` where a step fails. -/
def dialogue (caller : Caller) (stag : Int) (state : DhcpState) : Option Dialogue := do
  let (state, true) := sendDHCPDiscovery state true | none
  let discovery ← roundTrip stag caller.discovery.frame
  let (state, some request) := handleNextPacket caller state true (some discovery.returned.layer) | none
  let request ← roundTrip stag request.frame
  let (state, _) := handleNextPacket caller state true (some request.returned.layer)
  return ⟨discovery, request, state⟩

/-- The address that a client asks for. -/
def requestedIp (layer : DhcpLayer) : Option (List UInt8) :=
  (layer.options.find? fun option => option.type = .requestIp).map DhcpOption.data

/-- The four packets on the NNI. -/
def Dialogue.packets (dialogue : Dialogue) : List NniPacket :=
  [dialogue.discovery.sent, dialogue.discovery.reply, dialogue.request.sent, dialogue.request.reply]

/-- A packet of this client, behind its two tags. -/
structure OfClient (caller : Caller) (stag : Int) (packet : NniPacket) : Prop where
  tags : packet.tags.map (fun tag => (tag.toNat : Int)) = [stag, caller.tag]
  clientHwAddr : packet.layer.clientHwAddr = caller.hwAddress
  xid : packet.layer.xid = macAddressToTxId caller.hwAddress

/-- The exchange went as it should. -/
structure Completed (caller : Caller) (stag : Int) (dialogue : Dialogue) : Prop where
  state : dialogue.state = .ackReceived
  packets : ∀ packet ∈ dialogue.packets, OfClient caller stag packet
  requested : requestedIp dialogue.request.sent.layer = some dialogue.discovery.reply.layer.yourClientIp
  acknowledged :
    dialogue.request.reply.layer.yourClientIp = dialogue.discovery.reply.layer.yourClientIp

private theorem ofClient_answeredTrip {caller : Caller} {stag : Int} {layer : DhcpLayer}
    {replyType : DhcpMsgType} {clientIp : List UInt8} (outer : Fits stag) (inner : Fits caller.tag)
    (client : layer.clientHwAddr = caller.hwAddress)
    (xid : layer.xid = macAddressToTxId caller.hwAddress) :
    OfClient caller stag (answeredTrip caller stag layer replyType clientIp).sent ∧
      OfClient caller stag (answeredTrip caller stag layer replyType clientIp).reply := by
  have tags : [vlanIdentifier stag, vlanIdentifier caller.tag].map (fun tag => (tag.toNat : Int)) =
      [stag, caller.tag] := by
    rw [List.map_cons, List.map_cons, outer.value, inner.value, List.map_nil]
  exact ⟨⟨tags, client, xid⟩, ⟨tags, client, xid⟩⟩

section

variable {caller : Caller} {stag : Int} {clientIp : List UInt8}
  (six : caller.hwAddress.length = 6) (inner : vlanIdentifier caller.tag ≠ 0)
  (made : createIpFromMacAddress caller.hwAddress = .ok clientIp)
include six inner made

theorem roundTrip_eq {layer : DhcpLayer} {replyType : DhcpMsgType}
    (named : getPacketHostName layer =
      .ok (hostname caller.gemPortId caller.ponPortId caller.onuId))
    (client : layer.clientHwAddr = caller.hwAddress)
    (served : ∀ packet, packet.layer = layer →
      handleServerPacket packet = handleClientPacket replyType packet) :
    roundTrip stag (caller.sendDHCPPktIn layer).frame =
      some (answeredTrip caller stag layer replyType clientIp) := by
  have answered := @handleClientPacket_eq (answeredTrip caller stag layer replyType clientIp).sent
    _ _ rfl replyType _ clientIp named (client.symm ▸ made)
  -- an inner tag of 0 would not be given back
  rw [if_neg (not_not.mpr (client.symm ▸ six)), replyTags, if_pos inner] at answered
  have pushed : pushTag stag ⟨caller.hwAddress, broadcast, [vlanIdentifier caller.tag], layer⟩ =
      (answeredTrip caller stag layer replyType clientIp).sent := rfl
  rw [roundTrip, Caller.sendDHCPPktIn, serializeDHCPPacket, nniPacket, Option.bind_eq_bind,
    Option.bind_some, pushed]
  dsimp only
  rw [served _ rfl, answered]
  rfl

omit six inner made in
private theorem handleNextPacket_offer (layer : DhcpLayer) :
    handleNextPacket caller .discoverySent true
        (some (answeredTrip caller stag layer .offer clientIp).returned.layer) =
      (.requestSent, some (caller.request clientIp)) := rfl

omit six inner made in
private theorem handleNextPacket_ack (layer : DhcpLayer) :
    handleNextPacket caller .requestSent true
        (some (answeredTrip caller stag layer .ack clientIp).returned.layer) =
      (.ackReceived, none) := rfl

theorem dialogue_eq :
    dialogue caller stag .started = some {
      discovery := answeredTrip caller stag
        (createDHCPDisc caller.ponPortId caller.onuId caller.gemPortId caller.hwAddress) .offer clientIp
      request := answeredTrip caller stag
        (createDHCPReq caller.ponPortId caller.onuId caller.hwAddress clientIp caller.gemPortId) .ack
        clientIp
      state := .ackReceived } := by
  have discovery := @roundTrip_eq caller stag clientIp six inner made
    (createDHCPDisc caller.ponPortId caller.onuId caller.gemPortId caller.hwAddress) .offer rfl rfl
    fun packet same => by rw [handleServerPacket, same]; rfl
  -- in the Request the message type stands behind the default options
  have request := @roundTrip_eq caller stag clientIp six inner made
    (createDHCPReq caller.ponPortId caller.onuId caller.hwAddress clientIp caller.gemPortId) .ack rfl rfl
    fun packet same => by rw [handleServerPacket, same]; rfl
  have sent : sendDHCPDiscovery .started true = (.discoverySent, true) := rfl
  rw [dialogue, sent]
  dsimp only
  rw [Caller.discovery, discovery, Option.bind_eq_bind, Option.bind_some, handleNextPacket_offer]
  dsimp only
  rw [Caller.request, request, Option.bind_some, handleNextPacket_ack]
  rfl

end

/-- What the packet handlers make of the frames of a round trip, whatever else is in them: the tags of
the model are those on the wire. -/
structure RoundTrip.OnWire (others : UInt16 → List UInt8 → Option Dot1Q) (caller : Caller) (stag : Int)
    (pbit : UInt8) (request reply : EthernetFrame) (trip : RoundTrip) : Prop where
  sent : ∃ tagged sent,
    pushSingleTag others caller.tag (PacketHandlers.newPacket others request.bytes) caller.pbit = .ok tagged ∧
      pushSingleTag others stag tagged pbit = .ok sent ∧
      Carries others request trip.sent.tags sent ∧
      PacketHandlers.getTagsFromPacket others sent = .ok (vlanIdentifier stag, vlanIdentifier caller.tag)
  returned : ∃ answer returned,
    pushDoubleTag others (vlanIdentifier stag).toNat (vlanIdentifier caller.tag).toNat
        (PacketHandlers.newPacket others reply.bytes) 0 = .ok answer ∧
      Carries others reply trip.reply.tags answer ∧
      popSingleTag others answer = .ok returned ∧
      Carries others reply trip.returned.tags returned

theorem onWire_answeredTrip {others : UInt16 → List UInt8 → Option Dot1Q} {caller : Caller} {stag : Int}
    {pbit : UInt8} {layer : DhcpLayer} {replyType : DhcpMsgType} {clientIp : List UInt8}
    (outer : Fits stag) (inner : Fits caller.tag) (bits : caller.pbit.toNat ≤ 7)
    (outerBits : pbit.toNat ≤ 7) (request reply : EthernetFrame) :
    (answeredTrip caller stag layer replyType clientIp).OnWire others caller stag pbit request reply := by
  constructor
  · obtain ⟨tagged, pushed, carries⟩ := carries_push (carries_bare request) inner bits
    obtain ⟨sent, pushedTwice, carries⟩ := carries_push carries outer outerBits
    obtain ⟨-, -, -, read⟩ := carries_pop carries
    exact ⟨tagged, sent, pushed, pushedTwice, carries, read⟩
  · have noPriority : (0 : UInt8).toNat ≤ 7 := by decide
    obtain ⟨tagged, pushed, carries⟩ := carries_push (carries_bare reply) inner noPriority
    obtain ⟨answer, pushedTwice, carries⟩ := carries_push carries outer noPriority
    obtain ⟨returned, popped, left, -⟩ := carries_pop carries
    refine ⟨answer, returned, ?_, carries, popped, left⟩
    rw [pushDoubleTag, inner.value, outer.value, pushed]
    exact pushedTwice

/-- Every exchange that is started ends in `dhcp_ack_received`, with one address, one transaction id, and
the same two tags on every packet of the NNI. -/
theorem dhcp_exchange_completes (caller : Caller) (stag : Int) (six : caller.hwAddress.length = 6)
    (ctagBounds : 1 ≤ caller.tag ∧ caller.tag ≤ 4095) (stagBounds : 1 ≤ stag ∧ stag ≤ 4095)
    (bits : caller.pbit.toNat ≤ 7) :
    IsTxId (decimals caller.hwAddress) ∧
      ∃ exchange, dialogue caller stag .started = some exchange ∧ Completed caller stag exchange ∧
        ∀ others pbit request reply, pbit.toNat ≤ 7 →
          ∀ trip ∈ [exchange.discovery, exchange.request],
            trip.OnWire others caller stag pbit request reply := by
  have outer := fits_of_bounds ⟨by omega, stagBounds.2⟩
  have inner := fits_of_bounds ⟨by omega, ctagBounds.2⟩
  have tagged : vlanIdentifier caller.tag ≠ 0 := by
    intro zero
    have value := inner.value
    rw [zero] at value
    have isZero : caller.tag = 0 := value.symm
    omega
  obtain ⟨-, clientIp, made⟩ | ⟨short, -⟩ := createIpFromMacAddress_eq caller.hwAddress
  · refine ⟨isTxId_decimals six, _, dialogue_eq six tagged made, ?_, ?_⟩
    · refine ⟨rfl, ?_, rfl, rfl⟩
      obtain ⟨discover, offer⟩ := @ofClient_answeredTrip caller stag
        (createDHCPDisc caller.ponPortId caller.onuId caller.gemPortId caller.hwAddress) .offer clientIp
        outer inner rfl rfl
      obtain ⟨request, ack⟩ := @ofClient_answeredTrip caller stag
        (createDHCPReq caller.ponPortId caller.onuId caller.hwAddress clientIp caller.gemPortId) .ack
        clientIp outer inner rfl rfl
      simp only [Dialogue.packets, List.forall_mem_cons]
      exact ⟨discover, offer, request, ack, List.forall_mem_nil _⟩
    · intro others pbit request reply outerBits
      simp only [List.forall_mem_cons]
      exact ⟨onWire_answeredTrip outer inner bits outerBits request reply,
        onWire_answeredTrip outer inner bits outerBits request reply, List.forall_mem_nil _⟩
  · omega

/-- A service on the first UNI. -/
def firstCaller : Caller where
  onuId := 1
  ponPortId := 0
  portNo := 256
  tag := 900
  gemPortId := 1024
  uniId := 0
  hwAddress := [0x2e, 0, 0, 1, 0, 0]
  pbit := 7

theorem firstCaller_completes : ∃ exchange, dialogue firstCaller 901 .started = some exchange ∧
    Completed firstCaller 901 exchange := by
  obtain ⟨-, exchange, ended, completed, -⟩ :=
    dhcp_exchange_completes firstCaller 901 rfl (by decide) (by decide) (by decide)
  exact ⟨exchange, ended, completed⟩

end Bbsim.Devices
