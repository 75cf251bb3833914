import Bbsim.Foundation.Bytes
import Bbsim.Foundation.Padding
import Bbsim.Foundation.Outcome
import Bbsim.Responders.Packets

/-! Pushing and popping VLAN tags. `packet_tags.go` on the bytes of frames, with the Ethernet and
Dot1Q layers of gopacket. A missing Ethernet layer is replaced by an empty one and errors of the
serializer are dropped: what is in the buffer then becomes the packet. -/

namespace Bbsim.PacketHandlers

open Foundation Responders

def ethernetTypeDot1Q : UInt16 := 0x8100
def ethernetTypeQinQ : UInt16 := 0x88a8
/-- The type of a frame with a length in the place of it. -/
def ethernetTypeLLC : UInt16 := 0

structure Ethernet where
  dstMac : Mac := []
  srcMac : Mac := []
  ethernetType : UInt16 := 0
  payload : List UInt8 := []
deriving DecidableEq

structure Dot1Q where
  priority : UInt8
  dropEligible : Bool
  vlanIdentifier : UInt16
  type : UInt16
  payload : List UInt8
deriving DecidableEq

/-- The first Ethernet and the first Dot1Q layer of a packet are what is asked for. -/
structure Packet where
  data : List UInt8
  ethernet : Option Ethernet
  dot1q : Option Dot1Q
deriving DecidableEq

def readUint16 (high low : UInt8) : UInt16 := UInt16.ofNat (uint16 high low)

/-- Fewer than 14 bytes are refused. A payload behind a length is cut to it. -/
def decodeEthernet (data : List UInt8) : Option Ethernet :=
  match data.drop 12 with
  | high :: low :: payload =>
    let type := readUint16 high low
    some {
      dstMac := data.take 6
      srcMac := (data.drop 6).take 6
      ethernetType := if type < 0x0600 then ethernetTypeLLC else type
      payload := if type < 0x0600 then payload.take type.toNat else payload }
  | _ => none

def decodeDot1Q : List UInt8 → Option Dot1Q
  | first :: second :: third :: fourth :: payload =>
    some {
      priority := (first &&& 0xe0) >>> 5
      dropEligible := first &&& 0x10 ≠ 0
      vlanIdentifier := readUint16 first second &&& 0x0fff
      type := readUint16 third fourth
      payload := payload }
  | _ => none

section

-- the first Dot1Q layer that the decoders of the other types find in a payload
variable (others : UInt16 → List UInt8 → Option Dot1Q)

def nextDot1Q (type : UInt16) (payload : List UInt8) : Option Dot1Q :=
  if type = ethernetTypeDot1Q ∨ type = ethernetTypeQinQ then decodeDot1Q payload
  else others type payload

/-- `gopacket.NewPacket` from `LayerTypeEthernet`; a decoder that panics is recovered. -/
def newPacket (data : List UInt8) : Packet where
  data := data
  ethernet := decodeEthernet data
  dot1q := (decodeEthernet data).bind fun eth => nextDot1Q others eth.ethernetType eth.payload

end

/-- What the buffer holds once a layer is written, or once its serializer has failed. -/
abbrev Buffer := Except (List UInt8) (List UInt8)

def Buffer.bytes : Buffer → List UInt8
  | .ok bytes | .error bytes => bytes

/-- Room for the header is made before the identifier is looked at. -/
def Dot1Q.serializeTo (dot1q : Dot1Q) (buffer : List UInt8) : Buffer :=
  if dot1q.vlanIdentifier > 0x0fff then .error ([0, 0, 0, 0] ++ buffer)
  else
    let tagged := dot1q.priority.toUInt16 <<< 13 ||| dot1q.vlanIdentifier
    let firstBytes := if dot1q.dropEligible then tagged ||| 0x1000 else tagged
    .ok (putUint16 firstBytes.toNat ++ putUint16 dot1q.type.toNat ++ buffer)

/-- The length field is left at 0 by both callers, which is also the number of the type LLC. -/
def Ethernet.serializeTo (eth : Ethernet) (buffer : List UInt8) : Buffer :=
  if eth.dstMac.length ≠ 6 then .error buffer
  else if eth.srcMac.length ≠ 6 then .error buffer
  else .ok (padTo 60 (eth.dstMac ++ eth.srcMac ++ putUint16 eth.ethernetType.toNat ++ buffer))

inductive TagError where
  | noEthernetLayer
  | noDot1qLayer
deriving DecidableEq

section

variable (others : UInt16 → List UInt8 → Option Dot1Q)

/-- Never nil. -/
def getEthernetLayer (pkt : Packet) : Option Ethernet := some (pkt.ethernet.getD {})

def getDot1QLayer (pkt : Packet) : Except TagError Dot1Q :=
  match pkt.dot1q with
  | some dot1q => .ok dot1q
  | none => .error .noDot1qLayer

def pushSingleTag (tag : Int) (pkt : Packet) (pbit : UInt8) : Except TagError Packet :=
  match getEthernetLayer pkt with
  | some eth =>
    let ethernetLayer : Ethernet := { eth with ethernetType := ethernetTypeDot1Q }
    let dot1qLayer : Dot1Q := ⟨pbit, false, vlanIdentifier tag, eth.ethernetType, []⟩
    let buffer := (dot1qLayer.serializeTo eth.payload).bind ethernetLayer.serializeTo
    .ok (newPacket others (Buffer.bytes buffer))
  | none => .error .noEthernetLayer

def pushDoubleTag (stag ctag : Int) (pkt : Packet) (pbit : UInt8) : Except TagError Packet := do
  let singleTaggedPkt ← pushSingleTag others ctag pkt pbit
  pushSingleTag others stag singleTaggedPkt pbit

def popSingleTag (pkt : Packet) : Except TagError Packet := do
  let layer ← getDot1QLayer pkt
  match getEthernetLayer pkt with
  | some eth =>
    let ethernetLayer : Ethernet := { eth with ethernetType := layer.type }
    return newPacket others (Buffer.bytes (ethernetLayer.serializeTo layer.payload))
  | none => .error .noEthernetLayer

def popDoubleTag (pkt : Packet) : Except TagError Packet := do
  let packet ← popSingleTag others pkt
  popSingleTag others packet

def getVlanTag (pkt : Packet) : Except TagError UInt16 :=
  (getDot1QLayer pkt).map Dot1Q.vlanIdentifier

def getPbit (pkt : Packet) : Except TagError UInt8 := (getDot1QLayer pkt).map Dot1Q.priority

def getTagsFromPacket (pkt : Packet) : Except TagError (UInt16 × UInt16) := do
  let oTag ← getVlanTag pkt
  let poppedTagPkt ← popSingleTag others pkt
  match poppedTagPkt.dot1q with
  | none => return (oTag, 0)
  | some _ =>
    let iTag ← getVlanTag poppedTagPkt
    return (oTag, iTag)

end

/-- A frame whose addresses are whole and whose type is no length. -/
structure EthernetFrame where
  dstMac : Mac
  srcMac : Mac
  ethernetType : UInt16
  payload : List UInt8
  dst : dstMac.length = 6
  src : srcMac.length = 6
  typed : 0x0600 ≤ ethernetType

namespace EthernetFrame

def bytes (frame : EthernetFrame) : List UInt8 :=
  frame.dstMac ++ frame.srcMac ++ putUint16 frame.ethernetType.toNat ++ frame.payload

def withPayload (frame : EthernetFrame) (payload : List UInt8) : EthernetFrame :=
  { frame with payload := payload }

/-- The frame behind a tag. -/
def tagged (frame : EthernetFrame) (tci : List UInt8) : EthernetFrame :=
  { frame with
    ethernetType := ethernetTypeDot1Q
    payload := tci ++ putUint16 frame.ethernetType.toNat ++ frame.payload
    typed := by decide }

end EthernetFrame

theorem readUint16_putUint16 (value : UInt16) :
    readUint16 (UInt8.ofNat (value.toNat / 256)) (UInt8.ofNat value.toNat) = value := by
  rw [readUint16, uint16_putUint16 _ value.toNat_lt, UInt16.ofNat_toNat]

theorem decodeEthernet_bytes (frame : EthernetFrame) :
    decodeEthernet frame.bytes =
      some ⟨frame.dstMac, frame.srcMac, frame.ethernetType, frame.payload⟩ := by
  have typed : ¬ frame.ethernetType < 0x0600 := UInt16.not_lt.mpr frame.typed
  have macs : (frame.dstMac ++ frame.srcMac).length = 12 := by
    rw [List.length_append, frame.dst, frame.src]
  have tail : frame.bytes.drop 12 = UInt8.ofNat (frame.ethernetType.toNat / 256) ::
      UInt8.ofNat frame.ethernetType.toNat :: frame.payload := by
    rw [EthernetFrame.bytes, List.append_assoc, List.drop_left' macs]
    rfl
  have dst : frame.bytes.take 6 = frame.dstMac := by
    rw [EthernetFrame.bytes, List.append_assoc, List.append_assoc, List.take_left' frame.dst]
  have src : (frame.bytes.drop 6).take 6 = frame.srcMac := by
    rw [EthernetFrame.bytes, List.append_assoc, List.append_assoc, List.drop_left' frame.dst,
      List.take_left' frame.src]
  rw [decodeEthernet, tail]
  simp only [dst, src, readUint16_putUint16, if_neg typed]

section

variable {others : UInt16 → List UInt8 → Option Dot1Q}

theorem padTo_bytes (frame : EthernetFrame) :
    padTo 60 frame.bytes = (frame.withPayload (padTo 46 frame.payload)).bytes := by
  have head : (frame.dstMac ++ frame.srcMac ++ putUint16 frame.ethernetType.toNat).length = 14 := by
    rw [List.length_append, List.length_append, frame.dst, frame.src, putUint16_length]
  have padded := padTo_append (frame.dstMac ++ frame.srcMac ++ putUint16 frame.ethernetType.toNat)
    frame.payload 46
  rw [head] at padded
  exact padded

/-- What the serializer makes of a frame of which it is given the parts. -/
theorem serializeTo_frame (frame : EthernetFrame) (payload : List UInt8) :
    Ethernet.serializeTo ⟨frame.dstMac, frame.srcMac, frame.ethernetType, payload⟩ frame.payload =
      .ok (padTo 60 frame.bytes) := by
  rw [Ethernet.serializeTo, if_neg (not_not.mpr frame.dst), if_neg (not_not.mpr frame.src)]
  rfl

/-- The bytes of a tag. -/
def tci (tag : UInt16) (pbit : UInt8) : List UInt8 :=
  putUint16 (pbit.toUInt16 <<< 13 ||| tag).toNat

theorem newPacket_ethernet (frame : EthernetFrame) :
    (newPacket others frame.bytes).ethernet =
      some ⟨frame.dstMac, frame.srcMac, frame.ethernetType, frame.payload⟩ :=
  decodeEthernet_bytes frame

@[simp] theorem tci_length (tag : UInt16) (pbit : UInt8) : (tci tag pbit).length = 2 := rfl

/-- The frame that is sent behind a tag, with the padding of the serializer. -/
def EthernetFrame.pushed (frame : EthernetFrame) (tag : UInt16) (pbit : UInt8) : EthernetFrame :=
  (frame.withPayload (padTo 42 frame.payload)).tagged (tci tag pbit)

theorem pushed_eq (frame : EthernetFrame) (tag : UInt16) (pbit : UInt8) :
    (frame.tagged (tci tag pbit)).withPayload (padTo 46 (frame.tagged (tci tag pbit)).payload) =
      frame.pushed tag pbit := by
  have padded := padTo_append (tci tag pbit ++ putUint16 frame.ethernetType.toNat) frame.payload 42
  have payload : padTo 46 (frame.tagged (tci tag pbit)).payload =
      (frame.pushed tag pbit).payload := padded
  rw [EthernetFrame.withPayload, payload]
  rfl

theorem pushSingleTag_frame (frame : EthernetFrame) {tag : Int} (pbit : UInt8)
    (small : ¬ vlanIdentifier tag > 0x0fff) :
    pushSingleTag others tag (newPacket others frame.bytes) pbit =
      .ok (newPacket others (frame.pushed (vlanIdentifier tag) pbit).bytes) := by
  have written := serializeTo_frame (frame.tagged (tci (vlanIdentifier tag) pbit)) frame.payload
  rw [padTo_bytes, pushed_eq] at written
  rw [pushSingleTag, getEthernetLayer, newPacket_ethernet]
  simp only [Option.getD_some, Dot1Q.serializeTo, if_neg small]
  exact congrArg (fun buffer => Except.ok (newPacket others (Buffer.bytes buffer))) written

/-- The priority and the drop bit of the first byte. -/
theorem firstByte_bits : ∀ first : Fin 256,
    ((UInt8.ofNat first &&& 0xe0) >>> 5).toNat = first / 32 ∧
      (UInt8.ofNat first &&& 0x10 = 0 ↔ first.val / 16 % 2 = 0) := by
  decide +kernel

variable {pbit : UInt8} {tag : UInt16}

/-- A tag of 12 bits and a priority of 3 share the two bytes. -/
theorem tci_value (small : tag.toNat ≤ 4095) (bits : pbit.toNat ≤ 7) :
    (pbit.toUInt16 <<< 13 ||| tag).toNat = pbit.toNat * 8192 + tag.toNat := by
  have shifted : (pbit.toUInt16 <<< 13).toNat = pbit.toNat <<< 13 := by
    rw [UInt16.toNat_shiftLeft, UInt8.toNat_toUInt16]
    exact Nat.mod_eq_of_lt (by simp [Nat.shiftLeft_eq]; omega)
  rw [UInt16.toNat_or, shifted, ← Nat.shiftLeft_add_eq_or_of_lt (by omega), Nat.shiftLeft_eq]

private theorem decodeDot1Q_tci {tag type : UInt16} {payload : List UInt8} (small : tag.toNat ≤ 4095)
    (bits : pbit.toNat ≤ 7) :
    decodeDot1Q (tci tag pbit ++ putUint16 type.toNat ++ payload) =
      some ⟨pbit, false, tag, type, payload⟩ := by
  have value := tci_value small bits
  have first := firstByte_bits ⟨(pbit.toNat * 8192 + tag.toNat) / 256, by omega⟩
  simp only at first
  have priority : ((UInt8.ofNat ((pbit.toNat * 8192 + tag.toNat) / 256) &&& 0xe0) >>> 5) = pbit :=
    UInt8.toNat_inj.mp (by rw [first.1]; omega)
  have drop : UInt8.ofNat ((pbit.toNat * 8192 + tag.toNat) / 256) &&& 0x10 = 0 :=
    first.2.mpr (by omega)
  have vlan : readUint16 (UInt8.ofNat ((pbit.toNat * 8192 + tag.toNat) / 256))
      (UInt8.ofNat (pbit.toNat * 8192 + tag.toNat)) &&& 0x0fff = tag := by
    apply UInt16.toNat_inj.mp
    rw [UInt16.toNat_and, readUint16, uint16_putUint16 _ (by omega), UInt16.toNat_ofNat']
    have mask := Nat.and_two_pow_sub_one_eq_mod ((pbit.toNat * 8192 + tag.toNat) % 2 ^ 16) 12
    exact mask.trans (by omega)
  rw [tci, value, putUint16, putUint16]
  simp only [List.cons_append, List.nil_append, decodeDot1Q, priority, drop, vlan,
    readUint16_putUint16]
  rfl

section

variable (frame : EthernetFrame)
include frame

theorem dot1q_pushed (small : tag.toNat ≤ 4095) (bits : pbit.toNat ≤ 7) :
    (newPacket others (frame.pushed tag pbit).bytes).dot1q =
      some ⟨pbit, false, tag, frame.ethernetType, padTo 42 frame.payload⟩ := by
  have next : nextDot1Q others (frame.pushed tag pbit).ethernetType (frame.pushed tag pbit).payload =
      decodeDot1Q (frame.pushed tag pbit).payload :=
    if_pos (.inl rfl)
  rw [newPacket, decodeEthernet_bytes]
  exact next.trans (decodeDot1Q_tci small bits)

theorem popSingleTag_pushed {tag : UInt16} {pbit : UInt8} (small : tag.toNat ≤ 4095)
    (bits : pbit.toNat ≤ 7) :
    popSingleTag others (newPacket others (frame.pushed tag pbit).bytes) =
      .ok (newPacket others (padTo 60 frame.bytes)) := by
  have written := serializeTo_frame (frame.withPayload (padTo 42 frame.payload))
    (frame.pushed tag pbit).payload
  have whole : padTo 60 (frame.withPayload (padTo 42 frame.payload)).bytes = padTo 60 frame.bytes := by
    rw [padTo_bytes, padTo_bytes, EthernetFrame.withPayload, EthernetFrame.withPayload,
      EthernetFrame.withPayload, padTo_padTo (by decide)]
  rw [whole] at written
  rw [popSingleTag, getDot1QLayer, dot1q_pushed frame small bits, getEthernetLayer, newPacket_ethernet]
  exact congrArg (fun buffer => Except.ok (newPacket others (Buffer.bytes buffer))) written

/-- A frame that was pushed is long enough to be left as it is. -/
theorem padTo_pushed (tag : UInt16) (pbit : UInt8) :
    padTo 60 (frame.pushed tag pbit).bytes = (frame.pushed tag pbit).bytes := by
  apply padTo_of_le
  have head : (frame.pushed tag pbit).bytes.length = 14 + (frame.pushed tag pbit).payload.length := by
    rw [EthernetFrame.bytes, List.length_append, List.length_append, List.length_append,
      (frame.pushed tag pbit).dst, (frame.pushed tag pbit).src, putUint16_length]
  have payload : (frame.pushed tag pbit).payload =
      tci tag pbit ++ putUint16 frame.ethernetType.toNat ++ padTo 42 frame.payload := rfl
  rw [head, payload, List.length_append, List.length_append, tci_length, putUint16_length, padTo_length]
  omega

theorem getVlanTag_pushed (small : tag.toNat ≤ 4095) (bits : pbit.toNat ≤ 7) :
    getVlanTag (newPacket others (frame.pushed tag pbit).bytes) = .ok tag := by
  rw [getVlanTag, getDot1QLayer, dot1q_pushed frame small bits]
  rfl

theorem getPbit_pushed (small : tag.toNat ≤ 4095) (bits : pbit.toNat ≤ 7) :
    getPbit (newPacket others (frame.pushed tag pbit).bytes) = .ok pbit := by
  rw [getPbit, getDot1QLayer, dot1q_pushed frame small bits]
  rfl

theorem getTagsFromPacket_pushed {tag : UInt16} {pbit : UInt8} (small : tag.toNat ≤ 4095)
    (bits : pbit.toNat ≤ 7) :
    getTagsFromPacket others (newPacket others (frame.pushed tag pbit).bytes) =
      .ok (tag, (newPacket others (padTo 60 frame.bytes)).dot1q.elim 0 Dot1Q.vlanIdentifier) := by
  rw [getTagsFromPacket, getVlanTag, getDot1QLayer, dot1q_pushed frame small bits,
    popSingleTag_pushed frame small bits]
  cases found : (newPacket others (padTo 60 frame.bytes)).dot1q with
  | none => simp [Except.map, bind, Except.bind, found]; rfl
  | some dot1q => simp [Except.map, bind, Except.bind, found, getVlanTag, getDot1QLayer]; rfl

/-- Of a frame with two tags the outer one is popped, and both are read. -/
theorem popSingleTag_twice {stag ctag : UInt16} {pbit innerPbit : UInt8}
    (outer : stag.toNat ≤ 4095) (bits : pbit.toNat ≤ 7) (inner : ctag.toNat ≤ 4095)
    (innerBits : innerPbit.toNat ≤ 7) :
    popSingleTag others (newPacket others ((frame.pushed ctag innerPbit).pushed stag pbit).bytes) =
        .ok (newPacket others (frame.pushed ctag innerPbit).bytes) ∧
      getTagsFromPacket others
        (newPacket others ((frame.pushed ctag innerPbit).pushed stag pbit).bytes) = .ok (stag, ctag) := by
  have popped := @popSingleTag_pushed others (frame.pushed ctag innerPbit) _ _ outer bits
  have read := @getTagsFromPacket_pushed others (frame.pushed ctag innerPbit) _ _ outer bits
  rw [padTo_pushed] at popped read
  rw [dot1q_pushed frame inner innerBits] at read
  exact ⟨popped, read⟩

end

/-- A frame behind tags with their priorities, the outermost first. -/
def EthernetFrame.stacked (frame : EthernetFrame) : List (UInt16 × UInt8) → EthernetFrame
  | [] => frame
  | (tag, pbit) :: inner => (frame.stacked inner).pushed tag pbit

/-- Tags that a frame can carry. -/
def Stackable (tags : List (UInt16 × UInt8)) : Prop :=
  ∀ tag ∈ tags, tag.1.toNat ≤ 4095 ∧ tag.2.toNat ≤ 7

variable (others) in
/-- The packet is a frame behind these tags. -/
def Carries (frame : EthernetFrame) (tags : List UInt16) (pkt : Packet) : Prop :=
  ∃ stack, Stackable stack ∧ stack.map Prod.fst = tags ∧
    pkt = newPacket others (frame.stacked stack).bytes

/-- A tag that fits in 12 bits goes through the narrowing and the serializer. -/
structure Fits (tag : Int) : Prop where
  value : ((vlanIdentifier tag).toNat : Int) = tag
  small : (vlanIdentifier tag).toNat ≤ 4095
  accepted : ¬ vlanIdentifier tag > 0x0fff

theorem fits_of_bounds {tag : Int} (bounds : 0 ≤ tag ∧ tag ≤ 4095) : Fits tag := by
  have same : (vlanIdentifier tag).toNat = tag.toNat := by
    rw [vlanIdentifier, UInt16.ofInt, UInt16.toNat_ofNat']
    omega
  have small : (vlanIdentifier tag).toNat ≤ 4095 := by omega
  exact ⟨by omega, small, UInt16.not_lt.mpr (UInt16.le_iff_toNat_le.mpr small)⟩

theorem carries_bare (frame : EthernetFrame) : Carries others frame [] (newPacket others frame.bytes) :=
  ⟨[], by simp [Stackable], rfl, rfl⟩

section

variable {frame : EthernetFrame} {pkt : Packet}

theorem carries_push {tags : List UInt16} (carries : Carries others frame tags pkt) {tag : Int}
    (fits : Fits tag) (bits : pbit.toNat ≤ 7) :
    ∃ pushed, pushSingleTag others tag pkt pbit = .ok pushed ∧
      Carries others frame (vlanIdentifier tag :: tags) pushed := by
  obtain ⟨stack, stackable, rfl, rfl⟩ := carries
  refine ⟨_, pushSingleTag_frame _ pbit fits.accepted, (vlanIdentifier tag, pbit) :: stack, ?_, rfl, rfl⟩
  exact List.forall_mem_cons.mpr ⟨⟨fits.small, bits⟩, stackable⟩

/-- A packet with two tags or more is popped to a frame that was pushed, which needs no padding. -/
theorem carries_pop {tag next : UInt16} {inner : List UInt16}
    (carries : Carries others frame (tag :: next :: inner) pkt) :
    ∃ popped, popSingleTag others pkt = .ok popped ∧ Carries others frame (next :: inner) popped ∧
      getTagsFromPacket others pkt = .ok (tag, next) := by
  obtain ⟨stack, stackable, tags, rfl⟩ := carries
  obtain ⟨⟨outer, pbit⟩, behind, rfl, rfl, rest⟩ := List.map_eq_cons_iff.mp tags
  obtain ⟨⟨inner, innerPbit⟩, last, rfl, rfl, rfl⟩ := List.map_eq_cons_iff.mp rest
  obtain ⟨⟨small, bits⟩, stackable⟩ := List.forall_mem_cons.mp stackable
  obtain ⟨⟨smaller, fewer⟩, -⟩ := List.forall_mem_cons.mp stackable
  obtain ⟨popped, read⟩ := popSingleTag_twice (frame.stacked last) small bits smaller fewer
  exact ⟨_, popped, ⟨_, stackable, rfl, rfl⟩, read⟩

end

/-- What can be pushed as it is. -/
structure Pushable (pkt : Packet) (tags : List Int) (pbit : UInt8) : Prop where
  ethernet : pkt.ethernet.isSome = true
  tags : ∀ tag ∈ tags, 0 ≤ tag ∧ tag ≤ 4095
  pbit : pbit.toNat ≤ 7

/-- A push fails exactly where something cannot be pushed, and its result holds what it should. -/
def FailsLoudly (pushable : Prop) (pushed : Except TagError Packet) (restores : Packet → Prop) : Prop :=
  match pushed with
  | .error _ => ¬ pushable
  | .ok pkt => pushable ∧ restores pkt

variable (others) in
/-- The tag and the priority are read again, and popping leaves the packet up to padding. -/
structure RestoresSingle (pkt : Packet) (tag : Int) (pbit : UInt8) (pushed : Packet) : Prop where
  vlan : ∃ vlan, getVlanTag pushed = .ok vlan ∧ vlan.toNat = tag
  priority : getPbit pushed = .ok pbit
  pops : ∃ popped, popSingleTag others pushed = .ok popped ∧ popped.data = padTo 60 pkt.data ∧
    ∃ vlan inner, getTagsFromPacket others pushed = .ok (vlan, inner) ∧ vlan.toNat = tag ∧
      inner = popped.dot1q.elim 0 Dot1Q.vlanIdentifier

variable (others) in
structure RestoresDouble (pkt : Packet) (stag ctag : Int) (pbit : UInt8) (pushed : Packet) : Prop where
  vlan : ∃ vlan, getVlanTag pushed = .ok vlan ∧ vlan.toNat = stag
  priority : getPbit pushed = .ok pbit
  tags : ∃ outer inner, getTagsFromPacket others pushed = .ok (outer, inner) ∧
    outer.toNat = stag ∧ inner.toNat = ctag
  pops : ∃ popped, popDoubleTag others pushed = .ok popped ∧ popped.data = padTo 60 pkt.data

/-- A packet with the Ethernet II frame it is made of, or without an Ethernet layer. -/
inductive Source where
  | ethernet (frame : EthernetFrame)
  | bare (pkt : Packet) (absent : pkt.ethernet = none)

variable (others) in
def Source.packet : Source → Packet
  | .ethernet frame => newPacket others frame.bytes
  | .bare pkt _ => pkt

private theorem exists_frame {source : Source} {tags : List Int}
    (pushable : Pushable (source.packet others) tags pbit) :
    ∃ frame : EthernetFrame, source.packet others = newPacket others frame.bytes := by
  cases source with
  | ethernet frame => exact ⟨frame, rfl⟩
  | bare pkt absent =>
    have present := pushable.ethernet
    rw [Source.packet, absent] at present
    cases present

private theorem restoresSingle (frame : EthernetFrame) {tag : Int} (fits : Fits tag)
    (bits : pbit.toNat ≤ 7) :
    RestoresSingle others (newPacket others frame.bytes) tag pbit
      (newPacket others (frame.pushed (vlanIdentifier tag) pbit).bytes) where
  vlan := ⟨_, getVlanTag_pushed frame fits.small bits, fits.value⟩
  priority := getPbit_pushed frame fits.small bits
  pops := ⟨_, popSingleTag_pushed frame fits.small bits, rfl, _, _,
    getTagsFromPacket_pushed frame fits.small bits, fits.value, rfl⟩

/-- The inner tag is that of the frame that was pushed first. -/
theorem restoresDouble (frame : EthernetFrame) {stag ctag : Int} (outer : Fits stag)
    (inner : Fits ctag) (bits : pbit.toNat ≤ 7) :
    RestoresDouble others (newPacket others frame.bytes) stag ctag pbit
      (newPacket others
        ((frame.pushed (vlanIdentifier ctag) pbit).pushed (vlanIdentifier stag) pbit).bytes) := by
  obtain ⟨popped, tags⟩ := @popSingleTag_twice others frame _ _ _ _ outer.small bits inner.small bits
  refine ⟨⟨_, getVlanTag_pushed _ outer.small bits, outer.value⟩, getPbit_pushed _ outer.small bits,
    ⟨_, _, tags, outer.value, inner.value⟩, ?_⟩
  refine ⟨newPacket others (padTo 60 frame.bytes), ?_, rfl⟩
  rw [popDoubleTag, popped]
  exact popSingleTag_pushed frame inner.small bits

/-- Both pushes fail loudly or are undone exactly where there is an Ethernet layer, the tags have 12
bits and the priority 3: they never fail. -/
theorem vlan_push_pop_iff (others : UInt16 → List UInt8 → Option Dot1Q) (source : Source)
    (tag stag ctag : Int) (pbit : UInt8) :
    (FailsLoudly (Pushable (source.packet others) [tag] pbit)
        (pushSingleTag others tag (source.packet others) pbit)
        (RestoresSingle others (source.packet others) tag pbit) ↔
      Pushable (source.packet others) [tag] pbit) ∧
    (FailsLoudly (Pushable (source.packet others) [stag, ctag] pbit)
        (pushDoubleTag others stag ctag (source.packet others) pbit)
        (RestoresDouble others (source.packet others) stag ctag pbit) ↔
      Pushable (source.packet others) [stag, ctag] pbit) := by
  refine ⟨⟨fun law => law.1, fun pushable => ?_⟩, ⟨fun law => law.1, fun pushable => ?_⟩⟩
  · obtain ⟨frame, same⟩ := exists_frame pushable
    have fits := fits_of_bounds (pushable.tags tag (by simp))
    rw [same] at pushable ⊢
    rw [pushSingleTag_frame frame pbit fits.accepted]
    exact ⟨pushable, restoresSingle frame fits pushable.pbit⟩
  · obtain ⟨frame, same⟩ := exists_frame pushable
    have outer := fits_of_bounds (pushable.tags stag (by simp))
    have inner := fits_of_bounds (pushable.tags ctag (by simp))
    rw [same] at pushable ⊢
    have pushed : pushDoubleTag others stag ctag (newPacket others frame.bytes) pbit =
        .ok (newPacket others
          ((frame.pushed (vlanIdentifier ctag) pbit).pushed (vlanIdentifier stag) pbit).bytes) := by
      rw [pushDoubleTag, pushSingleTag_frame frame pbit inner.accepted]
      exact pushSingleTag_frame _ pbit outer.accepted
    rw [pushed]
    exact ⟨pushable, restoresDouble frame outer inner pushable.pbit⟩

/-- A short IPv4 frame. -/
def shortFrame : EthernetFrame where
  dstMac := [0xff, 0xff, 0xff, 0xff, 0xff, 0xff]
  srcMac := [0x2e, 0, 0, 1, 0, 0]
  ethernetType := 0x0800
  payload := [0x45, 0x00]
  dst := rfl
  src := rfl
  typed := by decide

theorem shortFrame_restored :
    FailsLoudly (Pushable (Source.packet (fun _ _ => none) (.ethernet shortFrame)) [900] 7)
      (pushSingleTag (fun _ _ => none) 900 (Source.packet (fun _ _ => none) (.ethernet shortFrame)) 7)
      (RestoresSingle (fun _ _ => none) (Source.packet (fun _ _ => none) (.ethernet shortFrame))
        900 7) := by
  have pushable : Pushable (Source.packet (fun _ _ => none) (.ethernet shortFrame)) [900] 7 :=
    ⟨by rw [Source.packet, newPacket_ethernet, Option.isSome_some], by decide, by decide⟩
  exact (vlan_push_pop_iff _ _ 900 900 900 7).1.mpr pushable

/-- A tag of 13 bits is pushed without an error; of the frame its payload is left. -/
theorem pushSingleTag_loses_frame :
    pushSingleTag (fun _ _ => none) 4096 (newPacket (fun _ _ => none) shortFrame.bytes) 0 =
      .ok ⟨[0, 0, 0, 0, 0x45, 0x00], none, none⟩ := by
  decide +kernel

end

end Bbsim.PacketHandlers
