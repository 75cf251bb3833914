import Bbsim.Foundation.Outcome
import Bbsim.Omci.Messages

/-! OMCI packets on the wire. VOLTHA sends OMCI packets as hexadecimal text.
`ParseOpenOltOmciPacket` decodes the text without a look at its length or characters, corrects the
length in a baseline trailer, and decodes the OMCI layer. What comes of the layers below is
recovered by gopacket. -/

namespace Bbsim.Devices

open Foundation Omci

def hexDigit (character : UInt8) : UInt8 := (character &&& (15 : UInt8)) + (character >>> 6) * 9

/-- `HexDecode`: with an odd number of characters the last one has its partner read past the end. -/
def hexDecode : List UInt8 → Option (List UInt8)
  | [] => some []
  | [_] => none
  | high :: low :: rest =>
    (hexDecode rest).map fun bytes => ((hexDigit high <<< 4) + hexDigit low) :: bytes

theorem hexDecode_isNone_iff (data : List UInt8) :
    (hexDecode data).isNone = true ↔ Odd data.length := by
  induction data using hexDecode.induct with
  | case1 | case2 => simp [hexDecode]
  | case3 high low rest ih => simpa [hexDecode, Nat.odd_add_one, Nat.even_add_one] using ih

/-- A digit in the alphabet of `hex.Encode`. -/
def hexCharacter (digit : UInt8) : UInt8 := if digit < 10 then 0x30 + digit else 0x57 + digit

def hexEncode (omciPkt : List UInt8) : List UInt8 :=
  omciPkt.flatMap fun (byte : UInt8) => [hexCharacter (byte >>> 4), hexCharacter (byte &&& 15)]

def upperCase (character : UInt8) : UInt8 :=
  if 0x61 ≤ character ∧ character ≤ 0x7a then character - 0x20 else character

/-- The two characters of a byte are its two digits, in either case. -/
theorem hexDigit_hexCharacter : ∀ byte : Fin 256,
    let high := hexCharacter (UInt8.ofNat byte >>> 4)
    let low := hexCharacter (UInt8.ofNat byte &&& 15)
    (hexDigit high <<< 4) + hexDigit low = UInt8.ofNat byte ∧
      (hexDigit (upperCase high) <<< 4) + hexDigit (upperCase low) =
        UInt8.ofNat byte := by
  decide +kernel

private theorem hexDecode_map_hexEncode {change : UInt8 → UInt8}
    (same : ∀ byte : UInt8, (hexDigit (change (hexCharacter (byte >>> 4))) <<< 4) +
      hexDigit (change (hexCharacter (byte &&& 15))) = byte) (omciPkt : List UInt8) :
    hexDecode ((hexEncode omciPkt).map change) = some omciPkt := by
  induction omciPkt with
  | nil => rfl
  | cons byte rest ih =>
    rw [hexEncode, List.flatMap_cons, List.map_append, ← hexEncode]
    simp only [List.map_cons, List.map_nil, List.cons_append, List.nil_append, hexDecode, ih,
      Option.map_some, same]

theorem hexDecode_hexEncode (omciPkt : List UInt8) :
    hexDecode (hexEncode omciPkt) = some omciPkt ∧
      hexDecode ((hexEncode omciPkt).map upperCase) = some omciPkt := by
  have digits (byte : UInt8) := hexDigit_hexCharacter ⟨byte.toNat, byte.toNat_lt⟩
  simp only [UInt8.ofNat_toNat] at digits
  refine ⟨?_, hexDecode_map_hexEncode (fun byte => (digits byte).2) omciPkt⟩
  have lower := @hexDecode_map_hexEncode id (fun byte => (digits byte).1) omciPkt
  rwa [List.map_id] at lower

/-- What `omci.OMCI` holds of a packet. -/
structure OmciLayer where
  transactionID : Nat
  messageType : UInt8
  deviceIdentifier : UInt8
  responseExpected : Bool
  length : Nat
deriving DecidableEq

/-- The length of the contents; `none` where the frame is too small for it, or where it is not the one
of the message set. In a baseline trailer it is compared in 16 bits. -/
def contentsLength (deviceIdentifier : UInt8) (data : List UInt8) : Option Nat :=
  if deviceIdentifier = baselineIdent then
    if data.length < maxBaselineLength - 8 then none
    else if maxBaselineLength - 4 ≤ data.length ∧
        uint16 (data.getD 42 0) (data.getD 43 0) ≠ maxBaselineLength - 8 then none
    else some (maxBaselineLength - 8)
  else if deviceIdentifier = extendedIdent then
    if data.length < 10 then none
    else
      let length := uint16 (data.getD 8 0) (data.getD 9 0)
      if maxExtendedLength - 10 < length ∨ data.length < length + 10 then none else some length
  else none

/-- Only notifications have transaction id 0. -/
def decodeOMCI : List UInt8 → Option OmciLayer
  | high :: low :: messageType :: deviceIdentifier :: rest =>
    let data := high :: low :: messageType :: deviceIdentifier :: rest
    if uint16 high low = 0 ∧ messageType &&& 0xe0 ≠ 0 then none
    else (contentsLength deviceIdentifier data).map fun length =>
      ⟨uint16 high low, messageType, deviceIdentifier, messageType &&& 0x40 = 0x40, length⟩
  | _ => none

inductive ParseError where
  | generallyTooSmall
  | tooSmallForBaseFormat
  | wrongLengthForExtendedFormat
  | wrongDeviceIdentifier
  | noOmciLayer
deriving DecidableEq

/-- The text of the error. -/
def ParseError.text : ParseError → String
  | .generallyTooSmall => "received omci message is generally too small - abort"
  | .tooSmallForBaseFormat => "received omci-message too small for OmciBaseFormat - abort"
  | .wrongLengthForExtendedFormat =>
    "received omci-message with wrong length for OmciExtendedFormat - abort"
  | .wrongDeviceIdentifier => "received omci-message with wrong Device Identifier - abort"
  | .noOmciLayer => "omci-message could not decode omci layer"

/-- `PutUint16` of 40 where something else stands. -/
def correctTrailer (rxMsg : List UInt8) : List UInt8 :=
  if uint16 (rxMsg.getD 42 0) (rxMsg.getD 43 0) ≠ 40 then
    rxMsg.take 42 ++ putUint16 40 ++ rxMsg.drop 44
  else rxMsg

def newPacket (rxMsg : List UInt8) : Except ParseError (List UInt8 × OmciLayer) :=
  match decodeOMCI rxMsg with
  | none => .error .noOmciLayer
  | some layer => .ok (rxMsg, layer)

/-- `ParseOpenOltOmciPacket` behind the decoder. -/
def parseDecoded (rxMsg : List UInt8) : Except ParseError (List UInt8 × OmciLayer) :=
  if rxMsg.length < 10 then .error .generallyTooSmall
  else if rxMsg.getD 3 0 = baselineIdent then
    if 44 ≤ rxMsg.length then newPacket (correctTrailer rxMsg)
    else .error .tooSmallForBaseFormat
  else if rxMsg.getD 3 0 = extendedIdent then
    if rxMsg.length > maxExtendedLength then .error .wrongLengthForExtendedFormat
    else newPacket rxMsg
  else .error .wrongDeviceIdentifier

/-- `HexDecode` reads past the end. -/
inductive DecodeFault where
  | indexOutOfRange
deriving DecidableEq

/-- The outer error is the crash of the decoder. -/
def parseOpenOltOmciPacket (pkt : List UInt8) :
    Except DecodeFault (Except ParseError (List UInt8 × OmciLayer)) :=
  match hexDecode pkt with
  | none => .error .indexOutOfRange
  | some rxMsg => .ok (parseDecoded rxMsg)

theorem returns_parse_iff {pkt : List UInt8} :
    Returns (parseOpenOltOmciPacket pkt) ↔ Even pkt.length := by
  rw [← Nat.not_odd_iff_even, ← hexDecode_isNone_iff, parseOpenOltOmciPacket]
  cases hexDecode pkt with
  | none => exact iff_of_false id (by simp)
  | some rxMsg => exact iff_of_true trivial (by simp)

/-- A decoded packet with the length in a baseline trailer set to 40. -/
def withTrailer (rxMsg : List UInt8) : List UInt8 :=
  if rxMsg.getD 3 0 = baselineIdent then rxMsg.take 42 ++ [0, 40] ++ rxMsg.drop 44 else rxMsg

theorem uint16_eq_forty {high low : UInt8} (forty : uint16 high low = 40) : high = 0 ∧ low = 40 := by
  have small := low.toNat_lt
  rw [uint16] at forty
  exact ⟨UInt8.toNat_inj.mp (by rw [UInt8.toNat_zero]; omega),
    UInt8.toNat_inj.mp (show low.toNat = 40 by omega)⟩

variable {rxMsg : List UInt8}

theorem correctTrailer_eq (long : 44 ≤ rxMsg.length) :
    correctTrailer rxMsg = rxMsg.take 42 ++ [0, 40] ++ rxMsg.drop 44 := by
  unfold correctTrailer
  split
  · rfl
  · next right =>
    obtain ⟨high, low⟩ := uint16_eq_forty (not_not.mp right)
    rw [List.getD_eq_getElem?_getD, List.getElem?_eq_getElem (by omega), Option.getD_some] at high low
    have tail : rxMsg.drop 42 = [0, 40] ++ rxMsg.drop 44 := by
      rw [List.drop_eq_getElem_cons (by omega), List.drop_eq_getElem_cons (by omega), high, low]
      rfl
    rw [List.append_assoc, ← tail, List.take_append_drop]

/-- What an accepted packet holds. -/
structure Accepted (rxMsg data : List UInt8) (layer : OmciLayer) : Prop where
  bytes : data = withTrailer rxMsg
  decoded : decodeOMCI data = some layer
  identifier : rxMsg.getD 3 0 = baselineIdent ∧ 44 ≤ rxMsg.length ∨
    rxMsg.getD 3 0 = extendedIdent ∧ 10 ≤ rxMsg.length ∧ rxMsg.length ≤ maxExtendedLength

private theorem ensures_newPacket :
    Ensures (newPacket rxMsg) fun packet => packet.1 = rxMsg ∧ decodeOMCI rxMsg = some packet.2 := by
  unfold newPacket
  split
  · trivial
  · next layer decoded => exact ⟨rfl, decoded⟩

theorem ensures_parseDecoded :
    Ensures (parseDecoded rxMsg) fun packet => Accepted rxMsg packet.1 packet.2 := by
  unfold parseDecoded
  split
  · trivial
  next enough =>
  split
  · next baseline =>
    split
    · next long =>
      refine ensures_newPacket.mono fun packet ⟨same, decoded⟩ => ?_
      rw [correctTrailer_eq long] at same decoded
      have bytes : packet.1 = withTrailer rxMsg := by rw [same, withTrailer, if_pos baseline]
      exact ⟨bytes, same ▸ decoded, .inl ⟨baseline, long⟩⟩
    · trivial
  next unlike =>
  split
  · next extended =>
    split
    · trivial
    · next short =>
      refine ensures_newPacket.mono fun packet ⟨same, decoded⟩ => ?_
      have bytes : packet.1 = withTrailer rxMsg := by rw [same, withTrailer, if_neg unlike]
      exact ⟨bytes, same ▸ decoded, .inr ⟨extended, by omega, by omega⟩⟩
  · trivial

/-- The parser returns an error, or a packet whose bytes are the decoded ones but for the length in a
baseline trailer. -/
def ParsesFaithfully (pkt : List UInt8) : Prop :=
  ∃ result, parseOpenOltOmciPacket pkt = .ok result ∧
    ∀ data layer, result = .ok (data, layer) →
      ∃ rxMsg, hexDecode pkt = some rxMsg ∧ data = withTrailer rxMsg

theorem parsesFaithfully_iff (pkt : List UInt8) : ParsesFaithfully pkt ↔ Even pkt.length := by
  rw [← returns_parse_iff, returns_iff]
  refine exists_congr fun result => and_iff_left_of_imp fun returned data layer accepted => ?_
  subst accepted
  rw [parseOpenOltOmciPacket] at returned
  split at returned
  · cases returned
  · next rxMsg decoded =>
    exact ⟨rxMsg, decoded, (ensures_parseDecoded.value (Except.ok.inj returned)).bytes⟩

/-- Text is decoded to what was encoded, in either case, and the parser is faithful exactly for texts of
even length. -/
theorem omci_transport_iff (omciPkt pkt : List UInt8) :
    (hexDecode (hexEncode omciPkt) = some omciPkt ∧
      hexDecode ((hexEncode omciPkt).map upperCase) = some omciPkt) ∧
    (ParsesFaithfully pkt ↔ Even pkt.length) :=
  ⟨hexDecode_hexEncode omciPkt, parsesFaithfully_iff pkt⟩

/-- One character. -/
theorem parse_panics_on_odd : parseOpenOltOmciPacket [0x30] = .error .indexOutOfRange := rfl

namespace OmciEvents

def mibUploadRequestType : UInt8 := 0x4d
def mibUploadNextRequestType : UInt8 := 0x4e

inductive Event where
  | mibUploadReceived
  | mibUploadDone
deriving DecidableEq

def Event.name : Event → String
  | .mibUploadReceived => "MIB-upload-received"
  | .mibUploadDone => "MIB-upload-done"

/-- The events of a message type, and the sequence number. -/
def publish (seqNumber : UInt16) (messageType : UInt8) : UInt16 × List Event :=
  if messageType = mibUploadRequestType then (0, [.mibUploadReceived])
  else if messageType = mibUploadNextRequestType then
    (seqNumber + 1, if seqNumber + 1 > 290 then [.mibUploadDone] else [])
  else (seqNumber, [])

/-- The bytes of a packet that was decoded are parsed again. An error is only logged. -/
def publishOmciEvent (publishEvents : Bool) (seqNumber : UInt16) (data : List UInt8) :
    Except DecodeFault (UInt16 × List Event) :=
  if publishEvents then
    (parseOpenOltOmciPacket data).map fun
      | .error _ => (seqNumber, [])
      | .ok (_, omciMsg) => publish seqNumber omciMsg.messageType
  else .ok (seqNumber, [])

variable {data : List UInt8} {seqNumber : UInt16}

theorem returns_publishOmciEvent_iff {publishEvents : Bool} :
    Returns (publishOmciEvent publishEvents seqNumber data) ↔
      (publishEvents = true → Even data.length) := by
  cases publishEvents with
  | false => exact iff_of_true trivial fun publishes => nomatch publishes
  | true =>
    rw [publishOmciEvent, if_pos rfl, Returns, yields_map, ← returns_parse_iff]
    exact ⟨fun returns _ => returns, fun returns => returns rfl⟩

/-- The message type that publishing finds. -/
def rereadType (data : List UInt8) : Option UInt8 :=
  match parseOpenOltOmciPacket data with
  | .ok (.ok (_, omciMsg)) => some omciMsg.messageType
  | _ => none

/-- The events that are published for a request of this type are its own. -/
def Reflects (messageType : UInt8) (data : List UInt8) : Prop :=
  ∀ seqNumber, ∃ next events, publishOmciEvent true seqNumber data = .ok (next, events) ∧
    (.mibUploadReceived ∈ events ↔ messageType = mibUploadRequestType) ∧
    (.mibUploadDone ∈ events → messageType = mibUploadNextRequestType)

variable {messageType : UInt8}

private theorem received_mem_publish :
    .mibUploadReceived ∈ (publish seqNumber messageType).2 ↔ messageType = mibUploadRequestType := by
  unfold publish
  split
  · next upload => simp [upload]
  · next other =>
    split
    · split <;> simp [other]
    · simp [other]

private theorem done_mem_publish :
    .mibUploadDone ∈ (publish seqNumber messageType).2 ↔
      messageType = mibUploadNextRequestType ∧ seqNumber + 1 > 290 := by
  unfold publish
  split
  · next upload => simp [upload, mibUploadRequestType, mibUploadNextRequestType]
  · split
    · next following => split <;> simp_all
    · next other => simp [other]

/-- What is published for the bytes of a packet. -/
def published (seqNumber : UInt16) (data : List UInt8) : UInt16 × List Event :=
  (rereadType data).elim (seqNumber, []) (publish seqNumber)

private theorem received_mem_published :
    .mibUploadReceived ∈ (published seqNumber data).2 ↔
      rereadType data = some mibUploadRequestType := by
  unfold published
  cases rereadType data with
  | none => simp
  | some messageType => simpa using received_mem_publish

private theorem done_mem_published :
    .mibUploadDone ∈ (published seqNumber data).2 ↔
      rereadType data = some mibUploadNextRequestType ∧ seqNumber + 1 > 290 := by
  unfold published
  cases rereadType data with
  | none => simp
  | some messageType => simpa using done_mem_publish

theorem publishOmciEvent_eq_ok_iff {result : UInt16 × List Event} :
    publishOmciEvent true seqNumber data = .ok result ↔
      Even data.length ∧ published seqNumber data = result := by
  rw [← returns_parse_iff, publishOmciEvent, if_pos rfl, published, rereadType]
  cases parseOpenOltOmciPacket data with
  | error fault => exact iff_of_false (fun returned => nomatch returned) fun even => even.1
  | ok parsed =>
    have returns : Returns (Except.ok parsed : Except DecodeFault _) := trivial
    rw [and_iff_right returns]
    cases parsed <;> exact ⟨Except.ok.inj, congrArg Except.ok⟩

theorem reflects_iff :
    Reflects messageType data ↔
      Even data.length ∧
        (rereadType data = some mibUploadRequestType ↔ messageType = mibUploadRequestType) ∧
        (rereadType data = some mibUploadNextRequestType →
          messageType = mibUploadNextRequestType) := by
  constructor
  · intro reflects
    -- at 290 the next MIB upload next is taken for the last
    obtain ⟨next, events, returned, upload, done⟩ := reflects 290
    obtain ⟨even, same⟩ := publishOmciEvent_eq_ok_iff.mp returned
    have events_eq : events = (published 290 data).2 := congrArg Prod.snd same.symm
    rw [events_eq, received_mem_published] at upload
    rw [events_eq, done_mem_published] at done
    exact ⟨even, upload, fun reread => done ⟨reread, by decide⟩⟩
  · rintro ⟨even, upload, done⟩ seqNumber
    have returned := publishOmciEvent_eq_ok_iff.mpr ⟨even, @rfl _ (published seqNumber data)⟩
    refine ⟨_, _, returned, received_mem_published.trans upload, fun member => ?_⟩
    exact done (done_mem_published.mp member).1

private theorem withTrailer_getD {rxMsg : List UInt8} {index : Nat} (before : index < 42)
    (inside : 42 ≤ rxMsg.length ∨ rxMsg.getD 3 0 ≠ baselineIdent) :
    (withTrailer rxMsg).getD index 0 = rxMsg.getD index 0 := by
  unfold withTrailer
  split
  · next baseline =>
    have long := inside.resolve_right (not_not.mpr baseline)
    have within : index < (rxMsg.take 42).length := by rw [List.length_take]; omega
    rw [List.getD_eq_getElem?_getD, List.append_assoc, List.getElem?_append_left within,
      List.getElem?_take_of_lt before, List.getD_eq_getElem?_getD]
  · rfl

/-- Each byte is made of two. -/
theorem hexDecode_getD {data rxMsg : List UInt8} (decoded : hexDecode data = some rxMsg)
    {index : Nat} (inside : index < rxMsg.length) :
    rxMsg.getD index 0 = (hexDigit (data.getD (2 * index) 0) <<< 4) +
      hexDigit (data.getD (2 * index + 1) 0) := by
  induction data using hexDecode.induct generalizing rxMsg index with
  | case1 =>
    obtain rfl := Option.some.inj decoded
    cases inside
  | case2 => cases decoded
  | case3 high low rest ih =>
    obtain ⟨bytes, later, rfl⟩ := Option.map_eq_some_iff.mp decoded
    cases index with
    | zero => rfl
    | succ before =>
      have found := ih later (Nat.lt_of_succ_lt_succ inside)
      simpa [Nat.mul_succ] using found

private theorem hexDecode_length {data rxMsg : List UInt8} (decoded : hexDecode data = some rxMsg) :
    data.length = 2 * rxMsg.length := by
  induction data using hexDecode.induct generalizing rxMsg with
  | case1 =>
    obtain rfl := Option.some.inj decoded
    rfl
  | case2 => cases decoded
  | case3 high low rest ih =>
    obtain ⟨bytes, later, rfl⟩ := Option.map_eq_some_iff.mp decoded
    have before := ih later
    simp only [List.length_cons]
    omega

/-- The bytes of a request of this type that the parser accepts. -/
structure Readable (messageType : UInt8) (length : Nat) (byte : Nat → UInt8) : Prop where
  type : byte 2 = messageType
  transaction : uint16 (byte 0) (byte 1) ≠ 0
  format : byte 3 = baselineIdent ∧ 44 ≤ length ∨
    byte 3 = extendedIdent ∧ 10 ≤ length ∧ length ≤ maxExtendedLength ∧
      uint16 (byte 8) (byte 9) ≤ maxExtendedLength - 10 ∧ uint16 (byte 8) (byte 9) + 10 ≤ length

private theorem decodeOMCI_of_long (long : 4 ≤ data.length) :
    (decodeOMCI data).map OmciLayer.messageType =
      if uint16 (data.getD 0 0) (data.getD 1 0) = 0 ∧ data.getD 2 0 &&& 0xe0 ≠ 0 then none
      else (contentsLength (data.getD 3 0) data).map fun _ => data.getD 2 0 := by
  match data, long with
  | high :: low :: messageType :: deviceIdentifier :: rest, _ =>
    rw [decodeOMCI, apply_ite (Option.map OmciLayer.messageType), Option.map_map]
    rfl

theorem decodedType_iff (request : messageType &&& 0xe0 ≠ 0) (long : 4 ≤ data.length) :
    (decodeOMCI data).map OmciLayer.messageType = some messageType ↔
      data.getD 2 0 = messageType ∧ uint16 (data.getD 0 0) (data.getD 1 0) ≠ 0 ∧
        (contentsLength (data.getD 3 0) data).isSome = true := by
  rw [decodeOMCI_of_long long]
  constructor
  · intro found
    obtain ⟨transaction, contents⟩ := Option.ite_none_left_eq_some.mp found
    obtain ⟨length, some, same⟩ := Option.map_eq_some_iff.mp contents
    exact ⟨same, fun zero => transaction ⟨zero, same ▸ request⟩, Option.isSome_of_eq_some some⟩
  · rintro ⟨rfl, transaction, contents⟩
    obtain ⟨length, some⟩ := Option.isSome_iff_exists.mp contents
    rw [if_neg fun zero => transaction zero.1, some]
    rfl

theorem withTrailer_length (long : 44 ≤ rxMsg.length) :
    (withTrailer rxMsg).length = rxMsg.length := by
  unfold withTrailer
  split
  · simp only [List.length_append, List.length_take, List.length_drop, List.length_cons, List.length_nil]
    omega
  · rfl

private theorem contentsLength_withTrailer (baseline : rxMsg.getD 3 0 = baselineIdent)
    (long : 44 ≤ rxMsg.length) :
    (contentsLength baselineIdent (withTrailer rxMsg)).isSome = true := by
  have taken : (rxMsg.take 42).length = 42 := by rw [List.length_take]; omega
  have high : (withTrailer rxMsg).getD 42 0 = 0 := by
    rw [withTrailer, if_pos baseline, List.append_assoc, List.getD_eq_getElem?_getD,
      List.getElem?_append_right (by omega), taken]
    rfl
  have low : (withTrailer rxMsg).getD 43 0 = 40 := by
    rw [withTrailer, if_pos baseline, List.append_assoc, List.getD_eq_getElem?_getD,
      List.getElem?_append_right (by omega), taken]
    rfl
  have trailer : uint16 0 40 = 40 := rfl
  have length := withTrailer_length long
  simp only [contentsLength, high, low, trailer, maxBaselineLength, if_pos]
  rw [if_neg (by omega), if_neg (by omega)]
  rfl

/-- The parser takes exactly the readable bytes for a request. -/
theorem parsedType_iff (request : messageType &&& 0xe0 ≠ 0) :
    (∃ data omciMsg, parseDecoded rxMsg = .ok (data, omciMsg) ∧ omciMsg.messageType = messageType) ↔
      Readable messageType rxMsg.length fun index => rxMsg.getD index 0 := by
  constructor
  · rintro ⟨data, omciMsg, parsed, rfl⟩
    obtain ⟨bytes, decoded, identifier⟩ := ensures_parseDecoded.value parsed
    subst bytes
    have found : (decodeOMCI (withTrailer rxMsg)).map OmciLayer.messageType =
        some omciMsg.messageType := congrArg _ decoded
    rcases identifier with ⟨baseline, long⟩ | ⟨extended, long, short⟩
    · have same (index : Nat) (before : index < 42) :=
        @withTrailer_getD rxMsg index before (.inl (by omega))
      rw [decodedType_iff request (by rw [withTrailer_length long]; omega), same 0 (by omega),
        same 1 (by omega), same 2 (by omega)] at found
      exact ⟨found.1, found.2.1, .inl ⟨baseline, long⟩⟩
    · have unlike : rxMsg.getD 3 0 ≠ baselineIdent := by rw [extended]; decide
      rw [withTrailer, if_neg unlike, decodedType_iff request (by omega), extended] at found
      obtain ⟨type, transaction, contents⟩ := found
      refine ⟨type, transaction, .inr ⟨extended, long, short, ?_⟩⟩
      rw [contentsLength, if_neg (by decide), if_pos rfl, if_neg (by omega)] at contents
      dsimp only at contents
      split at contents
      · cases contents
      · omega
  · rintro ⟨type, transaction, ⟨baseline, long⟩ | ⟨extended, long, short, bound, fits⟩⟩
    · have same (index : Nat) (before : index < 42) :=
        @withTrailer_getD rxMsg index before (.inl (by omega))
      have found := (decodedType_iff request (by rw [withTrailer_length long]; omega)).mpr
        ⟨(same 2 (by omega)).trans type, by rwa [same 0 (by omega), same 1 (by omega)],
          by rw [same 3 (by omega), baseline]; exact contentsLength_withTrailer baseline long⟩
      obtain ⟨omciMsg, decoded, typed⟩ := Option.map_eq_some_iff.mp found
      refine ⟨withTrailer rxMsg, omciMsg, ?_, typed⟩
      rw [withTrailer, if_pos baseline] at decoded
      rw [parseDecoded, if_neg (by omega), if_pos baseline, if_pos long, correctTrailer_eq long,
        newPacket, decoded, withTrailer, if_pos baseline]
    · have contents : (contentsLength (rxMsg.getD 3 0) rxMsg).isSome = true := by
        rw [extended, contentsLength, if_neg (by decide), if_pos rfl, if_neg (by omega)]
        dsimp only
        rw [if_neg (by omega)]
        rfl
      have found := (decodedType_iff request (by omega)).mpr ⟨type, transaction, contents⟩
      obtain ⟨omciMsg, decoded, typed⟩ := Option.map_eq_some_iff.mp found
      refine ⟨rxMsg, omciMsg, ?_, typed⟩
      have unlike : rxMsg.getD 3 0 ≠ baselineIdent := by rw [extended]; decide
      rw [parseDecoded, if_neg (by omega), if_neg unlike, if_pos extended, if_neg (by omega), newPacket,
        decoded]

/-- The byte that two bytes of a message spell as hexadecimal characters. -/
def spelled (data : List UInt8) (index : Nat) : UInt8 :=
  (hexDigit (data.getD (2 * index) 0) <<< 4) + hexDigit (data.getD (2 * index + 1) 0)

/-- The bytes of a message spell a request of this type. -/
def Spells (messageType : UInt8) (data : List UInt8) : Prop :=
  Readable messageType (data.length / 2) (spelled data)

/-- The class of the entity is read as the message type, the instance as the device identifier. -/
theorem rereadType_eq_some_iff (even : Even data.length) (request : messageType &&& 0xe0 ≠ 0) :
    rereadType data = some messageType ↔ Spells messageType data := by
  cases decoded : hexDecode data with
  | none =>
    have odd := (hexDecode_isNone_iff data).mp (by rw [decoded]; rfl)
    exact absurd even (Nat.not_even_iff_odd.mpr odd)
  | some rxMsg =>
    have length := hexDecode_length decoded
    have half : data.length / 2 = rxMsg.length := by omega
    have reread : rereadType data = some messageType ↔
        ∃ again omciMsg, parseDecoded rxMsg = .ok (again, omciMsg) ∧
          omciMsg.messageType = messageType := by
      rw [rereadType, parseOpenOltOmciPacket, decoded]
      dsimp only
      cases parseDecoded rxMsg with
      | error fault => simp
      | ok packet =>
        obtain ⟨again, omciMsg⟩ := packet
        simp
    rw [reread, parsedType_iff request, Spells, half]
    -- the bytes that are looked at are all there
    have bytes (long : 10 ≤ rxMsg.length) (index : Nat) (small : index < 10) :
        rxMsg.getD index 0 = spelled data index := hexDecode_getD decoded (by omega)
    constructor
    · rintro readable
      have long : 10 ≤ rxMsg.length := by rcases readable.format with found | found <;> omega
      obtain ⟨type, transaction, format⟩ := readable
      rw [bytes long _ (by omega)] at type
      rw [bytes long _ (by omega), bytes long _ (by omega)] at transaction
      rw [bytes long 3 (by omega), bytes long 8 (by omega), bytes long 9 (by omega)] at format
      exact ⟨type, transaction, format⟩
    · rintro readable
      have long : 10 ≤ rxMsg.length := by rcases readable.format with found | found <;> omega
      obtain ⟨type, transaction, format⟩ := readable
      rw [← bytes long _ (by omega)] at type
      rw [← bytes long _ (by omega), ← bytes long _ (by omega)] at transaction
      rw [← bytes long 3 (by omega), ← bytes long 8 (by omega), ← bytes long 9 (by omega)] at format
      exact ⟨type, transaction, format⟩

/-- A request as it reaches the ONU, with the text it came as. -/
structure ReceivedOmci where
  pkt : List UInt8
  data : List UInt8
  omciMsg : OmciLayer
  parsed : parseOpenOltOmciPacket pkt = .ok (.ok (data, omciMsg))

/-- The events of a received request are its own exactly if its bytes are even in number, they spell a
MIB upload exactly if the request is one, and a MIB upload next only if it is one. -/
theorem published_events_iff (received : ReceivedOmci) :
    Reflects received.omciMsg.messageType received.data ↔
      Even received.data.length ∧
        (Spells mibUploadRequestType received.data ↔
          received.omciMsg.messageType = mibUploadRequestType) ∧
        (Spells mibUploadNextRequestType received.data →
          received.omciMsg.messageType = mibUploadNextRequestType) := by
  rw [reflects_iff]
  refine and_congr_right fun even => ?_
  rw [rereadType_eq_some_iff even (by decide), rereadType_eq_some_iff even (by decide)]

/-- An extended MIB upload whose class and instance happen to spell its type and identifier. -/
def spelledOut : List UInt8 :=
  [0x00, 0x01, 0x4d, 0x0b, 0x04, 0x0d, 0x00, 0x0b, 0x00, 0x0a] ++ List.replicate 10 0

def receivedSpelledOut : ReceivedOmci where
  pkt := hexEncode spelledOut
  data := spelledOut
  omciMsg := ⟨1, mibUploadRequestType, extendedIdent, true, 10⟩
  parsed := by
    rw [parseOpenOltOmciPacket, (hexDecode_hexEncode spelledOut).1]
    decide +kernel

theorem spelledOut_published : Reflects mibUploadRequestType spelledOut := by
  have upload : Spells mibUploadRequestType spelledOut := ⟨by decide, by decide, by decide⟩
  refine (published_events_iff receivedSpelledOut).mpr ⟨by decide, iff_of_true upload rfl, fun next => ?_⟩
  exact absurd (upload.type.symm.trans next.type) (by decide)

/-- A baseline MIB upload of ONU data, as VOLTHA sends it. -/
def mibUploadMessage : List UInt8 :=
  [0x00, 0x01, 0x4d, 0x0a, 0x00, 0x02, 0x00, 0x00] ++ List.replicate 34 0 ++ [0x00, 0x28]

private theorem parse_mibUploadMessage : parseOpenOltOmciPacket (hexEncode mibUploadMessage) =
    .ok (.ok (mibUploadMessage, ⟨1, mibUploadRequestType, baselineIdent, true, 40⟩)) := by
  rw [parseOpenOltOmciPacket, (hexDecode_hexEncode mibUploadMessage).1]
  decide +kernel

theorem mibUpload_unpublished :
    parseOpenOltOmciPacket (hexEncode mibUploadMessage) =
      .ok (.ok (mibUploadMessage, ⟨1, mibUploadRequestType, baselineIdent, true, 40⟩)) ∧
    publishOmciEvent true 0 mibUploadMessage = .ok (0, []) := by
  refine ⟨parse_mibUploadMessage, ?_⟩
  decide +kernel

end OmciEvents

end Bbsim.Devices
