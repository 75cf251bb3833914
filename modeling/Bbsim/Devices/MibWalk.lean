import Bbsim.Foundation.Padding
import Bbsim.Devices.OmciSafety

/-! Walking through a MIB upload. The ONU announces a number of commands and is asked for one after
another. The bound that `CreateMibUploadNextResponse` checks is one too high. -/

namespace Bbsim.Devices

open Foundation Omci

/-- The number of commands of a message set. -/
def commandsOf (mibDb : MibDb) : DeviceIdent → Nat
  | .extended => mibDb.numberOfExtendedCommands
  | .baseline => mibDb.numberOfBaselineCommands

theorem createMibUploadResponse_announces (message : OmciMessage) (mibDb : MibDb) :
    (createMibUploadResponse message mibDb).numberOfCommands? =
      some (commandsOf mibDb message.deviceIdentifier) := by
  rw [createMibUploadResponse]
  cases message.deviceIdentifier <;> rfl

/-- A baseline message: filled up with zeros, and the length of its contents behind it. -/
def baselineMessage (contents : List UInt8) : List UInt8 :=
  padTo (maxBaselineLength - 8) contents ++ bigEndian 4 (maxBaselineLength - 8)

/-- The bytes of a part of a MIB upload. No MIC is computed. -/
def ResponsePacket.uploadBytes? : ResponsePacket → Option (List UInt8)
  | .encoded bytes => some bytes
  | .layers ⟨transactionID, msgType, deviceIdentifier, entity, .reportedME reportedMe⟩ =>
    some (baselineMessage (omciHeader transactionID msgType (deviceIdentifier.getD .baseline) entity ++
      reportedMe.serializeTo (maxBaselineLength - 8 - 8)))
  | .layers _ => none

/-- A packet is its transaction id followed by these bytes. -/
def ResponsePacket.Carries (packet : ResponsePacket) (transactionID : UInt16) (tail : List UInt8) :
    Prop :=
  packet.uploadBytes? = some (putUint16 transactionID.toNat ++ tail)

/-- What follows the transaction id in the part with a number, whoever asks for it. -/
def uploadTail (mibDb : MibDb) (deviceIdentifier : DeviceIdent) (number : Nat) : List UInt8 :=
  match deviceIdentifier with
  | .extended => (mibDb.extendedResponses.getD number []).drop 2
  | .baseline =>
    match mibDb.baselineItems[number]? with
    | none => []
    | some (.packet _ bytes) => bytes.drop 2
    | some (.entity reportedMe) =>
      (baselineMessage (omciHeader 0 .mibUploadNext .baseline .onuData ++
        reportedMe.serializeTo (maxBaselineLength - 8 - 8))).drop 2

private theorem carries_serialize (reportedMe : ManagedEntity) (transactionID : UInt16) :
    (serialize .mibUploadNext .onuData (.reportedME reportedMe) transactionID).Carries transactionID
      ((baselineMessage (omciHeader 0 .mibUploadNext .baseline .onuData ++
        reportedMe.serializeTo (maxBaselineLength - 8 - 8))).drop 2) :=
  rfl

/-- An answer to the request for a number: a packet up to the count, with its contents. -/
structure IsPart (number count : Nat) (transactionID : UInt16) (tail : List UInt8)
    (answer : Option ResponsePacket) : Prop where
  present : answer.isSome = true ↔ number ≤ count
  carries : ∀ packet, answer = some packet → packet.Carries transactionID tail

section

variable {number count : Nat} {txId : UInt16} {tail : List UInt8}

private theorem isPart_none (past : number > count) : IsPart number count txId tail none :=
  ⟨iff_of_false Bool.false_ne_true (Nat.not_le.mpr past), by simp⟩

theorem isPart_some {packet : ResponsePacket} (counted : ¬ number > count)
    (carries : packet.Carries txId tail) : IsPart number count txId tail (some packet) := by
  refine ⟨iff_of_true rfl (Nat.not_lt.mp counted), fun sent isSent => ?_⟩
  obtain rfl := Option.some.inj isSent
  exact carries

private theorem ensures_stamped {packet : List UInt8} (counted : ¬ number > count)
    (same : packet.drop 2 = tail) :
    Ensures ((setTxIdInEncodedPacket packet txId).map some) (IsPart number count txId tail) := by
  rw [Ensures, yields_map]
  unfold setTxIdInEncodedPacket
  split
  · trivial
  · exact isPart_some counted (congrArg (fun rest => some (putUint16 txId.toNat ++ rest)) same)

/-- The number decides whether there is a packet, and what it carries. -/
theorem ensures_createMibUploadNextResponse {library : OmciLibrary} {mibDb : MibDb}
    {message : OmciMessage} {request : CommandRequest} :
    Ensures (createMibUploadNextResponse library message request mibDb)
      (IsPart request.commandSequenceNumber.toNat (commandsOf mibDb message.deviceIdentifier)
        message.transactionID
        (uploadTail mibDb message.deviceIdentifier request.commandSequenceNumber.toNat)) := by
  unfold createMibUploadNextResponse commandsOf
  cases message.deviceIdentifier with
  | extended =>
    dsimp only
    split
    · next past => exact isPart_none past
    · next counted =>
      split
      · trivial
      · next packet found =>
        refine ensures_stamped counted ?_
        rw [uploadTail, List.getD_eq_getElem?_getD, found, Option.getD_some]
  | baseline =>
    dsimp only
    split
    · next past => exact isPart_none past
    · next counted =>
      split
      · trivial
      · next classId bytes found => exact ensures_stamped counted (by rw [uploadTail, found])
      · next reportedMe found =>
        split
        · rw [uploadTail, found]
          exact isPart_some counted (carries_serialize reportedMe message.transactionID)
        · trivial

end

/-- What a walk relies on at a number: a packet for each number below the count, an error for the
others, and packets that are told apart by their transaction id only. -/
structure WalksAt (checksum : List UInt8 → UInt32) (mibDb : MibDb) (deviceIdentifier : DeviceIdent)
    (count : Nat) (number : UInt16) : Prop where
  answers : ∀ (message : OmciMessage) (request : CommandRequest),
    message.deviceIdentifier = deviceIdentifier → request.commandSequenceNumber = number →
    ∃ answer, createMibUploadNextResponse (omciLib checksum) message request mibDb = .ok answer ∧
      (answer.isSome = true ↔ number.toNat < count)
  carries : ∃ tail, ∀ (message : OmciMessage) (request : CommandRequest) (packet : ResponsePacket),
    message.deviceIdentifier = deviceIdentifier → request.commandSequenceNumber = number →
    createMibUploadNextResponse (omciLib checksum) message request mibDb = .ok (some packet) →
    packet.Carries message.transactionID tail
  kept : ∀ (onu next : OmciOnu) (context : Nat) (spare : List UInt8) (message : OmciMessage)
    (response : Option ResponsePacket), onu.mibDb = mibDb →
    onu.processOmci (omciLib checksum) context spare message = .ok (next, response) →
    next.mibDb = mibDb

/-- The number is not the announced one, and an extended part is there to be stamped. -/
def Walkable (mibDb : MibDb) (deviceIdentifier : DeviceIdent) (count number : Nat) : Prop :=
  number ≠ count ∧ (deviceIdentifier = .extended → number < count →
    ∃ packet, mibDb.extendedResponses[number]? = some packet ∧ 2 ≤ packet.length)

section

variable {ethUniPortCount potsUniPortCount : Nat} {technology : PonTechnology} {config : MibConfig}
  {checksum : List UInt8 → UInt32} {mibDb : MibDb}

theorem walkable_iff (deviceIdentifier : DeviceIdent) (number : Nat)
    (created : generateMibDatabase ethUniPortCount potsUniPortCount technology config = some mibDb) :
    Walkable mibDb deviceIdentifier (commandsOf mibDb deviceIdentifier) number ↔
      UploadReturns mibDb deviceIdentifier number ∧ number ≠ commandsOf mibDb deviceIdentifier := by
  obtain ⟨responses, -, rfl⟩ := Option.map_eq_some_iff.mp created
  cases deviceIdentifier with
  | extended =>
    constructor
    · rintro ⟨other, stored⟩
      refine ⟨?_, other⟩
      rcases Nat.lt_or_gt_of_ne other with below | past
      · exact .inr (stored rfl below)
      · exact .inl past
    · rintro ⟨past | stored, other⟩
      · exact ⟨other, fun _ below => absurd below (Nat.lt_asymm past)⟩
      · exact ⟨other, fun _ _ => stored⟩
  | baseline =>
    -- the count is the length of the store, or less
    refine ⟨fun ⟨other, _⟩ => ⟨?_, other⟩, fun ⟨_, other⟩ => ⟨other, nofun⟩⟩
    rcases Nat.lt_or_gt_of_ne other with below | past
    · exact .inr (below.trans_le (Nat.mod_le _ _))
    · exact .inl past

/-- A request for the part with a number. -/
def mibUploadNext (deviceIdentifier : DeviceIdent) (number : UInt16) : OmciMessage where
  transactionID := 1
  deviceIdentifier := deviceIdentifier
  request := .mibUploadNext (some ⟨.onuData, number⟩)
  identified := fun _ => by decide
  testable := nofun

/-- The walk is as announced at a number exactly if the number is not the announced count itself and
an extended part is there to be stamped. -/
theorem mib_walk_iff {upload : OmciMessage} {count : Nat} {number : UInt16}
    (created : generateMibDatabase ethUniPortCount potsUniPortCount technology config = some mibDb)
    (announced : (createMibUploadResponse upload mibDb).numberOfCommands? = some count) :
    WalksAt checksum mibDb upload.deviceIdentifier count number ↔
      Walkable mibDb upload.deviceIdentifier count number.toNat := by
  rw [createMibUploadResponse_announces] at announced
  obtain rfl := Option.some.inj announced
  rw [walkable_iff _ _ created]
  constructor
  · intro walks
    obtain ⟨answer, returned, below⟩ := walks.answers (mibUploadNext upload.deviceIdentifier number)
      ⟨.onuData, number⟩ rfl rfl
    have counted := (ensures_createMibUploadNextResponse.value returned).present.symm.trans below
    refine ⟨(returns_createMibUploadNextResponse_iff created).mp (returns_iff.mpr ⟨_, returned⟩), ?_⟩
    intro same
    exact absurd (counted.mp same.le) (Nat.not_lt.mpr same.ge)
  · rintro ⟨returns, other⟩
    refine ⟨?_, ⟨uploadTail mibDb upload.deviceIdentifier number.toNat, ?_⟩, ?_⟩
    · intro message request sameSet sameNumber
      rw [← sameSet, ← sameNumber] at returns other ⊢
      obtain ⟨answer, returned⟩ :=
        returns_iff.mp ((returns_createMibUploadNextResponse_iff created).mpr returns)
      refine ⟨answer, returned, (ensures_createMibUploadNextResponse.value returned).present.trans ?_⟩
      exact ⟨fun counted => Nat.lt_of_le_of_ne counted other, Nat.le_of_lt⟩
    · intro message request packet sameSet sameNumber returned
      rw [← sameSet, ← sameNumber]
      exact (ensures_createMibUploadNextResponse.value returned).carries packet rfl
    · intro onu next context spare message response same processed
      exact (OmciOnu.ensures_handled message).value processed |>.mibDb.trans same

theorem baselineItems_withoutUnis_length :
    (baselineItems 0 0 .xgspon ⟨false, false⟩).length = 155 := by
  decide +kernel

theorem mib_walk_first : ∃ mibDb,
    generateMibDatabase 0 0 .xgspon ⟨false, false⟩ = some mibDb ∧
      WalksAt (fun _ => 0) mibDb .baseline mibDb.numberOfBaselineCommands 0 := by
  obtain ⟨mibDb, created⟩ := OmciOnu.generated_withoutUnis
  have walkable : Walkable mibDb .baseline mibDb.numberOfBaselineCommands 0 := by
    obtain ⟨responses, -, rfl⟩ := Option.map_eq_some_iff.mp created
    refine ⟨?_, nofun⟩
    simp only [commandCount, baselineItems_withoutUnis_length]
    decide
  exact ⟨mibDb, created,
    (@mib_walk_iff _ _ _ _ _ _ (firstMessage .mibUpload) _ 0 created rfl).mpr walkable⟩

/-- The command with the announced number is asked for. -/
theorem mib_walk_panics_at_count : ∃ mibDb,
    generateMibDatabase 0 0 .xgspon ⟨false, false⟩ = some mibDb ∧
      (createMibUploadResponse (firstMessage .mibUpload) mibDb).numberOfCommands? = some 155 ∧
      createMibUploadNextResponse (omciLib fun _ => 0) (mibUploadNext .baseline 155)
        ⟨.onuData, 155⟩ mibDb = .error .noSuchCommand := by
  obtain ⟨mibDb, created⟩ := OmciOnu.generated_withoutUnis
  refine ⟨mibDb, created, ?_⟩
  obtain ⟨responses, -, rfl⟩ := Option.map_eq_some_iff.mp created
  constructor
  · simp [createMibUploadResponse_announces, firstMessage, commandsOf, commandCount,
      baselineItems_withoutUnis_length]
  · simp [createMibUploadNextResponse, mibUploadNext, commandCount,
      baselineItems_withoutUnis_length]

end

end Bbsim.Devices
