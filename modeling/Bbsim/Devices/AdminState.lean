import Bbsim.Devices.OmciSafety
import Bbsim.Devices.OnuPorts

/-! Administrative states that OMCI sets and reads. A Set on ONU-G is kept by the ONU, and a Set on
a port goes into the state machine of that port. A Get reads neither of them back as it was written:
ONU-G reports a constant, and every port the lock of the ONU. -/

namespace Bbsim.Devices

open Foundation Omci

/-- The entities whose administrative state the handler sets. -/
inductive AdminEntity where
  | onuG
  | pptpEthernet (entityInstance : UInt16)
  | pptpPots (entityInstance : UInt16)
deriving DecidableEq

namespace AdminEntity

def packet : AdminEntity → MeBasePacket
  | .onuG => ⟨UInt16.ofNat OnuG.classID, 0⟩
  | .pptpEthernet entityInstance => pptpEthernetUni entityInstance
  | .pptpPots entityInstance =>
    ⟨UInt16.ofNat PhysicalPathTerminationPointPotsUni.classID, entityInstance⟩

/-- The definition of `AdministrativeState` in the class of the entity. -/
def administrativeState : AdminEntity → AttributeDefinition
  | .onuG => OnuG.administrativeState
  | .pptpEthernet _ => PhysicalPathTerminationPointEthernetUni.administrativeState
  | .pptpPots _ => PhysicalPathTerminationPointPotsUni.administrativeState

/-- The entity of a request; an ONU has one ONU-G, whatever instance is asked for. -/
def of (packet : MeBasePacket) : Option AdminEntity :=
  if packet.isOf OnuG.classID then some .onuG
  else if packet.isOf PhysicalPathTerminationPointEthernetUni.classID then
    some (.pptpEthernet packet.entityInstance)
  else if packet.isOf PhysicalPathTerminationPointPotsUni.classID then
    some (.pptpPots packet.entityInstance)
  else none

/-- The entity is a port of the ONU. -/
def isPortOf (onu : Onu) : AdminEntity → Bool
  | .onuG => false
  | .pptpEthernet entityInstance => (onu.findUniByEntityId entityInstance).isSome
  | .pptpPots entityInstance => (onu.findPotsByEntityId entityInstance).isSome

theorem of_eq_onuG_iff {packet : MeBasePacket} :
    of packet = some .onuG ↔ packet.isOf OnuG.classID = true := by
  unfold of
  split
  · next onuG => exact iff_of_true rfl onuG
  · next other =>
    refine iff_of_false ?_ other
    split
    · exact nofun
    · split <;> exact nofun

end AdminEntity

/-- The message is a Get of the administrative state of the entity, and of nothing else. -/
def AsksState (message : OmciMessage) (entity : AdminEntity) : Prop :=
  message.request =
    .get (some ⟨entity.packet, UInt16.ofNat entity.administrativeState.mask⟩)

/-- The administrative state among the values of a Get builder; the one of ONU-G is a constant. -/
def GetAttributes.administrativeState : GetAttributes → Option UInt8
  | .serialNumber _ => some 0
  | .portState onuDown => some (if onuDown then 1 else 0)
  | .constants | .softwareImage _ | .mibDataSync _ => none

def ResponsePacket.administrativeState : ResponsePacket → Option UInt8
  | .layers response =>
    match response.contents with
    | .attributes _ attributes => attributes.administrativeState
    | _ => none
  | .encoded _ => none

variable {message : OmciMessage} {response : Option ResponsePacket} {spare : List UInt8}

namespace OmciOnu

variable {checksum : List UInt8 → UInt32} {onu next : OmciOnu}

/-- What a Get reads, unless it is skipped. -/
def read (checksum : List UInt8 → UInt32) (onu : OmciOnu) (message : OmciMessage) : Option UInt8 :=
  match onu.counted.processOmci (omciLib checksum) 0 [] message with
  | .ok (_, some response) => response.administrativeState
  | _ => none

/-- The state that is reported for an entity. -/
def reportedState (onuDown : Bool) : AdminEntity → UInt8
  | .onuG => 0
  | .pptpEthernet _ | .pptpPots _ => if onuDown then 1 else 0

private theorem reportedState_up (entity : AdminEntity) :
    reportedState (decide ((0 : UInt8) = 1)) entity = 0 := by
  cases entity <;> rfl

/-- The entry of the tables of Get for a class that has an administrative state. -/
def getTable : AdminEntity → Nat × List GetAttribute
  | .onuG => (OnuG.classID, onuGAttributes)
  | .pptpEthernet _ =>
    (PhysicalPathTerminationPointEthernetUni.classID, pptpEthernetAttributes)
  | .pptpPots _ => (PhysicalPathTerminationPointPotsUni.classID, pptpPotsAttributes)

private theorem find_getTables (entity : AdminEntity) :
    (getTables.find? fun entry => entity.packet.isOf entry.1) = some (getTable entity) := by
  cases entity <;> rfl

private theorem encode_administrativeState (entity : AdminEntity) (deviceIdentifier : DeviceIdent) :
    encodeGetResponse (getTable entity).2 deviceIdentifier
      (UInt16.ofNat entity.administrativeState.mask) = .encoded 1 false := by
  cases entity with
  | onuG => cases deviceIdentifier <;> rfl
  | pptpEthernet _ =>
    change encodeGetResponse pptpEthernetAttributes _
      (UInt16.ofNat PhysicalPathTerminationPointEthernetUni.administrativeState.mask) = _
    cases deviceIdentifier <;> rfl
  | pptpPots _ =>
    change encodeGetResponse pptpPotsAttributes _
      (UInt16.ofNat PhysicalPathTerminationPointPotsUni.administrativeState.mask) = _
    cases deviceIdentifier <;> rfl

/-- A Get of one octet is always answered. -/
theorem getOutcome_administrativeState (message : OmciMessage) (entity : AdminEntity) :
    getOutcome message ⟨entity.packet, UInt16.ofNat entity.administrativeState.mask⟩ = .encoded := by
  simp only [getOutcome, find_getTables, encode_administrativeState]

theorem find_getBuilders (onuSn : SerialRef) (mds : UInt8) (image : ReportedImage) (onuDown : Bool)
    (entity : AdminEntity) : ∃ classID builder,
    ((getBuilders onuSn mds image onuDown).find? fun entry => entity.packet.isOf entry.1) =
        some (classID, builder) ∧
      builder.attributes.administrativeState = some (reportedState onuDown entity) := by
  cases entity <;> exact ⟨_, _, rfl, rfl⟩

theorem read_eq {entity : AdminEntity} (asked : AsksState message entity) :
    onu.read checksum message = some (reportedState (onu.adminLockState = 1) entity) := by
  obtain ⟨classID, builder, found, reported⟩ := find_getBuilders onu.attached.onu.serialNumber
    onu.attached.onu.mibDataSync (onu.images.reported entity.packet.entityInstance)
    (onu.adminLockState = 1) entity
  have answered : onu.counted.getResponse (omciLib checksum) message
      ⟨entity.packet, UInt16.ofNat entity.administrativeState.mask⟩ =
        .ok (some (serializeLayers message .get
          ⟨UInt16.ofNat builder.entityClass, entity.packet.entityInstance⟩
          (.attributes (UInt16.ofNat entity.administrativeState.mask) builder.attributes))) := by
    have chosen : ((getBuilders onu.counted.attached.onu.serialNumber
        onu.counted.attached.onu.mibDataSync
        (onu.counted.images.reported entity.packet.entityInstance)
        (onu.counted.adminLockState = 1)).find? fun entry => entity.packet.isOf entry.1) =
          some (classID, builder) := found
    simp only [getResponse, createGetResponse, chosen, omciLib_getOutcome,
      getOutcome_administrativeState]
  rw [read, processOmci, asked]
  dsimp only
  rw [answered]
  exact reported

variable {request : SetRequest}

/-- A Set on ONU-G succeeds if it returns. -/
theorem handleSet_onuG {result : OmciResult} (onuG : request.isOf OnuG.classID = true)
    (set : onu.handleSet request = .ok (next, result)) :
    result = .success ∧ request.administrativeState = some next.adminLockState := by
  have ethernet : request.isOf PhysicalPathTerminationPointEthernetUni.classID = false :=
    isOf_unique onuG (by decide)
  have pots : request.isOf PhysicalPathTerminationPointPotsUni.classID = false :=
    isOf_unique onuG (by decide)
  rw [handleSet, if_neg (by simp [ethernet]), if_neg (by simp [pots]), if_pos onuG] at set
  split at set
  · cases set
  · next state asked =>
    cases set
    exact ⟨rfl, asked⟩

/-- A Set that was handled, with its result. -/
theorem Handled.of_set {library : OmciLibrary}
    (handled : Handled library spare message onu next response)
    (asked : message.request = .set (some request)) :
    ∃ result, onu.handleSet request = .ok (next, result) ∧ resultOf response = some result := by
  cases handled with
  | set same changed =>
    obtain rfl := Option.some.inj (RequestLayer.set.inj (same.symm.trans asked))
    exact ⟨_, changed, rfl⟩
  | dropped drops =>
    rw [asked] at drops
    cases drops
  | mibReset same | mibUpload same | mibUploadNext same _ | get same _ | create same | delete same
  | reboot same | test same | synchronizeTime same | startSoftwareDownload same
  | downloadSection same _ | downloadSectionWithResponse same | endSoftwareDownload same _
  | activateSoftware same | commitSoftware same | getAllAlarms same | getAllAlarmsNext same =>
    cases same.symm.trans asked

/-- What a Set asks for. -/
def adminSet? : RequestLayer → Option (AdminEntity × UInt8)
  | .set (some request) =>
    (AdminEntity.of request.toMeBasePacket).bind fun entity =>
      request.administrativeState.map fun state => (entity, state)
  | _ => none

end OmciOnu

/-- An ONU, with the administrative states that were set last. -/
structure AdminSite where
  onu : OmciOnu
  lastSet : AdminEntity → UInt8

namespace AdminSite

def create (attached : AttachedOnu) (mibDb : MibDb) : AdminSite :=
  ⟨.create attached mibDb, fun _ => 0⟩

/-- The request was answered with success. -/
def succeeded : OmciOutcome → Bool
  | .skipped => false
  | .handled response => resultOf response = some .success

def remember (lastSet : AdminEntity → UInt8) : Option (AdminEntity × UInt8) → AdminEntity → UInt8
  | some (entity, state) => Function.update lastSet entity state
  | none => lastSet

/-- A Set that succeeded is remembered. -/
def recorded (lastSet : AdminEntity → UInt8) (request : RequestLayer) (outcome : OmciOutcome) :
    AdminEntity → UInt8 :=
  if succeeded outcome then remember lastSet (OmciOnu.adminSet? request) else lastSet

def step (library : OmciLibrary) (site : AdminSite) : OmciStep → Option AdminSite
  | .request context spare message =>
    (site.onu.handleOmciRequest library context spare message).toOption.map fun (next, outcome) =>
      ⟨next, recorded site.lastSet message.request outcome⟩
  | label => (site.onu.step library label).map fun next => { site with onu := next }

/-- ONU-G reads as it was set, and a port reads locked exactly if ONU-G or that port was set to
locked. -/
structure ReadsBack (checksum : List UInt8 → UInt32) (site : AdminSite) : Prop where
  onuG : ∀ message, AsksState message .onuG →
    site.onu.read checksum message = some (site.lastSet .onuG)
  port : ∀ port, port.isPortOf site.onu.attached.onu = true → ∀ message, AsksState message port →
    ∃ state, site.onu.read checksum message = some state ∧
      (state = 1 ↔ site.lastSet .onuG = 1 ∨ site.lastSet port = 1)

/-- ONU-G was last unlocked, or never set, and no port was last locked. -/
def Unlocked (site : AdminSite) : Prop :=
  site.lastSet .onuG = 0 ∧
    ∀ port, port.isPortOf site.onu.attached.onu = true → site.lastSet port ≠ 1

/-- The lock of the ONU is what was last set on ONU-G. -/
def LockKept (site : AdminSite) : Prop := site.onu.adminLockState = site.lastSet .onuG

variable {library : OmciLibrary} {site next : AdminSite} {label : OmciStep}

variable {lastSet : AdminEntity → UInt8}

/-- A request that does not set ONU-G leaves its record. -/
theorem recorded_of_ne {request : RequestLayer}
    (other : ∀ state, OmciOnu.adminSet? request ≠ some (.onuG, state)) (outcome : OmciOutcome) :
    recorded lastSet request outcome .onuG = lastSet .onuG := by
  unfold recorded
  split
  · cases asked : OmciOnu.adminSet? request with
    | none => rfl
    | some set =>
      have different : AdminEntity.onuG ≠ set.1 := fun same => other set.2 (by rw [asked, same])
      exact Function.update_of_ne different _ _
  · rfl

private theorem recorded_onuG {before after : OmciOnu} (kept : before.adminLockState = lastSet .onuG)
    (handled : OmciOnu.Handled library spare message before after response) :
    after.adminLockState = recorded lastSet message.request (.handled response) .onuG := by
  have settings : after.adminLockState = (before.settings.after message.request).adminLockState :=
    congrArg Settings.adminLockState handled.settings
  cases asked : message.request with
  | set layer =>
    cases layer with
    | none =>
      rw [asked] at settings
      exact (settings.trans kept).trans (recorded_of_ne (by simp [OmciOnu.adminSet?]) _).symm
    | some request =>
      by_cases onuG : request.isOf OnuG.classID = true
      · obtain ⟨result, set, answered⟩ := handled.of_set asked
        obtain ⟨rfl, state⟩ := OmciOnu.handleSet_onuG onuG set
        simp [recorded, succeeded, remember, answered, OmciOnu.adminSet?,
          AdminEntity.of_eq_onuG_iff.mpr onuG, state]
      · have other (state : UInt8) :
            OmciOnu.adminSet? (.set (some request)) ≠ some (.onuG, state) := by
          intro same
          obtain ⟨entity, named, paired⟩ := Option.bind_eq_some_iff.mp same
          obtain ⟨value, -, equal⟩ := Option.map_eq_some_iff.mp paired
          obtain rfl : entity = .onuG := congrArg Prod.fst equal
          exact onuG (AdminEntity.of_eq_onuG_iff.mp named)
        rw [asked, Settings.after, if_neg onuG] at settings
        exact (settings.trans kept).trans (recorded_of_ne other _).symm
  | _ =>
    rw [asked] at settings
    exact (settings.trans kept).trans (recorded_of_ne (by simp [OmciOnu.adminSet?]) _).symm

private theorem lockKept_step (kept : site.LockKept) (taken : step library site label = some next) :
    next.LockKept := by
  cases label with
  | request context spare message =>
    obtain ⟨⟨after, outcome⟩, handled, rfl⟩ := Option.map_eq_some_iff.mp taken
    rcases OmciOnu.handleOmciRequest_cases (eq_ok_of_toOption handled) with ⟨-, rfl, rfl⟩ |
      ⟨-, response, rfl, processed⟩
    · exact kept.trans (by simp [recorded, succeeded])
    · have unlocked : site.onu.counted.adminLockState = site.lastSet .onuG := kept
      exact recorded_onuG unlocked ((OmciOnu.ensures_handled message).value processed)
  | event context tx =>
    obtain ⟨after, moved, rfl⟩ := Option.map_eq_some_iff.mp taken
    obtain ⟨-, tried⟩ := Option.ite_none_left_eq_some.mp moved
    obtain ⟨attached, -, rfl⟩ := Option.map_eq_some_iff.mp tried
    exact kept
  | other attached alarms =>
    obtain ⟨after, moved, rfl⟩ := Option.map_eq_some_iff.mp taken
    obtain ⟨-, same⟩ := Option.ite_none_right_eq_some.mp moved
    obtain rfl := Option.some.inj same
    exact kept

/-- A Get of the administrative state of an entity. -/
def getState (entity : AdminEntity) : OmciMessage :=
  firstMessage (.get (some ⟨entity.packet, UInt16.ofNat entity.administrativeState.mask⟩))

theorem asksState_getState (entity : AdminEntity) : AsksState (getState entity) entity := rfl

theorem readsBack_iff {checksum : List UInt8 → UInt32} (kept : site.LockKept) :
    ReadsBack checksum site ↔ site.Unlocked := by
  unfold LockKept at kept
  constructor
  · intro reads
    have zero : site.lastSet .onuG = 0 := by
      have read := reads.onuG _ (asksState_getState .onuG)
      rw [OmciOnu.read_eq (asksState_getState .onuG)] at read
      exact (Option.some.inj read).symm
    refine ⟨zero, fun port present locked => ?_⟩
    obtain ⟨state, read, locks⟩ := reads.port port present _ (asksState_getState port)
    rw [OmciOnu.read_eq (asksState_getState port), kept, zero, OmciOnu.reportedState_up] at read
    exact absurd ((Option.some.inj read).trans (locks.mpr (.inr locked))) (by decide)
  · rintro ⟨zero, unlocked⟩
    have up (entity : AdminEntity) (message : OmciMessage) (asked : AsksState message entity) :
        site.onu.read checksum message = some 0 := by
      rw [OmciOnu.read_eq asked, kept, zero, OmciOnu.reportedState_up]
    refine ⟨fun message asked => ?_, fun port present message asked => ?_⟩
    · rw [up _ message asked, zero]
    · refine ⟨0, up _ message asked, iff_of_false (by decide) ?_⟩
      rintro (onuG | port)
      · rw [zero] at onuG
        exact absurd onuG (by decide)
      · exact unlocked _ present port

theorem admin_state_reads_back_iff {checksum : List UInt8 → UInt32} {attached : AttachedOnu}
    {mibDb : MibDb} {history : List (AdminSite × OmciStep)}
    (run : Run (step (omciLib checksum)) (create attached mibDb) history site) :
    ReadsBack checksum site ↔ site.Unlocked := by
  have kept : site.LockKept :=
    run.invariant_of_step rfl fun _ _ _ kept taken => lockKept_step kept taken
  exact readsBack_iff kept

/-- An ONU with one Ethernet port. -/
def onePort : AttachedOnu := ⟨{ onuWithPorts 1 0 with channel := some {} }, .empty⟩

def setState (entity : AdminEntity) (state : UInt8) : OmciStep :=
  OmciOnu.handles (.set (some ⟨entity.packet, some state, none⟩))

abbrev adminStep : AdminSite → OmciStep → Option AdminSite := step (omciLib summingLibrary.checksum)

abbrev newSite : AdminSite := create onePort ⟨0, 0, [], []⟩

/-- ONU-G is locked and unlocked again. -/
theorem admin_state_reads_back_unlocked : ∃ history site,
    Run adminStep newSite history site ∧
      history.map Prod.snd = [setState .onuG 1, setState .onuG 0] ∧
      ReadsBack summingLibrary.checksum site := by
  obtain ⟨locked, first⟩ : ∃ locked, adminStep newSite (setState .onuG 1) = some locked := ⟨_, rfl⟩
  obtain ⟨unlocked, second⟩ : ∃ unlocked, adminStep locked (setState .onuG 0) = some unlocked := by
    obtain rfl := Option.some.inj first
    exact ⟨_, rfl⟩
  have run : Run adminStep newSite
      [(newSite, setState .onuG 1), (locked, setState .onuG 0)] unlocked :=
    (Run.start.snoc first).snoc second
  refine ⟨_, unlocked, run, rfl, (admin_state_reads_back_iff run).mpr ?_⟩
  obtain rfl := Option.some.inj first
  obtain rfl := Option.some.inj second
  refine ⟨rfl, fun port _ => ?_⟩
  cases port with
  | onuG | pptpEthernet | pptpPots => exact (by decide : (0 : UInt8) ≠ 1)

/-- ONU-G is locked, and reads unlocked. -/
theorem locked_onuG_reads_unlocked : ∃ history site,
    Run adminStep newSite history site ∧ history.map Prod.snd = [setState .onuG 1] ∧
      site.lastSet .onuG = 1 ∧
      site.onu.read summingLibrary.checksum (getState .onuG) = some 0 := by
  refine ⟨_, _, Run.start.snoc (rfl : adminStep newSite (setState .onuG 1) = some _), rfl, rfl, ?_⟩
  exact OmciOnu.read_eq (asksState_getState .onuG)

end AdminSite

end Bbsim.Devices
