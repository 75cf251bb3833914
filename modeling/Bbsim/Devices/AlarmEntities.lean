import Bbsim.Devices.AlarmNotifications
import Bbsim.Devices.OnuPorts

/-! The entities that alarms name. Ports that are enabled and disabled, and LOS alarms, leave
messages for the loop of the ONU, which makes notifications of them. Whatever port a message is for,
the notification names an instance of PPTP Ethernet UNI. -/

namespace Bbsim.Devices

open Foundation Omci

/-- The entity that the notification made of a message names. -/
def Message.alarmEntity? : Message → Option MeBasePacket
  | .uniStatusAlarm entity _ => some (pptpEthernetUni entity)
  | _ => none

/-- An alarm on its way to the loop. -/
structure RaisedAlarm where
  /-- The termination point of the port that it is for; an LOS alarm is for none. -/
  port : Option MeBasePacket
  message : Message

def UniPort.terminationPoint (uni : UniPort) : MeBasePacket := pptpEthernetUni uni.meId

def PotsPort.terminationPoint (pots : PotsPort) : MeBasePacket :=
  ⟨UInt16.ofNat PhysicalPathTerminationPointPotsUni.classID, pots.meId⟩

structure PortSite where
  onu : Onu
  onuAlarmsInfo : OnuAlarms
  /-- The notifications that were sent. -/
  sent : List AlarmNotification
  /-- The alarms so far. -/
  raised : List RaisedAlarm

inductive PortStep where
  | uni (index : Nat) (up : Bool)
  | pots (index : Nat) (up : Bool)
  /-- The ports go down with the ONU, which forgets its alarms. -/
  | disablePorts
  | losAlarm (raiseOmciAlarm : Bool)
  /-- The turn of the message loop; `sent` is whether the stream takes a notification. -/
  | receive (sent : Bool)

namespace PortSite

/-- The UNI as the event leaves it, where it is accepted. -/
def changedUni (onu : Onu) (index : Nat) (up : Bool) : Option UniPort :=
  onu.uniPorts[index]?.bind (if up then UniPort.enable else UniPort.disable)

def changedPots (onu : Onu) (index : Nat) (up : Bool) : Option PotsPort :=
  onu.potsPorts[index]?.bind (if up then PotsPort.enable else PotsPort.disable)

/-- The alarms that a step raises. -/
def alarms (onu : Onu) : PortStep → List RaisedAlarm
  | .uni index up =>
    (changedUni onu index up).toList.map fun uni => ⟨uni.terminationPoint, uni.alarm (!up)⟩
  | .pots index up =>
    (changedPots onu index up).toList.map fun pots => ⟨pots.terminationPoint, pots.alarm (!up)⟩
  | .disablePorts =>
    ((onu.uniPorts.filter fun uni => uni.disable.isSome).map fun uni =>
      ⟨uni.terminationPoint, uni.alarm true⟩) ++
    (onu.potsPorts.filter fun pots => pots.disable.isSome).map fun pots =>
      ⟨pots.terminationPoint, pots.alarm true⟩
  | .losAlarm raiseOmciAlarm => [⟨none, AttachedOnu.losAlarm raiseOmciAlarm⟩]
  | .receive _ => []

/-- The loop makes a notification of an alarm. -/
def handle (site : PortSite) (sent : Bool) : Message → PortSite
  | .uniStatusAlarm entity raiseOmciAlarm =>
    let (alarms, notification) := uniStatusAlarm site.onuAlarmsInfo entity raiseOmciAlarm sent
    { site with
      onuAlarmsInfo := alarms
      sent := if sent then site.sent ++ [notification] else site.sent }
  | _ => site

/-- The ports and the channel of the ONU after a step. -/
def perform (onu : Onu) : PortStep → Except Fault Onu
  | .uni index up => if up then onu.enableUni index else onu.disableUni index
  | .pots index up => if up then onu.enablePots index else onu.disableOnePots index
  | .disablePorts => onu.disableUnis.bind Onu.disablePots
  | .losAlarm raiseOmciAlarm => onu.send (AttachedOnu.losAlarm raiseOmciAlarm)
  | .receive _ => .ok onu

/-- Ports that go down with the ONU take its alarms along. -/
def forgets : PortStep → Bool
  | .disablePorts => true
  | _ => false

/-- The site after a step that was performed on the ONU. -/
def performed (site : PortSite) (label : PortStep) (onu : Onu) : PortSite :=
  { site with
    onu := onu
    onuAlarmsInfo := if forgets label then fun _ => none else site.onuAlarmsInfo
    raised := site.raised ++ alarms site.onu label }

def step (site : PortSite) : PortStep → Option PortSite
  | .receive sent => site.onu.takeCurrent.map fun (message, onu) =>
      { site with onu := onu }.handle sent message
  | label => (perform site.onu label).toOption.map (site.performed label)

/-- The entity is reported in the MIB. -/
def InMib (entries : List MibDbEntry) (entity : MeBasePacket) : Prop :=
  entity.entityInstance.toNat ∈ instancesOf entity.entityClass.toNat entries

/-- Every notification sent or about to be sent and every alarm kept names an entity of the MIB, and
an alarm of a port names the termination point of that port. -/
structure Named (entries : List MibDbEntry) (site : PortSite) : Prop where
  sent : ∀ notification ∈ site.sent, InMib entries notification.entity
  kept : ∀ key, (site.onuAlarmsInfo key).isSome = true → InMib entries key
  waiting : ∀ message ∈ site.onu.pending, ∀ entity ∈ message.alarmEntity?, InMib entries entity
  ports : ∀ alarm ∈ site.raised, ∀ port ∈ alarm.port, alarm.message.alarmEntity? = some port

/-- No POTS port changes, and there is an Ethernet UNI for the LOS alarm. -/
def Allowed (numUni : Nat) (site : PortSite) : PortStep → Prop
  | .pots index up => changedPots site.onu index up = none
  | .disablePorts => ∀ pots ∈ site.onu.potsPorts, pots.disable = none
  | .losAlarm _ => 0 < numUni
  | .uni _ _ | .receive _ => True

/-- The UNIs keep their entity ids. -/
def SameUnis (onu next : Onu) : Prop :=
  ∀ uni ∈ next.uniPorts, ∃ before ∈ onu.uniPorts, uni.meId = before.meId

/-- The channel gets the alarms, and the UNIs keep their entity ids. -/
def Sends (onu : Onu) (raised : List RaisedAlarm) (next : Onu) : Prop :=
  next.pending = onu.pending ++ raised.map RaisedAlarm.message ∧ SameUnis onu next

variable {onu next : Onu}

theorem sameUnis_refl : SameUnis onu onu := fun uni member => ⟨uni, member, rfl⟩

theorem meId_changed {uni after : UniPort} (up : Bool)
    (changed : (if up then UniPort.enable else UniPort.disable) uni = some after) :
    after.meId = uni.meId := by
  cases up with
  | true | false =>
    obtain ⟨state, -, rfl⟩ := Option.map_eq_some_iff.mp changed
    rfl

private theorem ensures_sendAll (sent : List Message) :
    Ensures (onu.sendAll sent) fun next =>
      next.pending = onu.pending ++ sent ∧ next.uniPorts = onu.uniPorts ∧
        next.potsPorts = onu.potsPorts := by
  cases isOpen : onu.writable with
  | true =>
    rw [Onu.sendAll_of_writable isOpen]
    exact ⟨Onu.pending_enqueue isOpen sent, rfl, rfl⟩
  | false =>
    cases sent with
    | nil => exact ⟨(List.append_nil _).symm, rfl, rfl⟩
    | cons message rest =>
      rw [Onu.sendAll, Onu.send_of_not_writable isOpen]
      trivial

private theorem ensures_uni (index : Nat) (up : Bool) :
    Ensures (perform onu (.uni index up)) (Sends onu (alarms onu (.uni index up))) := by
  have change : perform onu (.uni index up) =
      onu.changeUni index (if up then UniPort.enable else UniPort.disable) (!up) := by
    cases up <;> rfl
  rw [change, Onu.changeUni, alarms, changedUni]
  refine Onu.yields_changePort.mpr ⟨fun refused => ?_, fun uni changed => ?_⟩
  · rw [refused]
    exact ⟨(List.append_nil _).symm, sameUnis_refl⟩
  rw [changed]
  split
  · next isOpen =>
    refine ⟨Onu.pending_enqueue isOpen _, fun after member => ?_⟩
    obtain ⟨before, found, moved⟩ := Option.bind_eq_some_iff.mp changed
    rcases List.mem_or_eq_of_mem_set member with kept | rfl
    · exact ⟨after, kept, rfl⟩
    · exact ⟨before, List.mem_of_getElem? found, meId_changed up moved⟩
  · trivial

private theorem ensures_pots (index : Nat) (up : Bool) :
    Ensures (perform onu (.pots index up)) (Sends onu (alarms onu (.pots index up))) := by
  have change : perform onu (.pots index up) =
      onu.changePots index (if up then PotsPort.enable else PotsPort.disable) (!up) := by
    cases up <;> rfl
  rw [change, Onu.changePots, alarms, changedPots]
  refine Onu.yields_changePort.mpr ⟨fun refused => ?_, fun pots changed => ?_⟩
  · rw [refused]
    exact ⟨(List.append_nil _).symm, sameUnis_refl⟩
  rw [changed]
  split
  · next isOpen => exact ⟨Onu.pending_enqueue isOpen _, sameUnis_refl⟩
  · trivial

private theorem ensures_disablePorts :
    Ensures (perform onu .disablePorts) (Sends onu (alarms onu .disablePorts)) := by
  rw [perform, Ensures, yields_exceptBind, Onu.disableUnis, yields_map]
  refine (ensures_sendAll onu.uniAlarms).mono ?_
  rintro middle ⟨waiting, unis, pots⟩
  rw [Onu.disablePots, yields_map]
  refine (ensures_sendAll _).mono ?_
  rintro last ⟨laterWaiting, laterUnis, -⟩
  constructor
  · change last.pending = _
    rw [laterWaiting]
    change middle.pending ++ _ = _
    rw [waiting, List.append_assoc]
    simp [alarms, Onu.uniAlarms, Onu.potsAlarms, pots, Function.comp_def]
  · intro uni member
    have disabled : last.uniPorts = middle.uniPorts.map fun uni => uni.disable.getD uni := laterUnis
    have listed : uni ∈ last.uniPorts := member
    rw [disabled, unis] at listed
    obtain ⟨before, present, rfl⟩ := List.mem_map.mp listed
    refine ⟨before, present, ?_⟩
    cases changed : before.disable with
    | none => rfl
    | some after => exact meId_changed false changed

private theorem ensures_perform (label : PortStep) :
    Ensures (perform onu label) (Sends onu (alarms onu label)) := by
  cases label with
  | uni index up => exact ensures_uni index up
  | pots index up => exact ensures_pots index up
  | disablePorts => exact ensures_disablePorts
  | losAlarm raiseOmciAlarm =>
    rw [perform, Ensures, Onu.yields_send]
    split
    · next isOpen => exact ⟨Onu.pending_enqueue isOpen _, sameUnis_refl⟩
    · trivial
  | receive sent => exact ⟨(List.append_nil _).symm, sameUnis_refl⟩

variable {site after : PortSite} {label : PortStep} {entries : List MibDbEntry} {numUni : Nat}

/-- The UNIs are in the MIB. -/
def UnisInMib (entries : List MibDbEntry) (site : PortSite) : Prop :=
  ∀ uni ∈ site.onu.uniPorts, InMib entries uni.terminationPoint

/-- A step is the turn of the loop, or it leaves alarms for it. -/
theorem step_cases (taken : step site label = some after) :
    (∃ sent message rest, label = .receive sent ∧ site.onu.takeCurrent = some (message, rest) ∧
        after = { site with onu := rest }.handle sent message) ∨
      ∃ onu, Sends site.onu (alarms site.onu label) onu ∧ after = site.performed label onu := by
  have performs
      (taken : (perform site.onu label).toOption.map (site.performed label) = some after) :
      ∃ onu, Sends site.onu (alarms site.onu label) onu ∧ after = site.performed label onu := by
    obtain ⟨onu, returned, rfl⟩ := Option.map_eq_some_iff.mp taken
    exact ⟨onu, (ensures_perform label).value (eq_ok_of_toOption returned), rfl⟩
  cases label with
  | receive sent =>
    obtain ⟨⟨message, rest⟩, received, rfl⟩ := Option.map_eq_some_iff.mp taken
    exact .inl ⟨sent, message, rest, rfl, received, rfl⟩
  | uni | pots | disablePorts | losAlarm => exact .inr (performs taken)

theorem unisInMib_step (unis : site.UnisInMib entries) (taken : step site label = some after) :
    after.UnisInMib entries := by
  rcases step_cases taken with ⟨sent, message, rest, -, received, rfl⟩ | ⟨onu, ⟨-, same⟩, rfl⟩
  · obtain ⟨chan, queue, -, -, rfl⟩ := Onu.takeCurrent_eq_some received
    cases message <;> exact unis
  · intro uni member
    obtain ⟨before, present, named⟩ := same uni member
    rw [UniPort.terminationPoint, named]
    exact unis before present

private theorem handle_uniStatusAlarm (entity : UInt16) (raiseOmciAlarm sent : Bool) :
    site.handle sent (.uniStatusAlarm entity raiseOmciAlarm) =
      { site with
        onuAlarmsInfo := (uniStatusAlarm site.onuAlarmsInfo entity raiseOmciAlarm sent).1
        sent := if sent then
            site.sent ++ [(uniStatusAlarm site.onuAlarmsInfo entity raiseOmciAlarm sent).2]
          else site.sent } := rfl

/-- Handling a message names nothing but its entity. -/
theorem named_handle {message : Message} {sent : Bool} (named : site.Named entries)
    (known : ∀ entity ∈ message.alarmEntity?, InMib entries entity) :
    (site.handle sent message).Named entries := by
  cases message with
  | uniStatusAlarm entity raiseOmciAlarm =>
    have inMib : InMib entries (pptpEthernetUni entity) := known _ rfl
    rw [handle_uniStatusAlarm]
    simp only [uniStatusAlarm_eq]
    refine ⟨fun notification member => ?_, fun key present => ?_, named.waiting, named.ports⟩
    · have listed : notification ∈ site.sent ∨ notification.entity = pptpEthernetUni entity := by
        cases sent with
        | false => exact .inl member
        | true =>
          rcases List.mem_append.mp member with earlier | last
          · exact .inl earlier
          · exact .inr (by rw [List.mem_singleton.mp last]; rfl)
      rcases listed with earlier | last
      · exact named.sent notification earlier
      · exact last ▸ inMib
    · by_cases same : key = pptpEthernetUni entity
      · exact same ▸ inMib
      · exact named.kept key (by simpa only [Function.update_of_ne same] using present)
  | _ => exact named

/-- A turn of the loop names only what waited. -/
theorem named_receive {sent : Bool} {message : Message} {rest : Onu} (named : site.Named entries)
    (received : site.onu.takeCurrent = some (message, rest)) :
    ({ site with onu := rest }.handle sent message).Named entries := by
  obtain ⟨chan, queue, channel, head, rfl⟩ := Onu.takeCurrent_eq_some received
  have pending : site.onu.pending = message :: queue := by simp [Onu.pending, channel, head]
  refine named_handle ⟨named.sent, named.kept, fun later member => ?_, named.ports⟩ ?_
  · exact named.waiting later (by rw [pending]; exact .tail _ member)
  · exact named.waiting message (by rw [pending]; exact .head _)

/-- The alarms name entities of the MIB, those of a port its termination point. -/
def NamesRight (entries : List MibDbEntry) (raised : List RaisedAlarm) : Prop :=
  ∀ alarm ∈ raised, (∀ entity ∈ alarm.message.alarmEntity?, InMib entries entity) ∧
    ∀ port ∈ alarm.port, alarm.message.alarmEntity? = some port

theorem named_performed_iff {onu : Onu} (named : site.Named entries)
    (sends : Sends site.onu (alarms site.onu label) onu) :
    (site.performed label onu).Named entries ↔ NamesRight entries (alarms site.onu label) := by
  constructor
  · intro after alarm member
    refine ⟨after.waiting alarm.message ?_, after.ports alarm (List.mem_append_right _ member)⟩
    change _ ∈ onu.pending
    rw [sends.1]
    exact List.mem_append_right _ (List.mem_map_of_mem member)
  · intro right
    refine ⟨named.sent, fun key present => ?_, fun message member => ?_, fun alarm member => ?_⟩
    · refine named.kept key ?_
      unfold performed at present
      cases forgotten : forgets label with
      | true => simp [forgotten] at present
      | false => simpa [forgotten] using present
    · change message ∈ onu.pending at member
      rw [sends.1] at member
      rcases List.mem_append.mp member with earlier | new
      · exact named.waiting message earlier
      · obtain ⟨alarm, present, rfl⟩ := List.mem_map.mp new
        exact (right alarm present).1
    · rcases List.mem_append.mp member with earlier | new
      · exact named.ports alarm earlier
      · exact (right alarm new).2

private theorem namesRight_append {raised others : List RaisedAlarm} :
    NamesRight entries (raised ++ others) ↔
      NamesRight entries raised ∧ NamesRight entries others := List.forall_mem_append

/-- The alarm of a UNI names its termination point. -/
theorem namesRight_uni {uni : UniPort} {raiseOmciAlarm : Bool} {raised : RaisedAlarm}
    (known : InMib entries uni.terminationPoint)
    (alarm : raised = ⟨uni.terminationPoint, uni.alarm raiseOmciAlarm⟩) :
    (∀ entity ∈ raised.message.alarmEntity?, InMib entries entity) ∧
      ∀ port ∈ raised.port, raised.message.alarmEntity? = some port := by
  subst alarm
  refine ⟨fun entity named => ?_, fun port target => ?_⟩
  · cases named
    exact known
  · cases target
    rfl

/-- The alarm of a POTS port names an entity of the other class. -/
theorem alarmEntity_pots_ne (pots : PotsPort) (raiseOmciAlarm : Bool) :
    (pots.alarm raiseOmciAlarm).alarmEntity? ≠ some pots.terminationPoint := by
  intro same
  have classes : (11 : UInt16) = 53 := congrArg MeBasePacket.entityClass (Option.some.inj same)
  exact absurd classes (by decide)

theorem namesRight_pots_iff {ports : List PotsPort} {raiseOmciAlarm : Bool} :
    NamesRight entries (ports.map fun pots => ⟨pots.terminationPoint, pots.alarm raiseOmciAlarm⟩) ↔
      ports = [] := by
  constructor
  · intro right
    refine List.eq_nil_iff_forall_not_mem.mpr fun pots member => ?_
    exact alarmEntity_pots_ne pots raiseOmciAlarm
      ((right _ (List.mem_map_of_mem member)).2 _ rfl)
  · rintro rfl alarm member
    cases member

theorem namesRight_iff (unis : site.UnisInMib entries)
    (los : InMib entries (pptpEthernetUni 257) ↔ 0 < numUni) (label : PortStep) :
    NamesRight entries (alarms site.onu label) ↔ site.Allowed numUni label := by
  cases label with
  | uni index up =>
    refine iff_of_true (fun alarm member => ?_) trivial
    obtain ⟨uni, changed, rfl⟩ := List.mem_map.mp member
    obtain ⟨before, found, moved⟩ := Option.bind_eq_some_iff.mp (Option.mem_toList.mp changed)
    have known := unis before (List.mem_of_getElem? found)
    rw [UniPort.terminationPoint, ← meId_changed up moved] at known
    exact namesRight_uni known rfl
  | pots index up =>
    rw [alarms, namesRight_pots_iff, Option.toList_eq_nil_iff]
    rfl
  | disablePorts =>
    rw [alarms, namesRight_append, namesRight_pots_iff, and_iff_right]
    · simp [Allowed]
    · intro alarm member
      obtain ⟨uni, present, rfl⟩ := List.mem_map.mp member
      exact namesRight_uni (unis uni (List.mem_filter.mp present).1) rfl
  | losAlarm raiseOmciAlarm =>
    refine Iff.trans ⟨fun right => ?_, fun known alarm member => ?_⟩ los
    · exact (right _ (.head _)).1 _ rfl
    · rw [List.mem_singleton.mp member]
      refine ⟨fun entity named => ?_, fun port target => absurd target (by simp)⟩
      cases named
      exact known
  | receive sent => exact iff_of_true (fun alarm member => absurd member (by simp [alarms])) trivial

/-- What a step does to the naming is decided before it. -/
theorem named_step_iff (unis : site.UnisInMib entries) (named : site.Named entries)
    (los : InMib entries (pptpEthernetUni 257) ↔ 0 < numUni) (taken : step site label = some after) :
    after.Named entries ↔ site.Allowed numUni label := by
  rcases step_cases taken with ⟨sent, message, rest, rfl, received, rfl⟩ | ⟨onu, sends, rfl⟩
  · exact iff_of_true (named_receive named received) trivial
  · exact (named_performed_iff named sends).trans (namesRight_iff unis los label)

section

variable {numPots : Nat} {technology : PonTechnology} {config : MibConfig}

theorem inMib_pptpEthernetUni_iff {entity : UInt16} :
    InMib (baselineItems numUni numPots technology config) (pptpEthernetUni entity) ↔
      ∃ port, (1 ≤ port ∧ port < 1 + numUni) ∧ uniPortEntityId port = entity.toNat := by
  have classes : PhysicalPathTerminationPointEthernetUni.classID ∈ numberedClasses := by decide
  change entity.toNat ∈ instancesOf PhysicalPathTerminationPointEthernetUni.classID _ ↔ _
  rw [instancesOf_baselineItems _ _ _ _ classes, instancesOf_pptpEthernet, List.mem_map]
  simp only [List.mem_range'_1]

theorem inMib_los_iff :
    InMib (baselineItems numUni numPots technology config) (pptpEthernetUni 257) ↔ 0 < numUni := by
  rw [inMib_pptpEthernetUni_iff]
  constructor
  · rintro ⟨port, ⟨first, last⟩, -⟩
    omega
  · intro some
    exact ⟨1, ⟨le_rfl, by omega⟩, rfl⟩

private theorem unisInMib_created {services : Nat → List Service}
    (created : createPorts numUni numPots services = some (site.onu.uniPorts, site.onu.potsPorts)) :
    site.UnisInMib (baselineItems numUni numPots technology config) := by
  obtain ⟨count, ids⟩ := createPorts_uniPorts created
  intro uni member
  obtain ⟨index, found⟩ := List.mem_iff_getElem?.mp member
  have inside : index < numUni := count ▸ (List.getElem?_eq_some_iff.mp found).1
  refine inMib_pptpEthernetUni_iff.mpr ⟨index + 1, ⟨by omega, by omega⟩, ?_⟩
  rw [ids index uni found, portMeId, UInt16.toNat_ofNat', uniPortEntityId_eq]
  omega

/-- The ONU before its first alarm. -/
def create (onu : Onu) : PortSite := ⟨onu, fun _ => none, [], []⟩

private theorem named_create {onu : Onu} (idle : onu.pending = []) (entries : List MibDbEntry) :
    (create onu).Named entries := by
  refine ⟨fun _ sent => absurd sent List.not_mem_nil, fun _ kept => absurd kept Bool.false_ne_true,
    fun message waiting => ?_, fun _ raised => absurd raised List.not_mem_nil⟩
  have listed : message ∈ onu.pending := waiting
  rw [idle] at listed
  exact absurd listed List.not_mem_nil

theorem alarm_entities_iff {services : Nat → List Service} {onu : Onu} {mibDb : MibDb}
    {history : List (PortSite × PortStep)} {site : PortSite}
    (created : createPorts numUni numPots services = some (onu.uniPorts, onu.potsPorts))
    (generated : generateMibDatabase numUni numPots technology config = some mibDb)
    (idle : onu.pending = []) (run : Run step (create onu) history site) :
    (Meets (fun site _ => Named mibDb.baselineItems site) history ∧
        Named mibDb.baselineItems site) ↔
      Meets (Allowed numUni) history := by
  obtain ⟨responses, -, rfl⟩ := Option.map_eq_some_iff.mp generated
  have unis : (create onu).UnisInMib (baselineItems numUni numPots technology config) :=
    unisInMib_created created
  exact run.throughout_iff ⟨unis, named_create idle _⟩ (fun _ _ _ unis taken => unisInMib_step unis taken)
    fun _ _ _ unis named taken => named_step_iff unis named inMib_los_iff taken

end

/-- An ONU with one port of each kind, its loop running. -/
def listening : Onu := { onuWithPorts 1 1 with channel := some {} }

private theorem createPorts_listening :
    createPorts 1 1 (fun _ => []) = some (listening.uniPorts, listening.potsPorts) := rfl

theorem generated_oneOfEach :
    ∃ mibDb, generateMibDatabase 1 1 .xgspon ⟨false, false⟩ = some mibDb := by
  have fits := (uploadExact_iff_last 1 1 .xgspon ⟨false, false⟩ (by decide +kernel)).mpr
    (by decide +kernel)
  obtain ⟨mibDb, generated, -⟩ := fits
  exact ⟨mibDb, generated⟩

/-- A step of the Ethernet ports or of the loop. -/
def isEthernet : PortStep → Bool
  | .uni _ _ | .receive _ => true
  | _ => false

theorem alarm_entities_uni : ∃ mibDb history site,
    generateMibDatabase 1 1 .xgspon ⟨false, false⟩ = some mibDb ∧
      Run step (create listening) history site ∧
      site.sent.map AlarmNotification.entity = [⟨11, 257⟩, ⟨11, 257⟩] ∧
      Named mibDb.baselineItems site := by
  obtain ⟨mibDb, generated⟩ := generated_oneOfEach
  obtain ⟨history, site, run, ethernet, tested⟩ := run_of_guarded_replay
    (fun _ label => isEthernet label = true) step (create listening)
    [.uni 0 true, .receive true, .uni 0 false, .receive true]
    (fun site => site.sent.map AlarmNotification.entity = [⟨11, 257⟩, ⟨11, 257⟩]) (by decide +kernel)
  have allowed : Meets (Allowed 1) history := by
    intro ⟨before, label⟩ member
    have only : isEthernet label = true := ethernet _ member
    cases label with
    | uni | receive => trivial
    | pots | disablePorts | losAlarm => cases only
  refine ⟨mibDb, history, site, generated, run, tested, ?_⟩
  exact ((alarm_entities_iff createPorts_listening generated rfl run).mpr allowed).2

/-- The POTS port has the instance 258, which the MIB has for the other class. -/
theorem pots_alarm_not_in_mib : ∃ mibDb history site,
    generateMibDatabase 1 1 .xgspon ⟨false, false⟩ = some mibDb ∧
      Run step (create listening) history site ∧
      site.sent.map AlarmNotification.entity = [⟨11, 258⟩] ∧
      ¬ InMib mibDb.baselineItems ⟨11, 258⟩ := by
  obtain ⟨mibDb, generated⟩ := generated_oneOfEach
  obtain ⟨history, site, run, tested⟩ := run_of_replay step (create listening)
    [.pots 0 true, .receive true]
    (fun site => site.sent.map AlarmNotification.entity = [⟨11, 258⟩]) (by decide +kernel)
  refine ⟨mibDb, history, site, generated, run, tested, ?_⟩
  obtain ⟨responses, -, rfl⟩ := Option.map_eq_some_iff.mp generated
  change ¬ InMib (baselineItems 1 1 .xgspon ⟨false, false⟩) (pptpEthernetUni 258)
  rw [inMib_pptpEthernetUni_iff]
  rintro ⟨port, ⟨first, last⟩, same⟩
  obtain rfl : port = 1 := by omega
  exact absurd same (by decide)

end PortSite

end Bbsim.Devices
