import Bbsim.Devices.OmciHeaders

/-! Alarm notifications of an ONU. The `UniStatusAlarm` messages of an ONU, its table of alarms and
the sequence numbers of the notifications. A clear drops the entry of its entity, and with it the
number that the next notification should follow. -/

namespace Bbsim.Devices

open Foundation Omci

structure AlarmNotification where
  entity : MeBasePacket
  alarmBitMap : List UInt8
  alarmSequenceNumber : UInt8
deriving DecidableEq

/-- 224 alarms, none of them active. -/
def noAlarms : List UInt8 := List.replicate 28 0

/-- The bit of an alarm in its octet, alarm 0 first. -/
def alarmBit (alarmNumber : Nat) : UInt8 := 1 <<< UInt8.ofNat (7 - alarmNumber % 8)

def activateAlarm (alarmNumber : Nat) (alarmBitMap : List UInt8) : List UInt8 :=
  alarmBitMap.modify (alarmNumber / 8) fun octet => octet ||| alarmBit alarmNumber

def clearAlarm (alarmNumber : Nat) (alarmBitMap : List UInt8) : List UInt8 :=
  alarmBitMap.modify (alarmNumber / 8) fun octet => octet &&& ~~~ alarmBit alarmNumber

/-- LAN-LOS is alarm 0 of the class. -/
def createUniStatusAlarm (raiseAlarm : Bool) (entityId : UInt16) (sequenceNo : UInt8) :
    AlarmNotification where
  entity := pptpEthernetUni entityId
  alarmBitMap := if raiseAlarm then activateAlarm 0 noAlarms else clearAlarm 0 noAlarms
  alarmSequenceNumber := sequenceNo

theorem createUniStatusAlarm_noAlarms_iff {raiseAlarm : Bool} {entityId : UInt16}
    {sequenceNo : UInt8} :
    (createUniStatusAlarm raiseAlarm entityId sequenceNo).alarmBitMap = noAlarms ↔
      raiseAlarm = false := by
  cases raiseAlarm with
  | true => exact iff_of_false (by change activateAlarm 0 noAlarms ≠ _; decide) (by decide)
  | false => exact iff_of_true (by change clearAlarm 0 noAlarms = _; decide) rfl

/-- The number after a number: 255 is followed by 1. -/
def nextSequenceNo (sequenceNo : UInt8) : UInt8 := if sequenceNo = 255 then 1 else sequenceNo + 1

def incrementAlarmSequenceNumber (alarms : OnuAlarms) (key : MeBasePacket) : OnuAlarms × UInt8 :=
  match alarms key with
  | some alarmInfo =>
    let sequenceNo := nextSequenceNo alarmInfo.sequenceNo
    (Function.update alarms key (some { alarmInfo with sequenceNo := sequenceNo }), sequenceNo)
  | none => (Function.update alarms key (some ⟨1, noAlarms⟩), 1)

/-- The turn of the message loop for a `UniStatusAlarm`; `sent` is whether the stream took the
notification. -/
def uniStatusAlarm (alarms : OnuAlarms) (entityID : UInt16) (raiseOmciAlarm sent : Bool) :
    OnuAlarms × AlarmNotification :=
  let onuAlarmMapKey := pptpEthernetUni entityID
  let (alarms, seqNo) := incrementAlarmSequenceNumber alarms onuAlarmMapKey
  let alarmInfo := (alarms onuAlarmMapKey).getD ⟨0, noAlarms⟩
  let notification := createUniStatusAlarm raiseOmciAlarm entityID seqNo
  let alarmInfo :=
    if sent then alarmInfo else { alarmInfo with sequenceNo := alarmInfo.sequenceNo - 1 }
  if notification.alarmBitMap = noAlarms then
    (Function.update alarms onuAlarmMapKey none, notification)
  else
    (Function.update alarms onuAlarmMapKey
      (some { alarmInfo with alarmBitMap := notification.alarmBitMap }), notification)

section

variable {alarms : OnuAlarms} {entityID : UInt16} {raiseOmciAlarm sent : Bool}

/-- The number of the next notification about an entity. -/
def numberFor (alarms : OnuAlarms) (key : MeBasePacket) : UInt8 :=
  ((alarms key).map fun info => nextSequenceNo info.sequenceNo).getD 1

theorem incrementAlarmSequenceNumber_eq (key : MeBasePacket) :
    incrementAlarmSequenceNumber alarms key =
      (Function.update alarms key
        (some ⟨numberFor alarms key, ((alarms key).map OnuAlarmInfo.alarmBitMap).getD noAlarms⟩),
        numberFor alarms key) := by
  unfold incrementAlarmSequenceNumber numberFor
  cases alarms key <;> rfl

/-- A raise is kept with its number, one that was not sent with the number before, and a clear is
not kept. -/
theorem uniStatusAlarm_eq :
    uniStatusAlarm alarms entityID raiseOmciAlarm sent =
      (Function.update alarms (pptpEthernetUni entityID)
        (if raiseOmciAlarm then
          some ⟨if sent then numberFor alarms (pptpEthernetUni entityID)
            else numberFor alarms (pptpEthernetUni entityID) - 1, activateAlarm 0 noAlarms⟩
        else none),
        createUniStatusAlarm raiseOmciAlarm entityID (numberFor alarms (pptpEthernetUni entityID))) := by
  simp only [uniStatusAlarm, incrementAlarmSequenceNumber_eq, Function.update_self,
    Option.getD_some, createUniStatusAlarm_noAlarms_iff, Function.update_idem]
  cases raiseOmciAlarm with
  | true => cases sent <;> rfl
  | false => rfl

end

/-- What was sent about an entity. -/
structure AlarmRecord where
  /-- Notifications delivered since the last Get All Alarms. -/
  delivered : Nat
  /-- The last notification raised the alarm. -/
  raised : Bool

/-- An ONU, with a record of its notifications. -/
structure AlarmSite where
  onu : OmciOnu
  record : MeBasePacket → AlarmRecord

inductive AlarmStep where
  | alarm (entityID : UInt16) (raiseOmciAlarm sent : Bool)
  | request (context : Nat) (spare : List UInt8) (message : OmciMessage)
  /-- Anything else but the ONU or its PON being disabled. -/
  | other (attached : AttachedOnu)

namespace AlarmSite

def create (attached : AttachedOnu) (mibDb : MibDb) : AlarmSite :=
  ⟨.create attached mibDb, fun _ => ⟨0, false⟩⟩

/-- The ONU handles a Get All Alarms. -/
def audits (onu : OmciOnu) (message : OmciMessage) : Bool :=
  !onu.skips && isGetAllAlarms message.request

def notify (site : AlarmSite) (entityID : UInt16) (raiseOmciAlarm sent : Bool) : AlarmSite where
  onu := { site.onu with
    onuAlarmsInfo := (uniStatusAlarm site.onu.onuAlarmsInfo entityID raiseOmciAlarm sent).1 }
  record :=
    let record := site.record (pptpEthernetUni entityID)
    Function.update site.record (pptpEthernetUni entityID)
      ⟨if sent then record.delivered + 1 else record.delivered, raiseOmciAlarm⟩

def step (library : OmciLibrary) (site : AlarmSite) : AlarmStep → Option AlarmSite
  | .alarm entityID raiseOmciAlarm sent => some (site.notify entityID raiseOmciAlarm sent)
  | .request context spare message =>
    (site.onu.handleOmciRequest library context spare message).toOption.map fun (next, _) =>
      ⟨next, fun key =>
        if audits site.onu message then { site.record key with delivered := 0 } else site.record key⟩
  | .other attached => some { site with onu := site.onu.withAttached attached }

/-- Notifications are numbered from 1 to 255 and around, from 1 again after a Get All Alarms, and the
number of one that is not sent goes to the next. -/
def Numbered (site : AlarmSite) : AlarmStep → Prop
  | .alarm entityID raiseOmciAlarm sent =>
    (uniStatusAlarm site.onu.onuAlarmsInfo entityID raiseOmciAlarm sent).2.alarmSequenceNumber.toNat =
      (site.record (pptpEthernetUni entityID)).delivered % 255 + 1
  | _ => True

/-- The entities with an alarm are those whose last notification raised it. -/
def Mirrors (site : AlarmSite) : Prop :=
  ∀ key, (site.onu.onuAlarmsInfo key).isSome = (site.record key).raised

/-- The alarm is active, or 1 is the number that is due. -/
def DueOrActive (site : AlarmSite) : AlarmStep → Prop
  | .alarm entityID _ _ =>
    (site.record (pptpEthernetUni entityID)).raised = true ∨
      255 ∣ (site.record (pptpEthernetUni entityID)).delivered
  | _ => True

/-- The entries have the numbers that are due. -/
def Ready (site : AlarmSite) : Prop :=
  ∀ key info, site.onu.onuAlarmsInfo key = some info →
    (nextSequenceNo info.sequenceNo).toNat = (site.record key).delivered % 255 + 1

variable {library : OmciLibrary} {site next : AlarmSite} {label : AlarmStep}

/-- What a request does to the alarms and the record. -/
theorem step_request {context : Nat} {spare : List UInt8} {message : OmciMessage}
    (taken : step library site (.request context spare message) = some next) :
    next.onu.onuAlarmsInfo = site.onu.onuAlarmsInfo ∧ next.record = site.record ∨
      next.onu.onuAlarmsInfo = OmciOnu.resetAlarmSequences site.onu.onuAlarmsInfo ∧
        next.record = fun key => { site.record key with delivered := 0 } := by
  obtain ⟨⟨after, outcome⟩, handled, rfl⟩ := Option.map_eq_some_iff.mp taken
  rcases OmciOnu.handleOmciRequest_cases (eq_ok_of_toOption handled) with ⟨skipped, rfl, -⟩ |
    ⟨answered, response, -, processed⟩
  · exact .inl ⟨rfl, by simp [audits, skipped]⟩
  · have kept := ((OmciOnu.ensures_handled message).value processed).settings
    rw [OmciOnu.settings_counted] at kept
    have alarms : after.onuAlarmsInfo = _ :=
      (congrArg Settings.onuAlarmsInfo kept).trans (Settings.after_onuAlarmsInfo _ _)
    cases audit : isGetAllAlarms message.request with
    | false =>
      rw [audit] at alarms
      exact .inl ⟨alarms, by simp [audits, audit]⟩
    | true =>
      rw [audit] at alarms
      exact .inr ⟨alarms, by simp [audits, audit, answered]⟩

theorem mirrors_notify (mirrors : site.Mirrors) (entityID : UInt16) (raiseOmciAlarm sent : Bool) :
    (site.notify entityID raiseOmciAlarm sent).Mirrors := by
  intro key
  simp only [notify, uniStatusAlarm_eq]
  by_cases same : key = pptpEthernetUni entityID
  · subst same
    cases raiseOmciAlarm <;> simp
  · simpa [Function.update_of_ne same] using mirrors key

private theorem mirrors_step (mirrors : site.Mirrors) (taken : step library site label = some next) :
    next.Mirrors := by
  cases label with
  | alarm entityID raiseOmciAlarm sent =>
    obtain rfl := Option.some.inj taken
    exact mirrors_notify mirrors entityID raiseOmciAlarm sent
  | request context spare message =>
    intro key
    rcases step_request taken with ⟨alarms, record⟩ | ⟨alarms, record⟩
    · rw [alarms, record, mirrors key]
    · rw [alarms, record, ← mirrors key, OmciOnu.resetAlarmSequences, Option.isSome_map]
  | other attached =>
    obtain rfl := Option.some.inj taken
    exact mirrors

theorem numbered_alarm_iff {entityID : UInt16} {raiseOmciAlarm sent : Bool} :
    site.Numbered (.alarm entityID raiseOmciAlarm sent) ↔
      (numberFor site.onu.onuAlarmsInfo (pptpEthernetUni entityID)).toNat =
        (site.record (pptpEthernetUni entityID)).delivered % 255 + 1 := by
  rw [Numbered, uniStatusAlarm_eq]
  rfl

private theorem nextSequenceNo_toNat (sequenceNo : UInt8) :
    (nextSequenceNo sequenceNo).toNat = sequenceNo.toNat % 255 + 1 := by
  have bound : sequenceNo.toNat < 256 := sequenceNo.toNat_lt
  unfold nextSequenceNo
  split
  · next last =>
    subst last
    rfl
  · next inside =>
    have below : sequenceNo.toNat ≠ 255 := fun same => inside (UInt8.toNat_inj.mp same)
    rw [UInt8.toNat_add, UInt8.toNat_one]
    omega

/-- Once the number that is due is used, the one after it is due; given back, it is due again. -/
theorem nextSequenceNo_due {number : UInt8} {delivered : Nat}
    (due : number.toNat = delivered % 255 + 1) :
    (nextSequenceNo number).toNat = (delivered + 1) % 255 + 1 ∧
      (nextSequenceNo (number - 1)).toNat = delivered % 255 + 1 := by
  have before : (number - 1).toNat = number.toNat - 1 :=
    UInt8.toNat_sub_of_le number 1 (UInt8.le_iff_toNat_le.mpr (by simp [due]))
  rw [nextSequenceNo_toNat, nextSequenceNo_toNat, before]
  omega

private theorem ready_step (ready : site.Ready) (numbered : site.Numbered label)
    (taken : step library site label = some next) : next.Ready := by
  cases label with
  | alarm entityID raiseOmciAlarm sent =>
    obtain rfl := Option.some.inj taken
    intro key info found
    simp only [notify, uniStatusAlarm_eq] at found ⊢
    by_cases same : key = pptpEthernetUni entityID
    · subst same
      rw [Function.update_self] at found
      obtain ⟨-, stored⟩ := Option.ite_none_right_eq_some.mp found
      obtain rfl := Option.some.inj stored
      have due := nextSequenceNo_due (numbered_alarm_iff.mp numbered)
      rw [Function.update_self]
      cases sent with
      | true => exact due.1
      | false => exact due.2
    · rw [Function.update_of_ne same] at found ⊢
      exact ready key info found
  | request context spare message =>
    intro key info found
    rcases step_request taken with ⟨alarms, record⟩ | ⟨alarms, record⟩
    · rw [alarms] at found
      rw [record]
      exact ready key info found
    · rw [alarms] at found
      rw [record]
      obtain ⟨before, -, rfl⟩ := Option.map_eq_some_iff.mp found
      rfl
  | other attached =>
    obtain rfl := Option.some.inj taken
    exact ready

/-- The number is right exactly if the alarm is active or 1 is due. -/
theorem numbered_iff (mirrors : site.Mirrors) (ready : site.Ready) (label : AlarmStep) :
    site.Numbered label ↔ site.DueOrActive label := by
  cases label with
  | alarm entityID raiseOmciAlarm sent =>
    rw [numbered_alarm_iff, DueOrActive, ← mirrors]
    unfold numberFor
    cases found : site.onu.onuAlarmsInfo (pptpEthernetUni entityID) with
    | some info => exact iff_of_true (ready _ info found) (.inl rfl)
    | none =>
      have first : (1 : UInt8).toNat = 1 := rfl
      simp only [Option.map_none, Option.getD_none, Option.isSome_none, Bool.false_eq_true,
        false_or, first]
      omega
  | request | other => exact Iff.rfl

/-- In every run, the notifications are numbered as they should be, and the entities with an alarm are
those whose last notification raised it, exactly if no notification is sent about an entity without an
active alarm while another number than 1 is due. -/
theorem alarm_numbering_iff {attached : AttachedOnu} {mibDb : MibDb}
    {history : List (AlarmSite × AlarmStep)}
    (run : Run (step library) (create attached mibDb) history site) :
    (Meets Numbered history ∧ Meets (fun site _ => site.Mirrors) history ∧ site.Mirrors) ↔
      Meets DueOrActive history := by
  have everywhere : Meets (fun _ _ => True) history := fun _ _ => trivial
  have mirrored : Meets (fun site _ => site.Mirrors) history ∧ site.Mirrors :=
    run.always everywhere (fun _ => rfl) fun _ _ _ mirrors _ taken => mirrors_step mirrors taken
  rw [and_iff_left mirrored]
  exact run.meets_iff_of_kept (fun site => site.Mirrors ∧ site.Ready) ⟨fun _ => rfl, nofun⟩
    (fun _ _ _ held numbered taken =>
      ⟨mirrors_step held.1 taken, ready_step held.2 numbered taken⟩)
    fun _ label held => numbered_iff held.1 held.2 label

/-- An ONU that has not had an alarm. -/
def quiet : AlarmSite := create (OmciOnu.enabledOn .empty).attached ⟨0, 0, [], []⟩

/-- An alarm of the first UNI that goes out. -/
def firstUniAlarm (raiseOmciAlarm : Bool) : AlarmStep := .alarm 257 raiseOmciAlarm true

theorem alarm_numbering_raise_clear : ∃ history site,
    Run (step summingLibrary) quiet history site ∧
      history.map Prod.snd = [firstUniAlarm true, firstUniAlarm false] ∧ Meets Numbered history := by
  have run : Run (step summingLibrary) quiet
      [(quiet, firstUniAlarm true), (quiet.notify 257 true true, firstUniAlarm false)] _ :=
    (Run.start.snoc rfl).snoc rfl
  refine ⟨_, _, run, rfl, ((alarm_numbering_iff run).mpr ?_).1⟩
  rw [meets_cons, meets_cons]
  exact ⟨.inr (Nat.dvd_zero 255), .inl rfl, meets_nil _⟩

/-- The alarm raised again after a clear has number 1, where number 3 is due. -/
theorem cleared_alarm_restarts_numbering : ∃ history site,
    Run (step summingLibrary) quiet history site ∧
      history.map Prod.snd = [firstUniAlarm true, firstUniAlarm false, firstUniAlarm true] ∧
      ¬ Meets Numbered history := by
  refine ⟨_, _, ((Run.start.snoc rfl).snoc rfl).snoc rfl, rfl, fun numbered => ?_⟩
  have third := numbered_alarm_iff.mp (meets_snoc.mp numbered).2
  exact absurd third (by decide)

end AlarmSite

end Bbsim.Devices
