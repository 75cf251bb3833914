import Mathlib.Tactic.IntervalCases
import Bbsim.Devices.AlarmNotifications

/-! Audits of the alarms. A Get All Alarms, and a Get All Alarms Next for each of the commands it
announces. Commands are answered by instance, and an extended answer to the first command reports
the alarms of the others too. -/

namespace Bbsim.Devices

open Foundation Omci

def ResponsePacket.alarms? : ResponsePacket → Option (List (MeBasePacket × List UInt8))
  | .layers ⟨_, _, _, _, .alarms reported⟩ => some reported
  | _ => none

/-- The requests of an audit in one of the two formats. -/
structure AlarmAudit (format : DeviceIdent) where
  getAllAlarms : OmciMessage
  getAllAlarmsNext : UInt16 → OmciMessage
  asks : getAllAlarms.request = .getAllAlarms
  formatted : getAllAlarms.deviceIdentifier = format
  continues : ∀ number, (getAllAlarmsNext number).request =
    .getAllAlarmsNext (some ⟨.onuData, number⟩)
  continuesFormatted : ∀ number, (getAllAlarmsNext number).deviceIdentifier = format

/-- The PPTP instances that audits look at, from the first one on. -/
def entityAt (index : Nat) : MeBasePacket := pptpEthernetUni (257 + UInt16.ofNat index)

/-- The alarms are on the first instances, four at most; in the extended format, on the first one
only. -/
def Auditable (alarms : OnuAlarms) : DeviceIdent → Prop
  | .baseline => ∃ count ≤ 4, ∀ key, (alarms key).isSome = true ↔ ∃ index < count, key = entityAt index
  | .extended => ∀ key, (alarms key).isSome = true → key = entityAt 0

namespace AlarmAudit

variable {format : DeviceIdent} (audit : AlarmAudit format) (library : OmciLibrary) (context : Nat)
  (spare : List UInt8) (onu : OmciOnu)

/-- The ONU after the Get All Alarms, and the number of commands that it answers. -/
def commands : Option (OmciOnu × Nat) :=
  match onu.processOmci library context spare audit.getAllAlarms with
  | .ok (after, some packet) => packet.numberOfCommands?.map (after, ·)
  | _ => none

/-- The alarms in the answer to a command; `none` where there is no answer. -/
def reported (number : UInt16) : Option (List (MeBasePacket × List UInt8)) :=
  match onu.processOmci library context spare (audit.getAllAlarmsNext number) with
  | .ok (_, some packet) => packet.alarms?
  | _ => none

/-- Every command announced is answered, the answers have every active alarm once and nothing else,
and no other command is answered. -/
structure Complete (alarms : OnuAlarms) (count : Nat)
    (answer : UInt16 → Option (List (MeBasePacket × List UInt8))) : Prop where
  answered : ∃ parts : List (List (MeBasePacket × List UInt8)),
    (List.range count).map (fun number => answer (UInt16.ofNat number)) = parts.map some ∧
      (parts.flatten.map Prod.fst).Nodup ∧
      ∀ key alarmBitMap, (key, alarmBitMap) ∈ parts.flatten ↔
        ∃ info, alarms key = some info ∧ info.alarmBitMap = alarmBitMap
  refused : ∀ number, count ≤ number.toNat → answer number = none

variable {audit library context spare onu}

theorem commands_eq :
    audit.commands library context spare onu =
      some ({ onu with onuAlarmsInfo := OmciOnu.resetAlarmSequences onu.onuAlarmsInfo },
        [0, 1, 2, 3].countP fun index => (onu.onuAlarmsInfo (entityAt index)).isSome) := by
  unfold commands OmciOnu.processOmci
  rw [audit.asks]
  simp only [createGetAllAlarmsResponse, OmciOnu.resetAlarmSequences, Option.isSome_map]
  rfl

theorem reported_eq (number : UInt16) :
    audit.reported library context spare onu number =
      if number > 4 then none
      else (alarmOf onu.onuAlarmsInfo (257 + number)).map fun alarm =>
        alarm :: (if format = .extended ∧ number = 0 then
          [258, 259, 260].filterMap (alarmOf onu.onuAlarmsInfo) else []) := by
  unfold reported OmciOnu.processOmci
  rw [audit.continues]
  simp only [createGetAllAlarmsNextResponse, audit.continuesFormatted]
  by_cases late : number > 4
  · rw [if_pos late, if_pos late]
  · rw [if_neg late, if_neg late]
    cases alarmOf onu.onuAlarmsInfo (257 + number) <;> rfl

end AlarmAudit

/-- The alarm of an instance, by its index. -/
def alarmAt (alarms : OnuAlarms) (index : Nat) : Option (MeBasePacket × List UInt8) :=
  (alarms (entityAt index)).map fun info => (entityAt index, info.alarmBitMap)

private theorem alarmAt_reset (alarms : OnuAlarms) :
    alarmAt (OmciOnu.resetAlarmSequences alarms) = alarmAt alarms := by
  funext index
  simp only [alarmAt, OmciOnu.resetAlarmSequences, Option.map_map]
  rfl

/-- The answer to a command. -/
def answerTo (alarms : OnuAlarms) (format : DeviceIdent) (index : Nat) :
    Option (List (MeBasePacket × List UInt8)) :=
  if index > 4 then none
  else (alarmAt alarms index).map fun alarm =>
    alarm :: (if format = .extended ∧ index = 0 then [1, 2, 3].filterMap (alarmAt alarms) else [])

theorem AlarmAudit.reported_eq_answerTo {format : DeviceIdent} {audit : AlarmAudit format}
    {library : OmciLibrary} {context : Nat} {spare : List UInt8} {onu : OmciOnu} (number : UInt16) :
    audit.reported library context spare onu number =
      answerTo onu.onuAlarmsInfo format number.toNat := by
  have late : number > 4 ↔ number.toNat > 4 := UInt16.lt_iff_toNat_lt
  have first : number = 0 ↔ number.toNat = 0 := UInt16.toNat_inj.symm
  have same : alarmAt onu.onuAlarmsInfo number.toNat = alarmOf onu.onuAlarmsInfo (257 + number) := by
    simp [alarmAt, alarmOf, entityAt]
  rw [reported_eq, answerTo, same]
  simp only [late, first]
  rfl

theorem entityAt_inj {index other : Nat} (small : index < 65536) (otherSmall : other < 65536) :
    entityAt index = entityAt other ↔ index = other := by
  refine ⟨fun same => ?_, fun same => same ▸ rfl⟩
  have instances : 257 + UInt16.ofNat index = 257 + UInt16.ofNat other :=
    congrArg MeBasePacket.entityInstance same
  have numbers := congrArg UInt16.toNat ((UInt16.add_right_inj 257).mp instances)
  rwa [UInt16.toNat_ofNat_of_lt' small, UInt16.toNat_ofNat_of_lt' otherSmall] at numbers

/-- The alarms on the four instances that are counted. -/
def activeCount (alarms : OnuAlarms) : Nat :=
  [0, 1, 2, 3].countP fun index => (alarms (entityAt index)).isSome

private theorem activeCount_le (alarms : OnuAlarms) : activeCount alarms ≤ 4 := List.countP_le_length

section

variable {alarms : OnuAlarms} {format : DeviceIdent} {count index : Nat}
  {parts : List (List (MeBasePacket × List UInt8))} {part : List (MeBasePacket × List UInt8)}

theorem isSome_of_answerTo (answered : answerTo alarms format index = some part) :
    (alarms (entityAt index)).isSome = true := by
  obtain ⟨-, found⟩ := Option.ite_none_left_eq_some.mp answered
  obtain ⟨alarm, present, -⟩ := Option.map_eq_some_iff.mp found
  obtain ⟨info, stored, -⟩ := Option.map_eq_some_iff.mp present
  rw [stored]
  rfl

theorem answerTo_of_some {info : OnuAlarmInfo} (inside : index ≤ 4)
    (stored : alarms (entityAt index) = some info) :
    answerTo alarms format index = some ((entityAt index, info.alarmBitMap) ::
      (if format = .extended ∧ index = 0 then [1, 2, 3].filterMap (alarmAt alarms) else [])) := by
  rw [answerTo, if_neg (Nat.not_lt.mpr inside), alarmAt, stored]
  rfl

theorem answerTo_of_none (absent : alarms (entityAt index) = none) :
    answerTo alarms format index = none := by
  rw [answerTo, alarmAt, absent]
  split <;> rfl

theorem none_of_answerTo (inside : index ≤ 4) (unanswered : answerTo alarms format index = none) :
    alarms (entityAt index) = none := by
  rw [answerTo, if_neg (Nat.not_lt.mpr inside)] at unanswered
  exact Option.map_eq_none_iff.mp (Option.map_eq_none_iff.mp unanswered)

/-- The parts are the answers to the commands. -/
theorem mem_parts_iff (few : count ≤ 4)
    (answers : (List.range count).map
      (fun number => answerTo alarms format (UInt16.ofNat number).toNat) = parts.map some) :
    part ∈ parts ↔ ∃ index < count, answerTo alarms format index = some part := by
  have listed : some part ∈ parts.map some ↔ part ∈ parts :=
    List.mem_map_of_injective (Option.some_injective _)
  rw [← listed, ← answers, List.mem_map]
  refine exists_congr fun index => ?_
  rw [List.mem_range]
  refine and_congr_right fun below => ?_
  rw [UInt16.toNat_ofNat_of_lt' (by simp only [UInt16.size]; omega)]

/-- An alarm that is reported for an instance. -/
theorem key_of_answerTo {key : MeBasePacket} {alarmBitMap : List UInt8}
    (answered : answerTo alarms .baseline index = some part) (member : (key, alarmBitMap) ∈ part) :
    key = entityAt index := by
  obtain ⟨-, found⟩ := Option.ite_none_left_eq_some.mp answered
  obtain ⟨alarm, present, rfl⟩ := Option.map_eq_some_iff.mp found
  obtain ⟨info, -, rfl⟩ := Option.map_eq_some_iff.mp present
  simp only [reduceCtorEq, false_and, if_false, List.mem_singleton] at member
  exact congrArg Prod.fst member

private theorem auditable_of_baseline_complete
    (complete : AlarmAudit.Complete alarms (activeCount alarms)
      fun number => answerTo alarms .baseline number.toNat) : Auditable alarms .baseline := by
  obtain ⟨⟨parts, answers, -, reports⟩, -⟩ := complete
  have few := activeCount_le alarms
  refine ⟨activeCount alarms, few, fun key => ⟨fun active => ?_, ?_⟩⟩
  · obtain ⟨info, stored⟩ := Option.isSome_iff_exists.mp active
    obtain ⟨part, listed, member⟩ := List.mem_flatten.mp ((reports key _).mpr ⟨info, stored, rfl⟩)
    obtain ⟨index, below, answered⟩ := (mem_parts_iff few answers).mp listed
    exact ⟨index, below, key_of_answerTo answered member⟩
  · rintro ⟨index, below, rfl⟩
    have asked : answerTo alarms .baseline index ∈ parts.map some := by
      rw [← answers, List.mem_map]
      refine ⟨index, List.mem_range.mpr below, ?_⟩
      rw [UInt16.toNat_ofNat_of_lt' (by simp only [UInt16.size]; omega)]
    obtain ⟨part, -, answered⟩ := List.mem_map.mp asked
    exact isSome_of_answerTo answered.symm

private theorem activeCount_of_first (few : count ≤ 4)
    (active : ∀ index < 4, (alarms (entityAt index)).isSome = decide (index < count)) :
    activeCount alarms = count := by
  have same : activeCount alarms = [0, 1, 2, 3].countP fun index => decide (index < count) :=
    List.countP_congr fun index member => by rw [active index (by simp at member; omega)]
  rw [same]
  interval_cases count <;> rfl

/-- The alarms are those of the first instances. -/
theorem isSome_entityAt_iff (few : count ≤ 4)
    (active : ∀ key, (alarms key).isSome = true ↔ ∃ index < count, key = entityAt index)
    (small : index < 65536) : (alarms (entityAt index)).isSome = true ↔ index < count := by
  rw [active]
  constructor
  · rintro ⟨other, below, same⟩
    rw [(entityAt_inj small (by omega)).mp same]
    exact below
  · exact fun below => ⟨index, below, rfl⟩

private theorem baseline_complete_of_auditable (auditable : Auditable alarms .baseline) :
    AlarmAudit.Complete alarms (activeCount alarms)
      fun number => answerTo alarms .baseline number.toNat := by
  obtain ⟨count, few, active⟩ := auditable
  have at_iff (index : Nat) (small : index < 65536) := isSome_entityAt_iff few active small
  have counted : activeCount alarms = count :=
    activeCount_of_first few fun index below => by
      rw [Bool.eq_iff_iff, at_iff index (by omega), decide_eq_true_eq]
  let bitMapAt (index : Nat) : List UInt8 :=
    ((alarms (entityAt index)).map OnuAlarmInfo.alarmBitMap).getD []
  have stored (index : Nat) (below : index < count) :
      ∃ info, alarms (entityAt index) = some info ∧ bitMapAt index = info.alarmBitMap := by
    obtain ⟨info, present⟩ := Option.isSome_iff_exists.mp ((at_iff index (by omega)).mpr below)
    exact ⟨info, present, by simp [bitMapAt, present]⟩
  rw [counted]
  refine ⟨⟨(List.range count).map fun index => [(entityAt index, bitMapAt index)], ?_, ?_, ?_⟩, ?_⟩
  · rw [List.map_map]
    refine List.map_congr_left fun index member => ?_
    have below := List.mem_range.mp member
    obtain ⟨info, present, same⟩ := stored index below
    rw [UInt16.toNat_ofNat_of_lt' (by simp only [UInt16.size]; omega),
      answerTo_of_some (by omega) present]
    simp [same]
  · rw [← List.flatMap_def, ← List.map_eq_flatMap, List.map_map]
    refine List.Nodup.map_on (fun index member other otherMember => ?_) List.nodup_range
    have below := List.mem_range.mp member
    have otherBelow := List.mem_range.mp otherMember
    exact (entityAt_inj (by omega) (by omega)).mp
  · intro key alarmBitMap
    simp only [List.mem_flatten, List.mem_map, List.mem_range]
    constructor
    · rintro ⟨_, ⟨index, below, rfl⟩, member⟩
      obtain ⟨info, present, same⟩ := stored index below
      obtain ⟨rfl, rfl⟩ := Prod.mk.inj (List.mem_singleton.mp member)
      exact ⟨info, present, same.symm⟩
    · rintro ⟨info, present, rfl⟩
      obtain ⟨index, below, rfl⟩ := (active key).mp (by rw [present]; rfl)
      obtain ⟨found, again, same⟩ := stored index below
      obtain rfl := Option.some.inj (present.symm.trans again)
      exact ⟨_, ⟨index, below, rfl⟩, List.mem_singleton.mpr (by rw [same])⟩
  · intro number late
    refine answerTo_of_none (Option.not_isSome_iff_eq_none.mp ?_)
    rw [at_iff number.toNat number.toNat_lt]
    exact Nat.not_lt.mpr late

/-- The first two commands both report the second instance. -/
theorem twice_of_two_commands {first second : List (MeBasePacket × List UInt8)}
    (answerFirst : answerTo alarms .extended 0 = some first)
    (answerSecond : answerTo alarms .extended 1 = some second) :
    ¬ ((first :: second :: parts).flatten.map Prod.fst).Nodup := by
  intro once
  obtain ⟨zeroth, zerothStored⟩ := Option.isSome_iff_exists.mp (isSome_of_answerTo answerFirst)
  obtain ⟨shared, sharedStored⟩ := Option.isSome_iff_exists.mp (isSome_of_answerTo answerSecond)
  rw [answerTo_of_some (by decide) zerothStored] at answerFirst
  rw [answerTo_of_some (by decide) sharedStored] at answerSecond
  obtain rfl := Option.some.inj answerFirst
  obtain rfl := Option.some.inj answerSecond
  rw [List.flatten_cons, List.map_append, List.nodup_append] at once
  refine once.2.2 (entityAt 1) ?_ (entityAt 1) ?_ rfl
  · simp [alarmAt, sharedStored]
  · simp

private theorem auditable_of_extended_complete
    (complete : AlarmAudit.Complete alarms (activeCount alarms)
      fun number => answerTo alarms .extended number.toNat) : Auditable alarms .extended := by
  obtain ⟨⟨parts, answers, once, reports⟩, refused⟩ := complete
  intro key active
  obtain ⟨info, stored⟩ := Option.isSome_iff_exists.mp active
  have member := (reports key _).mpr ⟨info, stored, rfl⟩
  rcases counted : activeCount alarms with _ | _ | more
  · -- no command, and so no alarm, is reported
    rw [counted] at answers
    obtain rfl : parts = [] := by simpa using answers.symm
    simp at member
  · -- the only command reports the first instance, and the others have no alarm
    have silent (index : Nat) (later : 1 ≤ index) (inside : index ≤ 4) :
        alarmAt alarms index = none := by
      have small : index < UInt16.size := by simp only [UInt16.size]; omega
      have unanswered := refused (UInt16.ofNat index) (by
        rw [UInt16.toNat_ofNat_of_lt' small, counted]
        exact later)
      rw [UInt16.toNat_ofNat_of_lt' small] at unanswered
      rw [alarmAt, none_of_answerTo inside unanswered, Option.map_none]
    rw [counted] at answers
    obtain ⟨part, listed, inPart⟩ := List.mem_flatten.mp member
    obtain ⟨index, below, answered⟩ := (mem_parts_iff (by decide) answers).mp listed
    obtain rfl : index = 0 := by omega
    obtain ⟨first, present⟩ := Option.isSome_iff_exists.mp (isSome_of_answerTo answered)
    rw [answerTo_of_some (by decide) present] at answered
    obtain rfl := Option.some.inj answered
    simp only [List.filterMap_cons, silent 1 (by decide) (by decide), silent 2 (by decide) (by decide),
      silent 3 (by decide) (by decide), List.filterMap_nil, ite_self, List.mem_singleton] at inPart
    exact congrArg Prod.fst inPart
  · -- with two commands or more an alarm is reported twice
    exfalso
    rw [counted, List.range_succ_eq_map, List.range_succ_eq_map] at answers
    rcases parts with _ | ⟨first, _ | ⟨second, rest⟩⟩
    · simp at answers
    · simp at answers
    · simp only [List.map_cons, List.cons.injEq] at answers
      obtain ⟨answerFirst, answerSecond, -⟩ := answers
      exact twice_of_two_commands answerFirst answerSecond once

private theorem extended_complete_of_auditable (auditable : Auditable alarms .extended) :
    AlarmAudit.Complete alarms (activeCount alarms)
      fun number => answerTo alarms .extended number.toNat := by
  have silent (index : Nat) (later : 1 ≤ index) (small : index < 65536) :
      alarms (entityAt index) = none := by
    refine Option.not_isSome_iff_eq_none.mp fun active => ?_
    have first := (entityAt_inj small (by decide)).mp (auditable _ active)
    omega
  have counted : activeCount alarms = if (alarms (entityAt 0)).isSome then 1 else 0 := by
    simp [activeCount, List.countP_cons, silent]
  cases stored : alarms (entityAt 0) with
  | none =>
    have none (key : MeBasePacket) : alarms key = none :=
      Option.not_isSome_iff_eq_none.mp fun active => by
        rw [auditable key active, stored] at active
        cases active
    rw [counted, stored]
    exact ⟨⟨[], rfl, List.nodup_nil, by simp [none]⟩, fun number _ => answerTo_of_none (none _)⟩
  | some info =>
    rw [counted, stored]
    refine ⟨⟨[[(entityAt 0, info.alarmBitMap)]], ?_, by simp, ?_⟩, ?_⟩
    · have alone : [1, 2, 3].filterMap (alarmAt alarms) = [] := by simp [alarmAt, silent]
      change [answerTo alarms .extended 0] = _
      rw [answerTo_of_some (by decide) stored, alone, ite_self]
      rfl
    · intro key alarmBitMap
      simp only [List.flatten_cons, List.flatten_nil, List.append_nil, List.mem_singleton]
      constructor
      · intro same
        obtain ⟨rfl, rfl⟩ := Prod.mk.inj same
        exact ⟨info, stored, rfl⟩
      · rintro ⟨found, present, rfl⟩
        obtain rfl := auditable key (by rw [present]; rfl)
        rw [Option.some.inj (present.symm.trans stored)]
    · exact fun number late => answerTo_of_none (silent _ late number.toNat_lt)

private theorem complete_iff_auditable :
    AlarmAudit.Complete alarms (activeCount alarms)
        (fun number => answerTo alarms format number.toNat) ↔
      Auditable alarms format := by
  cases format with
  | baseline => exact ⟨auditable_of_baseline_complete, baseline_complete_of_auditable⟩
  | extended => exact ⟨auditable_of_extended_complete, extended_complete_of_auditable⟩

end

/-- An audit is complete exactly if the alarms are on the first instances without a gap, four at most,
and in the extended format on the first instance only. -/
theorem alarm_audit_iff {format : DeviceIdent} (audit : AlarmAudit format) (library : OmciLibrary)
    (context : Nat) (spare : List UInt8) (onu : OmciOnu) :
    (∃ after count, audit.commands library context spare onu = some (after, count) ∧
        AlarmAudit.Complete onu.onuAlarmsInfo count (audit.reported library context spare after)) ↔
      Auditable onu.onuAlarmsInfo format := by
  have answers : audit.reported library context spare
      { onu with onuAlarmsInfo := OmciOnu.resetAlarmSequences onu.onuAlarmsInfo } =
        fun number => answerTo onu.onuAlarmsInfo format number.toNat := by
    funext number
    rw [AlarmAudit.reported_eq_answerTo, answerTo, answerTo, alarmAt_reset]
  rw [← complete_iff_auditable, AlarmAudit.commands_eq, ← answers]
  constructor
  · rintro ⟨after, count, commands, complete⟩
    cases commands
    exact complete
  · exact fun complete => ⟨_, _, rfl, complete⟩

/-- Baseline requests with transaction id 1. -/
def baselineAudit : AlarmAudit .baseline where
  getAllAlarms := firstMessage .getAllAlarms
  getAllAlarmsNext := fun number => firstMessage (.getAllAlarmsNext (some ⟨.onuData, number⟩))
  asks := rfl
  formatted := rfl
  continues := fun _ => rfl
  continuesFormatted := fun _ => rfl

/-- An ONU whose second UNI went down. -/
def secondUniDown : OmciOnu :=
  { OmciOnu.enabledOn .empty with
    onuAlarmsInfo := (uniStatusAlarm (fun _ => none) 258 true true).1 }

/-- One command is announced, and there is no answer to it. -/
theorem second_uni_alarm_not_reported : ∃ after,
    baselineAudit.commands summingLibrary 0 [] secondUniDown = some (after, 1) ∧
      baselineAudit.reported summingLibrary 0 [] after 0 = none :=
  ⟨_, rfl, rfl⟩

end Bbsim.Devices
