import Bbsim.Omci.DownloadPlan
import Bbsim.Devices.ResponseRate

/-! A whole software download. The requests of a download plan, handled one after another by an
enabled ONU. -/

namespace Bbsim.Devices

open Foundation Omci

namespace OmciOnu

variable {library : OmciLibrary} {onu next : OmciOnu} {context : Nat} {spare : List UInt8}

variable {outcome : OmciOutcome}

/-- A request is skipped or processed, and counted either way. -/
theorem handleRequest_cases {message : OmciMessage}
    (returned : onu.handleOmciRequest library context spare message = .ok (next, outcome)) :
    next.pace = onu.pace.count ∧
      ((onu.pace.skips = true ∧ outcome = .skipped ∧ next.progress = onu.progress) ∨
        (onu.pace.skips = false ∧ ∃ response, outcome = .handled response ∧
          Processed library spare message onu.progress next.progress response)) := by
  rcases handleOmciRequest_cases returned with ⟨skipped, rfl, rfl⟩ |
    ⟨answered, response, rfl, processed⟩
  · exact ⟨rfl, .inl ⟨skipped, rfl, rfl⟩⟩
  · exact ⟨(ensures_pace message).value processed, .inr ⟨answered, response, rfl,
      (ensures_processed message).value processed⟩⟩

/-- The outcome of each message beside it. -/
def handleAll (library : OmciLibrary) (context : Nat) (spare : List UInt8) (onu : OmciOnu) :
    List OmciMessage → Except OmciFault (OmciOnu × List (OmciMessage × OmciOutcome))
  | [] => .ok (onu, [])
  | message :: rest =>
    (onu.handleOmciRequest library context spare message).bind fun (next, outcome) =>
      (handleAll library context spare next rest).map fun (final, outcomes) =>
        (final, (message, outcome) :: outcomes)

variable {final : OmciOnu} {message : OmciMessage} {messages rest : List OmciMessage}
  {outcomes : List (OmciMessage × OmciOutcome)}

theorem handleAll_cons_eq_ok :
    handleAll library context spare onu (message :: rest) = .ok (final, outcomes) ↔
      ∃ next outcome more, onu.handleOmciRequest library context spare message = .ok (next, outcome) ∧
        handleAll library context spare next rest = .ok (final, more) ∧
        outcomes = (message, outcome) :: more := by
  rw [handleAll]
  cases onu.handleOmciRequest library context spare message with
  | error fault => simp [Except.bind]
  | ok first =>
    obtain ⟨next, outcome⟩ := first
    cases handled : handleAll library context spare next rest with
    | error fault => simp [Except.bind, Except.map, handled]
    | ok last =>
      obtain ⟨final, more⟩ := last
      simp only [Except.bind, handled, Except.map, Except.ok.injEq, Prod.mk.injEq]
      constructor
      · rintro ⟨rfl, rfl⟩
        exact ⟨next, outcome, more, ⟨rfl, rfl⟩, by rw [handled], rfl⟩
      · rintro ⟨_, _, _, ⟨rfl, rfl⟩, same, rfl⟩
        obtain ⟨rfl, rfl⟩ := Prod.mk.inj (Except.ok.inj (handled.symm.trans same))
        exact ⟨rfl, rfl⟩

theorem handleAll_append_eq_ok :
    handleAll library context spare onu (messages ++ rest) = .ok (final, outcomes) ↔
      ∃ next before more, handleAll library context spare onu messages = .ok (next, before) ∧
        handleAll library context spare next rest = .ok (final, more) ∧
        outcomes = before ++ more := by
  induction messages generalizing onu outcomes with
  | nil =>
    constructor
    · intro handled
      exact ⟨onu, [], outcomes, rfl, handled, rfl⟩
    · rintro ⟨next, before, more, same, handled, rfl⟩
      cases same
      exact handled
  | cons message messages ih =>
    rw [List.cons_append, handleAll_cons_eq_ok]
    constructor
    · rintro ⟨first, outcome, others, handled, later, rfl⟩
      obtain ⟨next, before, more, between, last, rfl⟩ := ih.mp later
      exact ⟨next, _, more, handleAll_cons_eq_ok.mpr ⟨first, outcome, before, handled, between, rfl⟩,
        last, rfl⟩
    · rintro ⟨next, before, more, handled, last, rfl⟩
      obtain ⟨first, outcome, others, one, between, rfl⟩ := handleAll_cons_eq_ok.mp handled
      exact ⟨first, outcome, _, one, ih.mpr ⟨next, others, more, between, last, rfl⟩, rfl⟩

/-- A section without response, with its layer. -/
def isSilent : RequestLayer → Bool
  | .downloadSection (some _) => true
  | _ => false

def isAcknowledged : RequestLayer → Bool
  | .downloadSectionWithResponse (some _) => true
  | _ => false

def isSection (request : RequestLayer) : Bool := isSilent request || isAcknowledged request

variable {response : Option ResponsePacket} {before after : Progress}

section

variable (processed : Processed library spare message before after response)
include processed

theorem Processed.ofStart {request : StartSoftwareDownloadRequest}
    (asked : message.request = .startSoftwareDownload (some request)) :
    after = ⟨before.mibDataSync + 1, before.internalState.tried .startImageDownload,
      before.images.startDownload message.deviceIdentifier request⟩ := by
  cases processed with
  | started other same answered progress =>
    rw [asked] at same
    cases same
    exact progress
  | _ => simp_all [concernsImages, changesEntity]

variable {request : DownloadSectionRequest}

theorem Processed.ofSilent (asked : message.request = .downloadSection (some request)) :
    ∃ images, before.images.downloadSection request = .ok images ∧
      after = ⟨before.mibDataSync, before.internalState.tried .progressImageDownload, images⟩ := by
  cases processed with
  | received other images same appended progress =>
    rw [asked] at same
    cases same
    exact ⟨images, appended, progress⟩
  | _ => simp_all [concernsImages, changesEntity]

theorem Processed.ofAcknowledged
    (asked : message.request = .downloadSectionWithResponse (some request)) :
    resultOf response = some .success ∧
      after = { before with images := before.images.downloadSectionWithResponse request } := by
  cases processed with
  | acknowledged other same answered progress =>
    rw [asked] at same
    cases same
    exact ⟨answered, progress⟩
  | _ => simp_all [concernsImages, changesEntity]

theorem Processed.ofEnd {request : EndSoftwareDownloadRequest}
    (asked : message.request = .endSoftwareDownload (some request)) :
    ∃ images success, before.images.handleEndSoftwareDownloadRequest library.checksum spare request =
        .ok (images, success) ∧ resultOf response = some (endResult success) ∧
      after = ⟨syncAfter (endResult success) before.mibDataSync,
        before.internalState.tried (endTx success), images⟩ := by
  cases processed with
  | ended other images success same judged answered progress =>
    rw [asked] at same
    cases same
    exact ⟨images, success, judged, answered, progress⟩
  | _ => simp_all [concernsImages, changesEntity]

/-- What a section that is processed does to the state machine and to the counters. -/
theorem Processed.ofSection (isSection : isSection message.request = true) :
    after.internalState = (if isSilent message.request then
        before.internalState.tried .progressImageDownload else before.internalState) ∧
      after.images.imageSoftwareExpectedSections = before.images.imageSoftwareExpectedSections ∧
      after.images.imageSoftwareReceivedSections =
        before.images.imageSoftwareReceivedSections + 1 := by
  cases asked : message.request with
  | downloadSection layer =>
    cases layer with
    | none => simp [asked, OmciOnu.isSection, isSilent, isAcknowledged] at isSection
    | some request =>
      obtain ⟨images, appended, rfl⟩ := processed.ofSilent asked
      exact ⟨rfl, (congrArg _ (SoftwareImages.downloadSection_eq appended)).trans rfl,
        (congrArg _ (SoftwareImages.downloadSection_eq appended)).trans rfl⟩
  | downloadSectionWithResponse layer =>
    cases layer with
    | none => simp [asked, OmciOnu.isSection, isSilent, isAcknowledged] at isSection
    | some request =>
      obtain ⟨-, rfl⟩ := processed.ofAcknowledged asked
      exact ⟨rfl, rfl, rfl⟩
  | _ => simp [asked, OmciOnu.isSection, isSilent, isAcknowledged] at isSection

end

/-- A property of states that sections without response keep is kept by sections. -/
theorem sections_state (holds : OnuState → Prop)
    (sections : ∀ message ∈ messages, isSection message.request = true)
    (kept : ∀ message ∈ messages, isSilent message.request = true → ∀ state, holds state →
      holds (state.tried .progressImageDownload))
    (initial : holds onu.progress.internalState)
    (handled : handleAll library context spare onu messages = .ok (final, outcomes)) :
    holds final.progress.internalState := by
  induction messages generalizing onu outcomes with
  | nil =>
    obtain ⟨rfl, -⟩ := Prod.mk.inj (Except.ok.inj handled)
    exact initial
  | cons message rest ih =>
    obtain ⟨next, outcome, more, first, later, -⟩ := handleAll_cons_eq_ok.mp handled
    have isSection := sections message List.mem_cons_self
    refine ih (fun other member => sections other (List.mem_cons_of_mem _ member))
      (fun other member => kept other (List.mem_cons_of_mem _ member)) ?_ later
    rcases (handleRequest_cases first).2 with
      ⟨-, -, same⟩ | ⟨-, response, -, processed⟩
    · rw [same]
      exact initial
    · rw [(processed.ofSection isSection).1]
      split
      · next silent => exact kept message List.mem_cons_self silent _ initial
      · exact initial

/-- The counters after sections of which some may have been skipped. -/
structure Counted (onu final : OmciOnu) (count : Nat) : Prop where
  pace : final.pace = Pace.count^[count] onu.pace
  expected : final.images.imageSoftwareExpectedSections = onu.images.imageSoftwareExpectedSections
  received : final.images.imageSoftwareReceivedSections.toNat ≤
    onu.images.imageSoftwareReceivedSections.toNat + count
  complete : final.images.imageSoftwareReceivedSections.toNat =
    onu.images.imageSoftwareReceivedSections.toNat + count → onu.pace.answers count = true

private theorem sections_counted (sections : ∀ message ∈ messages, isSection message.request = true)
    (room : onu.images.imageSoftwareReceivedSections.toNat + messages.length < 2 ^ 32)
    (handled : handleAll library context spare onu messages = .ok (final, outcomes)) :
    Counted onu final messages.length := by
  induction messages generalizing onu outcomes with
  | nil =>
    obtain ⟨rfl, -⟩ := Prod.mk.inj (Except.ok.inj handled)
    exact ⟨rfl, rfl, le_rfl, fun _ => rfl⟩
  | cons message rest ih =>
    obtain ⟨next, outcome, more, first, later, -⟩ := handleAll_cons_eq_ok.mp handled
    have isSection := sections message List.mem_cons_self
    have others : ∀ other ∈ rest, OmciOnu.isSection other.request = true :=
      fun other member => sections other (List.mem_cons_of_mem _ member)
    rw [List.length_cons] at room ⊢
    obtain ⟨paced, cases⟩ := handleRequest_cases first
    rcases cases with ⟨skips, -, same⟩ | ⟨answered, response, -, processed⟩
    · have images : next.images = onu.images := congrArg Progress.images same
      have counted : Counted next final rest.length := ih others (by rw [images]; omega) later
      refine ⟨?_, ?_, ?_, ?_⟩
      · rw [counted.pace, paced, Function.iterate_succ_apply]
      · rw [counted.expected, images]
      · have bounded := counted.received
        rw [images] at bounded
        omega
      · intro all
        have bounded := counted.received
        rw [images] at bounded
        omega
    · obtain ⟨-, expected, received⟩ := processed.ofSection isSection
      have more : next.images.imageSoftwareReceivedSections.toNat =
          onu.images.imageSoftwareReceivedSections.toNat + 1 := by
        refine (congrArg UInt32.toNat received).trans ?_
        rw [UInt32.toNat_add]
        exact Nat.mod_eq_of_lt (by change onu.images.imageSoftwareReceivedSections.toNat + 1 < _; omega)
      have counted : Counted next final rest.length := ih others (by omega) later
      refine ⟨?_, ?_, ?_, ?_⟩
      · rw [counted.pace, paced, Function.iterate_succ_apply]
      · rw [counted.expected]
        exact expected
      · have bounded := counted.received
        omega
      · intro all
        rw [Pace.answers_succ_iff]
        exact ⟨answered, paced ▸ counted.complete (by omega)⟩

/-- A request that is not skipped is processed, unless its handler crashes. -/
theorem exists_handled (answered : onu.pace.skips = false)
    (returns : Returns (onu.counted.processOmci library context spare message)) :
    ∃ next response, onu.handleOmciRequest library context spare message =
        .ok (next, .handled response) ∧ next.pace = onu.pace.count ∧
      Processed library spare message onu.progress next.progress response := by
  obtain ⟨⟨next, response⟩, processed⟩ := returns_iff.mp returns
  have passes : ¬ onu.skips = true := by
    change ¬ onu.pace.skips = true
    rw [answered]
    exact Bool.false_ne_true
  refine ⟨next, response, ?_, (ensures_pace message).value processed,
    (ensures_processed message).value processed⟩
  rw [handleOmciRequest, if_neg passes, processed]
  rfl

private theorem returns_silent {request : DownloadSectionRequest}
    (asked : message.request = .downloadSection (some request))
    (appends : Returns (onu.images.downloadSection request)) :
    Returns (onu.processOmci library context spare message) := by
  unfold processOmci
  rw [asked]
  refine yields_map.mpr ?_
  rw [handleSection_eq, yields_map, yields_mapError]
  exact appends

private theorem returns_end {request : EndSoftwareDownloadRequest}
    (asked : message.request = .endSoftwareDownload (some request))
    (judges : Returns (onu.images.handleEndSoftwareDownloadRequest library.checksum spare request)) :
    Returns (onu.processOmci library context spare message) := by
  unfold processOmci
  rw [asked]
  refine yields_map.mpr ?_
  rw [handleEnd_eq, yields_map, yields_mapError]
  exact judges

/-- With-response sections and the End. -/
def awaitsSuccess : RequestLayer → Bool
  | .downloadSectionWithResponse _ | .endSoftwareDownload _ => true
  | _ => false

/-- Everything that is to succeed did. -/
def AllSucceed (outcomes : List (OmciMessage × OmciOutcome)) : Prop :=
  ∀ entry ∈ outcomes, awaitsSuccess entry.1.request = true →
    ∃ response, entry.2 = .handled response ∧ resultOf response = some .success

/-- The ONU has the first sections of the download. -/
structure Received (plan : DownloadPlan) (onu : OmciOnu) (count : Nat) : Prop where
  expected : onu.images.imageSoftwareExpectedSections.toNat = plan.sectionCount
  received : onu.images.imageSoftwareReceivedSections.toNat = count
  data : onu.images.imageSectionData = plan.brought count
  state : onu.progress.internalState =
    if count = 0 then .imageDownloadStarted else .imageDownloadInProgress
  version : 0 < count → onu.images.inDownloadImageVersion = plan.image.take 14

variable {plan : DownloadPlan} {count : Nat}

theorem Received.append (received : Received plan onu count) (missing : count < plan.sectionCount)
    (same : next.images = { onu.images.appendSection (plan.sectionData count) with
      inDownloadImageVersion := next.images.inDownloadImageVersion })
    (named : next.images.inDownloadImageVersion = plan.image.take 14)
    (state : next.progress.internalState = .imageDownloadInProgress) :
    Received plan next (count + 1) := by
  have room : count + 1 < 2 ^ 32 := Nat.lt_of_le_of_lt missing plan.sectionCount_lt
  refine ⟨?_, ?_, ?_, state, fun _ => named⟩
  · rw [same]
    exact received.expected
  · rw [same]
    change (onu.images.imageSoftwareReceivedSections + 1).toNat = count + 1
    rw [UInt32.toNat_add, received.received]
    exact Nat.mod_eq_of_lt room
  · rw [same]
    change onu.images.imageSectionData ++ plan.sectionData count = _
    rw [received.data, plan.brought_succ missing]

/-- A silent section is appended, and the first one names the version. -/
theorem Received.downloadSection (received : Received plan onu count)
    (first : plan.endsWindow 0 = false) :
    ∃ images, onu.images.downloadSection (plan.sectionLayer count) = .ok images ∧
      images.inDownloadImageVersion = plan.image.take 14 := by
  unfold SoftwareImages.downloadSection SoftwareImages.nameVersion
  by_cases zero : count = 0
  · subst zero
    obtain ⟨-, long, version⟩ := plan.sectionData_zero first
    have none : onu.images.imageSoftwareReceivedSections = 0 := UInt32.toNat_inj.mp received.received
    have named : ¬ (plan.sectionLayer 0).sectionData.length < 14 := Nat.not_lt.mpr long
    rw [if_pos none, if_neg named]
    exact ⟨_, rfl, version⟩
  · have some : ¬ onu.images.imageSoftwareReceivedSections = 0 := by
      intro none
      exact zero (received.received.symm.trans (congrArg UInt32.toNat none))
    rw [if_neg some]
    exact ⟨_, rfl, received.version (Nat.pos_of_ne_zero zero)⟩

/-- One section. Where the first section is silent, all of them go through. -/
theorem Received.step (library : OmciLibrary) (context : Nat) (spare : List UInt8)
    (received : Received plan onu count) (first : plan.endsWindow 0 = false)
    (missing : count < plan.sectionCount) (answered : onu.pace.skips = false)
    (asked : message.request = plan.sectionRequest count) :
    ∃ next outcome, onu.handleOmciRequest library context spare message = .ok (next, outcome) ∧
      next.pace = onu.pace.count ∧ Received plan next (count + 1) ∧
      AllSucceed [(message, outcome)] := by
  have ongoing : 0 < count → onu.progress.internalState = .imageDownloadInProgress := by
    intro later
    rw [received.state, if_neg (Nat.pos_iff_ne_zero.mp later)]
  unfold DownloadPlan.sectionRequest at asked
  split at asked
  · next ends =>
    have later : 0 < count := by
      by_contra zero
      obtain rfl : count = 0 := by omega
      rw [first] at ends
      cases ends
    obtain ⟨next, response, handled, paced, processed⟩ :=
      @exists_handled library onu context spare message answered
        (by unfold processOmci; rw [asked]; trivial)
    obtain ⟨success, progress⟩ := processed.ofAcknowledged asked
    have images : next.images = onu.images.appendSection (plan.sectionData count) :=
      congrArg Progress.images progress
    refine ⟨next, _, handled, paced, received.append missing ?_ ?_ ?_, ?_⟩
    · rw [images]
    · rw [images]
      exact received.version later
    · exact (congrArg Progress.internalState progress).trans (ongoing later)
    · intro entry member _
      obtain rfl := List.mem_singleton.mp member
      exact ⟨response, rfl, success⟩
  · next silent =>
    obtain ⟨images, appended, named⟩ := received.downloadSection first
    obtain ⟨next, response, handled, paced, processed⟩ :=
      @exists_handled library onu context spare message answered
        (returns_silent asked (returns_iff.mpr ⟨images, appended⟩))
    obtain ⟨other, same, progress⟩ := processed.ofSilent asked
    obtain rfl := Except.ok.inj (appended.symm.trans same)
    have kept : next.images = images := congrArg Progress.images progress
    refine ⟨next, _, handled, paced, received.append missing ?_ ?_ ?_, ?_⟩
    · rw [kept]
      exact SoftwareImages.downloadSection_eq appended
    · rw [kept]
      exact named
    · refine (congrArg Progress.internalState progress).trans ?_
      change onu.progress.internalState.tried _ = _
      rw [received.state]
      split <;> rfl
    · intro entry member awaits
      obtain rfl := List.mem_singleton.mp member
      rw [asked] at awaits
      cases awaits

/-- All sections from one on. -/
theorem Received.run (library : OmciLibrary) (context : Nat) (spare : List UInt8) {more : Nat}
    (received : Received plan onu count) (first : plan.endsWindow 0 = false)
    (inside : count + more ≤ plan.sectionCount)
    (answered : onu.pace.answers more = true)
    (sent : messages.map OmciMessage.request = (List.range' count more).map plan.sectionRequest) :
    ∃ final outcomes, handleAll library context spare onu messages = .ok (final, outcomes) ∧
      final.pace = Pace.count^[more] onu.pace ∧ Received plan final (count + more) ∧
      AllSucceed outcomes := by
  induction more generalizing onu count messages with
  | zero =>
    obtain rfl : messages = [] := List.map_eq_nil_iff.mp sent
    exact ⟨onu, [], rfl, rfl, received, fun entry member => absurd member List.not_mem_nil⟩
  | succ more ih =>
    rw [List.range'_succ, List.map_cons] at sent
    obtain ⟨message, rest, rfl, asked, later⟩ := List.map_eq_cons_iff.mp sent
    obtain ⟨passes, others⟩ := Pace.answers_succ_iff.mp answered
    obtain ⟨next, outcome, handled, paced, received, succeeds⟩ :=
      received.step library context spare first (by omega) passes asked
    obtain ⟨final, outcomes, remaining, pace, received, allSucceed⟩ :=
      ih received (by omega) (paced ▸ others) later
    refine ⟨final, (message, outcome) :: outcomes,
      handleAll_cons_eq_ok.mpr ⟨next, outcome, outcomes, handled, remaining, rfl⟩, ?_, ?_, ?_⟩
    · rw [pace, paced, Function.iterate_succ_apply]
    · rw [Nat.add_assoc, Nat.add_comm 1 more] at received
      exact received
    · intro entry member
      rcases List.mem_cons.mp member with same | later
      · exact succeeds entry (List.mem_singleton.mpr same)
      · exact allSucceed entry later

/-- The End of a download that brought all sections finds the image right. -/
theorem Received.verified (received : Received plan onu plan.sectionCount) :
    onu.images.handleEndSoftwareDownloadRequest library.checksum spare
      (plan.endLayer library.checksum) = .ok (onu.images.verified, true) := by
  have goes : ¬ (0 < onu.images.imageSoftwareReceivedSections ∧
      (plan.endLayer library.checksum).isAbort = true) := by
    rw [plan.endLayer_isAbort]
    exact fun aborts => Bool.false_ne_true aborts.2
  have all : ¬ onu.images.imageSoftwareExpectedSections ≠ onu.images.imageSoftwareReceivedSections :=
    not_not.mpr (UInt32.toNat_inj.mp (received.expected.trans received.received.symm))
  have bytes : onu.images.imageBytes spare plan.imageSize = .ok plan.image := by
    have within : plan.imageSize.toNat ≤ onu.images.imageSectionData.length := by
      rw [received.data, plan.sized]
      exact plan.length_le_brought
    rw [SoftwareImages.imageBytes_eq within, received.data, plan.image_of_brought]
  rw [SoftwareImages.handleEndSoftwareDownloadRequest, if_neg goes, if_neg all]
  change Except.map _ (onu.images.imageBytes spare plan.imageSize) = _
  rw [bytes]
  exact congrArg Except.ok (if_neg (not_not.mpr rfl))

/-- The download succeeds: all answers that tell are a success, the ONU has completed it, and the standby
version is the one the image begins with. -/
def Downloads (library : OmciLibrary) (context : Nat) (spare : List UInt8) (plan : DownloadPlan)
    (onu : OmciOnu) (messages : List OmciMessage) : Prop :=
  ∃ final outcomes, handleAll library context spare onu messages = .ok (final, outcomes) ∧
    AllSucceed outcomes ∧ final.progress.internalState = .imageDownloadComplete ∧
    final.images.standbyImageVersion = plan.image.take 14

/-- The messages carry the requests of the plan, in its message set. -/
structure Sends (plan : DownloadPlan) (checksum : List UInt8 → UInt32)
    (messages : List OmciMessage) : Prop where
  requests : messages.map OmciMessage.request = plan.requests checksum
  deviceIdentifier : ∀ message ∈ messages, message.deviceIdentifier = plan.deviceIdentifier

theorem Sends.split {checksum : List UInt8 → UInt32} (sends : Sends plan checksum messages) :
    ∃ start sections last, messages = start :: (sections ++ [last]) ∧
      start.request = plan.startRequest ∧ start.deviceIdentifier = plan.deviceIdentifier ∧
      sections.map OmciMessage.request = (List.range plan.sectionCount).map plan.sectionRequest ∧
      last.request = .endSoftwareDownload (some (plan.endLayer checksum)) := by
  obtain ⟨start, rest, rfl, asked, later⟩ := List.map_eq_cons_iff.mp sends.requests
  obtain ⟨sections, ends, rfl, sent, finish⟩ := List.map_eq_append_iff.mp later
  obtain ⟨last, none, rfl, ended, nothing⟩ := List.map_eq_cons_iff.mp finish
  obtain rfl := List.map_eq_nil_iff.mp nothing
  exact ⟨start, sections, last, rfl, asked, sends.deviceIdentifier start List.mem_cons_self, sent, ended⟩

theorem received_start {start : OmciMessage} (enabled : onu.progress.internalState = .enabled)
    (named : start.deviceIdentifier = plan.deviceIdentifier)
    (progress : next.progress =
      ⟨onu.progress.mibDataSync + 1, onu.progress.internalState.tried .startImageDownload,
        onu.images.startDownload start.deviceIdentifier
          ⟨plan.entity, plan.windowField, plan.imageSize⟩⟩) : Received plan next 0 := by
  have images : next.images = onu.images.startDownload start.deviceIdentifier
      ⟨plan.entity, plan.windowField, plan.imageSize⟩ := congrArg Progress.images progress
  refine ⟨?_, ?_, ?_, ?_, fun some => absurd some (Nat.lt_irrefl 0)⟩
  · rw [images, SoftwareImages.startDownload_imageSoftwareExpectedSections, named]
    exact plan.expectedSections_toNat
  · rw [images]
    rfl
  · rw [images, plan.brought_zero]
    rfl
  · rw [progress, enabled]
    rfl

private theorem downloads_of_silent (sends : Sends plan library.checksum messages)
    (enabled : onu.progress.internalState = .enabled) (first : plan.endsWindow 0 = false)
    (answered : onu.pace.answers (plan.sectionCount + 2) = true) :
    Downloads library context spare plan onu messages := by
  obtain ⟨start, sections, last, rfl, asked, named, sent, ended⟩ := sends.split
  obtain ⟨passes, others⟩ := Pace.answers_succ_iff.mp answered
  obtain ⟨started, response, handled, paced, processed⟩ :=
    @exists_handled library onu context spare start passes (by
      unfold processOmci
      rw [asked]
      refine yields_map.mpr ?_
      rw [imageRequest_eq rfl]
      trivial)
  obtain ⟨inside, lastPasses⟩ := Pace.answers_snoc_iff.mp others
  obtain ⟨full, outcomes, between, pace, received, succeeds⟩ :=
    (received_start enabled named (processed.ofStart asked)).run library context spare first
      (Nat.zero_add _).le (paced ▸ inside) (List.range_eq_range' ▸ sent)
  rw [Nat.zero_add] at received
  obtain ⟨final, answer, finished, -, processed⟩ :=
    @exists_handled library full context spare last (by rw [pace, paced]; exact lastPasses)
      (returns_end ended (returns_iff.mpr ⟨_, received.verified⟩))
  obtain ⟨images, verdict, judged, success, completed⟩ := processed.ofEnd ended
  obtain ⟨rfl, rfl⟩ := Prod.mk.inj (Except.ok.inj (judged.symm.trans received.verified))
  refine ⟨final, (start, .handled response) :: (outcomes ++ [(last, .handled answer)]), ?_, ?_, ?_, ?_⟩
  · refine handleAll_cons_eq_ok.mpr ⟨started, _, _, handled, ?_, rfl⟩
    refine handleAll_append_eq_ok.mpr ⟨full, outcomes, _, between, ?_, rfl⟩
    exact handleAll_cons_eq_ok.mpr ⟨final, _, [], finished, rfl, rfl⟩
  · intro entry member awaits
    rcases List.mem_cons.mp member with rfl | later
    · rw [asked] at awaits
      cases awaits
    · rcases List.mem_append.mp later with among | final
      · exact succeeds entry among awaits
      · obtain rfl := List.mem_singleton.mp final
        exact ⟨answer, rfl, success⟩
  · have several : ¬ plan.sectionCount = 0 := Nat.pos_iff_ne_zero.mp plan.sectionCount_pos
    rw [completed, received.state, if_neg several]
    rfl
  · have images : final.images = full.images.verified := congrArg Progress.images completed
    rw [images]
    exact received.version plan.sectionCount_pos

theorem isSection_sectionRequest (index : Nat) : isSection (plan.sectionRequest index) = true := by
  unfold DownloadPlan.sectionRequest
  split <;> rfl

private theorem sections_of_sent {sections : List OmciMessage}
    (sent : sections.map OmciMessage.request = (List.range plan.sectionCount).map plan.sectionRequest) :
    sections.length = plan.sectionCount ∧ ∀ message ∈ sections, ∃ index < plan.sectionCount,
      message.request = plan.sectionRequest index := by
  constructor
  · simpa using congrArg List.length sent
  · intro message member
    have among : message.request ∈ sections.map OmciMessage.request :=
      List.mem_map_of_mem member
    rw [sent] at among
    obtain ⟨index, inside, same⟩ := List.mem_map.mp among
    exact ⟨index, List.mem_range.mp inside, same.symm⟩

section

variable {sections : List OmciMessage}
  (areSections : ∀ message ∈ sections, isSection message.request = true)
  (between : handleAll library context spare onu sections = .ok (final, outcomes))

include areSections between

/-- Sections do not complete a download. -/
theorem sections_incomplete (incomplete : onu.progress.internalState ≠ .imageDownloadComplete) :
    final.progress.internalState ≠ .imageDownloadComplete := by
  refine sections_state (· ≠ .imageDownloadComplete) areSections (fun _ _ _ state other => ?_)
    incomplete between
  intro complete
  cases (OnuState.tried_complete other complete).2

/-- Without a Start they do nothing to the state. -/
theorem sections_idle (enabled : onu.progress.internalState = .enabled) :
    final.progress.internalState = .enabled := by
  refine sections_state (· = .enabled) areSections (fun _ _ _ state other => ?_) enabled between
  rw [other]
  rfl

/-- Sections that ask for a response leave the download as the Start left it. -/
theorem sections_waiting (answered : ∀ message ∈ sections, isSilent message.request = false)
    (started : onu.progress.internalState = .imageDownloadStarted) :
    final.progress.internalState = .imageDownloadStarted := by
  refine sections_state (· = .imageDownloadStarted) areSections (fun message member silent => ?_)
    started between
  cases (answered message member).symm.trans silent

end

/-- A success at the End means that the download was in progress and all sections had come. -/
theorem ended_successfully {last : OmciMessage}
    (asked : last.request = .endSoftwareDownload (some (plan.endLayer library.checksum)))
    (handled : onu.handleOmciRequest library context spare last = .ok (final, outcome))
    (succeeds : AllSucceed [(last, outcome)])
    (was : onu.progress.internalState ≠ .imageDownloadComplete)
    (complete : final.progress.internalState = .imageDownloadComplete) :
    onu.pace.skips = false ∧ onu.progress.internalState = .imageDownloadInProgress ∧
      onu.images.imageSoftwareExpectedSections = onu.images.imageSoftwareReceivedSections := by
  obtain ⟨response, answered, -⟩ := succeeds (last, outcome) List.mem_cons_self (by rw [asked]; rfl)
  rcases (handleRequest_cases handled).2 with ⟨-, skipped, -⟩ |
    ⟨passes, given, same, processed⟩
  · cases skipped.symm.trans answered
  · obtain rfl := OmciOutcome.handled.inj (same.symm.trans answered)
    obtain ⟨images, verdict, judged, -, state⟩ := processed.ofEnd asked
    have ongoing := OnuState.tried_complete was
      ((congrArg Progress.internalState state).symm.trans complete)
    refine ⟨passes, ongoing.1, ?_⟩
    rcases SoftwareImages.end_cases judged with ⟨aborts, -, -⟩ | ⟨verified, -, -⟩ | ⟨-, -, -, failed⟩
    · have abort := (of_decide_eq_true aborts).2
      rw [plan.endLayer_isAbort] at abort
      cases abort
    · exact (of_decide_eq_true verified).2.1
    · cases failed
      cases ongoing.2

private theorem silent_of_downloads (sends : Sends plan library.checksum messages)
    (enabled : onu.progress.internalState = .enabled)
    (downloads : Downloads library context spare plan onu messages) :
    plan.endsWindow 0 = false ∧ onu.pace.answers (plan.sectionCount + 2) = true := by
  obtain ⟨start, sections, last, rfl, asked, named, sent, ended⟩ := sends.split
  obtain ⟨final, _, handled, succeeds, complete, -⟩ := downloads
  obtain ⟨started, first, _, handledStart, later, rfl⟩ := handleAll_cons_eq_ok.mp handled
  obtain ⟨full, before, _, between, finish, rfl⟩ := handleAll_append_eq_ok.mp later
  obtain ⟨_, outcome, _, handledEnd, nothing, rfl⟩ := handleAll_cons_eq_ok.mp finish
  cases nothing
  obtain ⟨counts, members⟩ := sections_of_sent sent
  have areSections : ∀ message ∈ sections, isSection message.request = true := by
    intro message member
    obtain ⟨index, -, same⟩ := members message member
    rw [same]
    exact isSection_sectionRequest index
  obtain ⟨paced, startCases⟩ := handleRequest_cases handledStart
  have startState : started.progress.internalState ≠ .imageDownloadComplete := by
    rcases startCases with ⟨-, -, same⟩ | ⟨-, response, -, processed⟩
    · rw [same, enabled]
      decide
    · rw [processed.ofStart asked, enabled]
      exact (by decide : OnuState.enabled.tried .startImageDownload ≠ .imageDownloadComplete)
  obtain ⟨lastPasses, ongoing, all⟩ := ended_successfully ended handledEnd
    (fun entry member => succeeds entry (by simp_all))
    (sections_incomplete areSections between startState) complete
  rcases startCases with ⟨-, -, same⟩ | ⟨passes, response, -, processed⟩
  · -- a Start that is skipped leaves the ONU enabled
    have idle := sections_idle areSections between (by rw [same]; exact enabled)
    rw [idle] at ongoing
    cases ongoing
  · have received : Received plan started 0 := received_start enabled named (processed.ofStart asked)
    constructor
    · by_contra ends
      have answered : ∀ message ∈ sections, isSilent message.request = false := by
        intro message member
        obtain ⟨index, inside, same⟩ := members message member
        rw [same, DownloadPlan.sectionRequest,
          if_pos (plan.endsWindow_of_zero (by simpa using ends) inside)]
        rfl
      have waiting := sections_waiting areSections between answered received.state
      rw [waiting] at ongoing
      cases ongoing
    · have counted := sections_counted areSections
        (by rw [received.received, counts, Nat.zero_add]; exact plan.sectionCount_lt) between
      rw [counts] at counted
      have arrived : full.images.imageSoftwareReceivedSections.toNat = plan.sectionCount := by
        rw [← all, counted.expected]
        exact received.expected
      have inside := counted.complete (by rw [arrived, received.received, Nat.zero_add])
      rw [Pace.answers_succ_iff, Pace.answers_snoc_iff, ← paced, ← counted.pace]
      exact ⟨passes, inside, lastPasses⟩

/-- An enabled ONU completes a download that is sent to it correctly exactly if windows have two
sections or more, the image is longer than one section, and the response rate lets all requests pass. -/
theorem download_succeeds_iff (plan : DownloadPlan) (sends : Sends plan library.checksum messages)
    (enabled : onu.progress.internalState = .enabled) :
    Downloads library context spare plan onu messages ↔
      2 ≤ plan.windowSize ∧ plan.sectionSize < plan.image.length ∧
        onu.pace.answers (plan.sectionCount + 2) = true := by
  rw [← and_assoc, ← plan.endsWindow_zero_iff]
  exact ⟨silent_of_downloads sends enabled, fun ⟨first, answered⟩ =>
    downloads_of_silent sends enabled first answered⟩

/-- Forty bytes in two baseline sections, the second one padded. -/
def twoSections (windowSize : Nat) (windowed : 1 ≤ windowSize) : DownloadPlan where
  deviceIdentifier := .baseline
  entity := ⟨7, 1⟩
  image := List.replicate 40 0x41
  imageSize := 40
  windowSize := windowSize
  windowField := UInt8.ofNat (windowSize - 1)
  sectionNumber := fun index => UInt8.ofNat (index % windowSize)
  padding := List.replicate 22 0
  nonempty := List.cons_ne_nil _ _
  sized := rfl
  windowed := windowed

def sent (plan : DownloadPlan) : List OmciMessage :=
  (plan.requests summingLibrary.checksum).map firstMessage

private theorem sends_sent (baseline : plan.deviceIdentifier = .baseline) :
    Sends plan summingLibrary.checksum (sent plan) := by
  constructor
  · rw [sent, List.map_map]
    exact List.map_id _
  · intro message member
    obtain ⟨request, -, rfl⟩ := List.mem_map.mp member
    exact baseline.symm

theorem download_succeeds_windowOfTwo :
    Downloads summingLibrary 0 [] (twoSections 2 (by decide)) (enabledOn .empty)
      (sent (twoSections 2 (by decide))) :=
  (download_succeeds_iff _ (sends_sent rfl) rfl).mpr ⟨by decide, by decide, by decide⟩

/-- In windows of one section every section asks for a response, and the download never leaves
`image_download_started`. -/
theorem windows_of_one_fail :
    ¬ Downloads summingLibrary 0 [] (twoSections 1 (by decide)) (enabledOn .empty)
      (sent (twoSections 1 (by decide))) := by
  rintro ⟨final, outcomes, handled, -, complete, -⟩
  have stuck : (handleAll summingLibrary 0 [] (enabledOn .empty)
      (sent (twoSections 1 (by decide)))).toOption.any
        (fun after => after.1.progress.internalState = .imageDownloadStarted) = true := by
    decide +kernel
  rw [handled] at stuck
  cases (of_decide_eq_true stuck).symm.trans complete

end OmciOnu

end Bbsim.Devices
