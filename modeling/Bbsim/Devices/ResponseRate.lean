import Mathlib.Data.Nat.Periodic
import Bbsim.Devices.OmciRun

/-! The OMCI response rate. The counter of an ONU goes from 1 to 10 and again from 1, and the
requests counted beyond the configured rate are dropped. -/

namespace Bbsim.Devices

open Foundation Omci

/-- Where the count of requests stands. -/
structure Pace where
  omciMsgCounter : UInt8
  omciResponseRate : UInt8
deriving DecidableEq

namespace Pace

def count (pace : Pace) : Pace :=
  { pace with
    omciMsgCounter :=
      if pace.omciMsgCounter < Onu.maxOmciMsgCounter then pace.omciMsgCounter + 1 else 1 }

def skips (pace : Pace) : Bool := pace.count.omciMsgCounter > pace.omciResponseRate

/-- None of the next requests is skipped. -/
def answers : Pace → Nat → Bool
  | _, 0 => true
  | pace, more + 1 => !pace.skips && pace.count.answers more

variable {pace : Pace}

theorem answers_succ_iff {more : Nat} :
    pace.answers (more + 1) = true ↔ pace.skips = false ∧ pace.count.answers more = true := by
  simp [answers]

theorem answers_snoc_iff {first : Nat} :
    pace.answers (first + 1) = true ↔
      pace.answers first = true ∧ (count^[first] pace).skips = false := by
  induction first generalizing pace with
  | zero => simp [answers]
  | succ before ih =>
    rw [answers_succ_iff, ih, answers_succ_iff, Function.iterate_succ_apply, and_assoc]

private theorem count_iterate_rate (pace : Pace) (requests : Nat) :
    (count^[requests] pace).omciResponseRate = pace.omciResponseRate := by
  induction requests with
  | zero => rfl
  | succ before ih => rw [Function.iterate_succ_apply', ← ih, count]

private theorem toNat_count (pace : Pace) :
    pace.count.omciMsgCounter.toNat =
      if pace.omciMsgCounter.toNat < 10 then pace.omciMsgCounter.toNat + 1 else 1 := by
  have limit : Onu.maxOmciMsgCounter.toNat = 10 := rfl
  rw [count, apply_ite UInt8.toNat]
  by_cases below : pace.omciMsgCounter < Onu.maxOmciMsgCounter
  · have small := UInt8.lt_iff_toNat_lt.mp below
    rw [if_pos below, if_pos (limit ▸ small), UInt8.toNat_add]
    exact Nat.mod_eq_of_lt (by simp; omega)
  · have large := fun less => below (UInt8.lt_iff_toNat_lt.mpr (limit ▸ less))
    rw [if_neg below, if_neg large]
    rfl

/-- From 0 the counter is one more than the number of earlier requests, modulo the period. -/
theorem toNat_count_iterate (fresh : pace.omciMsgCounter = 0) (earlier : Nat) :
    (count^[earlier + 1] pace).omciMsgCounter.toNat = earlier % 10 + 1 := by
  induction earlier with
  | zero =>
    rw [Function.iterate_one, toNat_count, fresh]
    rfl
  | succ before ih =>
    rw [Function.iterate_succ_apply', toNat_count, ih]
    split <;> omega

theorem skips_iff (fresh : pace.omciMsgCounter = 0) (earlier : Nat) :
    (count^[earlier] pace).skips = false ↔ earlier % 10 < pace.omciResponseRate.toNat := by
  have counted := toNat_count_iterate fresh earlier
  rw [Function.iterate_succ_apply'] at counted
  rw [skips, count_iterate_rate, decide_eq_false_iff_not, gt_iff_lt, UInt8.lt_iff_toNat_lt, counted]
  omega

/-- The numbers of one period that are below a limit. -/
theorem count_below (limit : Nat) {period numbers : Nat} (inside : numbers ≤ period) :
    Nat.count (fun number => number % period < limit) numbers = min limit numbers := by
  induction numbers with
  | zero => simp
  | succ before ih =>
    rw [Nat.count_succ, ih (by omega), Nat.mod_eq_of_lt inside]
    split <;> omega

/-- Ten requests in a row, wherever they begin. -/
theorem count_answered (fresh : pace.omciMsgCounter = 0) (first : Nat) :
    (List.range' first 10).countP (fun earlier => !(count^[earlier] pace).skips) =
      min pace.omciResponseRate.toNat 10 := by
  have periodic : Function.Periodic (fun earlier => earlier % 10 < pace.omciResponseRate.toNat) 10 :=
    fun earlier => by simp
  have answered (earlier : Nat) :
      (!(count^[earlier] pace).skips) = decide (earlier % 10 < pace.omciResponseRate.toNat) := by
    rw [Bool.eq_iff_iff, Bool.not_eq_true', skips_iff fresh, decide_eq_true_iff]
  have window := Nat.filter_Ico_card_eq_of_periodic first 10 _ periodic
  rw [Nat.Ico_eq_range', Nat.add_sub_cancel_left, count_below _ le_rfl] at window
  simp only [answered]
  rw [List.countP_eq_length_filter, ← window]
  rfl

end Pace

/-- What goes to VOLTHA. -/
structure OmciIndication where
  intfId : UInt32
  onuId : UInt32
  pkt : ResponsePacket

def OmciOutcome.isProcessed : OmciOutcome → Bool
  | .skipped => false
  | .handled _ => true

namespace OmciOnu

variable {library : OmciLibrary} {onu next : OmciOnu} {context : Nat} {spare : List UInt8}

def sendOmciIndication (onu : OmciOnu) (responsePkt : ResponsePacket) : OmciIndication :=
  ⟨onu.attached.onu.ponPortId, onu.attached.onu.id, responsePkt⟩

/-- What an ONU sends for a request. -/
def indications (onu : OmciOnu) : OmciOutcome → List OmciIndication
  | .skipped | .handled none => []
  | .handled (some responsePkt) => [onu.sendOmciIndication responsePkt]

def pace (onu : OmciOnu) : Pace :=
  ⟨onu.attached.onu.omciMsgCounter, onu.attached.onu.omciResponseRate⟩

private theorem ensures_handleSet_pace (request : SetRequest) :
    Ensures (onu.handleSet request) fun (next, _) => next.pace = onu.pace := by
  have port {changed : Onu} {result : OmciResult} (only : Onu.OnlyPorts onu.attached.onu changed) :
      (onu.withAttached (onu.attached.withOnu
        { changed with mibDataSync := syncAfter result changed.mibDataSync })).pace = onu.pace := by
    rw [only]
    rfl
  unfold handleSet
  split
  · refine (ensures_setPort_onlyPorts (fun _ => Onu.ensures_changeUni_onlyPorts)
      fun _ => Onu.ensures_changeUni_onlyPorts).mono ?_
    rintro ⟨next, result⟩ ⟨changed, only, rfl⟩
    exact port only
  split
  · refine (ensures_setPort_onlyPorts (fun _ => Onu.ensures_changePots_onlyPorts)
      fun _ => Onu.ensures_changePots_onlyPorts).mono ?_
    rintro ⟨next, result⟩ ⟨changed, only, rfl⟩
    exact port only
  split
  · cases request.administrativeState <;> trivial
  split
  · cases request.allocId with
    | none => trivial
    | some allocId =>
      simp only [AttachedOnu.setTCont]
      split
      · rfl
      · split <;> rfl
  · rfl

private theorem handleCreate_pace (request : MeBasePacket) :
    (onu.handleCreate request).1.pace = onu.pace := by
  unfold handleCreate
  split
  · simp only [AttachedOnu.createGemPort]
    split
    · rfl
    · split <;> rfl
  · rfl

theorem handleDelete_pace (request : MeBasePacket) : (onu.handleDelete request).pace = onu.pace := by
  unfold handleDelete
  split <;> rfl

/-- Processing moves the counter no further. -/
theorem ensures_pace (message : OmciMessage) :
    Ensures (onu.processOmci library context spare message) fun (next, _) =>
      next.pace = onu.pace := by
  refine (ensures_handled message).mono ?_
  rintro ⟨next, response⟩ (handled : Handled library spare message onu next response)
  cases handled with
  | set asked changed => exact (ensures_handleSet_pace _).value changed
  | create asked => exact handleCreate_pace _
  | delete asked => exact handleDelete_pace _
  | @endSoftwareDownload request images success => cases success <;> rfl
  | _ => rfl

variable {outcome : OmciOutcome} {message : OmciMessage}

private theorem handleOmciRequest_pace
    (returned : onu.handleOmciRequest library context spare message = .ok (next, outcome)) :
    next.pace = onu.pace.count ∧ outcome.isProcessed = !onu.pace.skips := by
  rcases handleOmciRequest_cases returned with ⟨skipped, rfl, rfl⟩ |
    ⟨answered, response, rfl, processed⟩
  · exact ⟨rfl, (congrArg not skipped).symm⟩
  · exact ⟨(ensures_pace message).value processed, (congrArg not answered).symm⟩

variable {attached : AttachedOnu}

private theorem entered_pace {context : Nat} {state : OnuState} :
    (onu.withAttached (attached.entered context state)).pace = (onu.withAttached attached).pace := by
  cases state with
  | enabled =>
    cases taken : attached.resources.isOnuIdAllocated attached.onu.id <;>
      simp [AttachedOnu.entered, taken, pace]
  | disabled =>
    simp only [AttachedOnu.entered, AttachedOnu.switchedOff, Onu.switchedOff, pace]
    split <;> simp
  | _ => rfl

theorem tryEvent_pace {tx : OnuTx} (tried : onu.attached.tryEvent context tx = .ok attached) :
    (onu.withAttached attached).pace = onu.pace := by
  obtain rfl := AttachedOnu.ensures_tryEvent.value tried
  cases onu.attached.onu.internalState.after tx with
  | none => rfl
  | some state => exact entered_pace

/-- The handler of requests alone counts them, and `CreateONU` alone sets the rate. -/
def KeepsPace (onu : OmciOnu) : OmciStep → Prop
  | .other attached _ => (onu.withAttached attached).pace = onu.pace
  | _ => True

/-- What came of a request; nothing comes of another step. -/
def outcomeOf (library : OmciLibrary) : OmciOnu × OmciStep → Option OmciOutcome
  | (onu, .request context spare message) =>
    (onu.handleOmciRequest library context spare message).toOption.map Prod.snd
  | _ => none

/-- The outcomes of the requests of a history, in their order. -/
def outcomes (library : OmciLibrary) (history : List (OmciOnu × OmciStep)) : List OmciOutcome :=
  history.filterMap (outcomeOf library)

/-- Each step is a request that is counted, or leaves the counter. -/
theorem step_pace {label : OmciStep} (taken : step library onu label = some next)
    (keeps : KeepsPace onu label) :
    (∃ outcome, outcomeOf library (onu, label) = some outcome ∧ next.pace = onu.pace.count ∧
        outcome.isProcessed = !onu.pace.skips) ∨
      (outcomeOf library (onu, label) = none ∧ next.pace = onu.pace) := by
  cases label with
  | request context spare message =>
    obtain ⟨⟨after, outcome⟩, handled, rfl⟩ := Option.map_eq_some_iff.mp taken
    have returned := eq_ok_of_toOption handled
    refine .inl ⟨outcome, ?_, handleOmciRequest_pace returned⟩
    rw [outcomeOf, handled, Option.map_some]
  | event context tx =>
    obtain ⟨-, tried⟩ := Option.ite_none_left_eq_some.mp taken
    obtain ⟨attached, found, rfl⟩ := Option.map_eq_some_iff.mp tried
    exact .inr ⟨rfl, tryEvent_pace (eq_ok_of_toOption found)⟩
  | other attached alarms =>
    obtain ⟨-, same⟩ := Option.ite_none_right_eq_some.mp taken
    obtain rfl := Option.some.inj same
    exact .inr ⟨rfl, keeps⟩

variable {start final : OmciOnu} {history : List (OmciOnu × OmciStep)}

/-- The counter has advanced by the requests, and each was judged at its place in the count. -/
theorem run_pace (run : Run (step library) start history final) (meets : Meets KeepsPace history) :
    final.pace = Pace.count^[(outcomes library history).length] start.pace ∧
      (outcomes library history).map OmciOutcome.isProcessed =
        (List.range (outcomes library history).length).map fun earlier =>
          !(Pace.count^[earlier] start.pace).skips := by
  induction run with
  | start => exact ⟨rfl, rfl⟩
  | @snoc history onu next label before taken ih =>
    obtain ⟨earlier, keeps⟩ := meets_snoc.mp meets
    obtain ⟨paced, judged⟩ := ih earlier
    rcases step_pace taken keeps with ⟨outcome, came, counted, processed⟩ | ⟨none, same⟩
    · have more : outcomes library (history ++ [(onu, label)]) =
          outcomes library history ++ [outcome] := by simp [outcomes, came]
      rw [more, List.length_append, List.length_singleton, List.range_succ, List.map_append,
        List.map_append, judged, List.map_singleton, List.map_singleton, processed, counted, paced,
        Function.iterate_succ_apply']
      exact ⟨rfl, rfl⟩
    · have more : outcomes library (history ++ [(onu, label)]) = outcomes library history := by
        simp [outcomes, none]
      rw [more, same]
      exact ⟨paced, judged⟩

/-- A skipped request moves the counter and sends nothing. -/
theorem handleOmciRequest_skipped
    (returned : onu.handleOmciRequest library context spare message = .ok (next, outcome))
    (skipped : outcome.isProcessed = false) :
    next = onu.withAttached (onu.attached.mapOnu fun inner =>
        { inner with omciMsgCounter := next.attached.onu.omciMsgCounter }) ∧
      onu.indications outcome = [] := by
  rcases handleOmciRequest_cases returned with ⟨-, rfl, rfl⟩ | ⟨-, response, rfl, -⟩
  · exact ⟨rfl, rfl⟩
  · cases skipped

/-- A window of a list whose items are determined by their places. -/
theorem map_window {Item Value : Type*} {value : Item → Value} {valueAt : Nat → Value}
    {earlier window later : List Item}
    (placed : (earlier ++ window ++ later).map value =
      (List.range (earlier ++ window ++ later).length).map valueAt) :
    window.map value = (List.range' earlier.length window.length).map valueAt := by
  have first := @List.range'_append_1 0 earlier.length window.length
  have all := @List.range'_append_1 0 (earlier.length + window.length) later.length
  rw [Nat.zero_add] at first all
  rw [List.length_append, List.length_append, List.range_eq_range', ← all, ← first, List.map_append,
    List.map_append, List.map_append, List.map_append] at placed
  have cut := List.append_inj_left placed (by simp)
  exact List.append_inj_right cut (by simp)

/-- Of ten consecutive requests as many are processed as the rate says, wherever in a run they begin,
and the others leave everything but the counter as it was. -/
theorem response_rate_exact (run : Run (step library) start history final)
    (meets : Meets KeepsPace history) (fresh : start.attached.onu.omciMsgCounter = 0) :
    (∀ earlier window later, outcomes library history = earlier ++ window ++ later →
      window.length = 10 → window.countP OmciOutcome.isProcessed =
        min start.attached.onu.omciResponseRate.toNat 10) ∧
    ∀ onu next context spare message outcome,
      (onu, OmciStep.request context spare message) ∈ history →
      onu.handleOmciRequest library context spare message = .ok (next, outcome) →
      outcome.isProcessed = false →
      next = onu.withAttached (onu.attached.mapOnu fun inner =>
          { inner with omciMsgCounter := next.attached.onu.omciMsgCounter }) ∧
        onu.indications outcome = [] := by
  refine ⟨fun earlier window later parts ten => ?_, fun onu next context spare message outcome _ =>
    handleOmciRequest_skipped⟩
  obtain ⟨-, judged⟩ := run_pace run meets
  rw [parts] at judged
  have place := congrArg (List.countP id) (map_window judged)
  rw [List.countP_map, List.countP_map, ten] at place
  exact place.trans (Pace.count_answered fresh earlier.length)

/-- An ONU that answers three requests of ten. -/
def threeOfTen : OmciOnu :=
  create ⟨Onu.create 1 0 0 [0, 0, 0, 1] [] [] 3, PonResources.empty⟩ ⟨0, 0, [], []⟩

private theorem step_mibUpload (library : OmciLibrary) (onu : OmciOnu) :
    step library onu (handles .mibUpload) = some onu.counted := by
  rw [handles, step, handleOmciRequest]
  cases onu.skips <;> rfl

/-- MIB uploads, one after another. -/
theorem run_mibUploads (library : OmciLibrary) (start : OmciOnu) (requests : Nat) :
    Run (step library) start
      ((List.range requests).map fun earlier => (counted^[earlier] start, handles .mibUpload))
      (counted^[requests] start) := by
  induction requests with
  | zero => exact .start
  | succ before ih =>
    rw [List.range_succ, List.map_append, List.map_singleton]
    refine ih.snoc ?_
    rw [Function.iterate_succ_apply']
    exact step_mibUpload library _

theorem response_rate_three : ∃ history final,
    Run (step summingLibrary) threeOfTen history final ∧ Meets KeepsPace history ∧
      (outcomes summingLibrary history).length = 10 ∧
      (outcomes summingLibrary history).countP OmciOutcome.isProcessed = 3 := by
  have run := run_mibUploads summingLibrary threeOfTen 10
  have meets : Meets KeepsPace ((List.range 10).map fun earlier =>
      (counted^[earlier] threeOfTen, handles .mibUpload)) := by
    intro entry member
    obtain ⟨earlier, -, rfl⟩ := List.mem_map.mp member
    trivial
  refine ⟨_, _, run, meets, rfl, ?_⟩
  exact (response_rate_exact run meets rfl).1 [] _ [] (by simp) rfl

end OmciOnu

end Bbsim.Devices
