import Bbsim.Dmi.Inventory
import Bbsim.Foundation.FiniteMap

/-! Events with thresholds. The configured events of the DMI server, and the event that is made of a
sensor: it observes a random value, which is drawn from the marks of the configuration after they
are narrowed to 32 bits. -/

namespace Bbsim.Dmi

open Foundation

/-- `dmi.EventIds`, with those that can be generated by name. -/
inductive EventId where
  | fanFailure
  | fanFailureRecovered
  | transceiverPlugIn
  | transceiverPlugOut
  | psuFailure
  | psuFailureRecovered
  | hwDeviceTemperatureAboveCritical
  | hwDeviceTemperatureAboveCriticalRecovered
  | other (id : Int32)
deriving DecidableEq

inductive ValueType where
  | intVal (value : Int64)
  | uintVal (value : UInt64)
  | floatVal (bits : UInt32)
deriving DecidableEq

/-- `GetIntVal`. -/
def ValueType.getIntVal : Option ValueType → Int64
  | some (.intVal value) => value
  | _ => 0

structure WaterMarks where
  high : Option ValueType
  low : Option ValueType
deriving DecidableEq

inductive Thresholds where
  | unset
  | upper (marks : WaterMarks)
  | lower (marks : WaterMarks)
deriving DecidableEq

def Thresholds.getUpper : Option Thresholds → Option WaterMarks
  | some (.upper marks) => some marks
  | _ => none

structure EventCfg where
  eventId : EventId
  isConfigured : Bool
  thresholds : Option Thresholds
deriving DecidableEq

namespace EventCfg

def low (config : EventCfg) : Int64 :=
  ValueType.getIntVal ((Thresholds.getUpper config.thresholds).bind WaterMarks.low)

def high (config : EventCfg) : Int64 :=
  ValueType.getIntVal ((Thresholds.getUpper config.thresholds).bind WaterMarks.high)

end EventCfg

structure ThresholdInformation where
  observedValue : ValueType
  thresholds : Option Thresholds
deriving DecidableEq

structure EventMetaData where
  deviceUuid : Option String
  componentUuid : String
  componentName : String
deriving DecidableEq

structure Event where
  eventId : EventId
  eventMetadata : EventMetaData
  thresholdInfo : Option ThresholdInformation
deriving DecidableEq

structure DmiEventsGenerator where
  deviceUuid : Option String
  /-- The children of the root of the inventory. -/
  children : List Component
  configuredEvents : FiniteMap EventId EventCfg

/-- The events that are configured when the server starts. -/
def defaultEvents : List EventCfg :=
  [⟨.fanFailure, true, none⟩,
    ⟨.hwDeviceTemperatureAboveCritical, true,
      some (.upper ⟨some (.intVal 95), some (.intVal 90)⟩)⟩,
    ⟨.psuFailure, true, none⟩, ⟨.transceiverPlugIn, true, none⟩, ⟨.transceiverPlugOut, true, none⟩]

/-- An item that is set by the request, or the request to reset, which is not implemented. -/
inductive EventsOperation where
  | changes (items : List EventCfg)
  | resetToDefault

namespace DmiEventsGenerator

def updateEventConfig (dmiEG : DmiEventsGenerator) (newEventCfg : EventCfg) : DmiEventsGenerator :=
  { dmiEG with configuredEvents := dmiEG.configuredEvents.insert newEventCfg.eventId newEventCfg }

/-- `StartEventsGenerator`. -/
def startEventsGenerator (deviceUuid : Option String) (children : List Component) : DmiEventsGenerator :=
  defaultEvents.foldl updateEventConfig ⟨deviceUuid, children, ∅⟩

/-- A request without an operation is refused. -/
def updateEventsConfiguration (dmiEG : DmiEventsGenerator) (operation : Option EventsOperation) :
    Except StatusError DmiEventsGenerator :=
  match operation with
  | none => .error ⟨.failedPrecondition, "request is nil"⟩
  | some (.changes items) => .ok (items.foldl updateEventConfig dmiEG)
  | some .resetToDefault => .ok dmiEG

end DmiEventsGenerator

/-- The random numbers of the process, each for its bound. -/
structure RandSource where
  int31n : Nat → Nat
  below : ∀ bound, 0 < bound → int31n bound < bound

inductive EventFault where
  /-- `Int31n` panics where its argument is not positive. -/
  | invalidArgumentToInt31n
deriving DecidableEq

def generateRand (source : RandSource) (lValue hValue : Int32) : Except EventFault Int32 :=
  if lValue ≥ hValue then .ok 0
  else
    let diff := hValue - lValue
    if diff ≤ 0 then .error .invalidArgumentToInt31n
    else .ok (lValue + Int32.ofNat (source.int31n diff.toInt.toNat))

def findComponents (compType : ComponentClass) : List Component → List Component
  | [] => []
  | comp :: rest =>
    (if comp.componentClass = compType then [comp] else []) ++ findComponents compType comp.children ++
      findComponents compType rest
termination_by components => sizeOf components
decreasing_by
  · obtain ⟨⟩ := comp
    simp only [List.cons.sizeOf_spec, Component.mk.sizeOf_spec]
    omega
  · simp only [List.cons.sizeOf_spec]
    omega

namespace DmiEventsGenerator

def updateEventMetaData (dmiEG : DmiEventsGenerator) (comp : Component) : EventMetaData :=
  ⟨dmiEG.deviceUuid, comp.uuid, comp.name⟩

/-- What the event says about its thresholds, if it is configured. -/
def thresholdInfo (dmiEG : DmiEventsGenerator) (source : RandSource) (eventID : EventId) :
    Except EventFault (Option ThresholdInformation) :=
  match dmiEG.configuredEvents.lookup eventID with
  | none => .ok none
  | some config =>
    (generateRand source config.low.toInt32 config.high.toInt32).map fun observed =>
      some ⟨.intVal observed.toInt64, config.thresholds⟩

/-- The event of the first component of the type, which is the only one that is made. -/
def thresholdEventGenerationFunc (dmiEG : DmiEventsGenerator) (source : RandSource) (eventID : EventId)
    (cType : ComponentClass) : Except EventFault (Option Event) :=
  match findComponents cType dmiEG.children with
  | [] => .ok none
  | comp :: _ =>
    (dmiEG.thresholdInfo source eventID).map fun info =>
      some ⟨eventID, dmiEG.updateEventMetaData comp, info⟩

end DmiEventsGenerator

/-- The low 32 bits are the mark itself, if it fits; otherwise they are beyond it, on the side of zero. -/
theorem toInt32_cases (mark : Int64) :
    (mark.toInt < -2 ^ 31 ∧ mark.toInt < mark.toInt32.toInt) ∨
      (-2 ^ 31 ≤ mark.toInt ∧ mark.toInt < 2 ^ 31 ∧ mark.toInt32.toInt = mark.toInt) ∨
      (2 ^ 31 ≤ mark.toInt ∧ mark.toInt32.toInt < mark.toInt) := by
  have lower := mark.toInt32.le_toInt
  have upper := mark.toInt32.toInt_lt
  have narrowed : mark.toInt32.toInt = mark.toInt.bmod (2 ^ 32) := Int64.toInt_toInt32 mark
  rw [Int.bmod_eq_emod] at narrowed
  split at narrowed <;> omega

/-- What is drawn between two values of 32 bits. -/
theorem generateRand_cases (source : RandSource) (lValue hValue : Int32) :
    (hValue.toInt ≤ lValue.toInt ∧ generateRand source lValue hValue = .ok 0) ∨
      (lValue.toInt + 2 ^ 31 ≤ hValue.toInt ∧
        generateRand source lValue hValue = .error .invalidArgumentToInt31n) ∨
      (lValue.toInt < hValue.toInt ∧ hValue.toInt < lValue.toInt + 2 ^ 31 ∧
        ∃ observed, generateRand source lValue hValue = .ok observed ∧
          observed.toInt = lValue.toInt + source.int31n (hValue.toInt - lValue.toInt).toNat) := by
  have lower := lValue.le_toInt
  have upper := hValue.toInt_lt
  unfold generateRand
  by_cases empty : lValue ≥ hValue
  · rw [if_pos empty]
    exact .inl ⟨Int32.le_iff_toInt_le.mp empty, rfl⟩
  · have less : lValue.toInt < hValue.toInt := Int32.lt_iff_toInt_lt.mp (Int32.not_le.mp empty)
    have difference : (hValue - lValue).toInt = (hValue.toInt - lValue.toInt).bmod (2 ^ 32) :=
      Int32.toInt_sub hValue lValue
    rw [if_neg empty]
    dsimp only
    -- a difference of 2^31 or more wraps around to a negative one
    by_cases wide : lValue.toInt + 2 ^ 31 ≤ hValue.toInt
    · have negative : (hValue - lValue).toInt ≤ 0 := by
        rw [difference, Int.bmod_eq_emod]
        split <;> omega
      rw [if_pos (Int32.le_iff_toInt_le.mpr negative)]
      exact .inr (.inl ⟨wide, rfl⟩)
    · have exactly : (hValue - lValue).toInt = hValue.toInt - lValue.toInt := by
        rw [difference, Int.bmod_eq_emod]
        split <;> omega
      have positive : ¬ hValue - lValue ≤ 0 := by
        rw [Int32.not_le, Int32.lt_iff_toInt_lt, exactly]
        exact Int.sub_pos_of_lt less
      have drawn := source.below (hValue.toInt - lValue.toInt).toNat (by omega)
      rw [if_neg positive, exactly]
      refine .inr (.inr ⟨less, by omega, _, rfl, ?_⟩)
      rw [Int32.toInt_add, Int32.toInt_ofNat_of_lt (by omega)]
      exact Int.bmod_eq_of_le (by omega) (by omega)

namespace DmiEventsGenerator

variable {source : RandSource} {low high : Int64}

/-- The last item of an event counts. -/
theorem lookup_foldl_update (dmiEG : DmiEventsGenerator) (items : List EventCfg) (eventID : EventId) :
    (items.foldl updateEventConfig dmiEG).configuredEvents.lookup eventID =
      (items.reverse.find? fun item => item.eventId = eventID).or
        (dmiEG.configuredEvents.lookup eventID) := by
  induction items generalizing dmiEG with
  | nil => rfl
  | cons item rest ih =>
    rw [List.foldl_cons, ih, List.reverse_cons, List.find?_append, Option.or_assoc]
    congr 1
    by_cases same : item.eventId = eventID
    · subst same
      simp [updateEventConfig]
    · simp [updateEventConfig, AList.lookup_insert_ne (Ne.symm same), same]

/-- The operation completes, and an event that it sends observes a value between the marks. -/
def ObservesBetween (low high : Int64) : Except EventFault (Option Event) → Prop
  | .error _ => False
  | .ok none => True
  | .ok (some event) => ∃ value thresholds,
    event.thresholdInfo = some ⟨.intVal value, thresholds⟩ ∧ low.toInt < value.toInt ∧
      value.toInt < high.toInt

/-- The marks and the draw that give a value in between: the narrowed marks are not in order, and zero
is between the marks; or they are, their difference is positive in 32 bits, the high mark is not below
the values of 32 bits, and the low mark is, or it fits and the draw is not zero. -/
def Suits (source : RandSource) (low high : Int64) : Prop :=
  (high.toInt32.toInt ≤ low.toInt32.toInt ∧ low.toInt < 0 ∧ 0 < high.toInt) ∨
    (low.toInt32.toInt < high.toInt32.toInt ∧ high.toInt32.toInt < low.toInt32.toInt + 2 ^ 31 ∧
      -2 ^ 31 ≤ high.toInt ∧
      (low.toInt < -2 ^ 31 ∨
        low.toInt < 2 ^ 31 ∧ source.int31n (high.toInt32.toInt - low.toInt32.toInt).toNat ≠ 0))

/-- The value that is drawn is between the marks. -/
theorem generateRand_between_iff :
    (∃ observed, generateRand source low.toInt32 high.toInt32 = .ok observed ∧
      low.toInt < observed.toInt ∧ observed.toInt < high.toInt) ↔ Suits source low high := by
  have lowNarrowed := toInt32_cases low
  have highNarrowed := toInt32_cases high
  have lowBound := low.toInt32.le_toInt
  have highBound := high.toInt32.toInt_lt
  rcases generateRand_cases source low.toInt32 high.toInt32 with
    ⟨unordered, drawn⟩ | ⟨wide, failed⟩ | ⟨ordered, narrow, observed, drawn, value⟩
  · have zero : (0 : Int32).toInt = 0 := rfl
    constructor
    · rintro ⟨observed, same, between⟩
      rw [drawn] at same
      obtain rfl := Except.ok.inj same
      exact .inl ⟨unordered, between⟩
    · rintro (⟨-, between⟩ | ⟨ordered, -⟩)
      · exact ⟨0, drawn, between⟩
      · omega
  · constructor
    · rintro ⟨observed, same, -⟩
      rw [failed] at same
      cases same
    · rintro (⟨unordered, -⟩ | ⟨-, narrow, -⟩)
      · omega
      · omega
  · have below := source.below (high.toInt32.toInt - low.toInt32.toInt).toNat (by omega)
    constructor
    · rintro ⟨other, same, above, under⟩
      rw [drawn] at same
      obtain rfl := Except.ok.inj same
      exact .inr ⟨ordered, narrow, by omega, by omega⟩
    · rintro (⟨unordered, -⟩ | ⟨-, -, inside, suits⟩)
      · omega
      · exact ⟨observed, drawn, by omega, by omega⟩

theorem observesBetween_iff {dmiEG : DmiEventsGenerator} {eventID : EventId} {config : EventCfg}
    (configured : dmiEG.configuredEvents.lookup eventID = some config)
    (marks : config.thresholds = some (.upper ⟨some (.intVal high), some (.intVal low)⟩))
    (cType : ComponentClass) :
    ObservesBetween low high (dmiEG.thresholdEventGenerationFunc source eventID cType) ↔
      findComponents cType dmiEG.children = [] ∨ Suits source low high := by
  have lowMark : config.low = low := by rw [EventCfg.low, marks]; rfl
  have highMark : config.high = high := by rw [EventCfg.high, marks]; rfl
  rw [← generateRand_between_iff, thresholdEventGenerationFunc, thresholdInfo, configured]
  dsimp only
  rw [lowMark, highMark]
  cases findComponents cType dmiEG.children with
  | nil => exact iff_of_true trivial (.inl rfl)
  | cons comp rest =>
    rw [or_iff_right (List.cons_ne_nil comp rest)]
    cases drawn : generateRand source low.toInt32 high.toInt32 with
    | error fault => exact iff_of_false id (by rintro ⟨_, ⟨⟩, -⟩)
    | ok observed =>
      constructor
      · rintro ⟨value, thresholds, same, between⟩
        obtain ⟨sameValue, -⟩ := ThresholdInformation.mk.inj (Option.some.inj same)
        rw [← ValueType.intVal.inj sameValue, Int32.toInt_toInt64] at between
        exact ⟨observed, rfl, between⟩
      · rintro ⟨other, same, between⟩
        obtain rfl := Except.ok.inj same
        refine ⟨observed.toInt64, config.thresholds, rfl, ?_⟩
        rw [Int32.toInt_toInt64]
        exact between

/-- The event of an accepted configuration observes a value between its marks exactly if they suit the
draw, or there is no component to make an event of. -/
theorem threshold_event_between_iff (source : RandSource) {dmiEG next : DmiEventsGenerator}
    {items : List EventCfg} {config : EventCfg} {low high : Int64}
    (accepted : dmiEG.updateEventsConfiguration (some (.changes items)) = .ok next)
    (last : items.reverse.find? (fun item => item.eventId = config.eventId) = some config)
    (marks : config.thresholds = some (.upper ⟨some (.intVal high), some (.intVal low)⟩))
    (cType : ComponentClass) :
    ObservesBetween low high (next.thresholdEventGenerationFunc source config.eventId cType) ↔
      findComponents cType next.children = [] ∨ Suits source low high := by
  have configured : next.configuredEvents.lookup config.eventId = some config := by
    rw [← Except.ok.inj accepted, lookup_foldl_update, last]
    rfl
  exact observesBetween_iff configured marks cType

/-- Every draw is the greatest one. -/
def greatestDraws : RandSource := ⟨fun bound => bound - 1, fun _ positive => by omega⟩

/-- Every draw is zero. -/
def zeroDraws : RandSource := ⟨fun _ => 0, fun _ positive => positive⟩

/-- A device with a temperature sensor. -/
def sensorDevice : DmiEventsGenerator :=
  startEventsGenerator none [createInnerSurroundingTempComponentSensor ⟨id, "BBSim", "BBSIM_OLT_0"⟩ 0]

def temperatureEvent (low high : Int64) : EventCfg :=
  ⟨.hwDeviceTemperatureAboveCritical, true, some (.upper ⟨some (.intVal high), some (.intVal low)⟩)⟩

/-- The device with the marks that are the default. -/
def markedDevice : DmiEventsGenerator := sensorDevice.updateEventConfig (temperatureEvent 90 95)

theorem markedDevice_accepted :
    sensorDevice.updateEventsConfiguration (some (.changes [temperatureEvent 90 95])) = .ok markedDevice :=
  rfl

theorem greatestDraws_between :
    ObservesBetween 90 95 (markedDevice.thresholdEventGenerationFunc greatestDraws
      .hwDeviceTemperatureAboveCritical .sensor) := by
  have suits : Suits greatestDraws 90 95 := by
    right
    decide
  exact (threshold_event_between_iff greatestDraws markedDevice_accepted
    (show [temperatureEvent 90 95].reverse.find? _ = some (temperatureEvent 90 95) by decide) rfl
    .sensor).mpr (.inr suits)

/-- With the draw zero the low mark itself is observed. -/
theorem zeroDraws_not_between :
    sensorDevice.updateEventsConfiguration (some (.changes [temperatureEvent 90 95])) = .ok markedDevice ∧
      ¬ ObservesBetween 90 95 (markedDevice.thresholdEventGenerationFunc zeroDraws
        .hwDeviceTemperatureAboveCritical .sensor) := by
  have configured : markedDevice.configuredEvents.lookup .hwDeviceTemperatureAboveCritical =
      some (temperatureEvent 90 95) := by
    decide
  rw [observesBetween_iff configured rfl, not_or]
  refine ⟨markedDevice_accepted, ?_, ?_⟩
  · simp [findComponents, markedDevice, sensorDevice, startEventsGenerator, defaultEvents,
      updateEventConfig, createInnerSurroundingTempComponentSensor, createPart]
  · rintro (⟨unordered, -⟩ | ⟨-, -, -, below | ⟨-, drawn⟩⟩)
    · revert unordered
      decide
    · revert below
      decide
    · exact drawn rfl

end DmiEventsGenerator

end Bbsim.Dmi
