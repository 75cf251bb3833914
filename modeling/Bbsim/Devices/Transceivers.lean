import Bbsim.Devices.PonCycle

/-! The two states of a PON. An indication moves the `OperState` and the `InternalState` of a PON
together, and `GetPonInterfaceInfo` reports the loss of signal by the one and the activity by the
other. A transceiver that is plugged out or in moves only the second. -/

namespace Bbsim.Devices

open Foundation

structure PonStates where
  id : UInt32
  internalState : PonState
  operState : PortState
deriving DecidableEq, Repr

inductive AlarmState where
  | off
  | on
deriving DecidableEq, Repr

inductive PonIntfState where
  | inactive
  | activeWorking
  | activeStandby
deriving DecidableEq, Repr

structure PonIntfInfo where
  intfId : UInt32
  state : PonIntfState
  los : AlarmState
deriving DecidableEq, Repr

/-- A port at work has its signal, and one that is not at work has lost it. -/
def PonIntfInfo.Plain (info : PonIntfInfo) : Prop := info.state = .activeWorking ↔ info.los = .off

namespace PonStates

variable {pon : PonStates} {tx : PortTx}

/-- An event of `InternalState`; a refused one is logged. -/
def event (pon : PonStates) (tx : PortTx) : PonStates :=
  { pon with internalState := (pon.internalState.after tx).getD pon.internalState }

def operEvent (pon : PonStates) (tx : PortTx) : PonStates :=
  { pon with operState := (pon.operState.after tx).getD pon.operState }

/-- The OLT's loop on a `PonIndication`. -/
def indicate (pon : PonStates) (tx : PortTx) : PonStates := (pon.operEvent tx).event tx

/-- The turn of a PON in `PlugOutTransceiver`. -/
def plugOut (pon : PonStates) : PonStates :=
  if pon.internalState = .enabled then pon.event .disable else pon

/-- The turn of a PON in `PlugInTransceiver`. -/
def plugIn (pon : PonStates) : PonStates := pon.event .enable

def info (pon : PonStates) (intfId : UInt32) : PonIntfInfo where
  intfId := intfId
  state := match pon.internalState with
    | .enabled => .activeWorking
    | .disabled => .inactive
    | .created => .activeStandby
  los := match pon.operState with
    | .up => .off
    | .down => .on

def Agree (pon : PonStates) : Prop := pon.operState = .up ↔ pon.internalState = .enabled

theorem plain_info_iff (intfId : UInt32) : (pon.info intfId).Plain ↔ pon.Agree := by
  obtain ⟨id, internalState, operState⟩ := pon
  cases internalState <;> cases operState <;> simp [PonIntfInfo.Plain, info, Agree]

/-- Whatever the states were, they agree after an indication. -/
theorem agree_indicate : (pon.indicate tx).Agree := by
  obtain ⟨id, internalState, operState⟩ := pon
  cases tx <;> cases internalState <;> cases operState <;>
    simp only [indicate, event, operEvent, Agree] <;> decide

theorem agree_plugOut_iff (agree : pon.Agree) : pon.plugOut.Agree ↔ pon.internalState ≠ .enabled := by
  unfold plugOut
  split
  · next enabled =>
    refine iff_of_false (fun kept => ?_) (not_not.mpr enabled)
    -- the signal is still there
    have disabled : (pon.event .disable).internalState = .disabled := by rw [event, enabled]; rfl
    exact absurd (kept.mp (agree.mpr enabled)) (by simp [disabled])
  · next idle => exact iff_of_true agree idle

theorem agree_plugIn_iff (agree : pon.Agree) : pon.plugIn.Agree ↔ pon.internalState = .enabled := by
  have enabled : pon.plugIn.internalState = .enabled := by
    obtain ⟨id, internalState, operState⟩ := pon
    cases internalState <;> rfl
  exact ⟨fun kept => agree.mp (kept.mpr enabled), fun before =>
    iff_of_true (agree.mpr before) enabled⟩

private theorem plugOut_plugOut : pon.plugOut.plugOut = pon.plugOut := by
  obtain ⟨id, internalState, operState⟩ := pon
  cases internalState <;> rfl

private theorem plugIn_plugIn : pon.plugIn.plugIn = pon.plugIn := by
  obtain ⟨id, internalState, operState⟩ := pon
  cases internalState <;> rfl

end PonStates

/-- The PONs of a transceiver are pointers: positions in the OLT's list. -/
structure Transceiver where
  id : UInt32
  pons : List Nat
  pluggedIn : Bool
deriving DecidableEq, Repr

inductive DmiStatus where
  | ok
  | unavailable
  | notFound
  | aborted
deriving DecidableEq, Repr

structure DmiResponse where
  statusCode : DmiStatus
  message : String
deriving DecidableEq, Repr

structure TransceiverSite where
  oltState : OltState
  pons : List PonStates
  transceivers : List Transceiver
  /-- DMI has an inventory of the device; the transceivers that are plugged in are part of it. -/
  managed : Bool
deriving DecidableEq, Repr

inductive TransceiverStep where
  | oltIndication (operState : PortState)
  | ponIndication (ponId : UInt32) (operState : PortState)
  /-- The two events of `RestartOLT`. -/
  | delete
  | init
  /-- `StartManagingDevice` and `StopManagingDevice`. -/
  | manage (managed : Bool)
  | plugOut (transId : UInt32)
  | plugIn (transId : UInt32)
deriving DecidableEq, Repr

def PortState.indicated : PortState → PortTx
  | .up => .enable
  | .down => .disable

/-- Change the PONs at some positions, one after the other. -/
def changeAll (change : PonStates → PonStates) (positions : List Nat) (pons : List PonStates) :
    List PonStates :=
  positions.foldl (fun pons position => pons.modify position change) pons

/-- A position that comes twice makes no difference. -/
theorem getElem?_changeAll {change : PonStates → PonStates}
    (idempotent : ∀ pon, change (change pon) = change pon) (positions : List Nat)
    (pons : List PonStates) (index : Nat) :
    (changeAll change positions pons)[index]? =
      pons[index]?.map fun pon => if index ∈ positions then change pon else pon := by
  induction positions generalizing pons with
  | nil => simp [changeAll]
  | cons position rest ih =>
    rw [changeAll, List.foldl_cons]
    change (changeAll change rest (pons.modify position change))[index]? = _
    rw [ih, List.getElem?_modify]
    cases pons[index]? with
    | none => rfl
    | some pon =>
      by_cases here : position = index
      · subst here
        by_cases again : position ∈ rest <;> simp [again, idempotent]
      · simp [here, Ne.symm here]

namespace TransceiverSite

/-- One transceiver for each PON. -/
def create (numPon : Nat) : TransceiverSite where
  oltState := .initialized
  pons := (List.range numPon).map fun pon => ⟨pon.toUInt32, .created, .down⟩
  transceivers := (List.range numPon).map fun pon => ⟨pon.toUInt32, [pon], true⟩
  managed := false

def getTransceiverWithId (site : TransceiverSite) (transId : UInt32) : Option Transceiver :=
  site.transceivers.find? fun transceiver => transceiver.id = transId

def setPluggedIn (site : TransceiverSite) (transId : UInt32) (pluggedIn : Bool) :
    List Transceiver :=
  site.transceivers.modify (site.transceivers.findIdx fun transceiver => transceiver.id = transId)
    fun transceiver => { transceiver with pluggedIn := pluggedIn }

/-- `PlugOutTransceiver` and `PlugInTransceiver`; the PONs have their turns only if the OLT is
enabled. -/
def plug (site : TransceiverSite) (transId : UInt32) (pluggedIn : Bool) (refusal done : String)
    (turn : PonStates → PonStates) : DmiResponse × TransceiverSite :=
  if site.managed = false then
    (⟨.unavailable, "Cannot get DMI server instance: Device management not started"⟩, site)
  else match site.getTransceiverWithId transId with
    | none =>
      let missing := s!"Cannot find transceiver with ID {transId}"
      (⟨.notFound, missing ++ ": " ++ missing⟩, site)
    | some transceiver =>
      if transceiver.pluggedIn = pluggedIn then (⟨.aborted, refusal⟩, site)
      else
        (⟨.ok, done⟩,
          { site with
            transceivers := site.setPluggedIn transId pluggedIn
            pons := if site.oltState = .enabled then changeAll turn transceiver.pons site.pons
              else site.pons })

def plugOutTransceiver (site : TransceiverSite) (transId : UInt32) : DmiResponse × TransceiverSite :=
  site.plug transId false
    s!"Cannot plug out transceiver with ID {transId} since it's not plugged in"
    s!"Plugged out transceiver {transId}" PonStates.plugOut

def plugInTransceiver (site : TransceiverSite) (transId : UInt32) : DmiResponse × TransceiverSite :=
  site.plug transId true
    s!"Cannot plug in transceiver with ID {transId} since it's already plugged in"
    s!"Plugged in transceiver {transId}" PonStates.plugIn

def oltEvent (site : TransceiverSite) (tx : OltTx) : TransceiverSite :=
  { site with oltState := (site.oltState.after tx).getD site.oltState }

def step (site : TransceiverSite) : TransceiverStep → Option TransceiverSite
  | .oltIndication operState =>
    some (site.oltEvent (if operState = .up then .enable else .disable))
  | .ponIndication ponId operState =>
    -- the error for a missing PON is dropped, and the nil PON used
    (site.pons.findIdx? fun pon => pon.id = ponId).map fun index =>
      { site with pons := site.pons.modify index (PonStates.indicate · operState.indicated) }
  | .delete => some (site.oltEvent .delete)
  | .init => some (site.oltEvent .init)
  | .manage managed => some { site with managed := managed }
  | .plugOut transId => some (site.plugOutTransceiver transId).2
  | .plugIn transId => some (site.plugInTransceiver transId).2

/-- `none` is the error for an unknown PON. -/
def getPonInterfaceInfo (site : TransceiverSite) (intfId : UInt32) : Option PonIntfInfo :=
  (site.pons.find? fun pon => pon.id = intfId).map fun pon => pon.info intfId

structure Consistent (site : TransceiverSite) : Prop where
  agree : ∀ pon ∈ site.pons, pon.Agree
  plain : ∀ intfId info, site.getPonInterfaceInfo intfId = some info → info.Plain

/-- The PONs that have their turns when the transceiver is plugged out or in. -/
def turns (site : TransceiverSite) (transId : UInt32) (pluggedIn : Bool) : List PonStates :=
  match site.getTransceiverWithId transId with
  | none => []
  | some transceiver =>
    if site.managed = true ∧ transceiver.pluggedIn ≠ pluggedIn ∧ site.oltState = .enabled then
      transceiver.pons.filterMap (site.pons[·]?)
    else []

/-- A transceiver is plugged out while none of its PONs is enabled, and in while all of them are; or
the OLT is not enabled, or the request is refused. -/
def Harmless (site : TransceiverSite) : TransceiverStep → Prop
  | .plugOut transId => ∀ pon ∈ site.turns transId false, pon.internalState ≠ .enabled
  | .plugIn transId => ∀ pon ∈ site.turns transId true, pon.internalState = .enabled
  | _ => True

instance (site : TransceiverSite) (label : TransceiverStep) : Decidable (site.Harmless label) := by
  unfold Harmless
  split <;> infer_instance

variable {site next : TransceiverSite} {transId : UInt32} {pluggedIn : Bool}
  {refusal done : String} {turn : PonStates → PonStates}

theorem consistent_iff : site.Consistent ↔ ∀ pon ∈ site.pons, pon.Agree := by
  refine ⟨Consistent.agree, fun agree => ⟨agree, fun intfId info reported => ?_⟩⟩
  obtain ⟨pon, found, rfl⟩ := Option.map_eq_some_iff.mp reported
  exact (PonStates.plain_info_iff intfId).mpr (agree pon (List.mem_of_find?_eq_some found))

private theorem consistent_create (numPon : Nat) : (create numPon).Consistent := by
  refine consistent_iff.mpr fun pon member => ?_
  obtain ⟨index, -, rfl⟩ := List.mem_map.mp member
  simp [PonStates.Agree]

/-- A turn that keeps the agreement of a PON exactly if the PON is spared. -/
structure Turn (turn : PonStates → PonStates) (spared : PonStates → Prop) : Prop where
  idempotent : ∀ pon, turn (turn pon) = turn pon
  agree_iff : ∀ pon : PonStates, pon.Agree → ((turn pon).Agree ↔ spared pon)

private theorem turn_plugOut : Turn PonStates.plugOut fun pon => pon.internalState ≠ .enabled :=
  ⟨fun _ => PonStates.plugOut_plugOut, fun _ => PonStates.agree_plugOut_iff⟩

private theorem turn_plugIn : Turn PonStates.plugIn fun pon => pon.internalState = .enabled :=
  ⟨fun _ => PonStates.plugIn_plugIn, fun _ => PonStates.agree_plugIn_iff⟩

variable {spared : PonStates → Prop}

theorem agree_changeAll_iff (exact : Turn turn spared) {pons : List PonStates}
    (agree : ∀ pon ∈ pons, pon.Agree) (positions : List Nat) :
    (∀ pon ∈ changeAll turn positions pons, pon.Agree) ↔
      ∀ pon ∈ positions.filterMap (pons[·]?), spared pon := by
  constructor
  · intro after pon member
    obtain ⟨position, listed, found⟩ := List.mem_filterMap.mp member
    have turned : (changeAll turn positions pons)[position]? = some (turn pon) := by
      simp [getElem?_changeAll exact.idempotent, found, listed]
    exact (exact.agree_iff pon (agree pon (List.mem_of_getElem? found))).mp
      (after _ (List.mem_of_getElem? turned))
  · intro each pon member
    obtain ⟨position, there⟩ := List.mem_iff_getElem?.mp member
    rw [getElem?_changeAll exact.idempotent] at there
    obtain ⟨before, found, rfl⟩ := Option.map_eq_some_iff.mp there
    have agreed := agree before (List.mem_of_getElem? found)
    split
    · next listed =>
      exact (exact.agree_iff before agreed).mpr
        (each before (List.mem_filterMap.mpr ⟨position, listed, found⟩))
    · exact agreed

theorem consistent_plug_iff (exact : Turn turn spared) (consistent : site.Consistent) :
    (site.plug transId pluggedIn refusal done turn).2.Consistent ↔
      ∀ pon ∈ site.turns transId pluggedIn, spared pon := by
  unfold plug turns
  cases managed : site.managed with
  | false => cases site.getTransceiverWithId transId <;> simpa using consistent
  | true =>
    cases site.getTransceiverWithId transId with
    | none => simpa using consistent
    | some transceiver =>
      by_cases plugged : transceiver.pluggedIn = pluggedIn
      · simpa [plugged] using consistent
      · by_cases enabled : site.oltState = .enabled
        · simpa [plugged, enabled, consistent_iff] using
            agree_changeAll_iff exact consistent.agree transceiver.pons
        · simpa [plugged, enabled, consistent_iff] using consistent.agree

theorem consistent_step_iff (consistent : site.Consistent) {label : TransceiverStep}
    (taken : site.step label = some next) : next.Consistent ↔ site.Harmless label := by
  cases label with
  | plugOut transId =>
    obtain rfl := Option.some.inj taken
    exact consistent_plug_iff turn_plugOut consistent
  | plugIn transId =>
    obtain rfl := Option.some.inj taken
    exact consistent_plug_iff turn_plugIn consistent
  | ponIndication ponId operState =>
    obtain ⟨index, -, rfl⟩ := Option.map_eq_some_iff.mp taken
    refine iff_of_true (consistent_iff.mpr fun pon member => ?_) trivial
    obtain ⟨position, there⟩ := List.mem_iff_getElem?.mp member
    rw [List.getElem?_modify] at there
    obtain ⟨before, found, rfl⟩ := Option.map_eq_some_iff.mp there
    split
    · exact PonStates.agree_indicate
    · exact consistent.agree before (List.mem_of_getElem? found)
  | oltIndication _ | delete | init | manage _ =>
    obtain rfl := Option.some.inj taken
    exact iff_of_true (consistent_iff.mpr consistent.agree) trivial

/-- The two states of the PONs agree throughout a run exactly if its steps are all harmless. -/
theorem pon_states_agree_iff {numPon : Nat} {history : List (TransceiverSite × TransceiverStep)}
    {site : TransceiverSite} (run : Run step (create numPon) history site) :
    Meets (fun site _ => site.Consistent) history ∧ site.Consistent ↔ Meets Harmless history :=
  run.throughout_iff ⟨trivial, consistent_create numPon⟩ (fun _ _ _ _ _ => trivial)
    fun _ _ _ _ consistent taken => consistent_step_iff consistent taken

/-- The transceiver is changed while its PON is down, and plugged in again once it is up. -/
theorem pon_states_agree_replaced : ∃ history site,
    Run step (create 1) history site ∧ site.pons = [⟨0, .enabled, .up⟩] ∧ site.Consistent := by
  obtain ⟨history, site, run, harmless, up, -⟩ := run_of_guarded_replay Harmless step (create 1)
    [.manage true, .oltIndication .up, .ponIndication 0 .up, .ponIndication 0 .down, .plugOut 0,
      .ponIndication 0 .up, .plugIn 0]
    (fun site => site.pons = [⟨0, .enabled, .up⟩] ∧ site.transceivers = [⟨0, [0], true⟩])
    (by decide +kernel)
  exact ⟨history, site, run, up, ((pon_states_agree_iff run).mpr harmless).2⟩

/-- Plugged out at work, the PON is reported as inactive with its signal there. -/
theorem plugged_out_reports_signal : ∃ history site,
    Run step (create 1) history site ∧ site.pons = [⟨0, .disabled, .up⟩] ∧
      site.getPonInterfaceInfo 0 = some ⟨0, .inactive, .off⟩ :=
  run_of_replay step (create 1)
    [.manage true, .oltIndication .up, .ponIndication 0 .up, .plugOut 0] _ (by decide +kernel)

end TransceiverSite

end Bbsim.Devices
