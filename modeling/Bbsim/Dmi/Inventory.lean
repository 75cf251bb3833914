import Bbsim.Foundation.Run
import Bbsim.Foundation.Search
import Bbsim.Dmi.Components
import Mathlib.Data.List.Forall2
import Mathlib.Data.List.Nodup

/-! The inventory of the managed device. `StartManagingDevice` builds the tree of components and
`StopManagingDevice` drops it. The transceivers outlast both. Plugging one in or out changes the
tree in place, at the cage that carries the identifier of its cage. -/

namespace Bbsim.Dmi

open Foundation

structure DmiApiServer where
  ipAddress : String
  uuid : Option String
  root : Option Component
  transceivers : List Transceiver

inductive StatusCode where
  | failedPrecondition
  | invalidArgument
  | unknown
deriving DecidableEq, Repr

structure StatusError where
  code : StatusCode
  message : String
deriving DecidableEq, Repr

/-- The request of `StartManagingDevice`; a missing `Uri` is the empty one. -/
structure ModifiableComponent where
  name : String
  uri : String

structure StopManagingDeviceRequest where
  name : String

inductive StopReason where
  | undefinedReason
  | unknownDevice
deriving DecidableEq, Repr

/-- `error` is the status of the response. -/
structure StopManagingDeviceResponse where
  error : Bool
  reason : StopReason
deriving DecidableEq, Repr

namespace DmiApiServer

variable (olt : ManagedOlt)

/-- `StartDmiAPIServer`, for any assignment of PONs to transceivers. -/
def startServer (mapping : List (UInt32 × List Pon)) : DmiApiServer where
  ipAddress := ""
  uuid := none
  root := none
  transceivers := mapping.map fun entry => newTransceiver olt entry.1 entry.2

/-- The turn of a transceiver in `StartManagingDevice`: it gets no cage where its component cannot be
created. -/
def createCage (transceiver : Transceiver) : Transceiver × Option Component :=
  let cage := emptyCage olt transceiver.id
  if transceiver.pluggedIn then
    match createTransceiverComponent olt transceiver cage.name with
    | .error _ => (transceiver, none)
    | .ok (component, created) => (created, some { cage with children := cage.children ++ [component] })
  else (transceiver, some cage)

/-- Two fans, a disk, a processor, a memory, a temperature sensor and a power supply unit. -/
def otherComponents : List Component :=
  [createFanComponent olt 1, createFanComponent olt 2, createDiskComponent olt 0,
    createProcessorComponent olt 0, createMemoryComponent olt 0,
    createInnerSurroundingTempComponentSensor olt 0, createPowerSupplyComponent olt 0]

def rootComponent (ipAddress : String) (components : List Component) : Component where
  name := olt.getOltName
  componentClass := .undefined
  description := ""
  children := components
  serialNum := olt.serialNumber
  mfgName := olt.vendor
  uri := some ipAddress
  uuid := olt.getOltUUID

/-- `sendError` is the failure of the stream, which comes when all is done. -/
def startManagingDevice (dms : DmiApiServer) (req : Option ModifiableComponent)
    (sendError : Option String) : Option StatusError × DmiApiServer :=
  match req with
  | none => (some ⟨.failedPrecondition, "request is empty"⟩, dms)
  | some req =>
    if req.name = "" then
      (some ⟨.invalidArgument, "'Name' can not be empty in the request"⟩, dms)
    else
      let cages := dms.transceivers.map (createCage olt)
      (sendError.map fun message => ⟨.unknown, message⟩, {
        ipAddress := req.uri
        uuid := some olt.getOltUUID
        root := some (rootComponent olt req.uri (cages.filterMap Prod.snd ++ otherComponents olt))
        transceivers := cages.map Prod.fst })

/-- The transceivers are kept for a later `StartManagingDevice`. -/
def stopManagingDevice (dms : DmiApiServer) (req : Option StopManagingDeviceRequest) :
    StopManagingDeviceResponse × Option StatusError × DmiApiServer :=
  match req with
  | none => (⟨true, .undefinedReason⟩, some ⟨.failedPrecondition, "request is empty"⟩, dms)
  | some req =>
    if req.name = "" then
      (⟨true, .unknownDevice⟩, some ⟨.invalidArgument, "'Name' can not be empty in the request"⟩, dms)
    else
      (⟨false, .undefinedReason⟩, none, { dms with ipAddress := "", uuid := none, root := none })

/-- The transceiver with its position in the list. -/
def getTransceiverWithId (dms : DmiApiServer) (transId : UInt32) : Option (Nat × Transceiver) :=
  firstMatch (fun transceiver => transceiver.id = transId) dms.transceivers

/-- The nested search of `PlugoutTransceiverComponent`: the first cage with the identifier that has the
transceiver in it, and the place of the transceiver there. -/
def locateTransceiver (transId : UInt32) (children : List Component) : Option (Nat × Nat) :=
  let isTarget := fun cageChild : Component => decide (cageChild.uuid = olt.getTransceiverUUID transId)
  (firstMatch (fun rootChild => decide (rootChild.uuid = olt.getCageUUID transId) &&
    rootChild.children.any isTarget) children).bind
      fun (cage, rootChild) => (rootChild.children.findIdx? isTarget).map (cage, ·)

/-- Change the children of a child of the root. -/
def changeCage (root : Component) (cage : Nat) (change : List Component → List Component) : Component :=
  { root with
    children := root.children.modify cage fun rootChild =>
      { rootChild with children := change rootChild.children } }

def plugoutTransceiverComponent (dms : DmiApiServer) (transId : UInt32) :
    Option String × DmiApiServer :=
  match dms.root with
  | none => (some "Device management not started", dms)
  | some root =>
    match dms.getTransceiverWithId transId with
    | none => (some s!"Cannot find transceiver with ID {transId}", dms)
    | some (position, transceiver) =>
      if transceiver.pluggedIn = false then
        (some s!"Cannot plug out transceiver with ID {transId} since it's not plugged in", dms)
      else match locateTransceiver olt transId root.children with
        | none => (some s!"Cannot find transceiver with id {transId}", dms)
        | some (cage, index) => (none, { dms with
            root := some (changeCage root cage fun children => children.eraseIdx index)
            transceivers := dms.transceivers.set position { transceiver with pluggedIn := false } })

def pluginTransceiverComponent (dms : DmiApiServer) (transId : UInt32) :
    Option String × DmiApiServer :=
  match dms.root with
  | none => (some "Device management not started", dms)
  | some root =>
    match dms.getTransceiverWithId transId with
    | none => (some s!"Cannot find transceiver with ID {transId}", dms)
    | some (position, transceiver) =>
      if transceiver.pluggedIn = true then
        (some s!"Cannot plug in transceiver with ID {transId} since it's already plugged in", dms)
      else match firstMatch (fun rootChild => rootChild.uuid = olt.getCageUUID transId) root.children with
        | none => (some s!"Cannot find cage for transceiver with id {transId}", dms)
        | some (cage, targetCage) =>
          match createTransceiverComponent olt transceiver targetCage.name with
          | .error error => (some error, dms)
          | .ok (component, created) => (none, { dms with
              root := some (changeCage root cage fun children => children ++ [component])
              transceivers := dms.transceivers.set position { created with pluggedIn := true } })

inductive DmiRequest where
  | startManagingDevice (req : Option ModifiableComponent) (sendError : Option String)
  | stopManagingDevice (req : Option StopManagingDeviceRequest)
  | plugoutTransceiver (transId : UInt32)
  | pluginTransceiver (transId : UInt32)

def step (dms : DmiApiServer) : DmiRequest → Option DmiApiServer
  | .startManagingDevice req sendError => some (dms.startManagingDevice olt req sendError).2
  | .stopManagingDevice req => some (dms.stopManagingDevice req).2.2
  | .plugoutTransceiver transId => some (dms.plugoutTransceiverComponent olt transId).2
  | .pluginTransceiver transId => some (dms.pluginTransceiverComponent olt transId).2

/-- The cage of a transceiver as it should be. -/
def cageOf (transceiver : Transceiver) : Component :=
  { emptyCage olt transceiver.id with
    children := if transceiver.pluggedIn
      then (optics transceiver.pons).toList.map
        (transceiverComponent olt transceiver (getCageName transceiver.id))
      else [] }

/-- The server with one transceiver replaced, and the cages that go with it. -/
def withTransceiver (dms : DmiApiServer) (root : Component) (position : Nat) (replaced : Transceiver) :
    DmiApiServer :=
  { dms with
    root := some { root with
      children := (dms.transceivers.set position replaced).map (cageOf olt) ++ otherComponents olt }
    transceivers := dms.transceivers.set position replaced }

variable {olt} {dms next : DmiApiServer} {transId : UInt32}

variable {transceiver : Transceiver}

theorem cageOf_of_pluggedIn {found : Optics} (plugged : transceiver.pluggedIn = true)
    (known : optics transceiver.pons = some found) :
    cageOf olt transceiver = { emptyCage olt transceiver.id with
      children := [transceiverComponent olt transceiver (getCageName transceiver.id) found] } := by
  simp [cageOf, plugged, known]

theorem cageOf_of_pluggedOut (out : transceiver.pluggedIn = false) :
    cageOf olt transceiver = emptyCage olt transceiver.id := by
  simp only [cageOf, out, Bool.false_eq_true, if_false]
  rfl

/-- With a PON, the turn of a transceiver gives its cage and at most sets the technology. -/
theorem createCage_eq (nonempty : transceiver.pons ≠ []) :
    ∃ technology, createCage olt transceiver =
      ({ transceiver with technology := technology }, some (cageOf olt transceiver)) := by
  obtain ⟨found, known⟩ := exists_optics nonempty
  cases plugged : transceiver.pluggedIn with
  | false =>
    refine ⟨transceiver.technology, ?_⟩
    rw [cageOf_of_pluggedOut plugged]
    simp only [createCage, plugged, Bool.false_eq_true, if_false]
    rw [← plugged]
  | true =>
    refine ⟨found.technology, ?_⟩
    rw [cageOf_of_pluggedIn plugged known]
    simp only [createCage, plugged, if_true, createTransceiverComponent, known]
    rfl

/-- The tree follows from the transceivers. -/
structure Consistent (olt : ManagedOlt) (dms : DmiApiServer) : Prop where
  transceivers : ∀ transceiver ∈ dms.transceivers,
    transceiver.uuid = olt.getTransceiverUUID transceiver.id ∧ transceiver.pons ≠ []
  tree : ∀ root, dms.root = some root →
    root.children = dms.transceivers.map (cageOf olt) ++ otherComponents olt

private theorem consistent_startServer {mapping : List (UInt32 × List Pon)}
    (ponsPresent : ∀ entry ∈ mapping, entry.2 ≠ []) : Consistent olt (startServer olt mapping) where
  transceivers := by
    intro transceiver member
    obtain ⟨entry, listed, rfl⟩ := List.mem_map.mp member
    exact ⟨rfl, ponsPresent entry listed⟩
  tree := by
    intro root built
    cases built

private theorem consistent_startManagingDevice (consistent : Consistent olt dms)
    (req : Option ModifiableComponent) (sendError : Option String) :
    Consistent olt (dms.startManagingDevice olt req sendError).2 := by
  unfold startManagingDevice
  split
  · exact consistent
  · split
    · exact consistent
    · have created : ∀ transceiver ∈ dms.transceivers, ∃ technology, createCage olt transceiver =
          ({ transceiver with technology := technology }, some (cageOf olt transceiver)) :=
        fun transceiver member => createCage_eq (consistent.transceivers transceiver member).2
      constructor
      · intro transceiver member
        obtain ⟨pair, listed, rfl⟩ := List.mem_map.mp member
        obtain ⟨before, known, rfl⟩ := List.mem_map.mp listed
        obtain ⟨technology, cage⟩ := created before known
        rw [cage]
        exact consistent.transceivers before known
      · intro root built
        obtain rfl := Option.some.inj built
        have cages : (dms.transceivers.map (createCage olt)).filterMap Prod.snd =
            dms.transceivers.map (cageOf olt) := by
          rw [List.filterMap_map, ← List.filterMap_eq_map]
          refine List.filterMap_congr fun transceiver member => ?_
          obtain ⟨technology, cage⟩ := created transceiver member
          simp [cage]
        have kept : ((dms.transceivers.map (createCage olt)).map Prod.fst).map (cageOf olt) =
            dms.transceivers.map (cageOf olt) := by
          rw [List.map_map, List.map_map]
          refine List.map_congr_left fun transceiver member => ?_
          obtain ⟨technology, cage⟩ := created transceiver member
          simp only [Function.comp_apply, cage]
          rfl
        simp only [rootComponent, cages, kept]

private theorem consistent_stopManagingDevice (consistent : Consistent olt dms)
    (req : Option StopManagingDeviceRequest) : Consistent olt (dms.stopManagingDevice req).2.2 := by
  unfold stopManagingDevice
  split
  · exact consistent
  · split
    · exact consistent
    · exact ⟨consistent.transceivers, fun root built => by cases built⟩

theorem cageOf_uuid_eq_iff (noCollision : Function.Injective olt.hash) :
    (cageOf olt transceiver).uuid = olt.getCageUUID transId ↔ transceiver.id = transId :=
  ManagedOlt.getCageUUID_inj noCollision

variable {position : Nat}

/-- The search for a transceiver that is plugged in ends at its place in its own cage. -/
theorem locateTransceiver_cages (noCollision : Function.Injective olt.hash)
    (found : dms.getTransceiverWithId transId = some (position, transceiver))
    (identified : transceiver.uuid = olt.getTransceiverUUID transceiver.id) {optic : Optics}
    (known : optics transceiver.pons = some optic) (plugged : transceiver.pluggedIn = true)
    (rest : List Component) :
    locateTransceiver olt transId (dms.transceivers.map (cageOf olt) ++ rest) = some (position, 0) := by
  obtain ⟨-, same, -⟩ := firstMatch_eq_some found
  obtain rfl := of_decide_eq_true same
  have child : (cageOf olt transceiver).children =
      [transceiverComponent olt transceiver (getCageName transceiver.id) optic] := by
    rw [cageOf_of_pluggedIn plugged known]
  have target : (transceiverComponent olt transceiver (getCageName transceiver.id) optic).uuid =
      olt.getTransceiverUUID transceiver.id := identified
  simp only [locateTransceiver]
  rw [firstMatch_image found]
  · simp [child, target]
  · simp [child, target, cageOf_uuid_eq_iff noCollision]
  · intro other different
    simp only [cageOf_uuid_eq_iff noCollision, different, Bool.false_and]

variable {root : Component}

section

variable (noCollision : Function.Injective olt.hash) (consistent : Consistent olt dms)
  (managed : dms.root = some root)
  (found : dms.getTransceiverWithId transId = some (position, transceiver))
include noCollision consistent managed found

/-- Plugging a transceiver out removes the child of its cage. -/
theorem plugoutTransceiverComponent_of_pluggedIn (plugged : transceiver.pluggedIn = true) :
    dms.plugoutTransceiverComponent olt transId =
      (none, dms.withTransceiver olt root position { transceiver with pluggedIn := false }) := by
  obtain ⟨present, -, -⟩ := firstMatch_eq_some found
  obtain ⟨identified, nonempty⟩ := consistent.transceivers transceiver (List.mem_of_getElem? present)
  obtain ⟨optic, known⟩ := exists_optics nonempty
  have located := locateTransceiver_cages noCollision found identified known plugged
    (otherComponents olt)
  have emptied : ({ cageOf olt transceiver with children := (cageOf olt transceiver).children.eraseIdx 0 } :
      Component) = cageOf olt { transceiver with pluggedIn := false } := by
    rw [cageOf_of_pluggedIn plugged known]
    rfl
  simp only [plugoutTransceiverComponent, managed, found, plugged, Bool.true_eq_false, if_false,
    consistent.tree root managed, located, changeCage]
  rw [modify_image present emptied]
  rfl

/-- Plugging a transceiver in gives its cage a child. -/
theorem pluginTransceiverComponent_of_pluggedOut (out : transceiver.pluggedIn = false) :
    ∃ technology, dms.pluginTransceiverComponent olt transId = (none, dms.withTransceiver olt root position
      { transceiver with technology := technology, pluggedIn := true }) := by
  obtain ⟨present, same, -⟩ := firstMatch_eq_some found
  obtain rfl := of_decide_eq_true same
  obtain ⟨identified, nonempty⟩ := consistent.transceivers transceiver (List.mem_of_getElem? present)
  obtain ⟨optic, known⟩ := exists_optics nonempty
  have cage : firstMatch (fun rootChild => decide (rootChild.uuid = olt.getCageUUID transceiver.id))
      root.children = some (position, cageOf olt transceiver) := by
    rw [consistent.tree root managed]
    refine firstMatch_image found (by simp [cageOf_uuid_eq_iff noCollision]) ?_ _
    intro other different
    simpa only [cageOf_uuid_eq_iff noCollision] using different
  have created : createTransceiverComponent olt transceiver (cageOf olt transceiver).name =
      .ok (transceiverComponent olt transceiver (getCageName transceiver.id) optic,
        { transceiver with technology := optic.technology }) := by
    rw [createTransceiverComponent, known]
    rfl
  refine ⟨optic.technology, ?_⟩
  have filled : ({ cageOf olt transceiver with
      children := (cageOf olt transceiver).children ++
        [transceiverComponent olt transceiver (getCageName transceiver.id) optic] } : Component) =
      cageOf olt { transceiver with technology := optic.technology, pluggedIn := true } := by
    rw [cageOf_of_pluggedOut out]
    simp only [cageOf, if_true, known]
    rfl
  simp only [pluginTransceiverComponent, managed, found, out, Bool.false_eq_true, if_false, cage,
    created, changeCage]
  rw [consistent.tree root managed, modify_image present filled]
  rfl

end

/-- A refused request changes nothing. -/
theorem plugoutTransceiverComponent_refused
    (refused : (dms.plugoutTransceiverComponent olt transId).1 ≠ none) :
    (dms.plugoutTransceiverComponent olt transId).2 = dms := by
  revert refused
  unfold plugoutTransceiverComponent
  repeat' split
  all_goals simp

theorem pluginTransceiverComponent_refused
    (refused : (dms.pluginTransceiverComponent olt transId).1 ≠ none) :
    (dms.pluginTransceiverComponent olt transId).2 = dms := by
  revert refused
  unfold pluginTransceiverComponent
  repeat' split
  all_goals simp

/-- What it takes to be plugged out. -/
theorem plugoutTransceiverComponent_done
    (done : (dms.plugoutTransceiverComponent olt transId).1 = none) :
    ∃ root position transceiver, dms.root = some root ∧
      dms.getTransceiverWithId transId = some (position, transceiver) ∧ transceiver.pluggedIn = true := by
  unfold plugoutTransceiverComponent at done
  split at done
  · cases done
  · next root managed =>
    split at done
    · cases done
    · next position transceiver found =>
      split at done
      · cases done
      · next plugged => exact ⟨root, position, transceiver, managed, found, by simpa using plugged⟩

private theorem pluginTransceiverComponent_done
    (done : (dms.pluginTransceiverComponent olt transId).1 = none) :
    ∃ root position transceiver, dms.root = some root ∧
      dms.getTransceiverWithId transId = some (position, transceiver) ∧ transceiver.pluggedIn = false := by
  unfold pluginTransceiverComponent at done
  split at done
  · cases done
  · next root managed =>
    split at done
    · cases done
    · next position transceiver found =>
      split at done
      · cases done
      · next out => exact ⟨root, position, transceiver, managed, found, by simpa using out⟩

/-- A transceiver may be replaced by one with the same identity and PONs. -/
theorem Consistent.withTransceiver (consistent : Consistent olt dms)
    (present : dms.transceivers[position]? = some transceiver) (root : Component)
    (technology : TransceiverType) (pluggedIn : Bool) :
    Consistent olt (dms.withTransceiver olt root position
      { transceiver with technology := technology, pluggedIn := pluggedIn }) where
  transceivers := by
    intro other member
    rcases List.mem_or_eq_of_mem_set member with old | rfl
    · exact consistent.transceivers other old
    · exact consistent.transceivers transceiver (List.mem_of_getElem? present)
  tree := by
    intro other built
    obtain rfl := Option.some.inj built
    rfl

section

variable (noCollision : Function.Injective olt.hash) (consistent : Consistent olt dms)
include noCollision consistent

private theorem consistent_plugout (transId : UInt32) :
    Consistent olt (dms.plugoutTransceiverComponent olt transId).2 := by
  by_cases done : (dms.plugoutTransceiverComponent olt transId).1 = none
  · obtain ⟨root, position, transceiver, managed, found, plugged⟩ := plugoutTransceiverComponent_done done
    rw [plugoutTransceiverComponent_of_pluggedIn noCollision consistent managed found plugged]
    exact consistent.withTransceiver (firstMatch_eq_some found).1 root transceiver.technology false
  · rw [plugoutTransceiverComponent_refused done]
    exact consistent

private theorem consistent_plugin (transId : UInt32) :
    Consistent olt (dms.pluginTransceiverComponent olt transId).2 := by
  by_cases done : (dms.pluginTransceiverComponent olt transId).1 = none
  · obtain ⟨root, position, transceiver, managed, found, out⟩ := pluginTransceiverComponent_done done
    obtain ⟨technology, plugged⟩ :=
      pluginTransceiverComponent_of_pluggedOut noCollision consistent managed found out
    rw [plugged]
    exact consistent.withTransceiver (firstMatch_eq_some found).1 root technology true
  · rw [pluginTransceiverComponent_refused done]
    exact consistent

private theorem consistent_step {request : DmiRequest} (taken : dms.step olt request = some next) :
    Consistent olt next := by
  cases request with
  | startManagingDevice req sendError =>
    obtain rfl := Option.some.inj taken
    exact consistent_startManagingDevice consistent req sendError
  | stopManagingDevice req =>
    obtain rfl := Option.some.inj taken
    exact consistent_stopManagingDevice consistent req
  | plugoutTransceiver transId =>
    obtain rfl := Option.some.inj taken
    exact consistent_plugout noCollision consistent transId
  | pluginTransceiver transId =>
    obtain rfl := Option.some.inj taken
    exact consistent_plugin noCollision consistent transId

/-- After a transceiver was plugged out, plugging it in gives back the tree. -/
theorem Consistent.restored {out : DmiApiServer}
    (unplugged : dms.plugoutTransceiverComponent olt transId = (none, out)) :
    ∃ back, out.pluginTransceiverComponent olt transId = (none, back) ∧ back.root = dms.root := by
  obtain ⟨root, position, transceiver, managed, found, plugged⟩ :=
    plugoutTransceiverComponent_done (congrArg Prod.fst unplugged)
  obtain ⟨present, same, -⟩ := firstMatch_eq_some found
  obtain rfl : dms.withTransceiver olt root position { transceiver with pluggedIn := false } = out := by
    rw [plugoutTransceiverComponent_of_pluggedIn noCollision consistent managed found plugged] at unplugged
    exact (Prod.mk.inj unplugged).2
  have unpluggedConsistent :=
    consistent.withTransceiver present root transceiver.technology false
  have again : (dms.withTransceiver olt root position
      { transceiver with pluggedIn := false }).getTransceiverWithId transId =
        some (position, { transceiver with pluggedIn := false }) := firstMatch_set found same
  obtain ⟨technology, pluggedAgain⟩ := pluginTransceiverComponent_of_pluggedOut noCollision
    unpluggedConsistent rfl again rfl
  refine ⟨_, pluggedAgain, ?_⟩
  -- the cage has the child it had, whatever technology was noted before
  have sameCage : id (cageOf olt transceiver) =
      cageOf olt { transceiver with technology := technology, pluggedIn := true } := by
    rw [id, cageOf, plugged]
    rfl
  have sameCages := modify_image present sameCage (otherComponents olt)
  rw [List.modify_id, ← consistent.tree root managed] at sameCages
  simp only [DmiApiServer.withTransceiver, List.set_set, ← sameCages, managed]
  cases root
  rfl

end

/-- The cages in the tree. -/
def cages (root : Component) : List Component :=
  root.children.filter fun component => component.componentClass = .container

/-- The port of a PON. -/
def PortOf (olt : ManagedOlt) (pon : Pon) (port : Component) : Prop :=
  port.componentClass = .port ∧ port.uuid = olt.getPonUUID pon.id

/-- The cage shows the transceiver with its ports if it is plugged in, and nothing otherwise. -/
structure Shows (olt : ManagedOlt) (transceiver : Transceiver) (cage : Component) : Prop where
  uuid : cage.uuid = olt.getCageUUID transceiver.id
  pluggedIn : transceiver.pluggedIn = true → ∃ child, cage.children = [child] ∧
    child.uuid = transceiver.uuid ∧ List.Forall₂ (PortOf olt) transceiver.pons child.children
  pluggedOut : transceiver.pluggedIn = false → cage.children = []

private theorem shows_cageOf (nonempty : transceiver.pons ≠ []) :
    Shows olt transceiver (cageOf olt transceiver) where
  uuid := rfl
  pluggedIn := by
    intro plugged
    obtain ⟨optic, known⟩ := exists_optics nonempty
    refine ⟨transceiverComponent olt transceiver (getCageName transceiver.id) optic, ?_, rfl, ?_⟩
    · rw [cageOf_of_pluggedIn plugged known]
    · exact List.forall₂_map_right_iff.mpr (List.forall₂_same.mpr fun pon _ => ⟨rfl, rfl⟩)
  pluggedOut := by
    intro out
    rw [cageOf_of_pluggedOut out]
    rfl

theorem Consistent.cages_eq (consistent : Consistent olt dms) (managed : dms.root = some root) :
    cages root = dms.transceivers.map (cageOf olt) := by
  have containers : ∀ cage ∈ dms.transceivers.map (cageOf olt), cage.componentClass = .container := by
    intro cage member
    obtain ⟨transceiver, -, rfl⟩ := List.mem_map.mp member
    rfl
  have others : (otherComponents olt).filter (fun component => component.componentClass = .container) =
      [] := by
    rfl
  rw [cages, consistent.tree root managed, List.filter_append, others, List.append_nil,
    List.filter_eq_self.mpr fun cage member => decide_eq_true (containers cage member)]

/-- In every reachable state the tree, if there is one, has one cage for each transceiver, and in it the
transceiver with its ports exactly if it is plugged in. A refused plug request changes nothing, and
plugging in undoes plugging out. -/
theorem inventory_matches_transceivers (noCollision : Function.Injective olt.hash)
    {mapping : List (UInt32 × List Pon)} (ponsPresent : ∀ entry ∈ mapping, entry.2 ≠ [])
    {history : List (DmiApiServer × DmiRequest)}
    (run : Run (step olt) (startServer olt mapping) history dms) :
    (∀ root, dms.root = some root → List.Forall₂ (Shows olt) dms.transceivers (cages root) ∧
      ((dms.transceivers.map Transceiver.id).Nodup → ((cages root).map Component.uuid).Nodup)) ∧
    (∀ transId, ((dms.plugoutTransceiverComponent olt transId).1 ≠ none →
        (dms.plugoutTransceiverComponent olt transId).2 = dms) ∧
      ((dms.pluginTransceiverComponent olt transId).1 ≠ none →
        (dms.pluginTransceiverComponent olt transId).2 = dms)) ∧
    ∀ transId out, dms.plugoutTransceiverComponent olt transId = (none, out) →
      ∃ back, out.pluginTransceiverComponent olt transId = (none, back) ∧ back.root = dms.root := by
  have consistent : Consistent olt dms := run.invariant_of_step (consistent_startServer ponsPresent)
    fun _ _ _ held taken => consistent_step noCollision held taken
  refine ⟨fun root managed => ?_, fun transId => ?_, fun transId out unplugged => ?_⟩
  · rw [consistent.cages_eq managed]
    constructor
    · refine List.forall₂_map_right_iff.mpr (List.forall₂_same.mpr fun transceiver member => ?_)
      exact shows_cageOf (consistent.transceivers transceiver member).2
    · intro distinct
      have uuids : (dms.transceivers.map (cageOf olt)).map Component.uuid =
          (dms.transceivers.map Transceiver.id).map olt.getCageUUID := by
        rw [List.map_map, List.map_map]
        rfl
      rw [uuids]
      exact List.Nodup.map (fun _ _ same => (ManagedOlt.getCageUUID_inj noCollision).mp same) distinct
  · exact ⟨plugoutTransceiverComponent_refused, pluginTransceiverComponent_refused⟩
  · exact consistent.restored noCollision unplugged

/-- An OLT whose identifiers are the names themselves. -/
def plainOlt : ManagedOlt := ⟨id, "BBSim", "BBSIM_OLT_0"⟩

/-- A transceiver for one PON and one for two. -/
def twoTransceivers : List (UInt32 × List Pon) := [(0, [⟨0, .gpon⟩]), (1, [⟨1, .gpon⟩, ⟨2, .xgspon⟩])]

/-- The second transceiver is plugged out, and stays out of the tree that is built next. -/
theorem inventory_matches_unplugged : ∃ history dms root,
    Run (step plainOlt) (startServer plainOlt twoTransceivers) history dms ∧ dms.root = some root ∧
      dms.transceivers.map Transceiver.pluggedIn = [true, false] ∧
      List.Forall₂ (Shows plainOlt) dms.transceivers (cages root) := by
  obtain ⟨history, dms, run, managed, plugged⟩ := run_of_replay (step plainOlt)
    (startServer plainOlt twoTransceivers)
    [.startManagingDevice (some ⟨"olt", "192.168.0.1"⟩) none, .plugoutTransceiver 1,
      .stopManagingDevice (some ⟨"olt"⟩), .pluginTransceiver 1,
      .startManagingDevice (some ⟨"olt", "192.168.0.1"⟩) none]
    (fun dms => dms.root.isSome = true ∧
      dms.transceivers.map Transceiver.pluggedIn = [true, false]) (by decide +kernel)
  obtain ⟨root, built⟩ := Option.isSome_iff_exists.mp managed
  have shown := inventory_matches_transceivers Function.injective_id (by decide) run
  exact ⟨history, dms, root, run, built, plugged, (shown.1 root built).1⟩

end DmiApiServer

end Bbsim.Dmi
