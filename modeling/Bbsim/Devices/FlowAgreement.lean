import Bbsim.Devices.FlowBookkeeping
import Bbsim.Devices.OnuEffects

/-! Agreement of the flow tables. Every id an ONU lists should be that of a flow the OLT stores for
this ONU; the API's `GetFlows` relies on it. Flow calls, the disabling of ONUs and of PONs, and
whatever else happens to an ONU may come in any order. -/

namespace Bbsim.Devices

open Foundation

/-- The ONUs of a PON in turn, each with the resources as the one before left them. -/
def eachOnu (act : AttachedOnu → Except Fault AttachedOnu) :
    List Onu → PonResources → Except Fault (List Onu × PonResources)
  | [], resources => .ok ([], resources)
  | onu :: rest, resources =>
    (act ⟨onu, resources⟩).bind fun next =>
      (eachOnu act rest next.resources).map fun (onus, resources) => (next.onu :: onus, resources)

variable {onus : List Onu}

theorem yields_eachOnu {act : AttachedOnu → Except Fault AttachedOnu} {raises : Fault → Prop}
    {related : Onu → Onu → Prop}
    (one : ∀ onu ∈ onus, ∀ resources, Yields (act ⟨onu, resources⟩) raises fun next => related onu next.onu)
    (resources : PonResources) :
    Yields (eachOnu act onus resources) raises fun result =>
      List.Forall₂ related onus result.1 := by
  induction onus generalizing resources with
  | nil => exact .nil
  | cons onu rest ih =>
    rw [eachOnu, yields_exceptBind]
    refine (one onu List.mem_cons_self resources).mono fun next first => ?_
    rw [yields_map]
    have later := ih (fun other member => one other (List.mem_cons_of_mem _ member)) next.resources
    exact later.mono fun result others => .cons first others

namespace Olt

variable {olt next : Olt} {flow : Flow} {position : Position}

/-- The `disable` event of the PON with this index; a refused one is only logged. -/
def disablePon (olt : Olt) (pon : Nat) : Except Fault Olt :=
  match olt.pons[pon]? with
  | none => .ok olt
  | some port =>
    match port.internalState.after .disable with
    | none => .ok olt
    | some state =>
      (eachOnu (AttachedOnu.ponDisabled · 0) port.onus port.resources).map fun (onus, resources) =>
        { olt with pons := olt.pons.set pon ⟨port.id, state, onus, resources⟩ }

/-- `HandleShutdownONU` for one ONU. -/
def disableOnu (olt : Olt) (position : Position) : Except Fault Olt :=
  match olt.pons[position.1]?, olt.onuAt position with
  | some port, some onu =>
    ((AttachedOnu.mk onu port.resources).handleShutdownOnu 0).map fun next =>
      { olt with
        pons := olt.pons.set position.1
          { port with onus := port.onus.set position.2 next.onu, resources := next.resources } }
  | _, _ => .ok olt

/-- All ONUs have the same vendor id in their serial numbers. -/
def findOnuBySn (olt : Olt) (vendorSpecific : List UInt8) : Option Position :=
  olt.positions.find? fun position =>
    (olt.onuAt position).any fun onu => onu.vendorSpecific = vendorSpecific

/-- The flows of an ONU, one by one; the type assertion panics on an id that is not stored. -/
def loadFlows (olt : Olt) : List UInt64 → Except UInt64 (List Flow)
  | [] => .ok []
  | flowId :: rest =>
    match olt.flows.lookup flowId with
    | none => .error flowId
    | some flow => (loadFlows olt rest).map (flow :: ·)

/-- `none` is the error returned for an unknown ONU. -/
def getFlows (olt : Olt) (vendorSpecific : List UInt8) : Except UInt64 (Option (List Flow)) :=
  match (olt.findOnuBySn vendorSpecific).bind olt.onuAt with
  | none => .ok none
  | some onu => (olt.loadFlows onu.flows).map some

private theorem loadFlows_returns {flowIds : List UInt64}
    (stored : ∀ flowId ∈ flowIds, (olt.flows.lookup flowId).isSome) :
    ∃ flows, olt.loadFlows flowIds = .ok flows := by
  induction flowIds with
  | nil => exact ⟨[], rfl⟩
  | cons flowId rest ih =>
    obtain ⟨flow, found⟩ := Option.isSome_iff_exists.mp (stored flowId (by simp))
    obtain ⟨flows, loaded⟩ := ih fun other listed => stored other (by simp [listed])
    exact ⟨flow :: flows, by simp [loadFlows, found, loaded, Except.map]⟩

/-- The flow is for the ONU at this position. -/
def Names (olt : Olt) (flow : Flow) (position : Position) : Prop :=
  flow.isOltFlow = false ∧ olt.storedOnu flow = some position

/-- The ids an ONU lists are listed once, and are those of flows stored for it. -/
structure Listed (olt : Olt) : Prop where
  once : ∀ position onu, olt.onuAt position = some onu → onu.flows.Nodup
  stored : ∀ position onu, olt.onuAt position = some onu → ∀ flowId ∈ onu.flows,
    ∃ flow, olt.flows.lookup flowId = some flow ∧ olt.Names flow position

/-- The tables agree, and `GetFlows` never meets a missing flow. -/
structure Agree (olt : Olt) : Prop extends Listed olt where
  served : ∀ vendorSpecific, ∃ reply, olt.getFlows vendorSpecific = .ok reply

theorem agree_iff : olt.Agree ↔ olt.Listed := by
  refine ⟨Agree.toListed, fun listed => ⟨listed, fun vendorSpecific => ?_⟩⟩
  unfold getFlows
  cases found : (olt.findOnuBySn vendorSpecific).bind olt.onuAt with
  | none => exact ⟨none, rfl⟩
  | some onu =>
    obtain ⟨position, -, present⟩ := Option.bind_eq_some_iff.mp found
    have known : ∀ flowId ∈ onu.flows, (olt.flows.lookup flowId).isSome := by
      intro flowId member
      obtain ⟨flow, lookup, -⟩ := listed.stored position onu present flowId member
      simp [lookup]
    obtain ⟨flows, loaded⟩ := loadFlows_returns known
    exact ⟨some flows, by simp [loaded, Except.map]⟩

/-- Lists may be kept or emptied. -/
theorem Listed.shrink (listed : olt.Listed) (flows : next.flows = olt.flows)
    (ids : next.ids = olt.ids)
    (lists : ∀ position onu, next.onuAt position = some onu →
      ∃ old, olt.onuAt position = some old ∧ (onu.flows = old.flows ∨ onu.flows = [])) :
    next.Listed where
  once := by
    intro position onu present
    obtain ⟨old, before, same | empty⟩ := lists position onu present
    · rw [same]
      exact listed.once position old before
    · rw [empty]
      exact List.nodup_nil
  stored := by
    intro position onu present flowId member
    obtain ⟨old, before, same | empty⟩ := lists position onu present
    · rw [same] at member
      obtain ⟨flow, found, onuFlow, located⟩ := listed.stored position old before flowId member
      exact ⟨flow, by rw [flows, found], onuFlow, by rw [storedOnu_of_ids ids, located]⟩
    · rw [empty] at member
      cases member

end Olt

/-- The ONU is the same one, and its list is kept or emptied. -/
def Onu.ListKept (old new : Onu) : Prop :=
  new.id = old.id ∧ (new.flows = old.flows ∨ new.flows = [])

namespace AttachedOnu

variable (attached : AttachedOnu) (context : Nat)
include attached context

theorem ensures_tryEvent_listKept (tx : OnuTx) :
    Ensures (attached.tryEvent context tx) fun next => attached.onu.ListKept next.onu := by
  refine ensures_tryEvent.mono fun next same => ?_
  rw [same]
  cases attached.onu.internalState.after tx with
  | none => exact ⟨rfl, .inl rfl⟩
  | some state =>
    refine ⟨entered_effects.id, ?_⟩
    rw [Option.map_some, Option.getD_some, entered_effects.flows]
    split
    · exact .inr rfl
    · exact .inl rfl

private theorem ensures_ponDisabled_listKept :
    Ensures (attached.ponDisabled context) fun next => attached.onu.ListKept next.onu := by
  unfold ponDisabled
  split
  · exact ⟨rfl, .inl rfl⟩
  · exact attached.ensures_tryEvent_listKept context .ponDisable

private theorem ensures_handleShutdownOnu_listKept :
    Ensures (attached.handleShutdownOnu context) fun next => attached.onu.ListKept next.onu := by
  have alarmed : Ensures attached.raiseLos fun next =>
      next.onu.id = attached.onu.id ∧ next.onu.flows = attached.onu.flows := by
    unfold raiseLos
    split
    · exact ⟨rfl, rfl⟩
    · simp [sendOmciAlarmNotificationMsg]
  rw [handleShutdownOnu_eq, Ensures, yields_exceptBind]
  refine alarmed.mono fun middle first => ?_
  refine (middle.ensures_tryEvent_listKept context .disable).mono fun next second => ?_
  exact ⟨second.1.trans first.1, second.2.imp (·.trans first.2) id⟩

end AttachedOnu

namespace Olt

variable {olt next : Olt} {flow : Flow} {position : Position}

/-- Another state of one PON, whose ONUs kept or emptied their lists. -/
theorem Listed.replacePon (listed : olt.Listed) {pon : Nat} {port after : PonPort}
    (found : olt.pons[pon]? = some port) (id : after.id = port.id)
    (kept : List.Forall₂ Onu.ListKept port.onus after.onus) :
    { olt with pons := olt.pons.set pon after : Olt }.Listed := by
  obtain ⟨inside, rfl⟩ := List.getElem?_eq_some_iff.mp found
  obtain ⟨length, each⟩ := List.forall₂_iff_get.mp kept
  have sameIds : after.onus.map Onu.id = olt.pons[pon].onus.map Onu.id := by
    refine List.ext_getElem (by simp [length]) fun index here there => ?_
    simpa using (each index (by simpa using there) (by simpa using here)).1
  refine listed.shrink rfl ?_ ?_
  · rw [ids, ids, List.map_set, id, sameIds]
    have inMap : pon < (olt.pons.map fun pon => (pon.id, pon.onus.map Onu.id)).length := by
      simpa using inside
    simpa using List.set_getElem_self inMap
  · rintro ⟨otherPon, index⟩ onu present
    simp only [onuAt, List.getElem?_set] at present ⊢
    split at present
    · next same =>
      subst same
      rw [Option.bind_some] at present
      obtain ⟨there, rfl⟩ := List.getElem?_eq_some_iff.mp present
      refine ⟨olt.pons[pon].onus[index], by simp [inside, length, there], ?_⟩
      exact (each index (by omega) there).2
    · exact ⟨onu, present, .inl rfl⟩

private theorem listed_disablePon (listed : olt.Listed) (pon : Nat) :
    Ensures (olt.disablePon pon) Listed := by
  unfold disablePon
  split
  · exact listed
  · next port found =>
    split
    · exact listed
    · rw [Ensures, yields_map]
      refine (yields_eachOnu (fun onu _ resources =>
        AttachedOnu.ensures_ponDisabled_listKept ⟨onu, resources⟩ 0) port.resources).mono
          fun result kept => ?_
      exact listed.replacePon found rfl kept

private theorem forall₂_set {index : Nat} {onu after : Onu} (present : onus[index]? = some onu)
    (kept : onu.ListKept after) :
    List.Forall₂ Onu.ListKept onus (onus.set index after) := by
  obtain ⟨inside, rfl⟩ := List.getElem?_eq_some_iff.mp present
  refine List.forall₂_iff_get.mpr ⟨by simp, fun place here there => ?_⟩
  by_cases same : index = place
  · subst same
    simpa using kept
  · simp [same, Onu.ListKept]

private theorem listed_disableOnu (listed : olt.Listed) (position : Position) :
    Ensures (olt.disableOnu position) Listed := by
  unfold disableOnu
  split
  · next port onu found present =>
    rw [Ensures, yields_map]
    refine (AttachedOnu.ensures_handleShutdownOnu_listKept _ 0).mono fun after kept => ?_
    refine listed.replacePon found rfl (forall₂_set ?_ kept)
    simpa [onuAt, found] using present
  · exact listed

theorem listed_setOnu (listed : olt.Listed) {old onu : Onu} (present : olt.onuAt position = some old)
    (id : onu.id = old.id) (flows : onu.flows = old.flows) : (olt.setOnu position onu).Listed := by
  refine listed.shrink rfl (ids_setOnu present id) fun other after there => ?_
  rw [onuAt_setOnu, present] at there
  split at there
  · next same =>
    obtain rfl := Option.some.inj there
    exact ⟨old, by rw [same, present], .inl flows⟩
  · exact ⟨after, there, .inl rfl⟩

variable {flowId : UInt64} {onu : Onu}

/-- A stored flow is taken from the list of the ONU it names and from the table. -/
theorem Listed.deleteFlow (listed : olt.Listed) {stored : Flow}
    (found : olt.flows.lookup flowId = some stored)
    (located : olt.storedOnu stored = some position) (present : olt.onuAt position = some onu) :
    { olt.setOnu position { onu with flows := onu.flows.erase flowId } with
      flows := olt.flows.erase flowId : Olt }.Listed := by
  have ids : (olt.setOnu position { onu with flows := onu.flows.erase flowId }).ids = olt.ids :=
    ids_setOnu present rfl
  have lists : ∀ other after,
      (olt.setOnu position { onu with flows := onu.flows.erase flowId }).onuAt other = some after →
      ∃ old, olt.onuAt other = some old ∧
        after.flows = if other = position then old.flows.erase flowId else old.flows := by
    intro other after there
    rw [onuAt_setOnu, present] at there
    split at there
    · next same =>
      obtain rfl := Option.some.inj there
      exact ⟨onu, by rw [same, present], by simp [same]⟩
    · next different => exact ⟨after, there, by simp [different]⟩
  constructor
  · intro other after there
    obtain ⟨old, before, same⟩ := lists other after there
    have once := listed.once other old before
    rw [same]
    split
    · exact once.erase flowId
    · exact once
  · intro other after there listedId member
    obtain ⟨old, before, same⟩ := lists other after there
    have memberBefore : listedId ∈ old.flows := by
      rw [same] at member
      split at member
      · exact List.mem_of_mem_erase member
      · exact member
    obtain ⟨flow, lookup, onuFlow, here⟩ := listed.stored other old before listedId memberBefore
    refine ⟨flow, ?_, onuFlow, by rw [← here]; exact storedOnu_of_ids ids flow⟩
    rw [FiniteMap.lookup_erase_eq, if_neg, lookup]
    rintro rfl
    -- the flow names one ONU, and there it was listed once
    obtain rfl := Option.some.inj (found.symm.trans lookup)
    obtain rfl := Option.some.inj (here.symm.trans located)
    rw [same, if_pos rfl] at member
    exact (listed.once other old before).not_mem_erase member

theorem listed_forgetFlow (listed : olt.Listed) (forgotten : olt.forgetFlow flowId = .ok next) :
    next.Listed := by
  unfold forgetFlow at forgotten
  split at forgotten
  · obtain rfl := Except.ok.inj forgotten
    exact listed
  · split at forgotten
    · cases forgotten
    · next stored found =>
      split at forgotten
      · next trap =>
        obtain rfl := Except.ok.inj forgotten
        refine ⟨listed.once, fun position onu present other member => ?_⟩
        obtain ⟨flow, lookup, onuFlow, located⟩ := listed.stored position onu present other member
        refine ⟨flow, ?_, onuFlow, located⟩
        rw [FiniteMap.lookup_erase_eq, if_neg, lookup]
        rintro rfl
        obtain rfl := Option.some.inj (found.symm.trans lookup)
        rw [trap] at onuFlow
        cases onuFlow
      · split at forgotten
        · cases forgotten
        · next position located =>
          obtain rfl := Except.ok.inj forgotten
          obtain ⟨onu, present⟩ := onuAt_of_storedOnu located
          simpa only [deleteOnuFlow, present] using listed.deleteFlow found located present

variable {reply : Option FlowFailure}

private theorem listed_flowRemove (listed : olt.Listed)
    (returned : olt.flowRemove flow = .ok (next, reply)) : next.Listed := by
  have freed : (olt.freeResources flow.flowId).Listed :=
    listed.shrink rfl rfl fun _ onu present => ⟨onu, present, .inl rfl⟩
  simp only [flowRemove] at returned
  split at returned
  · obtain ⟨rfl, -⟩ := Prod.mk.inj (Except.ok.inj returned)
    exact freed
  · next middle forgotten =>
    have cleared := listed_forgetFlow freed forgotten
    split at returned
    · obtain ⟨rfl, -⟩ := Prod.mk.inj (Except.ok.inj returned)
      exact cleared
    · split at returned
      · obtain ⟨rfl, -⟩ := Prod.mk.inj (Except.ok.inj returned)
        exact cleared
      · split at returned
        · cases returned
        · cases returned
        · next position _ sentOnu sent =>
          obtain ⟨rfl, -⟩ := Prod.mk.inj (Except.ok.inj returned)
          obtain ⟨onu, present, sent⟩ := Option.map_eq_some_iff.mp sent
          have kept : sentOnu = onu.enqueue [.flowRemoved flow] := by
            have ensured : Ensures (onu.send (.flowRemoved flow))
                (· = onu.enqueue [.flowRemoved flow]) := by
              rw [Ensures, Onu.yields_send]
              split <;> trivial
            exact ensured.value sent
          exact listed_setOnu cleared present (by rw [kept]; rfl) (by rw [kept]; rfl)

/-- `FlowAdd` lists the flow at the ONU. -/
def Lists (olt : Olt) (flow : Flow) (position : Position) : Prop :=
  olt.enablePerf = false ∧ flow.isOnuFlow = true ∧ olt.activeOnu flow = some position

instance (olt : Olt) (flow : Flow) (position : Position) : Decidable (olt.Lists flow position) :=
  inferInstanceAs (Decidable (_ ∧ _ ∧ _))

/-- What `FlowAdd` does to the flow tables. -/
structure FlowAdded (olt next : Olt) (flow : Flow) : Prop where
  flows : next.flows = (olt.recordFlow flow).flows
  ids : next.ids = olt.ids
  lists : ∀ position, (next.onuAt position).map Onu.flows =
    (olt.onuAt position).map fun onu =>
      if olt.Lists flow position then onu.flows ++ [flow.flowId] else onu.flows

theorem flowAdd_tables (returned : olt.flowAdd flow = .ok (next, reply)) : olt.FlowAdded next flow := by
  rcases flowAdd_cases returned with ⟨other, rfl, -⟩ | ⟨-, inactive, rfl, -⟩ |
    ⟨position, onu, onuFlow, active, present, outcome⟩
  · exact ⟨rfl, by rw [ids, ids, recordFlow_pons], by simp [onuAt_recordFlow, Lists, other]⟩
  · exact ⟨rfl, by rw [ids, ids, recordFlow_pons], by simp [onuAt_recordFlow, Lists, inactive]⟩
  · obtain ⟨gemPortIDs, allocIDs, messages, rfl⟩ := outcome.result
    have here : (olt.booked flow gemPortIDs allocIDs).onuAt position = some onu := present
    refine ⟨rfl, ids_setOnu here (by simp), fun other => ?_⟩
    rw [onuAt_setOnu, here]
    split
    · next same =>
      subst same
      rw [present]
      cases perf : olt.enablePerf <;> simp [Onu.listFlow, Lists, perf, onuFlow, active]
    · next different =>
      have unlisted : ¬ olt.Lists flow other := fun lists =>
        different (Option.some.inj (lists.2.2.symm.trans active))
      simp only [if_neg unlisted]
      rfl

/-- An id that some ONU lists is added again only for that ONU, and so that it is not listed there a
second time: the flow is a multicast one, or the ONU is disabled. -/
def ReusesSafely (olt : Olt) (flow : Flow) : Prop :=
  olt.enablePerf = false → ∀ position onu, olt.onuAt position = some onu → flow.flowId ∈ onu.flows →
    olt.Names flow position ∧ (flow.flowType = .multicast ∨ onu.active = false)

/-- For a flow that names the ONU. -/
theorem not_lists_iff (perf : olt.enablePerf = false) (present : olt.onuAt position = some onu)
    (names : olt.Names flow position) :
    ¬ olt.Lists flow position ↔ flow.flowType = .multicast ∨ onu.active = false := by
  cases active : onu.active <;>
    simp [Lists, perf, activeOnu, names.2, present, Flow.isOnuFlow, names.1, active]

theorem names_of_ids (ids : next.ids = olt.ids) : next.Names flow position ↔ olt.Names flow position := by
  rw [Names, Names, storedOnu_of_ids ids]

private theorem names_of_lists (lists : olt.Lists flow position) : olt.Names flow position := by
  obtain ⟨-, onuFlow, active⟩ := lists
  refine ⟨?_, (Option.filter_eq_some_iff.mp active).1⟩
  simpa using (not_or.mp (Flow.not_olt_of_isOnuFlow onuFlow)).1

namespace FlowAdded

variable (added : olt.FlowAdded next flow)

include added

private theorem after (present : olt.onuAt position = some onu) :
    ∃ onuAfter, next.onuAt position = some onuAfter ∧ onuAfter.flows =
      if olt.Lists flow position then onu.flows ++ [flow.flowId] else onu.flows := by
  have same := added.lists position
  rw [present, Option.map_some] at same
  exact Option.map_eq_some_iff.mp same

variable {onuAfter : Onu}

theorem before (present : next.onuAt position = some onuAfter) :
    ∃ onu, olt.onuAt position = some onu ∧ onuAfter.flows =
      if olt.Lists flow position then onu.flows ++ [flow.flowId] else onu.flows := by
  have same := added.lists position
  rw [present, Option.map_some] at same
  obtain ⟨onu, before, list⟩ := Option.map_eq_some_iff.mp same.symm
  exact ⟨onu, before, list.symm⟩

private theorem reusesSafely (listed : next.Listed) : olt.ReusesSafely flow := by
  intro perf position onu present member
  obtain ⟨onuAfter, presentAfter, list⟩ := added.after present
  have memberAfter : flow.flowId ∈ onuAfter.flows := by
    rw [list]
    split <;> simp [member]
  obtain ⟨stored, found, names⟩ := listed.stored position onuAfter presentAfter _ memberAfter
  rw [added.flows, recordFlow_lookup perf, if_pos rfl] at found
  obtain rfl := Option.some.inj found
  have named := (names_of_ids added.ids).mp names
  refine ⟨named, (not_lists_iff perf present named).mp fun again => ?_⟩
  have twice := listed.once position onuAfter presentAfter
  rw [list, if_pos again, List.nodup_append] at twice
  exact twice.2.2 _ member _ (by simp) rfl

/-- No ONU lists the flow a second time. -/
theorem once (listed : olt.Listed) (safely : olt.ReusesSafely flow)
    (presentAfter : next.onuAt position = some onuAfter) : onuAfter.flows.Nodup := by
  obtain ⟨onu, present, list⟩ := added.before presentAfter
  have once := listed.once position onu present
  rw [list]
  split
  · next again =>
    refine List.nodup_append.mpr ⟨once, List.nodup_singleton _, ?_⟩
    rintro flowId member _ same rfl
    obtain rfl := List.mem_singleton.mp same
    obtain ⟨names, spared⟩ := safely again.1 position onu present member
    exact (not_lists_iff again.1 present names).mpr spared again
  · exact once

/-- What an ONU lists is stored for it. -/
theorem stored (listed : olt.Listed) (safely : olt.ReusesSafely flow)
    (presentAfter : next.onuAt position = some onuAfter) (member : flowId ∈ onuAfter.flows) :
    ∃ stored, next.flows.lookup flowId = some stored ∧ next.Names stored position := by
  obtain ⟨onu, present, list⟩ := added.before presentAfter
  rw [list] at member
  simp only [names_of_ids added.ids, added.flows]
  cases perf : olt.enablePerf with
  | true =>
    have unlisted : ¬ olt.Lists flow position := by simp [Lists, perf]
    rw [if_neg unlisted] at member
    simpa [recordFlow, perf] using listed.stored position onu present flowId member
  | false =>
    rw [recordFlow_lookup perf]
    by_cases same : flowId = flow.flowId
    · subst same
      refine ⟨flow, if_pos rfl, ?_⟩
      by_cases again : olt.Lists flow position
      · exact names_of_lists again
      · rw [if_neg again] at member
        exact (safely perf position onu present member).1
    · have old : flowId ∈ onu.flows := by
        split at member
        · simpa [same] using member
        · exact member
      rw [if_neg same]
      exact listed.stored position onu present flowId old

end FlowAdded

theorem listed_flowAdd_iff (listed : olt.Listed) (returned : olt.flowAdd flow = .ok (next, reply)) :
    next.Listed ↔ olt.ReusesSafely flow := by
  have added := flowAdd_tables returned
  constructor
  · exact added.reusesSafely
  · exact fun safely => ⟨fun _ _ => added.once listed safely,
      fun _ _ present _ => added.stored listed safely present⟩

inductive BookStep where
  | flowAdd (flow : Flow)
  | flowRemove (flow : Flow)
  | disableOnu (position : Position)
  | disablePon (pon : Nat)
  /-- Anything else that happens to an ONU, such as its loop handling a message: the ONU becomes this
  one, with the id and the list of flows it had. -/
  | other (position : Position) (onu : Onu)

def bookStep (olt : Olt) : BookStep → Option Olt
  | .flowAdd flow => (olt.flowAdd flow).toOption.map Prod.fst
  | .flowRemove flow => (olt.flowRemove flow).toOption.map Prod.fst
  | .disableOnu position => (olt.disableOnu position).toOption
  | .disablePon pon => (olt.disablePon pon).toOption
  | .other position onu =>
    (olt.onuAt position).bind fun old =>
      if onu.id = old.id ∧ onu.flows = old.flows then some (olt.setOnu position onu) else none

def AddsSafely (olt : Olt) : BookStep → Prop
  | .flowAdd flow => olt.ReusesSafely flow
  | _ => True

theorem agree_bookStep_iff (olt : Olt) (label : BookStep) (next : Olt) (agree : olt.Agree)
    (taken : olt.bookStep label = some next) : next.Agree ↔ olt.AddsSafely label := by
  rw [agree_iff]
  have listed := agree.toListed
  cases label with
  | flowAdd flow =>
    obtain ⟨⟨_, reply⟩, returned, rfl⟩ := Option.map_eq_some_iff.mp taken
    exact listed_flowAdd_iff listed (eq_ok_of_toOption returned)
  | flowRemove flow =>
    obtain ⟨⟨_, reply⟩, returned, rfl⟩ := Option.map_eq_some_iff.mp taken
    exact iff_of_true (listed_flowRemove listed (eq_ok_of_toOption returned)) trivial
  | disableOnu position =>
    exact iff_of_true ((listed_disableOnu listed position).value (eq_ok_of_toOption taken)) trivial
  | disablePon pon =>
    exact iff_of_true ((listed_disablePon listed pon).value (eq_ok_of_toOption taken)) trivial
  | other position onu =>
    obtain ⟨old, present, replaced⟩ := Option.bind_eq_some_iff.mp taken
    split at replaced
    · next same =>
      obtain rfl := Option.some.inj replaced
      exact iff_of_true (listed_setOnu listed present same.1 same.2) trivial
    · cases replaced

/-- No ONU lists a flow. -/
def Unlisted (olt : Olt) : Prop := ∀ position onu, olt.onuAt position = some onu → onu.flows = []

theorem Unlisted.listed (unlisted : olt.Unlisted) : olt.Listed where
  once := fun position onu present => by simp [unlisted position onu present]
  stored := fun position onu present => by simp [unlisted position onu present]

/-- The tables agree throughout a run exactly if no `FlowAdd` re-uses a listed id in another way than
`ReusesSafely` says. -/
theorem flow_tables_agree_iff {start : Olt} (unlisted : start.Unlisted)
    {history : List (Olt × BookStep)} (run : Run bookStep start history olt) :
    Meets (fun olt _ => olt.Agree) history ∧ olt.Agree ↔ Meets AddsSafely history := by
  have initial : True ∧ start.Agree := ⟨trivial, agree_iff.mpr unlisted.listed⟩
  exact run.throughout_iff initial (fun _ _ _ _ _ => trivial)
    fun olt label next _ agree taken => agree_bookStep_iff olt label next agree taken

theorem forall_onuAt_iff {holds : Position → Onu → Prop} :
    (∀ position ∈ olt.positions, ∀ onu ∈ olt.onuAt position, holds position onu) ↔
      ∀ position onu, olt.onuAt position = some onu → holds position onu := by
  refine ⟨fun all position onu present => all position ?_ onu present,
    fun all position _ onu => all position onu⟩
  simp [mem_positions_iff, present]

instance (olt : Olt) : Decidable olt.Unlisted :=
  decidable_of_iff _ (@forall_onuAt_iff olt fun _ onu => onu.flows = [])

instance (olt : Olt) (flow : Flow) (position : Position) : Decidable (olt.Names flow position) :=
  inferInstanceAs (Decidable (_ ∧ _))

instance (olt : Olt) (flow : Flow) : Decidable (olt.ReusesSafely flow) :=
  decidable_of_iff _ (imp_congr_right fun _ : olt.enablePerf = false =>
    @forall_onuAt_iff olt fun position onu => flow.flowId ∈ onu.flows →
      olt.Names flow position ∧ (flow.flowType = .multicast ∨ onu.active = false))

instance (olt : Olt) : (label : BookStep) → Decidable (olt.AddsSafely label)
  | .flowAdd flow => inferInstanceAs (Decidable (olt.ReusesSafely flow))
  | .flowRemove _ | .disableOnu _ | .disablePon _ | .other _ _ => .isTrue trivial

/-- Two enabled ONUs on one PON. -/
def twoOnuOlt : Olt where
  enablePerf := false
  flows := ∅
  gemPortIDs := (∅ : ResourceIds).insert 0 (((∅ : PonIds).insert 1 ∅).insert 2 ∅)
  allocIDs := (∅ : ResourceIds).insert 0 (((∅ : PonIds).insert 1 ∅).insert 2 ∅)
  pons := [⟨0, .enabled, [enabledOnu,
    { enabledOnu with id := 2, serialNumber := 1, vendorSpecific := [0, 0, 0, 2] }], .empty⟩]

/-- The id of a flow that an ONU lists is given to a multicast flow of the same ONU. -/
theorem flow_tables_agree_multicast : ∃ history final, Run bookStep twoOnuOlt history final ∧
    (final.onuAt (0, 0)).map Onu.flows = some [64] ∧
    (final.onuAt (0, 1)).map Onu.flows = some [65] ∧ final.Agree := by
  obtain ⟨history, final, run, safely, first, second⟩ := run_of_guarded_replay AddsSafely bookStep
    twoOnuOlt [.flowAdd upstreamFlow, .flowAdd { upstreamFlow with flowType := .multicast },
      .flowAdd { upstreamFlow with flowId := 65, onuId := 2, gemportId := 1025, allocId := 1025 }]
    (fun final => (final.onuAt (0, 0)).map Onu.flows = some [64] ∧
      (final.onuAt (0, 1)).map Onu.flows = some [65]) (by decide +kernel)
  have agree := (flow_tables_agree_iff (by decide +kernel : twoOnuOlt.Unlisted) run).mpr safely
  exact ⟨history, final, run, first, second, agree.2⟩

/-- The same id, with other resources, for the second ONU. -/
def reusedFlow : Flow := { upstreamFlow with onuId := 2, gemportId := 1025, allocId := 1025 }

/-- Once the re-used flow is removed, `GetFlows` panics for the first ONU. -/
theorem reused_flow_id_breaks_getFlows : ∃ history final, Run bookStep twoOnuOlt history final ∧
    final.getFlows [0, 0, 0, 1] = .error 64 ∧ ¬ final.Agree := by
  obtain ⟨history, final, run, missing⟩ := run_of_replay bookStep twoOnuOlt
    [.flowAdd upstreamFlow, .flowAdd reusedFlow, .flowRemove reusedFlow]
    (fun final => fails (final.getFlows [0, 0, 0, 1]) 64 = true) (by decide +kernel)
  have panics := eq_error_of_fails missing
  refine ⟨history, final, run, panics, fun agree => ?_⟩
  obtain ⟨reply, returned⟩ := agree.served [0, 0, 0, 1]
  rw [panics] at returned
  cases returned

end Olt

end Bbsim.Devices
