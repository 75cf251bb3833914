import Bbsim.Foundation.MapRange
import Bbsim.Devices.FlowBookkeeping
import Mathlib.Data.Set.Insert

/-! The resource tables as sets of tuples. `GemPortIDs` and `AllocIDs` are maps of maps, five levels
deep, and `freeGemPortId` and `freeAllocId` delete from them inside the loops that range over them.
Here is the set of tuples such a table stands for. -/

namespace Bbsim.Devices

open Foundation

/-- The orders in which the five loops visit their keys. -/
structure FreeOrder where
  pons : RangeOrder UInt32
  onus : UInt32 → RangeOrder UInt32
  unis : UInt32 → UInt32 → RangeOrder UInt32
  ids : UInt32 → UInt32 → UInt32 → RangeOrder Int32
  flows : UInt32 → UInt32 → UInt32 → Int32 → RangeOrder UInt64

variable {flows : Finset UInt64}

namespace ResourceIds

/-- The flows under an id; a missing id has none. -/
def idFlows (uniValues : IdFlows) (id : Int32) : Finset UInt64 := (uniValues.lookup id).getD ∅

/-- The body of the innermost loop. The inner map is the one `uniValues` holds, so that deleting from
it shows in `uniValues`. -/
def freeVisited (flowId : UInt64) (id : Int32) (visited : UInt64) (uniValues : IdFlows) : IdFlows :=
  let deleted := if flowId = visited
    then FiniteMap.alter id (fun flows => some (flows.erase flowId)) uniValues else uniValues
  if idFlows deleted id = ∅ then deleted.erase id else deleted

def freeInUni (ids : RangeOrder Int32) (flows : Int32 → RangeOrder UInt64) (flowId : UInt64)
    (uniValues : IdFlows) : IdFlows :=
  range ids FiniteMap.keySet (fun id =>
    range (flows id) (fun uniValues => idFlows uniValues id) (freeVisited flowId id)) uniValues

/-- The loops of `freeGemPortId` and `freeAllocId`. -/
def rangeFree (order : FreeOrder) (flowId : UInt64) (table : ResourceIds) : ResourceIds :=
  range order.pons FiniteMap.keySet (fun ponId => FiniteMap.alter ponId fun ponValues => some <|
    range (order.onus ponId) FiniteMap.keySet (fun onuId => FiniteMap.alter onuId fun onuValues => some <|
      range (order.unis ponId onuId) FiniteMap.keySet (fun uniId => FiniteMap.alter uniId fun uniValues =>
        some (freeInUni (order.ids ponId onuId uniId) (order.flows ponId onuId uniId) flowId uniValues))
        onuValues) ponValues) table

private theorem dropFlow_of_notMem {flowId : UInt64} (absent : flowId ∉ flows) :
    dropFlow flowId flows = some flows := by
  rw [dropFlow, Finset.erase_eq_of_notMem absent]
  split
  · next empty => rw [empty]
  · rfl

variable {uniValues : IdFlows}

private theorem freeVisited_other {flowId visited : UInt64} {id : Int32}
    (present : visited ∈ idFlows uniValues id) (different : visited ≠ flowId) :
    freeVisited flowId id visited uniValues = uniValues := by
  have nonempty : idFlows uniValues id ≠ ∅ := Finset.ne_empty_of_mem present
  simp [freeVisited, Ne.symm different, nonempty]

theorem freeVisited_same {flowId : UInt64} {id : Int32} (present : flowId ∈ idFlows uniValues id) :
    freeVisited flowId id flowId uniValues = FiniteMap.alter id (dropFlow flowId) uniValues := by
  cases found : uniValues.lookup id with
  | none => simp [idFlows, found] at present
  | some flows =>
    have present : flowId ∈ flows := by simpa [idFlows, found] using present
    have left : idFlows (FiniteMap.alter id (fun flows => some (flows.erase flowId)) uniValues) id =
        flows.erase flowId := by
      simp [idFlows, FiniteMap.lookup_alter, found]
    have drop : dropFlow flowId flows =
        if flows.erase flowId = ∅ then none else some (flows.erase flowId) := by
      rw [dropFlow, if_neg (Finset.ne_empty_of_mem present)]
    simp only [freeVisited, if_true, left, FiniteMap.erase_eq_alter, FiniteMap.alter_alter]
    split
    · next last =>
      refine FiniteMap.alter_congr fun other same => ?_
      obtain rfl := Option.some.inj (found.symm.trans same)
      rw [drop, if_pos last, Option.bind_some]
    · next more =>
      refine FiniteMap.alter_congr fun other same => ?_
      obtain rfl := Option.some.inj (found.symm.trans same)
      rw [drop, if_neg more]

/-- The innermost loop: only the visit of the flow itself has an effect. -/
theorem range_freeVisited (order : RangeOrder UInt64) (flowId : UInt64) (id : Int32) :
    range order (fun uniValues => idFlows uniValues id) (freeVisited flowId id) =
      FiniteMap.alter id (dropFlow flowId) := by
  funext uniValues
  rw [range_of_inert order fun visited uniValues => freeVisited_other]
  split
  · next present => exact freeVisited_same present
  · next absent =>
    refine (FiniteMap.alter_eq_self fun flows found => ?_).symm
    exact dropFlow_of_notMem (by simpa [idFlows, found] using absent)

theorem freeInUni_eq (ids : RangeOrder Int32) (flows : Int32 → RangeOrder UInt64) (flowId : UInt64)
    (uniValues : IdFlows) :
    freeInUni ids flows flowId uniValues =
      FiniteMap.filterMap (fun _ flows => dropFlow flowId flows) uniValues := by
  simp only [freeInUni, range_freeVisited]
  exact FiniteMap.range_alter ids fun _ => dropFlow flowId

/-- Deleting while ranging neither skips nor repeats a key: in every order the loops leave what one pass
over the whole table leaves. -/
theorem rangeFree_eq (order : FreeOrder) (flowId : UInt64) (table : ResourceIds) :
    rangeFree order flowId table = freeFlow table flowId := by
  simp only [rangeFree, freeInUni_eq, FiniteMap.range_alter]
  rfl

end ResourceIds

structure ResourceTuple where
  ponId : UInt32
  onuId : UInt32
  portNo : UInt32
  id : Int32
  flowId : UInt64

namespace ResourceIds

/-- The flow set at the end of a path. -/
def flowsOf (table : ResourceIds) (ponId onuId portNo : UInt32) (id : Int32) :
    Option (Finset UInt64) :=
  ((onuIds table ponId onuId).bind fun onuValues => onuValues.lookup portNo).bind
    fun uniValues => uniValues.lookup id

def tuples (table : ResourceIds) : Set ResourceTuple :=
  { tuple | ∃ flows, flowsOf table tuple.ponId tuple.onuId tuple.portNo tuple.id = some flows ∧
    tuple.flowId ∈ flows }

/-- No id is left behind without a flow. -/
def NoEmptyFlows (table : ResourceIds) : Prop :=
  ∀ ponId onuId portNo id flows, flowsOf table ponId onuId portNo id = some flows → flows.Nonempty

variable {table next : ResourceIds} {ponId onuId portNo : UInt32} {id : Int32} {flowId : UInt64}

theorem flowsOf_enableOnu (enabled : enableOnu table ponId onuId = some next)
    (pon onu port : UInt32) (other : Int32) :
    flowsOf next pon onu port other =
      if pon = ponId ∧ onu = onuId then none else flowsOf table pon onu port other := by
  rw [flowsOf, onuIds_putOnuIds enabled]
  split
  · rfl
  · rfl

private theorem lookup_getD_empty (uniValues : Option IdFlows) (other : Int32) :
    (uniValues.getD ∅).lookup other = uniValues.bind fun values => values.lookup other := by
  cases uniValues <;> rfl

theorem flowsOf_storeId (stored : storeId table ponId onuId portNo id flowId = some next)
    (pon onu port : UInt32) (other : Int32) :
    flowsOf next pon onu port other =
      if pon = ponId ∧ onu = onuId ∧ port = portNo ∧ other = id
      then some (insert flowId ((flowsOf table pon onu port other).getD ∅))
      else flowsOf table pon onu port other := by
  obtain ⟨onuValues, found, put⟩ := Option.bind_eq_some_iff.mp stored
  rw [flowsOf, onuIds_putOnuIds put]
  by_cases here : pon = ponId ∧ onu = onuId
  · obtain ⟨rfl, rfl⟩ := here
    simp only [and_self, if_true, true_and, flowsOf, found, Option.bind_some,
      FiniteMap.lookup_insert_eq]
    by_cases samePort : port = portNo
    · subst samePort
      simp only [if_true, true_and, Option.bind_some, FiniteMap.lookup_insert_eq, lookup_getD_empty]
      split
      · next sameId => rw [sameId]
      · rfl
    · simp only [samePort, if_false, false_and]
  · have elsewhere : ¬(pon = ponId ∧ onu = onuId ∧ port = portNo ∧ other = id) :=
      fun same => here ⟨same.1, same.2.1⟩
    rw [if_neg here, if_neg elsewhere, flowsOf]

theorem flowsOf_freeFlow (pon onu port : UInt32) (other : Int32) :
    flowsOf (freeFlow table flowId) pon onu port other =
      (flowsOf table pon onu port other).bind (dropFlow flowId) := by
  simp only [flowsOf, onuIds, freeFlow, FiniteMap.lookup_mapValues]
  cases table.lookup pon with
  | none => rfl
  | some ponValues =>
    simp only [Option.map_some, Option.bind_some, FiniteMap.lookup_mapValues]
    cases ponValues.lookup onu with
    | none => rfl
    | some onuValues =>
      simp only [Option.map_some, Option.bind_some, FiniteMap.lookup_mapValues]
      cases onuValues.lookup port with
      | none => rfl
      | some uniValues => simp

private theorem tuples_enableOnu (enabled : enableOnu table ponId onuId = some next) :
    tuples next = { tuple ∈ tuples table | ¬(tuple.ponId = ponId ∧ tuple.onuId = onuId) } := by
  ext tuple
  simp only [tuples, Set.mem_ofPred_eq, flowsOf_enableOnu enabled]
  split
  · next here => simp [here]
  · next elsewhere => simp [elsewhere]

theorem tuples_storeId (stored : storeId table ponId onuId portNo id flowId = some next) :
    tuples next = insert ⟨ponId, onuId, portNo, id, flowId⟩ (tuples table) := by
  ext ⟨pon, onu, port, other, flow⟩
  simp only [tuples, Set.mem_insert_iff, Set.mem_ofPred_eq, flowsOf_storeId stored,
    ResourceTuple.mk.injEq]
  split
  · next here =>
    obtain ⟨rfl, rfl, rfl, rfl⟩ := here
    cases flowsOf table pon onu port other <;> simp
  · next elsewhere =>
    have different : ¬(pon = ponId ∧ onu = onuId ∧ port = portNo ∧ other = id ∧ flow = flowId) :=
      fun same => elsewhere ⟨same.1, same.2.1, same.2.2.1, same.2.2.2.1⟩
    simp only [different, false_or]

private theorem mem_dropFlow {other : UInt64} :
    (∃ left, dropFlow flowId flows = some left ∧ other ∈ left) ↔ other ∈ flows ∧ other ≠ flowId := by
  rw [and_comm, ← Finset.mem_erase]
  unfold dropFlow
  split
  · next empty => simp [empty]
  · split
    · next last => simp [last]
    · simp

private theorem nonempty_of_dropFlow {flows left : Finset UInt64} (nonempty : flows.Nonempty)
    (dropped : dropFlow flowId flows = some left) : left.Nonempty := by
  rw [dropFlow, if_neg nonempty.ne_empty] at dropped
  split at dropped
  · cases dropped
  · next more => exact Option.some.inj dropped ▸ Finset.nonempty_iff_ne_empty.mpr more

theorem tuples_freeFlow :
    tuples (freeFlow table flowId) = { tuple ∈ tuples table | tuple.flowId ≠ flowId } := by
  ext tuple
  simp only [tuples, Set.mem_ofPred_eq, flowsOf_freeFlow]
  cases flowsOf table tuple.ponId tuple.onuId tuple.portNo tuple.id with
  | none => simp
  | some flows => simpa using mem_dropFlow

variable (sound : NoEmptyFlows table)
include sound

private theorem noEmptyFlows_enableOnu (enabled : enableOnu table ponId onuId = some next) :
    NoEmptyFlows next := by
  intro pon onu port other flows found
  rw [flowsOf_enableOnu enabled] at found
  split at found
  · cases found
  · exact sound pon onu port other flows found

theorem noEmptyFlows_storeId (stored : storeId table ponId onuId portNo id flowId = some next) :
    NoEmptyFlows next := by
  intro pon onu port other flows found
  rw [flowsOf_storeId stored] at found
  split at found
  · exact Option.some.inj found ▸ Finset.insert_nonempty ..
  · exact sound pon onu port other flows found

theorem noEmptyFlows_freeFlow : NoEmptyFlows (freeFlow table flowId) := by
  intro pon onu port other left found
  rw [flowsOf_freeFlow] at found
  obtain ⟨flows, recorded, dropped⟩ := Option.bind_eq_some_iff.mp found
  exact nonempty_of_dropFlow (sound pon onu port other flows recorded) dropped

/-- Where no id is without a flow, the ids an ONU has recorded are those of its tuples. -/
theorem records_iff_tuple :
    Records table ponId onuId id ↔
      ∃ tuple ∈ tuples table, tuple.ponId = ponId ∧ tuple.onuId = onuId ∧ tuple.id = id := by
  constructor
  · rintro ⟨onuValues, found, port, uniValues, listed, present⟩
    obtain ⟨flows, recorded⟩ := Option.isSome_iff_exists.mp present
    have path : flowsOf table ponId onuId port id = some flows := by
      simp [flowsOf, found, listed, recorded]
    obtain ⟨flowId, member⟩ := sound _ _ _ _ _ path
    exact ⟨⟨ponId, onuId, port, id, flowId⟩, ⟨flows, path, member⟩, rfl, rfl, rfl⟩
  · rintro ⟨tuple, ⟨flows, path, -⟩, rfl, rfl, rfl⟩
    obtain ⟨uniValues, reached, recorded⟩ := Option.bind_eq_some_iff.mp path
    obtain ⟨onuValues, found, listed⟩ := Option.bind_eq_some_iff.mp reached
    exact ⟨onuValues, found, tuple.portNo, uniValues, listed, by simp [recorded]⟩

/-- Tuples of the PON and of another ONU with one of the ids. -/
def TakenElsewhere (table : ResourceIds) (flow : Flow) (ids : List Int32) : Prop :=
  ∃ tuple ∈ tuples table, tuple.ponId = flow.ponId ∧ tuple.onuId ≠ flow.onuIndex ∧ tuple.id ∈ ids

theorem conflict_ne_none_iff (flow : Flow) (ids : List Int32) :
    conflict table flow.ponId flow.onuIndex ids ≠ none ↔ TakenElsewhere table flow ids := by
  rw [ne_eq, conflict_eq_none_iff]
  simp only [records_iff_tuple sound, TakenElsewhere]
  push Not
  constructor
  · rintro ⟨other, different, id, member, tuple, recorded, samePon, rfl, rfl⟩
    exact ⟨tuple, recorded, samePon, different, member⟩
  · rintro ⟨tuple, recorded, samePon, different, member⟩
    exact ⟨tuple.onuId, different, tuple.id, member, tuple, recorded, samePon, rfl, rfl⟩

end ResourceIds

structure ResourceTables where
  gemPortIDs : ResourceIds
  allocIDs : ResourceIds

/-- One use of the tables; each runs under the locks it takes. -/
inductive TableOperation where
  | activateOnu (ponId onuId : UInt32)
  | storeGemPortId (flow : Flow)
  | storeAllocId (flow : Flow)
  | freeGemPortId (flow : Flow) (order : FreeOrder)
  | freeAllocId (flow : Flow) (order : FreeOrder)

/-- The id of the flow that is stored or freed. -/
def TableOperation.flowId : TableOperation → Option UInt64
  | .activateOnu _ _ => none
  | .storeGemPortId flow => some flow.flowId
  | .storeAllocId flow => some flow.flowId
  | .freeGemPortId flow _ => some flow.flowId
  | .freeAllocId flow _ => some flow.flowId

/-- The flow that is stored. A flow to be freed is known by its id only. -/
def TableOperation.stored : TableOperation → Option Flow
  | .storeGemPortId flow => some flow
  | .storeAllocId flow => some flow
  | _ => none

namespace ResourceTables

/-- The tables of a new OLT: every PON port has an empty map. -/
def created (ponPorts : Nat) : ResourceTables where
  gemPortIDs := (List.range ponPorts).foldl (fun table pon => table.insert pon.toUInt32 ∅) ∅
  allocIDs := (List.range ponPorts).foldl (fun table pon => table.insert pon.toUInt32 ∅) ∅

/-- `none` where the operation writes into a nil map. -/
def step (tables : ResourceTables) : TableOperation → Option ResourceTables
  | .activateOnu ponId onuId =>
    (ResourceIds.enableOnu tables.allocIDs ponId onuId).bind fun allocIDs =>
      (ResourceIds.enableOnu tables.gemPortIDs ponId onuId).map fun gemPortIDs => ⟨gemPortIDs, allocIDs⟩
  | .storeGemPortId flow =>
    some { tables with gemPortIDs := (Olt.storeGemPortIdByFlow tables.gemPortIDs flow).1 }
  | .storeAllocId flow =>
    (storeAllocId tables.allocIDs flow).map fun allocIDs => { tables with allocIDs := allocIDs }
  | .freeGemPortId flow order =>
    some { tables with gemPortIDs := ResourceIds.rangeFree order flow.flowId tables.gemPortIDs }
  | .freeAllocId flow order =>
    some { tables with allocIDs := ResourceIds.rangeFree order flow.flowId tables.allocIDs }

end ResourceTables

/-- The tuples of both tables. -/
@[ext] structure TupleSets where
  gemPorts : Set ResourceTuple
  allocIds : Set ResourceTuple

/-- The tuples of a flow for some of its resources. -/
def Flow.tuples (flow : Flow) (ids : List Int32) : Set ResourceTuple :=
  { tuple | tuple.ponId = flow.ponId ∧ tuple.onuId = flow.onuIndex ∧ tuple.portNo = flow.portNo ∧
    tuple.id ∈ ids ∧ tuple.flowId = flow.flowId }

theorem Flow.tuples_cons (flow : Flow) (id : Int32) (rest : List Int32) :
    flow.tuples (id :: rest) =
      insert ⟨flow.ponId, flow.onuIndex, flow.portNo, id, flow.flowId⟩ (flow.tuples rest) := by
  ext ⟨pon, onu, port, other, flowId⟩
  simp only [Flow.tuples, Set.mem_insert_iff, Set.mem_ofPred_eq, List.mem_cons, ResourceTuple.mk.injEq]
  tauto

theorem Flow.tuples_nil (flow : Flow) : flow.tuples [] = ∅ := by simp [Flow.tuples]

def withoutFlow (flowId : UInt64) (tuples : Set ResourceTuple) : Set ResourceTuple :=
  { tuple ∈ tuples | tuple.flowId ≠ flowId }

def withoutOnu (ponId onuId : UInt32) (tuples : Set ResourceTuple) : Set ResourceTuple :=
  { tuple ∈ tuples | ¬(tuple.ponId = ponId ∧ tuple.onuId = onuId) }

/-- An operation on the tuples. -/
def TableOperation.onTuples : TableOperation → TupleSets → TupleSets
  | .activateOnu ponId onuId, sets =>
    ⟨withoutOnu ponId onuId sets.gemPorts, withoutOnu ponId onuId sets.allocIds⟩
  | .storeGemPortId flow, sets => { sets with gemPorts := sets.gemPorts ∪ flow.tuples flow.gemPorts }
  | .storeAllocId flow, sets => { sets with allocIds := sets.allocIds ∪ flow.tuples [flow.allocId] }
  | .freeGemPortId flow _, sets => { sets with gemPorts := withoutFlow flow.flowId sets.gemPorts }
  | .freeAllocId flow _, sets => { sets with allocIds := withoutFlow flow.flowId sets.allocIds }

variable {first second : TableOperation}

section Commute

variable {one other : UInt64} {flow : Flow} {ids : List Int32} {tuples : Set ResourceTuple}

private theorem withoutFlow_comm : withoutFlow one (withoutFlow other tuples) =
    withoutFlow other (withoutFlow one tuples) := by
  ext tuple
  simp only [withoutFlow, Set.mem_ofPred_eq]
  tauto

private theorem withoutFlow_union (different : flow.flowId ≠ one) :
    withoutFlow one (tuples ∪ flow.tuples ids) = withoutFlow one tuples ∪ flow.tuples ids := by
  ext tuple
  simp only [withoutFlow, Flow.tuples, Set.mem_union, Set.mem_ofPred_eq]
  constructor
  · rintro ⟨old | own, kept⟩
    · exact .inl ⟨old, kept⟩
    · exact .inr own
  · rintro (⟨old, kept⟩ | own)
    · exact ⟨.inl old, kept⟩
    · exact ⟨.inr own, own.2.2.2.2 ▸ different⟩

theorem onTuples_comm (named : first.flowId = some one) (otherNamed : second.flowId = some other)
    (different : one ≠ other) (sets : TupleSets) :
    first.onTuples (second.onTuples sets) = second.onTuples (first.onTuples sets) := by
  cases first <;> cases named <;> cases second <;> cases otherNamed <;>
    simp [TableOperation.onTuples, withoutFlow_union, different, different.symm, withoutFlow_comm,
      Set.union_right_comm]

end Commute

namespace ResourceTables

def view (tables : ResourceTables) : TupleSets := ⟨tables.gemPortIDs.tuples, tables.allocIDs.tuples⟩

/-- Both tables have a map for the ONU of the flow. -/
def Enabled (tables : ResourceTables) (flow : Flow) : Prop :=
  (ResourceIds.onuIds tables.gemPortIDs flow.ponId flow.onuIndex).isSome ∧
    (ResourceIds.onuIds tables.allocIDs flow.ponId flow.onuIndex).isSome

def Sound (tables : ResourceTables) : Prop :=
  tables.gemPortIDs.NoEmptyFlows ∧ tables.allocIDs.NoEmptyFlows

variable {tables next : ResourceTables} {flow : Flow}

theorem tuples_storeGemPorts {table : ResourceIds}
    (enabled : (ResourceIds.onuIds table flow.ponId flow.onuIndex).isSome) (gems : List Int32) :
    (Olt.storeGemPorts flow table gems).1.tuples = table.tuples ∪ flow.tuples gems := by
  induction gems generalizing table with
  | nil => rw [Flow.tuples_nil, Set.union_empty]; rfl
  | cons gem rest ih =>
    obtain ⟨after, stored⟩ := Olt.storeId_of_onuIds enabled flow.portNo gem flow.flowId
    have stored : storeGemPortId table flow gem = some after := stored
    simp only [Olt.storeGemPorts, stored]
    rw [ih (Olt.onuIds_of_storeId stored), ResourceIds.tuples_storeId stored, Flow.tuples_cons,
      Set.insert_union, Set.union_insert]

variable {table after : ResourceIds}

theorem tuples_storeAllocId (stored : storeAllocId table flow = some after) :
    after.tuples = table.tuples ∪ flow.tuples [flow.allocId] := by
  rw [ResourceIds.tuples_storeId stored, Flow.tuples_cons, Flow.tuples_nil, Set.union_insert,
    Set.union_empty]

/-- What holds of a table and is kept by storing one id is kept by storing all GEM ports. -/
theorem storeGemPorts_keeps {holds : ResourceIds → Prop} {table : ResourceIds} (initial : holds table)
    (kept : ∀ table gem after, holds table → storeGemPortId table flow gem = some after → holds after)
    (gems : List Int32) : holds (Olt.storeGemPorts flow table gems).1 := by
  induction gems generalizing table with
  | nil => exact initial
  | cons gem rest ih =>
    simp only [Olt.storeGemPorts]
    split
    · exact initial
    · next after stored => exact ih (kept table gem after initial stored)

variable {pon onu : UInt32}

theorem onuIds_isSome_putOnuIds {ponId onuId : UInt32} {values : OnuIds}
    (put : ResourceIds.putOnuIds table ponId onuId values = some after)
    (enabled : (ResourceIds.onuIds table pon onu).isSome) :
    (ResourceIds.onuIds after pon onu).isSome := by
  rw [ResourceIds.onuIds_putOnuIds put]
  split
  · rfl
  · exact enabled

private theorem onuIds_isSome_storeId {ponId onuId portNo : UInt32} {id : Int32} {flowId : UInt64}
    (stored : ResourceIds.storeId table ponId onuId portNo id flowId = some after)
    (enabled : (ResourceIds.onuIds table pon onu).isSome) :
    (ResourceIds.onuIds after pon onu).isSome := by
  obtain ⟨onuValues, -, put⟩ := Option.bind_eq_some_iff.mp stored
  exact onuIds_isSome_putOnuIds put enabled

private theorem onuIds_isSome_freeFlow {table : ResourceIds} {flowId : UInt64}
    (enabled : (ResourceIds.onuIds table pon onu).isSome) :
    (ResourceIds.onuIds (ResourceIds.freeFlow table flowId) pon onu).isSome := by
  obtain ⟨onuValues, found⟩ := Option.isSome_iff_exists.mp enabled
  obtain ⟨ponValues, present, listed⟩ := Option.bind_eq_some_iff.mp found
  simp [ResourceIds.onuIds, ResourceIds.freeFlow, present, listed]

variable {operation : TableOperation}

/-- What each kind of write keeps of a table, a step keeps of both tables. -/
theorem step_keeps {holds : ResourceIds → Prop}
    (puts : ∀ table ponId onuId after, holds table →
      ResourceIds.enableOnu table ponId onuId = some after → holds after)
    (stores : ∀ table ponId onuId portNo id flowId after, holds table →
      ResourceIds.storeId table ponId onuId portNo id flowId = some after → holds after)
    (frees : ∀ table flowId, holds table → holds (ResourceIds.freeFlow table flowId))
    (held : holds tables.gemPortIDs ∧ holds tables.allocIDs)
    (taken : tables.step operation = some next) : holds next.gemPortIDs ∧ holds next.allocIDs := by
  cases operation with
  | activateOnu ponId onuId =>
    obtain ⟨allocIDs, allocs, rest⟩ := Option.bind_eq_some_iff.mp taken
    obtain ⟨gemPortIDs, gems, rfl⟩ := Option.map_eq_some_iff.mp rest
    exact ⟨puts _ _ _ _ held.1 gems, puts _ _ _ _ held.2 allocs⟩
  | storeGemPortId stored =>
    obtain rfl := Option.some.inj taken
    exact ⟨storeGemPorts_keeps held.1 (fun _ _ _ held stored => stores _ _ _ _ _ _ _ held stored) _,
      held.2⟩
  | storeAllocId other =>
    obtain ⟨allocIDs, stored, rfl⟩ := Option.map_eq_some_iff.mp taken
    exact ⟨held.1, stores _ _ _ _ _ _ _ held.2 stored⟩
  | freeGemPortId other order =>
    obtain rfl := Option.some.inj taken
    rw [ResourceIds.rangeFree_eq]
    exact ⟨frees _ _ held.1, held.2⟩
  | freeAllocId other order =>
    obtain rfl := Option.some.inj taken
    rw [ResourceIds.rangeFree_eq]
    exact ⟨held.1, frees _ _ held.2⟩

theorem enabled_step (enabled : tables.Enabled flow) (taken : tables.step operation = some next) :
    next.Enabled flow :=
  step_keeps (fun _ _ _ _ held put => onuIds_isSome_putOnuIds put held)
    (fun _ _ _ _ _ _ _ held stored => onuIds_isSome_storeId stored held)
    (fun _ _ => onuIds_isSome_freeFlow) enabled taken

theorem sound_step (sound : tables.Sound) (taken : tables.step operation = some next) : next.Sound :=
  step_keeps (fun _ _ _ _ => ResourceIds.noEmptyFlows_enableOnu)
    (fun _ _ _ _ _ _ _ => ResourceIds.noEmptyFlows_storeId)
    (fun _ _ => ResourceIds.noEmptyFlows_freeFlow) sound taken

/-- Every step on the tables is the operation on the tuples. -/
theorem view_step (enabled : ∀ flow, operation.stored = some flow → tables.Enabled flow)
    (taken : tables.step operation = some next) : next.view = operation.onTuples tables.view := by
  cases operation with
  | activateOnu ponId onuId =>
    obtain ⟨allocIDs, allocs, rest⟩ := Option.bind_eq_some_iff.mp taken
    obtain ⟨gemPortIDs, gems, rfl⟩ := Option.map_eq_some_iff.mp rest
    exact TupleSets.ext (ResourceIds.tuples_enableOnu gems) (ResourceIds.tuples_enableOnu allocs)
  | storeGemPortId stored =>
    obtain rfl := Option.some.inj taken
    exact TupleSets.ext (tuples_storeGemPorts (enabled stored rfl).1 _) rfl
  | storeAllocId other =>
    obtain ⟨allocIDs, stored, rfl⟩ := Option.map_eq_some_iff.mp taken
    exact TupleSets.ext rfl (tuples_storeAllocId stored)
  | freeGemPortId other order =>
    obtain rfl := Option.some.inj taken
    rw [ResourceIds.rangeFree_eq]
    exact TupleSets.ext ResourceIds.tuples_freeFlow rfl
  | freeAllocId other order =>
    obtain rfl := Option.some.inj taken
    rw [ResourceIds.rangeFree_eq]
    exact TupleSets.ext rfl ResourceIds.tuples_freeFlow

/-- Stores and frees do not fail, given the maps of the ONUs that are stored for. -/
theorem exists_step {flowId : UInt64} (named : operation.flowId = some flowId)
    (enabled : ∀ flow, operation.stored = some flow → tables.Enabled flow) :
    ∃ next, tables.step operation = some next := by
  cases operation with
  | activateOnu ponId onuId => cases named
  | storeGemPortId stored | freeGemPortId other order | freeAllocId other order => exact ⟨_, rfl⟩
  | storeAllocId other =>
    obtain ⟨after, stored⟩ :=
      Olt.storeId_of_onuIds (enabled other rfl).2 other.portNo other.allocId other.flowId
    have stored : storeAllocId tables.allocIDs other = some after := stored
    exact ⟨_, by rw [step, stored, Option.map_some]⟩

/-- The history has an `ActivateOnu` for the ONU of the flow. -/
def Activated (history : List (ResourceTables × TableOperation)) (flow : Flow) : Prop :=
  ∃ before, (before, TableOperation.activateOnu flow.ponId flow.onuIndex) ∈ history

variable {ponPorts : Nat} {history : List (ResourceTables × TableOperation)}

private theorem enabled_of_activateOnu
    (taken : tables.step (.activateOnu flow.ponId flow.onuIndex) = some next) : next.Enabled flow := by
  obtain ⟨allocIDs, allocs, rest⟩ := Option.bind_eq_some_iff.mp taken
  obtain ⟨gemPortIDs, gems, rfl⟩ := Option.map_eq_some_iff.mp rest
  constructor
  · simp [ResourceIds.onuIds_putOnuIds gems]
  · simp [ResourceIds.onuIds_putOnuIds allocs]

private theorem enabled_of_activated (run : Run step (created ponPorts) history tables)
    (activated : Activated history flow) : tables.Enabled flow := by
  induction run with
  | start =>
    obtain ⟨before, member⟩ := activated
    cases member
  | snoc before taken ih =>
    obtain ⟨earlier, member⟩ := activated
    rcases List.mem_append.mp member with old | new
    · exact enabled_step (ih ⟨earlier, old⟩) taken
    · obtain ⟨rfl, rfl⟩ := Prod.mk.inj (List.mem_singleton.mp new)
      exact enabled_of_activateOnu taken

private theorem created_sound : (created ponPorts).Sound := by
  have empty : ∀ ponId onuId, ResourceIds.onuIds (created ponPorts).gemPortIDs ponId onuId = none :=
    ResourceIds.onuIds_foldl_insert (fun _ _ => rfl) _
  have noFlows : (created ponPorts).gemPortIDs.NoEmptyFlows := by
    intro ponId onuId portNo id flows found
    rw [ResourceIds.flowsOf, empty] at found
    cases found
  exact ⟨noFlows, noFlows⟩

private theorem sound_of_run (run : Run step (created ponPorts) history tables) : tables.Sound :=
  run.invariant_of_step created_sound fun _ _ _ held taken => sound_step held taken

/-- Two operations one after the other, on the tables and on the tuples. -/
theorem replay_two {one other : UInt64} (named : first.flowId = some one)
    (otherNamed : second.flowId = some other)
    (enabled : ∀ flow, first.stored = some flow → tables.Enabled flow)
    (otherEnabled : ∀ flow, second.stored = some flow → tables.Enabled flow) :
    ∃ after, replay step tables [first, second] = some after ∧
      after.view = second.onTuples (first.onTuples tables.view) := by
  obtain ⟨middle, taken⟩ := exists_step named enabled
  have stillEnabled : ∀ flow, second.stored = some flow → middle.Enabled flow :=
    fun flow stored => enabled_step (otherEnabled flow stored) taken
  obtain ⟨after, takenThen⟩ := exists_step otherNamed stillEnabled
  refine ⟨after, by simp [replay, taken, takenThen], ?_⟩
  rw [view_step stillEnabled takenThen, view_step enabled taken]

/-- The tables are a set of tuples with these operations. -/
structure ImplementsTuples (history : List (ResourceTables × TableOperation))
    (tables : ResourceTables) : Prop where
  stores : ∀ flow, Activated history flow →
    (∃ table, Olt.storeGemPortIdByFlow tables.gemPortIDs flow = (table, none) ∧
      table.tuples = tables.gemPortIDs.tuples ∪ flow.tuples flow.gemPorts) ∧
    ∃ table, storeAllocId tables.allocIDs flow = some table ∧
      table.tuples = tables.allocIDs.tuples ∪ flow.tuples [flow.allocId]
  frees : ∀ (order : FreeOrder) (flowId : UInt64), ∀ table ∈ [tables.gemPortIDs, tables.allocIDs],
    (ResourceIds.rangeFree order flowId table).tuples = withoutFlow flowId table.tuples ∧
      (ResourceIds.rangeFree order flowId table).NoEmptyFlows
  rejects : ∀ flow, validateFlow tables.gemPortIDs tables.allocIDs flow ≠ none ↔
    tables.gemPortIDs.TakenElsewhere flow flow.gemPorts ∨
      tables.allocIDs.TakenElsewhere flow [flow.allocId]
  commutes : ∀ first second one other, first.flowId = some one → second.flowId = some other →
    one ≠ other → (∀ flow, first.stored = some flow → Activated history flow) →
    (∀ flow, second.stored = some flow → Activated history flow) →
    ∃ there back, replay step tables [first, second] = some there ∧
      replay step tables [second, first] = some back ∧ there.view = back.view

/-- Both tables are sets of tuples: a store adds those of its flow, a free removes those with its flow
id, a flow is rejected for a tuple of another ONU of its PON, and operations on two flow ids commute. -/
theorem resource_tables_implement_tuples (run : Run step (created ponPorts) history tables) :
    ImplementsTuples history tables where
  stores := by
    intro flow activated
    have enabled := enabled_of_activated run activated
    obtain ⟨after, stored⟩ := Olt.storeId_of_onuIds enabled.2 flow.portNo flow.allocId flow.flowId
    have complete : (Olt.storeGemPortIdByFlow tables.gemPortIDs flow).2 = none :=
      Olt.storeGemPorts_of_onuIds enabled.1 flow.gemPorts
    exact ⟨⟨_, Prod.ext rfl complete, tuples_storeGemPorts enabled.1 flow.gemPorts⟩,
      after, stored, tuples_storeAllocId stored⟩
  frees := by
    intro order flowId table member
    have sound := sound_of_run run
    rw [ResourceIds.rangeFree_eq]
    refine ⟨ResourceIds.tuples_freeFlow, ResourceIds.noEmptyFlows_freeFlow ?_⟩
    simp only [List.mem_cons, List.not_mem_nil, or_false] at member
    rcases member with rfl | rfl
    · exact sound.1
    · exact sound.2
  rejects := by
    intro flow
    have sound := sound_of_run run
    rw [← ResourceIds.conflict_ne_none_iff sound.1, ← ResourceIds.conflict_ne_none_iff sound.2]
    simp only [validateFlow, validateGemPorts, validateAllocId, ne_eq, Option.or_eq_none_iff,
      Option.map_eq_none_iff]
    tauto
  commutes := by
    intro first second one other named otherNamed different activated otherActivated
    have enabled : ∀ flow, first.stored = some flow → tables.Enabled flow :=
      fun flow stored => enabled_of_activated run (activated flow stored)
    have otherEnabled : ∀ flow, second.stored = some flow → tables.Enabled flow :=
      fun flow stored => enabled_of_activated run (otherActivated flow stored)
    obtain ⟨there, replayed, viewed⟩ := replay_two named otherNamed enabled otherEnabled
    obtain ⟨back, replayedBack, viewedBack⟩ := replay_two otherNamed named otherEnabled enabled
    refine ⟨there, back, replayed, replayedBack, ?_⟩
    rw [viewed, viewedBack, onTuples_comm named otherNamed different]

def replicatedFlow : Flow :=
  { upstreamFlow with
    replicateFlow := true
    pbitToGemport := AList.insert 0 1024 (AList.insert 1 1025 ∅) }

/-- A flow of the next ONU over a GEM port of the replicated flow. -/
def neighbourFlow : Flow := { upstreamFlow with flowId := 65, onuId := 2, gemportId := 1025 }

theorem replicated_flow_implements_tuples : ∃ history tables,
    Run step (created 1) history tables ∧ ImplementsTuples history tables ∧
      (tables.gemPortIDs.TakenElsewhere neighbourFlow neighbourFlow.gemPorts ∨
        tables.allocIDs.TakenElsewhere neighbourFlow [neighbourFlow.allocId]) := by
  obtain ⟨history, tables, run, rejected⟩ := run_of_replay step (created 1)
    [.activateOnu 0 1, .storeGemPortId replicatedFlow, .activateOnu 0 2]
    (fun tables => validateFlow tables.gemPortIDs tables.allocIDs neighbourFlow ≠ none)
    (by decide +kernel)
  have implements := resource_tables_implement_tuples run
  exact ⟨history, tables, run, implements, (implements.rejects neighbourFlow).mp rejected⟩

end ResourceTables

end Bbsim.Devices
