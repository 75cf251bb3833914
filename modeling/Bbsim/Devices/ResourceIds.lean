import Bbsim.Devices.Flow
import Mathlib.Data.Finset.Basic

/-! GEM port and alloc ids received through flows. `GemPortIDs` and `AllocIDs` of the OLT: per PON,
ONU and port number, each id with the set of flows that refer to it. Both tables have the same shape
and the same operations. -/

namespace Bbsim.Devices

open Foundation

abbrev IdFlows := FiniteMap Int32 (Finset UInt64)
abbrev OnuIds := FiniteMap UInt32 IdFlows
abbrev PonIds := FiniteMap UInt32 OnuIds
abbrev ResourceIds := FiniteMap UInt32 PonIds

namespace ResourceIds

def onuIds (table : ResourceIds) (ponId onuId : UInt32) : Option OnuIds :=
  (table.lookup ponId).bind fun ponValues => ponValues.lookup onuId

/-- Assign the map of one ONU; `none` is the assignment to the nil map of an unknown PON. -/
def putOnuIds (table : ResourceIds) (ponId onuId : UInt32) (values : OnuIds) :
    Option ResourceIds :=
  (table.lookup ponId).map fun ponValues => table.insert ponId (ponValues.insert onuId values)

/-- `ActivateOnu` gives the ONU an empty map. -/
def enableOnu (table : ResourceIds) (ponId onuId : UInt32) : Option ResourceIds :=
  putOnuIds table ponId onuId ∅

/-- Record a flow under an id of an ONU; `none` where the ONU has no map. -/
def storeId (table : ResourceIds) (ponId onuId portNo : UInt32) (id : Int32) (flowId : UInt64) :
    Option ResourceIds :=
  (onuIds table ponId onuId).bind fun onuValues =>
    let uniValues := (onuValues.lookup portNo).getD ∅
    let flows := (uniValues.lookup id).getD ∅
    putOnuIds table ponId onuId
      (onuValues.insert portNo (uniValues.insert id (insert flowId flows)))

/-- Remove the flow from an id, and the id with its last flow. -/
def dropFlow (flowId : UInt64) (flows : Finset UInt64) : Option (Finset UInt64) :=
  if flows = ∅ then some ∅
  else if flows.erase flowId = ∅ then none
  else some (flows.erase flowId)

/-- The flow may be recorded anywhere, so the whole table is searched. -/
def freeFlow (table : ResourceIds) (flowId : UInt64) : ResourceIds :=
  FiniteMap.mapValues (FiniteMap.mapValues (FiniteMap.mapValues
    (FiniteMap.filterMap fun _ flows => dropFlow flowId flows))) table

/-- An id in use under another ONU of the PON: the id, the port and the ONU. -/
def conflict (table : ResourceIds) (ponId onuId : UInt32) (ids : List Int32) :
    Option (Int32 × UInt32 × UInt32) :=
  (table.lookup ponId).bind fun ponValues =>
    FiniteMap.findSome? (fun onu onuValues =>
      if onu = onuId then none
      else FiniteMap.findSome? (fun uni uniValues =>
        FiniteMap.findSome? (fun id _ => if id ∈ ids then some (id, uni, onu) else none)
          uniValues) onuValues) ponValues

/-- The id is recorded under the ONU. -/
def Records (table : ResourceIds) (ponId onuId : UInt32) (id : Int32) : Prop :=
  ∃ onuValues, onuIds table ponId onuId = some onuValues ∧
    ∃ port uniValues, onuValues.lookup port = some uniValues ∧ (uniValues.lookup id).isSome

private theorem records_iff_any (table : ResourceIds) (ponId onuId : UInt32) (id : Int32) :
    ((onuIds table ponId onuId).any fun onuValues =>
        onuValues.entries.any fun entry => (entry.2.lookup id).isSome) = true ↔
      Records table ponId onuId id := by
  cases found : onuIds table ponId onuId with
  | none => simp [Records, found]
  | some onuValues =>
    simp only [Records, found, Option.any_some, List.any_eq_true]
    constructor
    · rintro ⟨entry, member, present⟩
      exact ⟨onuValues, rfl, entry.1, entry.2, AList.mem_lookup_iff.mpr member, present⟩
    · rintro ⟨_, same, port, uniValues, listed, present⟩
      obtain rfl := Option.some.inj same
      exact ⟨⟨port, uniValues⟩, AList.mem_lookup_iff.mp listed, present⟩

instance (table : ResourceIds) (ponId onuId : UInt32) (id : Int32) :
    Decidable (Records table ponId onuId id) :=
  decidable_of_iff _ (records_iff_any table ponId onuId id)

/-- Each id is recorded under at most one ONU of each PON. -/
def Exclusive (table : ResourceIds) : Prop :=
  ∀ ponId id onuId other, Records table ponId onuId id → Records table ponId other id → onuId = other

variable {table next : ResourceIds} {ponId onuId : UInt32}

theorem onuIds_putOnuIds {values : OnuIds} (put : putOnuIds table ponId onuId values = some next)
    (pon onu : UInt32) :
    onuIds next pon onu =
      if pon = ponId ∧ onu = onuId then some values else onuIds table pon onu := by
  obtain ⟨ponValues, found, rfl⟩ := Option.map_eq_some_iff.mp put
  by_cases samePon : pon = ponId
  · subst samePon
    by_cases sameOnu : onu = onuId
    · subst sameOnu
      simp [onuIds]
    · simp [onuIds, found, sameOnu]
  · simp [onuIds, samePon]

/-- The maps of the PONs have no maps of ONUs in them. -/
theorem onuIds_foldl_insert {table : ResourceIds}
    (empty : ∀ ponId onuId, onuIds table ponId onuId = none) (pons : List Nat) :
    ∀ ponId onuId, onuIds
      (pons.foldl (fun table pon => table.insert pon.toUInt32 ∅) table) ponId onuId = none := by
  induction pons generalizing table with
  | nil => exact empty
  | cons pon rest ih =>
    refine ih fun ponId onuId => ?_
    by_cases same : ponId = pon.toUInt32
    · subst same
      rw [onuIds, AList.lookup_insert]
      rfl
    · rw [onuIds, AList.lookup_insert_ne same]
      exact empty ponId onuId

variable {pon onu : UInt32} {id : Int32}

theorem records_enableOnu (enabled : enableOnu table ponId onuId = some next)
    (recorded : Records next pon onu id) : Records table pon onu id := by
  obtain ⟨onuValues, found, port, uniValues, listed, present⟩ := recorded
  rw [onuIds_putOnuIds enabled] at found
  split at found
  · obtain rfl := Option.some.inj found
    simp at listed
  · exact ⟨onuValues, found, port, uniValues, listed, present⟩

variable {flowId : UInt64}

/-- Storing records the id under the ONU and nothing else. -/
theorem records_storeId {ponId onuId portNo : UInt32}
    (stored : storeId table ponId onuId portNo id flowId = some next) {other : Int32}
    (recorded : Records next pon onu other) :
    Records table pon onu other ∨ (pon = ponId ∧ onu = onuId ∧ other = id) := by
  obtain ⟨onuValues, found, put⟩ := Option.bind_eq_some_iff.mp stored
  obtain ⟨newValues, newFound, port, uniValues, listed, present⟩ := recorded
  rw [onuIds_putOnuIds put] at newFound
  split at newFound
  · next same =>
    obtain ⟨rfl, rfl⟩ := same
    obtain rfl := Option.some.inj newFound
    rw [FiniteMap.lookup_insert_eq] at listed
    split at listed
    · obtain rfl := Option.some.inj listed
      rw [FiniteMap.lookup_insert_eq] at present
      by_cases sameId : other = id
      · exact Or.inr ⟨rfl, rfl, sameId⟩
      · rw [if_neg sameId] at present
        cases old : onuValues.lookup portNo with
        | none => simp [old] at present
        | some oldValues =>
          rw [old, Option.getD_some] at present
          exact Or.inl ⟨onuValues, found, portNo, oldValues, old, present⟩
    · exact Or.inl ⟨onuValues, found, port, uniValues, listed, present⟩
  · exact Or.inl ⟨newValues, newFound, port, uniValues, listed, present⟩

theorem records_freeFlow {table : ResourceIds}
    (recorded : Records (freeFlow table flowId) pon onu id) : Records table pon onu id := by
  obtain ⟨onuValues, found, port, uniValues, listed, present⟩ := recorded
  simp only [onuIds, freeFlow, FiniteMap.lookup_mapValues] at found
  cases ponFound : table.lookup pon with
  | none => simp [ponFound] at found
  | some ponValues =>
    simp only [ponFound, Option.map_some, Option.bind_some, FiniteMap.lookup_mapValues,
      Option.map_eq_some_iff] at found
    obtain ⟨oldValues, oldFound, rfl⟩ := found
    rw [FiniteMap.lookup_mapValues, Option.map_eq_some_iff] at listed
    obtain ⟨oldUni, oldListed, rfl⟩ := listed
    rw [FiniteMap.lookup_filterMap] at present
    refine ⟨oldValues, by simp [onuIds, ponFound, oldFound], port, oldUni, oldListed, ?_⟩
    cases old : oldUni.lookup id with
    | none => simp [old] at present
    | some flows => rfl

/-- No conflict: none of the ids is recorded under another ONU of the PON. -/
theorem conflict_eq_none_iff (table : ResourceIds) (ponId onuId : UInt32) (ids : List Int32) :
    conflict table ponId onuId ids = none ↔
      ∀ other ≠ onuId, ∀ id ∈ ids, ¬ Records table ponId other id := by
  cases found : table.lookup ponId with
  | none => simp [conflict, Records, onuIds, found]
  | some ponValues =>
    simp only [conflict, found, Option.bind_some, FiniteMap.findSome?_eq_none_iff, Records, onuIds]
    constructor
    · rintro absent other different id member ⟨onuValues, onuFound, port, uniValues, listed, present⟩
      have searched := absent other onuValues onuFound
      rw [if_neg different, FiniteMap.findSome?_eq_none_iff] at searched
      have ports := searched port uniValues listed
      rw [FiniteMap.findSome?_eq_none_iff] at ports
      obtain ⟨flows, idFound⟩ := Option.isSome_iff_exists.mp present
      simpa [member] using ports id flows idFound
    · intro absent other onuValues onuFound
      split
      · rfl
      · next different =>
        rw [FiniteMap.findSome?_eq_none_iff]
        intro port uniValues listed
        rw [FiniteMap.findSome?_eq_none_iff]
        intro id flows idFound
        have unused : id ∉ ids := fun member => absent other different id member
          ⟨onuValues, onuFound, port, uniValues, listed, by simp [idFound]⟩
        rw [if_neg unused]

end ResourceIds

end Bbsim.Devices
