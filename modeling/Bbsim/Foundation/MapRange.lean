import Bbsim.Foundation.FiniteMap
import Mathlib.Data.Finset.Basic
import Mathlib.Data.Finset.Dedup

/-! Ranging over a map that the loop body changes. A `range` statement visits the keys a map has
when the loop is entered, in an order of its own choice. A key that is deleted before its turn is
not visited. -/

namespace Bbsim.Foundation

variable {Key State : Type*}

/-- A choice of the order in which a set of keys is visited. -/
structure RangeOrder (Key : Type*) where
  visit : Finset Key → List Key
  exact : ∀ keys, (visit keys : Multiset Key) = keys.val

namespace RangeOrder

variable (order : RangeOrder Key) (keys : Finset Key)

@[simp] theorem mem_visit {key : Key} : key ∈ order.visit keys ↔ key ∈ keys := by
  rw [← Finset.mem_val, ← order.exact, Multiset.mem_coe]

theorem nodup_visit : (order.visit keys).Nodup := by
  rw [← Multiset.coe_nodup, order.exact]
  exact keys.nodup

end RangeOrder

variable [DecidableEq Key]

/-- Run the body for each key that is still there when its turn comes. -/
def visitKeys (keys : State → Finset Key) (body : Key → State → State) :
    List Key → State → State
  | [], state => state
  | key :: rest, state =>
    visitKeys keys body rest (if key ∈ keys state then body key state else state)

/-- A `range` loop over the keys of a map that is part of the state. -/
def range (order : RangeOrder Key) (keys : State → Finset Key) (body : Key → State → State)
    (state : State) : State :=
  visitKeys keys body (order.visit (keys state)) state

section Inert

variable {keys : State → Finset Key} {body : Key → State → State} {target : Key}

private theorem visitKeys_of_inert
    (inert : ∀ key state, key ∈ keys state → key ≠ target → body key state = state)
    {visited : List Key} (distinct : visited.Nodup) (state : State) :
    visitKeys keys body visited state =
      if target ∈ visited ∧ target ∈ keys state then body target state else state := by
  induction visited generalizing state with
  | nil => simp [visitKeys]
  | cons key rest ih =>
    obtain ⟨fresh, distinct⟩ := List.nodup_cons.mp distinct
    rw [visitKeys, ih distinct]
    by_cases same : key = target
    · subst same
      simp [fresh]
    · have unchanged : (if key ∈ keys state then body key state else state) = state := by
        split
        · next present => exact inert key state present same
        · rfl
      rw [unchanged]
      simp [Ne.symm same]

/-- A loop in which only one key has an effect. -/
theorem range_of_inert (order : RangeOrder Key)
    (inert : ∀ key state, key ∈ keys state → key ≠ target → body key state = state)
    (state : State) :
    range order keys body state = if target ∈ keys state then body target state else state := by
  rw [range, visitKeys_of_inert inert (order.nodup_visit _)]
  simp

end Inert

namespace FiniteMap

variable {Value : Type*} {map : FiniteMap Key Value}

/-- The keys of a map. -/
def keySet (map : FiniteMap Key Value) : Finset Key := map.keys.toFinset

@[simp] theorem mem_keySet {key : Key} : key ∈ keySet map ↔ (map.lookup key).isSome := by
  rw [keySet, List.mem_toFinset, ← AList.mem_keys, AList.lookup_isSome]

private theorem visitKeys_alter (change : Key → Value → Option Value) {visited : List Key}
    (distinct : visited.Nodup) (map : FiniteMap Key Value) :
    visitKeys keySet (fun key => alter key (change key)) visited map =
      filterMap (fun key value => if key ∈ visited then change key value else some value) map := by
  induction visited generalizing map with
  | nil => simp [visitKeys, filterMap_some]
  | cons key rest ih =>
    obtain ⟨fresh, distinct⟩ := List.nodup_cons.mp distinct
    have visit : (if key ∈ keySet map then alter key (change key) map else map) =
        alter key (change key) map := by
      split
      · rfl
      · next absent => exact (alter_of_absent (by simpa using absent)).symm
    rw [visitKeys, visit, ih distinct, alter, filterMap_filterMap]
    refine filterMap_congr fun other value _ => ?_
    by_cases same : other = key
    · subst same
      simp [fresh]
    · simp [same]

/-- A loop that changes or drops the value it visits and nothing else. -/
theorem range_alter (order : RangeOrder Key) (change : Key → Value → Option Value) :
    range order keySet (fun key => alter key (change key)) map = filterMap change map := by
  rw [range, visitKeys_alter change (order.nodup_visit _)]
  refine filterMap_congr fun key value found => ?_
  simp [found]

end FiniteMap

end Bbsim.Foundation
