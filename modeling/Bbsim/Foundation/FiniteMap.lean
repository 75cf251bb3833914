import Mathlib.Data.List.AList

/-! Finite maps. Go maps as association lists without repeated keys: changing or dropping values by
key, and searching the entries. -/

namespace Bbsim.Foundation

abbrev FiniteMap (Key Value : Type*) := AList fun _ : Key => Value

namespace FiniteMap

variable {Key Value Other : Type*}

def changeEntry (change : Key → Value → Option Other) (entry : Sigma fun _ : Key => Value) :
    Option (Sigma fun _ : Key => Other) :=
  (change entry.1 entry.2).map fun value => ⟨entry.1, value⟩

private theorem keys_changed_sublist (change : Key → Value → Option Other)
    (entries : List (Sigma fun _ : Key => Value)) :
    (entries.filterMap (changeEntry change)).keys.Sublist entries.keys := by
  induction entries with
  | nil => exact .slnil
  | cons entry rest ih =>
    cases changed : change entry.1 entry.2 with
    | none => simpa [changeEntry, changed] using ih.cons entry.1
    | some value => simpa [changeEntry, changed] using ih.cons_cons entry.1

/-- Change every value, or drop its key. -/
def filterMap (change : Key → Value → Option Other) (map : FiniteMap Key Value) :
    FiniteMap Key Other where
  entries := map.entries.filterMap (changeEntry change)
  nodupKeys := List.Nodup.sublist (keys_changed_sublist change map.entries) map.keys_nodup

theorem filterMap_some {map : FiniteMap Key Value} : filterMap (fun _ value => some value) map = map := by
  apply AList.ext
  exact List.filterMap_some

theorem filterMap_filterMap {map : FiniteMap Key Value} (first second : Key → Value → Option Value) :
    filterMap second (filterMap first map) =
      filterMap (fun key value => (first key value).bind (second key)) map := by
  apply AList.ext
  simp only [filterMap, List.filterMap_filterMap]
  refine List.filterMap_congr fun entry _ => ?_
  cases changed : first entry.1 entry.2 <;> simp [changeEntry, changed]

def mapValues (change : Value → Other) (map : FiniteMap Key Value) : FiniteMap Key Other :=
  filterMap (fun _ value => some (change value)) map

/-- The first result a search of the entries gives. -/
def findSome? (search : Key → Value → Option Other) (map : FiniteMap Key Value) : Option Other :=
  map.entries.findSome? fun entry => search entry.1 entry.2

variable [DecidableEq Key]

@[simp] theorem lookup_filterMap (change : Key → Value → Option Other) (map : FiniteMap Key Value)
    (key : Key) : (filterMap change map).lookup key = (map.lookup key).bind (change key) := by
  ext other
  rw [← Option.mem_def, ← Option.mem_def, AList.mem_lookup_iff]
  constructor
  · intro member
    obtain ⟨⟨key', value⟩, present, changed⟩ := List.mem_filterMap.mp member
    obtain ⟨value', changedValue, same⟩ := Option.map_eq_some_iff.mp changed
    obtain ⟨rfl, sameValue⟩ := Sigma.mk.inj_iff.mp same
    obtain rfl := eq_of_heq sameValue
    exact Option.mem_bind_iff.mpr ⟨value, AList.mem_lookup_iff.mpr present, changedValue⟩
  · intro member
    obtain ⟨value, present, changed⟩ := Option.mem_bind_iff.mp member
    refine List.mem_filterMap.mpr ⟨⟨key, value⟩, AList.mem_lookup_iff.mp present, ?_⟩
    simp [changeEntry, Option.mem_def.mp changed]

@[simp] theorem lookup_mapValues (change : Value → Other) (map : FiniteMap Key Value) (key : Key) :
    (mapValues change map).lookup key = (map.lookup key).map change := by
  rw [mapValues, lookup_filterMap]
  cases map.lookup key <;> rfl

theorem filterMap_congr {map : FiniteMap Key Value} {change other : Key → Value → Option Other}
    (same : ∀ key value, map.lookup key = some value → change key value = other key value) :
    filterMap change map = filterMap other map := by
  apply AList.ext
  refine List.filterMap_congr fun entry member => ?_
  simp only [changeEntry]
  rw [same entry.1 entry.2 (AList.mem_lookup_iff.mpr member)]

theorem findSome?_eq_none_iff (search : Key → Value → Option Other) (map : FiniteMap Key Value) :
    findSome? search map = none ↔
      ∀ key value, map.lookup key = some value → search key value = none := by
  rw [findSome?, List.findSome?_eq_none_iff]
  constructor
  · intro absent key value found
    exact absent ⟨key, value⟩ (AList.mem_lookup_iff.mp found)
  · intro absent entry member
    exact absent entry.1 entry.2 (AList.mem_lookup_iff.mpr member)

theorem lookup_insert_eq (map : FiniteMap Key Value) (key other : Key) (value : Value) :
    (map.insert key value).lookup other = if other = key then some value else map.lookup other := by
  split
  · next same => subst same; exact AList.lookup_insert map
  · next different => exact AList.lookup_insert_ne different

theorem lookup_erase_eq (map : FiniteMap Key Value) (key other : Key) :
    (map.erase key).lookup other = if other = key then none else map.lookup other := by
  split
  · next same => subst same; exact AList.lookup_erase other map
  · next different => exact AList.lookup_erase_ne different

/-- Change or drop the value of one key. -/
def alter (key : Key) (change : Value → Option Value) (map : FiniteMap Key Value) :
    FiniteMap Key Value :=
  filterMap (fun other value => if other = key then change value else some value) map

section Alter

variable {map : FiniteMap Key Value} {key : Key} {change : Value → Option Value}

theorem lookup_alter (other : Key) :
    (alter key change map).lookup other =
      if other = key then (map.lookup other).bind change else map.lookup other := by
  rw [alter, lookup_filterMap]
  split
  · rfl
  · exact Option.bind_fun_some _

theorem alter_congr {other : Value → Option Value}
    (same : ∀ value, map.lookup key = some value → change value = other value) :
    alter key change map = alter key other map := by
  refine filterMap_congr fun key' value found => ?_
  by_cases here : key' = key
  · subst here
    simp [same value found]
  · simp [here]

theorem alter_eq_self (same : ∀ value, map.lookup key = some value → change value = some value) :
    alter key change map = map := by
  refine (alter_congr same).trans ((filterMap_congr fun key' value _ => ?_).trans filterMap_some)
  simp

theorem alter_alter (second : Value → Option Value) :
    alter key second (alter key change map) = alter key (fun value => (change value).bind second) map := by
  rw [alter, alter, filterMap_filterMap]
  refine filterMap_congr fun key' value _ => ?_
  by_cases here : key' = key <;> simp [here]

theorem alter_of_absent (absent : map.lookup key = none) : alter key change map = map := by
  refine alter_eq_self fun value found => ?_
  rw [absent] at found
  cases found

theorem erase_eq_alter : map.erase key = alter key (fun _ => none) map := by
  apply AList.ext
  obtain ⟨entries, distinct⟩ := map
  change entries.kerase key = entries.filterMap _
  induction entries with
  | nil => rfl
  | cons entry rest ih =>
    obtain ⟨fresh, distinct⟩ := List.nodupKeys_cons.mp distinct
    by_cases same : key = entry.1
    · subst same
      have others : rest.kerase entry.1 = rest := List.kerase_of_notMem_keys fresh
      rw [List.kerase_cons_eq rfl, List.filterMap_cons_none (by simp [changeEntry]), ← ih distinct,
        others]
    · rw [List.kerase_cons_ne same, ih distinct]
      simp [changeEntry, Ne.symm same]

end Alter

/-- The map has exactly the pairs of a relation. -/
def Represents (map : FiniteMap Key Value) (held : Key → Value → Prop) : Prop :=
  ∀ key value, map.lookup key = some value ↔ held key value

section Represents

variable {map : FiniteMap Key Value} {held other : Key → Value → Prop} {key : Key} {value : Value}

theorem represents_congr (same : ∀ key value, held key value ↔ other key value) :
    Represents map held ↔ Represents map other := by
  simp only [Represents, same]

theorem Represents.insert (exact : Represents map held) (free : map.lookup key = none) :
    Represents (map.insert key value) fun key' value' =>
      held key' value' ∨ (key' = key ∧ value' = value) := by
  intro key' value'
  simp only [lookup_insert_eq, ← exact key' value']
  by_cases same : key' = key
  · subst same
    simp [free, eq_comm]
  · simp [same]

/-- Erasing a key takes out one pair where no other value is held under it. -/
theorem Represents.erase_iff (exact : Represents map held) :
    (Represents (map.erase key) fun key' value' => held key' value' ∧ ¬(key' = key ∧ value' = value)) ↔
      ∀ value', held key value' → value' = value := by
  constructor
  · intro erased value' holds
    by_contra different
    have kept := (erased key value').mpr ⟨holds, fun same => different same.2⟩
    simp at kept
  · intro only key' value'
    simp only [lookup_erase_eq, ← exact key' value']
    by_cases same : key' = key
    · subst same
      simp only [if_pos, reduceCtorEq, true_and, false_iff, not_and, not_not]
      exact fun found => only value' ((exact key' value').mp found)
    · simp [same]

end Represents

/-- Any two values of the map are related. -/
def Consistent (map : FiniteMap Key Value) (related : Value → Value → Prop) : Prop :=
  ∀ first second left right, map.lookup first = some left → map.lookup second = some right →
    related left right

section Consistent

variable {map smaller : FiniteMap Key Value} {related : Value → Value → Prop} {key : Key}
  {value : Value}

theorem Consistent.of_subset (consistent : Consistent map related)
    (subset : ∀ key value, smaller.lookup key = some value → map.lookup key = some value) :
    Consistent smaller related :=
  fun first second left right here there =>
    consistent first second left right (subset _ _ here) (subset _ _ there)

theorem Consistent.insert_iff (consistent : Consistent map related) (free : map.lookup key = none)
    (reflexive : ∀ value, related value value)
    (symmetric : ∀ left right, related left right → related right left) :
    Consistent (map.insert key value) related ↔
      ∀ other stored, map.lookup other = some stored → related stored value := by
  constructor
  · intro inserted other stored found
    have different : other ≠ key := by
      rintro rfl
      simp [free] at found
    apply inserted other key stored value
    · rw [lookup_insert_eq, if_neg different, found]
    · rw [lookup_insert_eq, if_pos rfl]
  · intro agrees first second left right here there
    rw [lookup_insert_eq] at here there
    split at here
    · obtain rfl := Option.some.inj here
      split at there
      · obtain rfl := Option.some.inj there
        exact reflexive value
      · exact symmetric _ _ (agrees second right there)
    · split at there
      · obtain rfl := Option.some.inj there
        exact agrees first left here
      · exact consistent first second left right here there

end Consistent

/-- The entries whose value is not marked are the same in both maps. -/
def AgreeOutside (marked : Value → Prop) (before after : FiniteMap Key Value) : Prop :=
  ∀ key value, ¬ marked value → (before.lookup key = some value ↔ after.lookup key = some value)

section AgreeOutside

variable {map : FiniteMap Key Value} {marked : Value → Prop} {key : Key} {value : Value}

theorem agreeOutside_refl : AgreeOutside marked map map := fun _ _ _ => Iff.rfl

theorem agreeOutside_insert (free : map.lookup key = none) (own : marked value) :
    AgreeOutside marked map (map.insert key value) := by
  intro other stored unmarked
  rw [lookup_insert_eq]
  split
  · next same =>
    subst same
    rw [free]
    refine iff_of_false nofun fun inserted => unmarked ?_
    exact Option.some.inj inserted ▸ own
  · exact Iff.rfl

theorem agreeOutside_erase_iff :
    AgreeOutside marked map (map.erase key) ↔
      ∀ stored, map.lookup key = some stored → marked stored := by
  constructor
  · intro agree stored found
    by_contra unmarked
    have kept := (agree key stored unmarked).mp found
    simp at kept
  · intro own other stored unmarked
    rw [lookup_erase_eq]
    split
    · next same =>
      subst same
      exact iff_of_false (fun found => unmarked (own stored found)) nofun
    · exact Iff.rfl

/-- Removing marked entries only. -/
theorem agreeOutside_filterMap {change : Key → Value → Option Value}
    (others : ∀ key value, ¬ marked value → change key value = some value)
    (same : ∀ key value changed, change key value = some changed → changed = value) :
    AgreeOutside marked map (filterMap change map) := by
  intro other stored unmarked
  rw [lookup_filterMap, Option.bind_eq_some_iff]
  constructor
  · intro found
    exact ⟨stored, found, others other stored unmarked⟩
  · rintro ⟨old, found, kept⟩
    rw [same other old stored kept, found]

end AgreeOutside

end FiniteMap

end Bbsim.Foundation
