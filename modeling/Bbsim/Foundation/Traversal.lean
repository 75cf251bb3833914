import Mathlib.Data.List.Forall2
import Bbsim.Foundation.Outcome

/-! Fallible traversals with a state. One item is made for each index, in order. A state is passed
along, and the first error ends the traversal. -/

namespace Bbsim.Foundation

variable {Index Item State Error : Type}

def traverseWith (make : Index → State → Except Error (Item × State)) :
    List Index → State → Except Error (List Item × State)
  | [], state => .ok ([], state)
  | index :: rest, state => do
    let (item, state) ← make index state
    let (items, state) ← traverseWith make rest state
    return (item :: items, state)

variable {indices : List Index}

theorem traverseWith_congr {make other : Index → State → Except Error (Item × State)}
    (same : ∀ index ∈ indices, make index = other index) :
    traverseWith make indices = traverseWith other indices := by
  funext state
  induction indices generalizing state with
  | nil => rfl
  | cons index rest ih =>
    have later := ih fun other member => same other (List.mem_cons_of_mem index member)
    simp only [traverseWith, same index List.mem_cons_self, later]

variable {make : Index → State → Except Error (Item × State)} {raises : Error → Prop}
  {state : State}

/-- What holds of each item holds of all, an error is the error of one, and what each leaves of the
state is left of it at the end. -/
theorem yields_traverseWith (made : Index → Item → Prop) (holds : State → Prop)
    (initial : holds state)
    (each : ∀ index ∈ indices, ∀ state, holds state →
      Yields (make index state) raises fun result => made index result.1 ∧ holds result.2) :
    Yields (traverseWith make indices state) raises fun result =>
      List.Forall₂ made indices result.1 ∧ holds result.2 := by
  induction indices generalizing state with
  | nil => exact ⟨.nil, initial⟩
  | cons index rest ih =>
    rw [traverseWith, yields_bind]
    refine (each index List.mem_cons_self state initial).mono ?_
    rintro ⟨item, next⟩ ⟨first, held⟩
    rw [yields_bind]
    refine (ih held fun other member => each other (List.mem_cons_of_mem index member)).mono ?_
    rintro ⟨items, final⟩ ⟨others, held⟩
    exact ⟨.cons first others, held⟩

/-- A traversal whose state does not matter. -/
theorem yields_traverseWith_items (made : Index → Item → Prop)
    (each : ∀ index ∈ indices, ∀ state, Yields (make index state) raises fun result => made index result.1) :
    Yields (traverseWith make indices state) raises fun result =>
      List.Forall₂ made indices result.1 := by
  suffices all : Yields (traverseWith make indices state) raises fun result =>
      List.Forall₂ made indices result.1 ∧ True from all.mono fun _ both => both.1
  refine yields_traverseWith made (fun _ => True) trivial fun index member state _ => ?_
  exact (each index member state).mono fun _ holds => ⟨holds, trivial⟩

/-- A traversal that counts: what is left of the state after so many items says what the next one is
made as. -/
theorem yields_traverseWith_counted (made : Nat → Item → Prop) (holds : Nat → State → Prop)
    (initial : holds 0 state)
    (each : ∀ position index, indices[position]? = some index → ∀ state, holds position state →
      Yields (make index state) raises fun result => made position result.1 ∧
      holds (position + 1) result.2) :
    Yields (traverseWith make indices state) raises fun result =>
      (∀ position item, result.1[position]? = some item → made position item) ∧
        holds indices.length result.2 := by
  induction indices generalizing state made holds with
  | nil => exact ⟨fun position item present => by simp at present, initial⟩
  | cons index rest ih =>
    rw [traverseWith, yields_bind]
    refine (each 0 index rfl state initial).mono ?_
    rintro ⟨item, next⟩ ⟨first, held⟩
    rw [yields_bind]
    refine (ih (fun position => made (position + 1)) (fun position => holds (position + 1)) held
      fun position other present => each (position + 1) other present).mono ?_
    rintro ⟨items, final⟩ ⟨others, held⟩
    refine ⟨fun position found present => ?_, held⟩
    cases position with
    | zero => exact Option.some.inj present ▸ first
    | succ position => exact others position found present

variable {items : List Item}

/-- Items made for the numbers below a bound, by position. -/
theorem forall₂_range_iff {count : Nat} {made : Nat → Item → Prop} :
    List.Forall₂ made (List.range count) items ↔
      items.length = count ∧ ∀ index item, items[index]? = some item → made index item := by
  rw [List.forall₂_iff_get]
  simp only [List.length_range, List.get_eq_getElem, List.getElem_range]
  constructor
  · rintro ⟨length, all⟩
    refine ⟨length.symm, fun index item present => ?_⟩
    obtain ⟨inside, rfl⟩ := List.getElem?_eq_some_iff.mp present
    exact all index (by omega) inside
  · rintro ⟨length, all⟩
    refine ⟨length.symm, fun index _ inside => ?_⟩
    exact all index _ (List.getElem?_eq_getElem inside)

/-- Items made for the elements of a list and their positions. -/
theorem forall₂_zipIdx_iff {made : Index × Nat → Item → Prop} :
    List.Forall₂ made indices.zipIdx items ↔
      items.length = indices.length ∧ ∀ position item, items[position]? = some item →
        ∃ index, indices[position]? = some index ∧ made (index, position) item := by
  rw [List.forall₂_iff_get]
  simp only [List.length_zipIdx, List.get_eq_getElem, List.getElem_zipIdx, Nat.zero_add]
  constructor
  · rintro ⟨length, all⟩
    refine ⟨length.symm, fun position item present => ?_⟩
    obtain ⟨inside, rfl⟩ := List.getElem?_eq_some_iff.mp present
    have listed : position < indices.length := by omega
    exact ⟨indices[position], List.getElem?_eq_getElem listed, all position listed inside⟩
  · rintro ⟨length, all⟩
    refine ⟨length.symm, fun position listed inside => ?_⟩
    obtain ⟨index, present, holds⟩ := all position _ (List.getElem?_eq_getElem inside)
    rw [List.getElem?_eq_getElem listed] at present
    rwa [Option.some.inj present]

end Bbsim.Foundation
