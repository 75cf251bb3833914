import Mathlib.Data.List.Basic
import Mathlib.Algebra.Order.Group.Nat
import Mathlib.Algebra.GroupWithZero.Nat

/-! Greedy packing. Items are put into the current bin until it holds at least two of them and its
load passes a limit; the next item then opens a new bin. The load of a bin is a fixed base and its
items' sizes. -/

namespace Bbsim.Foundation.Packing

variable {Item : Type*}

/-- How bins are loaded: a base load, the size of each item and the load that closes a bin. -/
structure Rule (Item : Type*) where
  base : Nat
  limit : Nat
  size : Item → Nat

variable (rule : Rule Item)

def load (bin : List Item) : Nat :=
  rule.base + (bin.map rule.size).sum

@[simp] theorem load_snoc (bin : List Item) (item : Item) :
    load rule (bin ++ [item]) = load rule bin + rule.size item := by
  simp [load, Nat.add_assoc]

def Closed (bin : List Item) : Prop :=
  2 ≤ bin.length ∧ rule.limit < load rule bin

instance (bin : List Item) : Decidable (Closed rule bin) :=
  inferInstanceAs (Decidable (_ ∧ _))

/-- The bins that arise from an open bin and the items still to come. -/
def binsFrom (current : List Item) : List Item → List (List Item)
  | [] => [current]
  | item :: rest =>
    if Closed rule current then current :: binsFrom [item] rest
    else binsFrom (current ++ [item]) rest

/-- The bin left open when the items run out. -/
def lastFrom (current : List Item) : List Item → List Item
  | [] => current
  | item :: rest =>
    if Closed rule current then lastFrom [item] rest else lastFrom (current ++ [item]) rest

theorem binsFrom_flatten (current rest : List Item) :
    (binsFrom rule current rest).flatten = current ++ rest := by
  induction rest generalizing current with
  | nil => simp [binsFrom]
  | cons item rest ih =>
    by_cases closed : Closed rule current <;> simp [binsFrom, closed, ih]

theorem binsFrom_eq_snoc (current rest : List Item) :
    ∃ earlier, binsFrom rule current rest = earlier ++ [lastFrom rule current rest] ∧
      ∀ bin ∈ earlier, Closed rule bin := by
  induction rest generalizing current with
  | nil => exact ⟨[], rfl, by simp⟩
  | cons item rest ih =>
    by_cases closed : Closed rule current
    · obtain ⟨earlier, shape, full⟩ := ih [item]
      refine ⟨current :: earlier, by simp [binsFrom, lastFrom, closed, shape], ?_⟩
      simpa [closed] using full
    · obtain ⟨earlier, shape, full⟩ := ih (current ++ [item])
      exact ⟨earlier, by simp [binsFrom, lastFrom, closed, shape], full⟩

theorem binsFrom_length_le (current rest : List Item) :
    (binsFrom rule current rest).length ≤ 1 + rest.length := by
  induction rest generalizing current with
  | nil => simp [binsFrom]
  | cons item rest ih =>
    rw [binsFrom]
    split
    · have shorter := ih [item]
      simp only [List.length_cons]
      omega
    · have shorter := ih (current ++ [item])
      simp only [List.length_cons]
      omega

/-- A property that every opened bin has, and that adding to an open bin keeps, holds of all. -/
theorem binsFrom_forall {holds : List Item → Prop} (current rest : List Item)
    (opened : ∀ item ∈ rest, holds [item])
    (added : ∀ bin, ∀ item ∈ rest, holds bin → ¬ Closed rule bin → holds (bin ++ [item]))
    (initial : holds current) : ∀ bin ∈ binsFrom rule current rest, holds bin := by
  induction rest generalizing current with
  | nil => simpa [binsFrom] using initial
  | cons item rest ih =>
    simp only [List.forall_mem_cons] at opened
    have addedRest : ∀ bin, ∀ item ∈ rest, holds bin → ¬ Closed rule bin → holds (bin ++ [item]) :=
      fun bin other member => added bin other (List.mem_cons_of_mem _ member)
    by_cases closed : Closed rule current
    · have later := ih [item] opened.2 addedRest opened.1
      simpa [binsFrom, closed] using ⟨initial, later⟩
    · have grown := added current item (by simp) initial closed
      simpa [binsFrom, closed] using ih (current ++ [item]) opened.2 addedRest grown

/-- Number of items and load of the bin being filled, computed from the sizes alone. -/
def fillStep (base limit : Nat) (fill : Nat × Nat) (size : Nat) : Nat × Nat :=
  if fill.1 = 0 ∨ (2 ≤ fill.1 ∧ limit < fill.2) then (1, base + size)
  else (fill.1 + 1, fill.2 + size)

def lastFill (base limit : Nat) (sizes : List Nat) : Nat × Nat :=
  sizes.foldl (fillStep base limit) (0, 0)

theorem foldl_fillStep (current rest : List Item) (present : current ≠ []) :
    (rest.map rule.size).foldl (fillStep rule.base rule.limit)
        (current.length, load rule current) =
      ((lastFrom rule current rest).length, load rule (lastFrom rule current rest)) := by
  induction rest generalizing current with
  | nil => rfl
  | cons item rest ih =>
    rw [List.map_cons, List.foldl_cons]
    by_cases closed : Closed rule current
    · rw [fillStep, if_pos (.inr closed), lastFrom, if_pos closed]
      simpa [load] using ih [item] (by simp)
    · have counted : current.length ≠ 0 := by simpa using present
      have stepped : fillStep rule.base rule.limit (current.length, load rule current)
          (rule.size item) = (current.length + 1, load rule current + rule.size item) :=
        if_neg (not_or.mpr ⟨counted, closed⟩)
      rw [stepped, lastFrom, if_neg closed]
      simpa using ih (current ++ [item]) (by simp)

theorem lastFill_eq (item : Item) (rest : List Item) :
    lastFill rule.base rule.limit ((item :: rest).map rule.size) =
      ((lastFrom rule [item] rest).length, load rule (lastFrom rule [item] rest)) := by
  rw [← foldl_fillStep rule [item] rest (by simp)]
  simp [lastFill, fillStep, load]

end Bbsim.Foundation.Packing
