import Mathlib.Data.List.Iterate
import Mathlib.Data.List.Infix

/-! Counters that start over. A successor that runs through `period` values and starts over at the
first one. Any `period` values in a row are different, wherever they begin. -/

namespace Bbsim.Foundation

variable {Id : Type*}

/-- The successor, on the ids whose value is within the cycle. -/
structure Cycles (value : Id → Nat) (next : Id → Id) (first period : Nat) : Prop where
  positive : 0 < period
  step : ∀ id, first ≤ value id → value id < first + period →
    value (next id) = first + (value id - first + 1) % period

namespace Cycles

variable {value : Id → Nat} {next : Id → Id} {first period : Nat} {start : Id}

variable (cycles : Cycles value next first period) (lower : first ≤ value start)
  (upper : value start < first + period)
include cycles lower upper

/-- The value after any number of steps. -/
theorem value_iterate (steps : Nat) :
    value (next^[steps] start) = first + (value start - first + steps) % period := by
  induction steps with
  | zero =>
    rw [Function.iterate_zero_apply, Nat.add_zero, Nat.mod_eq_of_lt (by omega)]
    omega
  | succ steps ih =>
    have below := Nat.mod_lt (value start - first + steps) cycles.positive
    rw [Function.iterate_succ_apply', cycles.step _ (by omega) (by omega), ih, Nat.add_sub_cancel_left,
      Nat.mod_add_mod, Nat.add_assoc]

theorem bounds_of_mem {count : Nat} {id : Id} (member : id ∈ List.iterate next start count) :
    first ≤ value id ∧ value id < first + period := by
  obtain ⟨steps, -, rfl⟩ := List.mem_iterate.mp member
  rw [cycles.value_iterate lower upper]
  have below := Nat.mod_lt (value start - first + steps) cycles.positive
  omega

/-- Ids that are less than a period apart are different. -/
theorem nodup_of_infix {count : Nat} {window : List Id}
    (within : window <:+: List.iterate next start count) (short : window.length ≤ period) :
    window.Nodup := by
  obtain ⟨before, after, whole⟩ := within
  -- the ids of the window by their place in the whole list
  have placed : ∀ (index : Nat) (inside : index < window.length),
      value window[index] = first + (value start - first + (before.length + index)) % period := by
    intro index inside
    have listed : (List.iterate next start count)[before.length + index]? = some window[index] := by
      rw [← whole, List.append_assoc, List.getElem?_append_right (Nat.le_add_right _ _),
        Nat.add_sub_cancel_left, List.getElem?_append_left inside, List.getElem?_eq_getElem inside]
    obtain ⟨bound, same⟩ := List.getElem?_eq_some_iff.mp listed
    rw [← same, List.getElem_iterate, cycles.value_iterate lower upper]
  rw [List.Nodup, List.pairwise_iff_getElem]
  intro one other oneInside otherInside less same
  have values := placed one oneInside
  rw [same, placed other otherInside] at values
  have congruent := Nat.add_left_cancel values
  have apart := Nat.sub_mod_eq_zero_of_mod_eq congruent
  rw [Nat.mod_eq_of_lt (by omega)] at apart
  omega

end Cycles

end Bbsim.Foundation
