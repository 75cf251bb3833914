import Mathlib.Data.List.Basic
import Bbsim.Foundation.Outcome

/-! Loops over a machine counter. `for i := first; i <= last; i++` where the counter has `size`
values and wraps around. Over the largest value the condition cannot fail, so that the loop ends
only through its body. A loop is given fuel, and `none` is one that is still going. -/

namespace Bbsim.Foundation

variable {State Error : Type} {body : State → Nat → Except Error State} {size last : Nat}

def countedLoop (size : Nat) (body : State → Nat → Except Error State) (last : Nat) :
    Nat → Nat → State → Option (Except Error State)
  | 0, _, _ => none
  | fuel + 1, counter, state =>
    if counter ≤ last then
      match body state counter with
      | .error error => some (.error error)
      | .ok next => countedLoop size body last fuel ((counter + 1) % size) next
    else some (.ok state)

/-- The loop visits each value once, if the counter does not wrap around or the body stops it before. -/
theorem countedLoop_eq_foldlM (inRange : last < size) {fuel counter : Nat} {state : State}
    (enough : last + 1 - counter < fuel)
    (ends : last + 1 < size ∨
      ∃ error, (List.range' counter (last + 1 - counter)).foldlM body state = .error error) :
    countedLoop size body last fuel counter state =
      some ((List.range' counter (last + 1 - counter)).foldlM body state) := by
  induction fuel generalizing counter state with
  | zero => omega
  | succ fuel ih =>
    rw [countedLoop]
    by_cases within : counter ≤ last
    · have visits : List.range' counter (last + 1 - counter) =
          counter :: List.range' (counter + 1) (last + 1 - (counter + 1)) := by
        rw [show last + 1 - counter = last + 1 - (counter + 1) + 1 by omega, List.range'_succ]
      rw [visits, List.foldlM_cons] at ends ⊢
      rw [if_pos within]
      cases stepped : body state counter with
      | error error => rfl
      | ok next =>
        rw [stepped] at ends
        -- at the last value of all the body would have had to fail
        have unwrapped : counter + 1 < size := by
          rcases ends with small | ⟨error, failed⟩
          · omega
          · by_contra wrapped
            rw [show last + 1 - (counter + 1) = 0 by omega] at failed
            cases failed
        dsimp only
        rw [Nat.mod_eq_of_lt unwrapped]
        exact ih (by omega) ends
    · rw [if_neg within, show last + 1 - counter = 0 by omega]
      rfl

variable {Value Other : Type}

def ended (outcome : Except Error Value) : ExceptT Error Option Value := ExceptT.mk (some outcome)

/-- An operation that ends is followed by one that ends on its value. -/
theorem ended_bind {outcome : Except Error Value} {next : Value → ExceptT Error Option Other}
    {plain : Value → Except Error Other}
    (ends : ∀ value, outcome = .ok value → next value = ended (plain value)) :
    (ended outcome >>= next) = ended (outcome >>= plain) := by
  cases outcome with
  | error error => rfl
  | ok value => exact ends value rfl

theorem foldlM_eq_ended {Item : Type} {step : State → Item → Except Error State}
    {run : State → Item → ExceptT Error Option State} {items : List Item}
    (ends : ∀ item ∈ items, ∀ state, run state item = ended (step state item)) (state : State) :
    items.foldlM run state = ended (items.foldlM step state) := by
  induction items generalizing state with
  | nil => rfl
  | cons item rest ih =>
    rw [List.foldlM_cons, List.foldlM_cons, ends item List.mem_cons_self]
    refine ended_bind fun next _ => ?_
    exact ih (fun other member => ends other (List.mem_cons_of_mem item member)) next

theorem mapM_eq_ended {Item : Type} {make : Item → Value} {run : Item → ExceptT Error Option Value}
    {items : List Item} (ends : ∀ item ∈ items, run item = ended (.ok (make item))) :
    items.mapM run = ended (.ok (items.map make)) := by
  induction items with
  | nil => rfl
  | cons item rest ih =>
    have later := ih fun other member => ends other (List.mem_cons_of_mem item member)
    rw [List.mapM_cons, ends item List.mem_cons_self, later]
    rfl

end Bbsim.Foundation
