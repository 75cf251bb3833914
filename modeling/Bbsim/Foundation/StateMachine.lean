import Mathlib.Data.List.Basic

/-! Event tables. A state machine given as a table of events, each with the states that accept it. -/

namespace Bbsim.Foundation

variable {Event State : Type*}

/-- One entry of an event table. -/
structure EventDesc (Event State : Type*) where
  name : Event
  src : List State
  dst : State

/-- The table fills a map from event and state to target, so a later entry wins. -/
def transition [DecidableEq Event] [DecidableEq State] (events : List (EventDesc Event State))
    (event : Event) (state : State) : Option State :=
  (events.reverse.find? fun desc => desc.name = event ∧ state ∈ desc.src).map EventDesc.dst

end Bbsim.Foundation
