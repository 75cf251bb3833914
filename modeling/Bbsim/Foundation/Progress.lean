import Bbsim.Foundation.Run

/-! Reaching a goal. What can be reached from a state, by a rank that goes down, and what is known
of a system from a simpler one that it is an image of. -/

namespace Bbsim.Foundation

variable {State Label : Type*} {step : State → Label → Option State}

/-- Some run leads from the state to a goal. -/
def CanReach (step : State → Label → Option State) (goal : State → Prop) (state : State) : Prop :=
  ∃ history final, Run step state history final ∧ goal final

/-- Whatever has happened since the start, a goal can still be reached. -/
def StaysWithinReach (step : State → Label → Option State) (goal : State → Prop) (start : State) :
    Prop :=
  ∀ history state, Run step start history state → CanReach step goal state

section

variable {goal : State → Prop}

theorem canReach_of_goal {state : State} (reached : goal state) : CanReach step goal state :=
  ⟨[], state, .start, reached⟩

theorem canReach_of_step {state next : State} {label : Label} (taken : step state label = some next)
    (later : CanReach step goal next) : CanReach step goal state := by
  obtain ⟨history, final, run, reached⟩ := later
  exact ⟨_, final, run.cons taken, reached⟩

/-- A goal behind another one. -/
theorem CanReach.trans {middle : State → Prop} {state : State} (first : CanReach step middle state)
    (rest : ∀ state, middle state → CanReach step goal state) : CanReach step goal state := by
  obtain ⟨history, final, run, reached⟩ := first
  have later := rest final reached
  clear reached
  induction run with
  | start => exact later
  | snoc before taken ih => exact ih (canReach_of_step taken later)

/-- The rule of the rank: in each state that is no goal some step leads to a lower one. -/
theorem canReach_of_rank (rank : State → Nat) (holds : State → Prop)
    (advance : ∀ state, holds state → goal state ∨
      ∃ label next, step state label = some next ∧ holds next ∧ rank next < rank state)
    {state : State} (held : holds state) : CanReach step goal state := by
  induction bound : rank state using Nat.strongRecOn generalizing state with
  | _ size ih =>
    rcases advance state held with reached | ⟨label, next, taken, after, less⟩
    · exact canReach_of_goal reached
    · exact canReach_of_step taken (ih _ (bound ▸ less) after rfl)

end

section

variable {Abstract : Type*} {abstractStep : Abstract → Label → Option Abstract}
  {image : Abstract → State} {start : Abstract}

/-- The system takes the steps of the abstract one, on the images of its states. -/
def IsImage (abstractStep : Abstract → Label → Option Abstract) (step : State → Label → Option State)
    (image : Abstract → State) : Prop :=
  ∀ state label, step (image state) label = (abstractStep state label).map image

variable (same : IsImage abstractStep step image)
include same

theorem IsImage.abstract_run {history : List (State × Label)} {final : State}
    (run : Run step (image start) history final) :
    ∃ abstractHistory reached, Run abstractStep start abstractHistory reached ∧
      final = image reached := by
  induction run with
  | start => exact ⟨[], start, .start, rfl⟩
  | snoc before taken ih =>
    obtain ⟨abstractHistory, reached, abstractRun, rfl⟩ := ih
    rw [same] at taken
    obtain ⟨next, abstractTaken, rfl⟩ := Option.map_eq_some_iff.mp taken
    exact ⟨_, next, abstractRun.snoc abstractTaken, rfl⟩

theorem IsImage.run {abstractHistory : List (Abstract × Label)} {final : Abstract}
    (abstractRun : Run abstractStep start abstractHistory final) :
    ∃ history, Run step (image start) history (image final) := by
  induction abstractRun with
  | start => exact ⟨[], .start⟩
  | snoc before taken ih =>
    obtain ⟨history, run⟩ := ih
    exact ⟨_, run.snoc ((same _ _).trans (congrArg (Option.map image) taken))⟩

theorem IsImage.run_of_replay {labels : List Label} {final : Abstract}
    (replayed : replay abstractStep start labels = some final) :
    ∃ history, Run step (image start) history (image final) := by
  obtain ⟨_, abstractRun, -⟩ := exists_run_of_replay replayed
  exact same.run abstractRun

theorem IsImage.canReach_iff {goal : State → Prop} :
    CanReach step goal (image start) ↔ CanReach abstractStep (fun state => goal (image state)) start := by
  constructor
  · rintro ⟨history, final, run, reached⟩
    obtain ⟨abstractHistory, state, abstractRun, rfl⟩ := same.abstract_run run
    exact ⟨abstractHistory, state, abstractRun, reached⟩
  · rintro ⟨abstractHistory, final, abstractRun, reached⟩
    obtain ⟨history, run⟩ := same.run abstractRun
    exact ⟨history, _, run, reached⟩

end

end Bbsim.Foundation
