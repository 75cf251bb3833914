import Mathlib.Data.List.Basic

/-! Runs of a partial step function. A component is a `step : State → Label → Option State`: `none`
where the label cannot be taken. A run records the state before each step beside the label, so that
a condition on steps and a property of the states passed through are both statements about its
history. -/

namespace Bbsim.Foundation

variable {State Label : Type*}

/-- A finite run of `step` from `start`, with its history oldest first. -/
inductive Run (step : State → Label → Option State) (start : State) :
    List (State × Label) → State → Prop where
  | start : Run step start [] start
  | snoc {history : List (State × Label)} {state next : State} {label : Label}
      (before : Run step start history state) (taken : step state label = some next) :
      Run step start (history ++ [(state, label)]) next

/-- Every step of the history satisfies `allowed` in the state before it. -/
def Meets (allowed : State → Label → Prop) (history : List (State × Label)) : Prop :=
  ∀ entry ∈ history, allowed entry.1 entry.2

@[simp] theorem meets_nil (allowed : State → Label → Prop) : Meets allowed [] := by
  simp [Meets]

variable {label : Label} {state : State}

@[simp] theorem meets_snoc {allowed : State → Label → Prop} {history : List (State × Label)} :
    Meets allowed (history ++ [(state, label)]) ↔ Meets allowed history ∧ allowed state label := by
  rw [Meets, List.forall_mem_append, List.forall_mem_singleton, Meets]

@[simp] theorem meets_cons {allowed : State → Label → Prop} {history : List (State × Label)} :
    Meets allowed ((state, label) :: history) ↔ allowed state label ∧ Meets allowed history := by
  simp [Meets]

namespace Run

variable {step : State → Label → Option State} {start final : State}
  {history : List (State × Label)} {allowed : State → Label → Prop} {holds : State → Prop}

section

variable (run : Run step start history final)
include run

/-- The invariant rule for runs whose steps all satisfy a condition. -/
theorem invariant (meets : Meets allowed history) (initial : holds start)
    (preserved : ∀ state label next, holds state → allowed state label →
      step state label = some next → holds next) :
    holds final := by
  induction run with
  | start => exact initial
  | snoc before taken ih =>
    obtain ⟨earlier, last⟩ := meets_snoc.mp meets
    exact preserved _ _ _ (ih earlier) last taken

/-- The invariant rule for runs without a condition. -/
theorem invariant_of_step (initial : holds start)
    (preserved : ∀ state label next, holds state → step state label = some next → holds next) :
    holds final := by
  have meets : Meets (fun _ _ => True) history := fun _ _ => trivial
  exact run.invariant meets initial fun state label next held _ taken =>
    preserved state label next held taken

/-- The invariant holds in every state that is passed. -/
theorem always (meets : Meets allowed history) (initial : holds start)
    (preserved : ∀ state label next, holds state → allowed state label →
      step state label = some next → holds next) :
    Meets (fun state _ => holds state) history ∧ holds final := by
  induction run with
  | start => exact ⟨meets_nil _, initial⟩
  | snoc before taken ih =>
    obtain ⟨earlier, last⟩ := meets_snoc.mp meets
    obtain ⟨passed, now⟩ := ih earlier
    exact ⟨meets_snoc.mpr ⟨passed, now⟩, preserved _ _ _ now last taken⟩

end

variable {one other : State → Label → Prop}

/-- Two properties of steps that agree wherever an invariant holds agree on the steps of a run. -/
theorem meets_iff (run : Run step start history final) (meets : Meets allowed history)
    (initial : holds start)
    (preserved : ∀ state label next, holds state → allowed state label →
      step state label = some next → holds next)
    (agree : ∀ state label next, holds state → allowed state label → step state label = some next →
      (one state label ↔ other state label)) :
    Meets one history ↔ Meets other history := by
  induction run with
  | start => exact iff_of_true (meets_nil _) (meets_nil _)
  | snoc before taken ih =>
    obtain ⟨earlier, last⟩ := meets_snoc.mp meets
    have held := before.invariant earlier initial preserved
    rw [meets_snoc, meets_snoc, ih earlier, agree _ _ _ held last taken]

/-- Two properties of steps agree on the steps of a run if they agree wherever an invariant holds that
steps with the first one keep. -/
theorem meets_iff_of_kept (run : Run step start history final) (sound : State → Prop)
    (initial : sound start)
    (kept : ∀ state label next, sound state → one state label → step state label = some next → sound next)
    (agree : ∀ state label, sound state → (one state label ↔ other state label)) :
    Meets one history ↔ Meets other history := by
  induction run with
  | start => exact iff_of_true (meets_nil _) (meets_nil _)
  | snoc before taken ih =>
    rw [meets_snoc, meets_snoc, ← ih]
    exact and_congr_right fun earlier => agree _ _ (before.invariant earlier initial kept)

/-- The rule for something that is computed along the history and stays in relation to the state. -/
theorem tracks {Ghost : Type*} {update : Ghost → State × Label → Ghost} {ghost : Ghost}
    (run : Run step start history final) (agrees : Ghost → State → Prop)
    (meets : Meets allowed history) (initial : agrees ghost start)
    (preserved : ∀ ghost state label next, agrees ghost state → allowed state label →
      step state label = some next → agrees (update ghost (state, label)) next) :
    agrees (history.foldl update ghost) final := by
  induction run with
  | start => exact initial
  | snoc before taken ih =>
    obtain ⟨earlier, last⟩ := meets_snoc.mp meets
    rw [List.foldl_append]
    exact preserved _ _ _ _ (ih earlier) last taken

/-- Where a step keeps a property exactly if it is allowed, the property holds throughout a run
exactly if all its steps are allowed. -/
theorem throughout_iff {sound : State → Prop} (run : Run step start history final)
    (initial : sound start ∧ holds start)
    (preserved : ∀ state label next, sound state → step state label = some next → sound next)
    (exact : ∀ state label next, sound state → holds state → step state label = some next →
      (holds next ↔ allowed state label)) :
    Meets (fun state _ => holds state) history ∧ holds final ↔ Meets allowed history := by
  induction run with
  | start => simp [initial.2]
  | @snoc history state next label before taken ih =>
    have kept : sound state := before.invariant_of_step initial.1 preserved
    rw [meets_snoc, meets_snoc, ← ih, and_assoc]
    constructor
    · rintro ⟨earlier, now, after⟩
      exact ⟨⟨earlier, now⟩, (exact state label next kept now taken).mp after⟩
    · rintro ⟨⟨earlier, now⟩, permitted⟩
      exact ⟨earlier, now, (exact state label next kept now taken).mpr permitted⟩

/-- A property that a step keeps exactly if it is allowed, and never brings back, says at the end of a
run whether all its steps were allowed. -/
theorem final_iff (run : Run step start history final) (initial : holds start)
    (exact : ∀ state label next, step state label = some next →
      (holds next ↔ holds state ∧ allowed state label)) :
    holds final ↔ Meets allowed history := by
  induction run with
  | start => exact iff_of_true initial (meets_nil _)
  | snoc before taken ih => rw [exact _ _ _ taken, ih, meets_snoc]

/-- A run continues a first step. -/
theorem cons {next : State} (taken : step start label = some next)
    (run : Run step next history final) : Run step start ((start, label) :: history) final := by
  induction run with
  | start => exact Run.start.snoc taken
  | snoc before last ih => exact ih.snoc last

end Run

/-- Replay a list of labels. -/
def replay (step : State → Label → Option State) : State → List Label → Option State
  | state, [] => some state
  | state, label :: rest => (step state label).bind fun next => replay step next rest

variable {labels : List Label}

private theorem replay_extends (step : State → Label → Option State) {start state final : State}
    {history : List (State × Label)} (before : Run step start history state)
    (replayed : replay step state labels = some final) :
    ∃ whole, Run step start whole final ∧ whole.map Prod.snd = history.map Prod.snd ++ labels := by
  induction labels generalizing state history with
  | nil =>
    obtain rfl : state = final := Option.some.inj replayed
    exact ⟨history, before, (List.append_nil _).symm⟩
  | cons label rest ih =>
    obtain ⟨next, taken, later⟩ := Option.bind_eq_some_iff.mp replayed
    obtain ⟨whole, run, labels⟩ := ih (before.snoc taken) later
    exact ⟨whole, run, by simp [labels]⟩

/-- A replay is a run with these labels. -/
theorem exists_run_of_replay {step : State → Label → Option State} {start final : State}
    (replayed : replay step start labels = some final) :
    ∃ history, Run step start history final ∧ history.map Prod.snd = labels :=
  replay_extends step .start replayed

/-- A replay whose last state passes a test is a run to such a state. -/
theorem run_of_replay (step : State → Label → Option State) (start : State) (labels : List Label)
    (test : State → Prop) [DecidablePred test]
    (passed : ((replay step start labels).any fun final => test final) = true) :
    ∃ history final, Run step start history final ∧ test final := by
  cases replayed : replay step start labels with
  | none => simp [replayed] at passed
  | some final =>
    obtain ⟨history, run, -⟩ := exists_run_of_replay replayed
    exact ⟨history, final, run, by simpa [replayed] using passed⟩

variable (allowed : State → Label → Prop) [∀ state, DecidablePred (allowed state)]

/-- The step function restricted to the steps that are allowed. -/
def guarded (step : State → Label → Option State) : State → Label → Option State :=
  fun state label => if allowed state label then step state label else none

theorem Run.of_guarded {step : State → Label → Option State} {start final : State}
    {history : List (State × Label)} (run : Run (guarded allowed step) start history final) :
    Run step start history final ∧ Meets allowed history := by
  induction run with
  | start => exact ⟨.start, meets_nil _⟩
  | snoc before taken ih =>
    simp only [guarded] at taken
    split at taken
    · next passed => exact ⟨ih.1.snoc taken, meets_snoc.mpr ⟨ih.2, passed⟩⟩
    · cases taken

/-- A replay of steps that are all allowed, to a state that passes a test. -/
theorem run_of_guarded_replay (step : State → Label → Option State) (start : State)
    (labels : List Label) (test : State → Prop) [DecidablePred test]
    (passed : ((replay (guarded allowed step) start labels).any fun final => test final) = true) :
    ∃ history final, Run step start history final ∧ Meets allowed history ∧ test final := by
  obtain ⟨history, final, run, tested⟩ :=
    run_of_replay (guarded allowed step) start labels test passed
  obtain ⟨plain, meets⟩ := run.of_guarded
  exact ⟨history, final, plain, meets, tested⟩

end Bbsim.Foundation
