import Mathlib.Logic.Basic

/-! Postconditions of fallible operations. `Yields outcome raises post`: a value satisfies `post`
and an error satisfies `raises`. With `raises` always true this is partial correctness, with
`raises` always false it says that there is a value. The rules follow the way operations are put
together. -/

namespace Bbsim.Foundation

universe u v

variable {Error : Type u} {Value Other : Type v}

def Yields (outcome : Except Error Value) (raises : Error → Prop) (post : Value → Prop) : Prop :=
  match outcome with
  | .ok value => post value
  | .error error => raises error

/-- Partial correctness. -/
abbrev Ensures (outcome : Except Error Value) (post : Value → Prop) : Prop :=
  Yields outcome (fun _ => True) post

/-- There is a value. -/
abbrev Returns (outcome : Except Error Value) : Prop :=
  Yields outcome (fun _ => False) fun _ => True

variable {outcome : Except Error Value} {raises : Error → Prop} {post weaker : Value → Prop}

/-- Total correctness. -/
theorem yields_never_iff :
    Yields outcome (fun _ => False) post ↔ ∃ value, outcome = .ok value ∧ post value := by
  cases outcome with
  | error error => exact iff_of_false id nofun
  | ok value =>
    refine ⟨fun holds => ⟨value, rfl, holds⟩, ?_⟩
    rintro ⟨_, ⟨⟩, holds⟩
    exact holds

theorem returns_iff : Returns outcome ↔ ∃ value, outcome = .ok value := by
  simp only [Returns, yields_never_iff, and_true]

@[simp] theorem yields_ok (value : Value) : Yields (.ok value) raises post ↔ post value := Iff.rfl

@[simp] theorem yields_pure (value : Value) : Yields (pure value) raises post ↔ post value := Iff.rfl

@[simp] theorem yields_error (error : Error) : Yields (.error error) raises post ↔ raises error :=
  Iff.rfl

@[simp] theorem yields_bind {next : Value → Except Error Other} {post : Other → Prop} :
    Yields (outcome >>= next) raises post ↔
      Yields outcome raises fun value => Yields (next value) raises post := by
  cases outcome <;> rfl

@[simp] theorem yields_exceptBind {next : Value → Except Error Other} {post : Other → Prop} :
    Yields (outcome.bind next) raises post ↔
      Yields outcome raises fun value => Yields (next value) raises post := by
  cases outcome <;> rfl

@[simp] theorem yields_map {change : Value → Other} {post : Other → Prop} :
    Yields (outcome.map change) raises post ↔
      Yields outcome raises fun value => post (change value) := by
  cases outcome <;> rfl

@[simp] theorem yields_mapError {Renamed : Type u} {rename : Error → Renamed}
    {raises : Renamed → Prop} :
    Yields (outcome.mapError rename) raises post ↔
      Yields outcome (fun error => raises (rename error)) post := by
  cases outcome <;> rfl

theorem ensures_of_ok (holds : ∀ value, outcome = .ok value → post value) : Ensures outcome post := by
  cases outcome with
  | error error => trivial
  | ok value => exact holds value rfl

section

variable (yields : Yields outcome raises post)
include yields

theorem Yields.mono (weaken : ∀ value, post value → weaker value) : Yields outcome raises weaker := by
  cases outcome with
  | error error => exact yields
  | ok value => exact weaken value yields

theorem Yields.monoError {allowed : Error → Prop} (weaken : ∀ error, raises error → allowed error) :
    Yields outcome allowed post := by
  cases outcome with
  | error error => exact weaken error yields
  | ok value => exact yields

theorem Yields.value {value : Value} (returned : outcome = .ok value) : post value := by
  subst returned
  exact yields

end

theorem eq_ok_of_toOption {value : Value} (returned : outcome.toOption = some value) :
    outcome = .ok value := by
  cases outcome with
  | error error => cases returned
  | ok found => rw [Option.some.inj returned]

/-- Test for an error. -/
def fails [DecidableEq Error] (outcome : Except Error Value) (error : Error) : Bool :=
  match outcome with
  | .ok _ => false
  | .error found => found = error

theorem eq_error_of_fails [DecidableEq Error] {error : Error} (failed : fails outcome error = true) :
    outcome = .error error := by
  cases outcome with
  | ok value => cases failed
  | error found => rw [of_decide_eq_true failed]

theorem Yields.error (yields : Yields outcome raises post) {error : Error}
    (failed : outcome = .error error) : raises error := by
  subst failed
  exact yields

/-- A continuation that ensures its postcondition from any value. -/
theorem ensures_bind_of_forall {next : Value → Except Error Other} {post : Other → Prop}
    (each : ∀ value, Ensures (next value) post) : Ensures (outcome >>= next) post := by
  cases outcome with
  | error error => trivial
  | ok value => exact each value

/-- A check of every item. -/
theorem forM_eq_ok_iff {Item : Type*} {check : Item → Except Error PUnit.{v + 1}} {items : List Item} :
    items.forM check = .ok ⟨⟩ ↔ ∀ item ∈ items, check item = .ok ⟨⟩ := by
  induction items with
  | nil => exact iff_of_true rfl (List.forall_mem_nil _)
  | cons item rest ih =>
    rw [List.forM, List.forall_mem_cons, ← ih]
    cases check item with
    | error error => exact iff_of_false nofun fun both => nomatch both.1
    | ok value => exact (and_iff_right rfl).symm

/-- The rule for a loop: what it knows after the items it has done, and what an error at the next one
says. -/
theorem yields_foldlM {Item : Type*} {State : Type v} {body : State → Item → Except Error State}
    {start : State} {items : List Item} (holds : List Item → State → Prop) (initial : holds [] start)
    (preserved : ∀ done item rest state, items = done ++ item :: rest → holds done state →
      Yields (body state item) raises (holds (done ++ [item]))) :
    Yields (items.foldlM body start) raises (holds items) := by
  suffices general : ∀ rest done state, items = done ++ rest → holds done state →
      Yields (rest.foldlM body state) raises (holds items) from general items [] start rfl initial
  intro rest
  induction rest with
  | nil =>
    intro done state whole held
    rw [List.append_nil] at whole
    exact whole ▸ held
  | cons item rest ih =>
    intro done state whole held
    rw [List.foldlM_cons, yields_bind]
    refine (preserved done item rest state whole held).mono fun next held => ?_
    exact ih (done ++ [item]) next (by rw [whole, List.append_assoc, List.singleton_append]) held

end Bbsim.Foundation
