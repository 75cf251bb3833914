import Mathlib.Data.List.Basic

/-! Logs of grants. What happened to the keys of a table, newest event first: a key is granted to an
owner, or freed. A key is held when it was granted and not freed since. -/

namespace Bbsim.Foundation

inductive GrantEvent (Key Owner : Type*) where
  | granted (key : Key) (owner : Owner)
  | freed (key : Key)
deriving DecidableEq

namespace GrantLog

variable {Key Owner : Type*} {log : List (GrantEvent Key Owner)} {key other : Key} {owner : Owner}

def Held (log : List (GrantEvent Key Owner)) (key : Key) : Prop :=
  ∃ newer owner older, log = newer ++ .granted key owner :: older ∧ .freed key ∉ newer

/-- Between two grants of a key the key is freed. -/
def Exclusive (log : List (GrantEvent Key Owner)) : Prop :=
  ∀ newer between older key owner previous,
    log = newer ++ .granted key owner :: (between ++ .granted key previous :: older) →
      .freed key ∈ between

theorem not_held_nil : ¬ Held ([] : List (GrantEvent Key Owner)) key := by
  rintro ⟨newer, owner, older, same, -⟩
  simp at same

theorem exclusive_nil : Exclusive ([] : List (GrantEvent Key Owner)) := by
  intro newer between older key owner previous same
  simp at same

theorem held_granted : Held (.granted other owner :: log) key ↔ key = other ∨ Held log key := by
  constructor
  · rintro ⟨newer, last, older, same, kept⟩
    cases newer with
    | nil =>
      obtain ⟨event, -⟩ := List.cons.inj same
      exact .inl (GrantEvent.granted.inj event).1.symm
    | cons first rest =>
      obtain ⟨-, later⟩ := List.cons.inj same
      exact .inr ⟨rest, last, older, later, fun freed => kept (List.mem_cons_of_mem _ freed)⟩
  · rintro (rfl | ⟨newer, last, older, rfl, kept⟩)
    · exact ⟨[], owner, log, rfl, by simp⟩
    · exact ⟨.granted other owner :: newer, last, older, rfl, by simpa using kept⟩

theorem held_freed : Held (.freed other :: log) key ↔ key ≠ other ∧ Held log key := by
  constructor
  · rintro ⟨newer, last, older, same, kept⟩
    cases newer with
    | nil => simp at same
    | cons first rest =>
      obtain ⟨rfl, later⟩ := List.cons.inj same
      refine ⟨?_, rest, last, older, later, fun freed => kept (List.mem_cons_of_mem _ freed)⟩
      rintro rfl
      exact kept (List.mem_cons_self ..)
  · rintro ⟨different, newer, last, older, rfl, kept⟩
    exact ⟨.freed other :: newer, last, older, rfl, by simp [different, kept]⟩

theorem exclusive_freed : Exclusive (.freed other :: log) ↔ Exclusive log := by
  constructor
  · rintro exclusive newer between older key owner previous rfl
    exact exclusive (.freed other :: newer) between older key owner previous rfl
  · intro exclusive newer between older key owner previous same
    cases newer with
    | nil => simp at same
    | cons first rest => exact exclusive rest between older key owner previous (List.cons.inj same).2

theorem exclusive_granted :
    Exclusive (.granted other owner :: log) ↔ Exclusive log ∧ ¬ Held log other := by
  constructor
  · intro exclusive
    constructor
    · rintro newer between older key last previous rfl
      exact exclusive (.granted other owner :: newer) between older key last previous rfl
    · rintro ⟨newer, previous, older, rfl, kept⟩
      exact kept (exclusive [] newer older other owner previous rfl)
  · rintro ⟨exclusive, free⟩ newer between older key last previous same
    cases newer with
    | nil =>
      obtain ⟨event, rest⟩ := List.cons.inj same
      obtain ⟨rfl, rfl⟩ := GrantEvent.granted.inj event
      by_contra kept
      exact free ⟨between, previous, older, rest, kept⟩
    | cons first rest => exact exclusive rest between older key last previous (List.cons.inj same).2

theorem held_freed_all {keys : List Key} :
    Held (keys.map .freed ++ log) key ↔ key ∉ keys ∧ Held log key := by
  induction keys with
  | nil => simp
  | cons first rest ih =>
    rw [List.map_cons, List.cons_append, held_freed, ih, List.mem_cons, not_or, and_assoc]

theorem exclusive_freed_all {keys : List Key} :
    Exclusive (keys.map .freed ++ log) ↔ Exclusive log := by
  induction keys with
  | nil => rfl
  | cons first rest ih => rw [List.map_cons, List.cons_append, exclusive_freed, ih]

end GrantLog

end Bbsim.Foundation
