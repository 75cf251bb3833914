import Mathlib.Data.List.Forall2

/-! Loops that may stop. A loop over a list changes the items in place and takes notes. A turn that
does not finish leaves the rest of the list as it is, and what was done before it stays done. -/

namespace Bbsim.Foundation

variable {Item Other Note Part Entry : Type}

structure Visit (Item Note : Type) where
  after : Item
  notes : List Note
  finished : Bool

namespace Visit

def pass (item : Item) : Visit Item Note := ⟨item, [], true⟩

def map (change : Item → Other) (visit : Visit Item Note) : Visit Other Note :=
  ⟨change visit.after, visit.notes, visit.finished⟩

end Visit

def visitAll (turn : Item → Visit Item Note) : List Item → Visit (List Item) Note
  | [] => .pass []
  | item :: rest =>
    let first := turn item
    if first.finished then
      let later := visitAll turn rest
      ⟨first.after :: later.after, first.notes ++ later.notes, later.finished⟩
    else ⟨first.after :: rest, first.notes, false⟩

variable {turn : Item → Visit Item Note}

theorem visitAll_cons_of_finished {item : Item} (rest : List Item) (done : (turn item).finished = true) :
    visitAll turn (item :: rest) = ⟨(turn item).after :: (visitAll turn rest).after,
      (turn item).notes ++ (visitAll turn rest).notes, (visitAll turn rest).finished⟩ := by
  rw [visitAll]
  exact if_pos done

theorem visitAll_cons_of_stopped {item : Item} (rest : List Item) (stopped : (turn item).finished = false) :
    visitAll turn (item :: rest) = ⟨(turn item).after :: rest, (turn item).notes, false⟩ := by
  rw [visitAll]
  exact if_neg (by simp [stopped])

/-- An item is left as it was, or had its turn. -/
theorem forall₂_visitAll (turn : Item → Visit Item Note) (items : List Item) :
    List.Forall₂ (fun item next => next = item ∨ next = (turn item).after) items
      (visitAll turn items).after := by
  induction items with
  | nil => exact .nil
  | cons item rest ih =>
    cases done : (turn item).finished with
    | true =>
      rw [visitAll_cons_of_finished rest done]
      exact .cons (.inr rfl) ih
    | false =>
      rw [visitAll_cons_of_stopped rest done]
      exact .cons (.inr rfl) (List.forall₂_same.mpr fun _ _ => .inl rfl)

/-- A turn goes through the parts of its item. A part that wants to be changed and is not ready stops it,
and one that is ready is changed. -/
structure Walks (turn : Item → Visit Item Note) (parts : Item → List Part) (wants ready : Part → Bool) :
    Prop where
  finished : ∀ item, (turn item).finished = true ↔ ∀ part ∈ parts item, wants part = true → ready part = true
  unchanged : ∀ item, (turn item).after = item ↔
    ∀ part, (parts item).find? wants = some part → ready part = false

namespace Walks

variable {parts : Item → List Part} {wants ready : Part → Bool}

theorem exists_of_stopped (walks : Walks turn parts wants ready) {item : Item}
    (stopped : (turn item).finished = false) : ∃ part, (parts item).find? wants = some part := by
  rw [← Option.isSome_iff_exists]
  by_contra none
  have none := Option.not_isSome_iff_eq_none.mp none
  refine Bool.false_ne_true (stopped.symm.trans ((walks.finished item).mpr fun part member wanted => ?_))
  exact absurd wanted (List.find?_eq_none.mp none part member)

theorem visitAll (walks : Walks turn parts wants ready) :
    Walks (visitAll turn) (List.flatMap parts) wants ready where
  finished := by
    intro items
    induction items with
    | nil => simp [Foundation.visitAll, Visit.pass]
    | cons item rest ih =>
      rw [List.flatMap_cons, List.forall_mem_append, ← walks.finished item, ← ih]
      cases done : (turn item).finished with
      | true => simp [visitAll_cons_of_finished rest done]
      | false => simp [visitAll_cons_of_stopped rest done]
  unchanged := by
    intro items
    induction items with
    | nil => simp [Foundation.visitAll, Visit.pass]
    | cons item rest ih =>
      rw [List.flatMap_cons, List.find?_append]
      cases done : (turn item).finished with
      | true =>
        rw [visitAll_cons_of_finished rest done, List.cons.injEq, walks.unchanged item, ih]
        cases found : (parts item).find? wants with
        | none => simp
        | some part =>
          -- the part is ready, as the turn finished, so the item is changed
          have wanted := List.find?_some found
          have isReady := (walks.finished item).mp done part (List.mem_of_find?_eq_some found) wanted
          simp [isReady]
      | false =>
        obtain ⟨part, found⟩ := walks.exists_of_stopped done
        rw [visitAll_cons_of_stopped rest done, List.cons.injEq, walks.unchanged item, found]
        simp

end Walks

/-- What a turn notes is what it is expected to note by the item before and after. -/
structure Notes (turn : Item → Visit Item Note) (entry : Note → Option Entry)
    (expected : Item → Item → List Entry) : Prop where
  notes : ∀ item, (turn item).notes.filterMap entry = expected item (turn item).after
  same : ∀ item, expected item item = []

def expectedAll (expected : Item → Item → List Entry) (before after : List Item) : List Entry :=
  (before.zip after).flatMap fun pair => expected pair.1 pair.2

theorem Notes.visitAll {entry : Note → Option Entry} {expected : Item → Item → List Entry}
    (noted : Notes turn entry expected) : Notes (visitAll turn) entry (expectedAll expected) := by
  have same : ∀ items, expectedAll expected items items = [] := by
    intro items
    induction items with
    | nil => rfl
    | cons item rest ih =>
      rw [expectedAll, List.zip_cons_cons, List.flatMap_cons, noted.same]
      exact ih
  refine ⟨fun items => ?_, same⟩
  induction items with
  | nil => rfl
  | cons item rest ih =>
    cases done : (turn item).finished with
    | true =>
      rw [visitAll_cons_of_finished rest done, List.filterMap_append, noted.notes, ih]
      rfl
    | false =>
      have left := same rest
      rw [expectedAll] at left
      rw [visitAll_cons_of_stopped rest done, noted.notes, expectedAll, List.zip_cons_cons,
        List.flatMap_cons, left, List.append_nil]

end Bbsim.Foundation
