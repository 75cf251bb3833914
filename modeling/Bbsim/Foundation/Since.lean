import Mathlib.Data.List.Basic

/-! What has held since an event. The temporal operator over finite histories, oldest event first:
something opened, and nothing has closed since. Whether an event opens may depend on the history
before it. -/

namespace Bbsim.Foundation

variable {Label : Type*}

def Since (opens : List Label → Label → Prop) (closes : Label → Prop) (labels : List Label) : Prop :=
  ∃ before event after, labels = before ++ event :: after ∧ opens before event ∧
    ∀ later ∈ after, ¬ closes later

variable {opens : List Label → Label → Prop} {closes : Label → Prop} {labels : List Label} {label : Label}

@[simp] theorem not_since_nil : ¬ Since opens closes [] := by
  rintro ⟨before, event, after, whole, -⟩
  simp at whole

/-- The last event opens, or something opened earlier and the last event does not close. -/
theorem since_snoc : Since opens closes (labels ++ [label]) ↔
    opens labels label ∨ (Since opens closes labels ∧ ¬ closes label) := by
  constructor
  · rintro ⟨before, event, after, whole, opened, kept⟩
    rcases List.eq_nil_or_concat after with rfl | ⟨rest, last, rfl⟩
    · obtain ⟨rfl, same⟩ := List.append_inj' whole rfl
      cases same
      exact .inl opened
    · rw [List.concat_eq_append, ← List.cons_append, ← List.append_assoc] at whole
      obtain ⟨rfl, same⟩ := List.append_inj' whole rfl
      cases same
      refine .inr ⟨⟨before, event, rest, rfl, opened, fun later member => ?_⟩, ?_⟩
      · exact kept later (by simp [member])
      · exact kept label (by simp)
  · rintro (opened | ⟨⟨before, event, after, rfl, opened, kept⟩, stays⟩)
    · exact ⟨labels, label, [], rfl, opened, List.forall_mem_nil _⟩
    · refine ⟨before, event, after ++ [label], by simp, opened, ?_⟩
      rw [List.forall_mem_append, List.forall_mem_singleton]
      exact ⟨kept, stays⟩

theorem Since.append (since : Since opens closes labels) {later : List Label}
    (kept : ∀ event ∈ later, ¬ closes event) : Since opens closes (labels ++ later) := by
  obtain ⟨before, event, after, rfl, opened, earlier⟩ := since
  refine ⟨before, event, after ++ later, by simp, opened, ?_⟩
  rw [List.forall_mem_append]
  exact ⟨earlier, kept⟩

end Bbsim.Foundation
