import Bbsim.Devices.PonSite

/-! The table of alloc ids. A Set of a T-CONT stores its alloc id under PON, ONU and entity.
`handleOmciRequest` refuses it where that key is taken, and does not look at the alloc ids stored
under other keys. -/

namespace Bbsim.Devices

open Foundation

/-- Entries with the same alloc id belong to the same ONU. -/
def AllocIdVal.Compatible (left right : AllocIdVal) : Prop :=
  left.allocId = right.allocId → left.onuSn = right.onuSn

namespace AttachedOnu

/-- Another ONU has the alloc id. -/
def Collides (attached : AttachedOnu) (allocId : UInt16) : Prop :=
  ∃ key value, attached.resources.allocatedAllocIds.lookup key = some value ∧
    value.allocId = allocId ∧ value.onuSn ≠ attached.onu.serialNumber

end AttachedOnu

/-- A Set that is stored brings an alloc id that no other ONU has. -/
def PonChange.KeepsAllocIds (attached : AttachedOnu) : PonChange → Prop
  | .storeAllocId _ allocId => ∀ entry ∈ attached.resources.allocatedAllocIds.entries,
      entry.2.Compatible ⟨attached.onu.serialNumber, allocId⟩
  | _ => True

instance (left right : AllocIdVal) : Decidable (left.Compatible right) := by
  unfold AllocIdVal.Compatible
  infer_instance

instance (attached : AttachedOnu) (change : PonChange) :
    Decidable (change.KeepsAllocIds attached) := by
  unfold PonChange.KeepsAllocIds
  split <;> infer_instance

namespace AttachedOnu

variable {attached : AttachedOnu} {entity allocId : UInt16}

theorem keepsAllocIds_storeAllocId_iff :
    (PonChange.storeAllocId entity allocId).KeepsAllocIds attached ↔
      ∀ key value, attached.resources.allocatedAllocIds.lookup key = some value →
        value.Compatible ⟨attached.onu.serialNumber, allocId⟩ := by
  constructor
  · intro keeps key value found
    exact keeps ⟨key, value⟩ (AList.mem_lookup_iff.mp found)
  · intro keeps entry member
    exact keeps entry.1 entry.2 (AList.mem_lookup_iff.mpr member)

theorem collides_iff :
    attached.Collides allocId ↔
      ¬(PonChange.storeAllocId entity allocId).KeepsAllocIds attached := by
  rw [keepsAllocIds_storeAllocId_iff]
  simp only [Collides, AllocIdVal.Compatible]
  push Not
  rfl

/-- A Set with an alloc id of another ONU is refused if and only if it meets the condition. -/
theorem setTCont_refused_iff (collides : attached.Collides allocId)
    (stored : ¬(allocId = 255 ∨ allocId = 65535)) :
    attached.setTCont entity allocId = (attached, .attributeFailure) ↔
      (attached.omciChange (.setTCont entity allocId)).KeepsAllocIds attached := by
  simp only [setTCont, omciChange, if_neg stored]
  cases attached.resources.isAllocIdAllocated attached.onu.ponPortId attached.onu.id entity with
  | some _ => simp [PonChange.KeepsAllocIds]
  | none =>
    have broken : ¬(PonChange.storeAllocId entity allocId).KeepsAllocIds attached :=
      collides_iff.mp collides
    simp [broken]

end AttachedOnu

namespace PonSite

def AllocIdsUnique (site : PonSite) : Prop :=
  site.resources.allocatedAllocIds.Consistent AllocIdVal.Compatible

def KeepsAllocIds : PonSite → PonStep → Prop :=
  Allows (fun attached change => change.KeepsAllocIds attached) fun _ => True

instance (site : PonSite) (label : PonStep) : Decidable (site.KeepsAllocIds label) :=
  inferInstanceAs (Decidable (Allows _ _ site label))

variable {site next : PonSite}

private theorem lookup_removeAllocIdsForOnuSn {resources : PonResources} {onuSn : SerialRef}
    {key : AllocIdKey} {value : AllocIdVal}
    (found : (resources.removeAllocIdsForOnuSn onuSn).allocatedAllocIds.lookup key = some value) :
    resources.allocatedAllocIds.lookup key = some value := by
  rw [PonResources.removeAllocIdsForOnuSn, FiniteMap.lookup_filterMap] at found
  obtain ⟨stored, present, kept⟩ := Option.bind_eq_some_iff.mp found
  split at kept
  · cases kept
  · rwa [← Option.some.inj kept]

/-- An action keeps the alloc ids unique if and only if it meets the condition. -/
theorem allocIds_after_iff {attached : AttachedOnu} {change : PonChange}
    (unique : attached.resources.allocatedAllocIds.Consistent AllocIdVal.Compatible)
    (free : ∀ entity allocId, change = .storeAllocId entity allocId →
      attached.resources.isAllocIdAllocated attached.onu.ponPortId attached.onu.id entity = none) :
    (change.allocIds attached).Consistent AllocIdVal.Compatible ↔ change.KeepsAllocIds attached := by
  cases change with
  | nothing | enable | rename => exact iff_of_true unique trivial
  | cleanup | resetMib =>
    exact iff_of_true (unique.of_subset fun key value => lookup_removeAllocIdsForOnuSn) trivial
  | removeAllocId entity =>
    refine iff_of_true (unique.of_subset fun key value found => ?_) trivial
    rw [PonChange.allocIds, PonResources.removeAllocId, FiniteMap.lookup_erase_eq] at found
    split at found
    · cases found
    · exact found
  | storeAllocId entity allocId =>
    rw [AttachedOnu.keepsAllocIds_storeAllocId_iff]
    exact unique.insert_iff (free entity allocId rfl) (fun _ _ => rfl)
      (fun _ _ compatible same => (compatible same.symm).symm)

theorem step_allocIdsUnique_iff (unique : site.AllocIdsUnique) {label : PonStep}
    (taken : site.step label = some next) : next.AllocIdsUnique ↔ site.KeepsAllocIds label := by
  refine step_iff (fun index action attached after found moved => ?_) ?_ taken
  · obtain ⟨-, shared⟩ := attachedAt_eq_some found
    rw [AllocIdsUnique, put_resources, moved.allocIds]
    exact allocIds_after_iff (shared ▸ unique) fun entity allocId => AttachedOnu.free_of_change
  · refine iff_of_true ?_ trivial
    intro first second left right here
    simp [PonResources.removeAll, PonResources.empty] at here

/-- The alloc ids are unique throughout a run if and only if every step of the run meets the
condition. In any state it reaches, a Set with an alloc id of another ONU is refused, and changes
nothing, if and only if it meets the condition. -/
theorem allocIds_unique_iff {ponPortId : UInt32} {configs : List OnuConfig}
    {history : List (PonSite × PonStep)} {final : PonSite}
    (run : Run step (create ponPortId configs) history final) :
    (Meets (fun site _ => site.AllocIdsUnique) history ∧ final.AllocIdsUnique ↔
      Meets KeepsAllocIds history) ∧
    ∀ index attached, final.attachedAt index = some attached → ∀ entity allocId,
      attached.Collides allocId → ¬(allocId = 255 ∨ allocId = 65535) →
      (attached.setTCont entity allocId = (attached, .attributeFailure) ↔
        (attached.omciChange (.setTCont entity allocId)).KeepsAllocIds attached) := by
  have empty : (create ponPortId configs).AllocIdsUnique := by
    intro first second left right here
    simp [create, PonResources.empty] at here
  constructor
  · apply run.throughout_iff ⟨distinct_create ponPortId configs, empty⟩
    · exact fun site label next distinct taken => step_distinct distinct taken
    · exact fun site label next _ unique taken => step_allocIdsUnique_iff unique taken
  · exact fun index attached _ entity allocId => AttachedOnu.setTCont_refused_iff

/-- An ONU is enabled, and its loop handles the Set after the two indications. -/
def setting (index : Nat) (id : UInt32) (entity allocId : UInt16) : List PonStep :=
  [.event .init, .event .discover, .activate id, .omciMsgOut (.setTCont entity allocId),
    .select 0, .receive 0, .select 0, .receive 0, .select 0, .receive 0].map (PonStep.onu index 0)

theorem allocIds_unique_iff_apart :
    ∃ history final, Run step (create 0 twoOnus) history final ∧ Meets KeepsAllocIds history ∧
      (final.resources.isAllocIdAllocated 0 1 32769).isSome = true ∧
      (final.resources.isAllocIdAllocated 0 2 32769).isSome = true ∧ final.AllocIdsUnique := by
  obtain ⟨history, final, run, meets, first, second⟩ :=
    run_of_guarded_replay KeepsAllocIds step (create 0 twoOnus)
      (setting 0 1 32769 1024 ++ setting 1 2 32769 1025)
      (fun site => (site.resources.isAllocIdAllocated 0 1 32769).isSome = true ∧
        (site.resources.isAllocIdAllocated 0 2 32769).isSome = true) (by decide +kernel)
  exact ⟨history, final, run, meets, first, second, ((allocIds_unique_iff run).1.mpr meets).2⟩

/-- Two ONUs of a PON set their T-CONT to one alloc id, and both are stored. -/
theorem allocId_set_twice :
    ∃ history final, Run step (create 0 twoOnus) history final ∧ ¬final.AllocIdsUnique := by
  obtain ⟨history, final, run, first, second⟩ :=
    run_of_replay step (create 0 twoOnus) (setting 0 1 32769 1024 ++ setting 1 2 32769 1024)
      (fun site => site.resources.isAllocIdAllocated 0 1 32769 = some ⟨0, 1024⟩ ∧
        site.resources.isAllocIdAllocated 0 2 32769 = some ⟨1, 1024⟩) (by decide +kernel)
  refine ⟨history, final, run, fun unique => ?_⟩
  exact absurd (unique _ _ _ _ first second rfl) (by decide)

end PonSite

end Bbsim.Devices
