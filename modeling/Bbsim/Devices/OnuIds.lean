import Bbsim.Devices.PonSite

/-! The table of ONU ids. VOLTHA chooses the id of an ONU and `ActivateOnu` sets it before the ONU's
state machine is asked. The table is written when an ONU is enabled, unless the id is taken, and an
entry is removed under the id the ONU has at its cleanup. -/

namespace Bbsim.Devices

open Foundation

/-- The entry the table should have for an ONU. -/
def Onu.Holds (onu : Onu) (id : UInt32) (serialNumber : SerialRef) : Prop :=
  onu.pastEnable = true ∧ onu.id = id ∧ onu.serialNumber = serialNumber

/-- An ONU is enabled under an id that is not taken, its id does not change once it is enabled, and
its cleanup finds no other ONU under its id. -/
def PonChange.KeepsIds (attached : AttachedOnu) : PonChange → Prop
  | .enable id => attached.resources.isOnuIdAllocated id = none
  | .rename id => attached.onu.pastEnable = true → id = attached.onu.id
  | .cleanup =>
    attached.onu.pastEnable = true ∨ attached.resources.isOnuIdAllocated attached.onu.id = none
  | _ => True

instance (attached : AttachedOnu) (change : PonChange) : Decidable (change.KeepsIds attached) := by
  unfold PonChange.KeepsIds
  split <;> infer_instance

namespace PonSite

def Held (site : PonSite) (id : UInt32) (serialNumber : SerialRef) : Prop :=
  ∃ onu ∈ site.onus, onu.Holds id serialNumber

def IdsExact (site : PonSite) : Prop := site.resources.allocatedOnuIds.Represents site.Held

/-- The table is cleared only when no ONU should be in it. -/
def KeepsIds : PonSite → PonStep → Prop :=
  Allows (fun attached change => change.KeepsIds attached)
    fun site => ∀ onu ∈ site.onus, onu.pastEnable = false

instance (site : PonSite) (label : PonStep) : Decidable (site.KeepsIds label) :=
  inferInstanceAs (Decidable (Allows _ _ site label))

variable {site next : PonSite} {index : Nat} {attached after : AttachedOnu}
  {id : UInt32} {serialNumber : SerialRef}

section

variable (distinct : site.Distinct) (here : site.onus[index]? = some attached.onu)
include distinct here

/-- The ONU at one place and the others. -/
theorem held_iff :
    site.Held id serialNumber ↔
      (site.Held id serialNumber ∧ serialNumber ≠ attached.onu.serialNumber) ∨
        attached.onu.Holds id serialNumber := by
  constructor
  · rintro ⟨onu, member, holds⟩
    by_cases same : serialNumber = attached.onu.serialNumber
    · obtain ⟨other, there⟩ := List.mem_iff_getElem?.mp member
      obtain rfl := distinct.index_unique here there (holds.2.2.trans same)
      obtain rfl := Option.some.inj (here.symm.trans there)
      exact .inr holds
    · exact .inl ⟨⟨onu, member, holds⟩, same⟩
  · rintro (⟨held, -⟩ | holds)
    · exact held
    · exact ⟨attached.onu, List.mem_of_getElem? here, holds⟩

theorem held_put :
    (site.put index after).Held id serialNumber ↔
      (site.Held id serialNumber ∧ serialNumber ≠ attached.onu.serialNumber) ∨
        after.onu.Holds id serialNumber := by
  have inside := (List.getElem?_eq_some_iff.mp here).1
  constructor
  · rintro ⟨onu, member, holds⟩
    by_cases same : serialNumber = attached.onu.serialNumber
    · -- the ONU with this serial number is the one put there
      right
      obtain ⟨other, there⟩ := List.mem_iff_getElem?.mp member
      rw [put_onus, List.getElem?_set, if_pos inside] at there
      split at there
      · rwa [Option.some.inj there]
      · next elsewhere =>
        have moved := distinct.index_unique here there (holds.2.2.trans same)
        exact absurd moved.symm elsewhere
    · rcases List.mem_or_eq_of_mem_set member with old | rfl
      · exact .inl ⟨⟨onu, old, holds⟩, same⟩
      · exact .inr holds
  · rintro (⟨⟨onu, member, holds⟩, other⟩ | holds)
    · obtain ⟨place, there⟩ := List.mem_iff_getElem?.mp member
      refine ⟨onu, List.mem_iff_getElem?.mpr ⟨place, ?_⟩, holds⟩
      rw [put_onus, List.getElem?_set_ne, there]
      rintro rfl
      obtain rfl := Option.some.inj (here.symm.trans there)
      exact other holds.2.2.symm
    · exact ⟨after.onu, List.mem_set inside _, holds⟩

/-- A step that leaves the table as it is, and what it should have for the ONU. -/
theorem idsExact_of_same
    (same : ∀ id serialNumber, after.onu.Holds id serialNumber ↔ attached.onu.Holds id serialNumber)
    (table : after.resources.allocatedOnuIds = site.resources.allocatedOnuIds)
    (exact : site.IdsExact) : (site.put index after).IdsExact := by
  intro id serialNumber
  rw [put_resources, table, exact id serialNumber, held_put distinct here, same]
  exact held_iff distinct here

/-- Only an ONU past its enabling is held under its serial number. -/
theorem not_held_of_not_past (before : attached.onu.pastEnable = false) :
    ¬site.Held id attached.onu.serialNumber := by
  intro held
  rcases (held_iff distinct here).mp held with ⟨-, other⟩ | ⟨past, -⟩
  · exact other rfl
  · simp [before] at past

theorem idsExact_enable_iff (shared : attached.resources = site.resources) (exact : site.IdsExact)
    (before : attached.onu.pastEnable = false) (moved : Moved attached (.enable id) after) :
    (site.put index after).IdsExact ↔ attached.resources.isOnuIdAllocated id = none := by
  have heldAfter : ∀ other serial, (site.put index after).Held other serial ↔
      site.Held other serial ∨ (other = id ∧ serial = attached.onu.serialNumber) := by
    intro other serial
    rw [held_put distinct here, Onu.Holds, moved.pastEnable, moved.id, moved.serialNumber]
    by_cases same : serial = attached.onu.serialNumber
    · subst same
      simp [not_held_of_not_past distinct here before, PonChange.pastEnable, PonChange.id, eq_comm]
    · simp [same, Ne.symm same]
  have table : (site.put index after).resources.allocatedOnuIds = _ := moved.onuIds
  rw [IdsExact, FiniteMap.represents_congr heldAfter, table, PonChange.onuIds,
    PonResources.claimOnuId]
  cases taken : attached.resources.isOnuIdAllocated id with
  | none =>
    simp only [iff_true]
    exact FiniteMap.Represents.insert (shared ▸ exact) taken
  | some holder =>
    simp only [reduceCtorEq, iff_false]
    intro represents
    have entry := (represents id attached.onu.serialNumber).mpr (.inr ⟨rfl, rfl⟩)
    obtain rfl := Option.some.inj (taken.symm.trans entry)
    rw [PonResources.isOnuIdAllocated, shared] at taken
    exact not_held_of_not_past distinct here before ((exact id _).mp taken)

theorem idsExact_cleanup_iff (shared : attached.resources = site.resources)
    (exact : site.IdsExact) (moved : Moved attached .cleanup after) :
    (site.put index after).IdsExact ↔ attached.onu.pastEnable = true ∨
      attached.resources.isOnuIdAllocated attached.onu.id = none := by
  have heldAfter : ∀ other serial, (site.put index after).Held other serial ↔
      site.Held other serial ∧
        ¬(other = attached.onu.id ∧ serial = attached.onu.serialNumber) := by
    intro other serial
    have gone : ¬after.onu.Holds other serial := by
      rw [Onu.Holds, moved.pastEnable]
      simp [PonChange.pastEnable]
    rw [held_put distinct here]
    constructor
    · rintro (⟨held, different⟩ | holds)
      · exact ⟨held, fun same => different same.2⟩
      · exact absurd holds gone
    · rintro ⟨held, different⟩
      rcases (held_iff distinct here).mp held with kept | ⟨-, sameId, sameSerial⟩
      · exact .inl kept
      · exact absurd ⟨sameId.symm, sameSerial.symm⟩ different
  have table : (site.put index after).resources.allocatedOnuIds = _ := moved.onuIds
  rw [IdsExact, FiniteMap.represents_congr heldAfter, table, PonChange.onuIds,
    PonResources.removeOnuId, shared]
  rw [FiniteMap.Represents.erase_iff exact]
  cases past : attached.onu.pastEnable with
  | true =>
    have own : site.Held attached.onu.id attached.onu.serialNumber :=
      (held_iff distinct here).mpr (.inr ⟨past, rfl, rfl⟩)
    simp only [true_or, iff_true]
    intro serial held
    exact Option.some.inj (((exact _ serial).mpr held).symm.trans ((exact _ _).mpr own))
  | false =>
    simp only [Bool.false_eq_true, false_or, PonResources.isOnuIdAllocated,
      Option.eq_none_iff_forall_ne_some]
    constructor
    · intro only serial entry
      have held := (exact _ serial).mp entry
      rw [only serial held] at held
      exact not_held_of_not_past distinct here past held
    · intro free serial held
      exact absurd ((exact _ serial).mpr held) (free serial)

theorem idsExact_rename_iff (shared : attached.resources = site.resources) (exact : site.IdsExact)
    (moved : Moved attached (.rename id) after) :
    (site.put index after).IdsExact ↔ (attached.onu.pastEnable = true → id = attached.onu.id) := by
  have past : after.onu.pastEnable = attached.onu.pastEnable := moved.pastEnable
  have renamed : after.onu.id = id := moved.id
  have table : after.resources.allocatedOnuIds = site.resources.allocatedOnuIds := by
    rw [moved.onuIds, ← shared]
    rfl
  constructor
  · intro exactAfter enabled
    have own : site.Held attached.onu.id attached.onu.serialNumber :=
      (held_iff distinct here).mpr (.inr ⟨enabled, rfl, rfl⟩)
    have entry := (exact _ _).mpr own
    rw [← table] at entry
    rcases (held_put distinct here).mp ((exactAfter _ _).mp entry) with ⟨-, other⟩ | holds
    · exact absurd rfl other
    · exact renamed.symm.trans holds.2.1
  · intro keeps
    refine idsExact_of_same distinct here (fun other serial => ?_) table exact
    rw [Onu.Holds, Onu.Holds, past, renamed, moved.serialNumber]
    cases enabled : attached.onu.pastEnable with
    | true => rw [keeps enabled]
    | false => simp

/-- A step of an ONU keeps the table exact if and only if it meets the condition. -/
theorem idsExact_put_iff (shared : attached.resources = site.resources) (exact : site.IdsExact)
    {change : PonChange} (enabling : ∀ id, change = .enable id → attached.onu.pastEnable = false)
    (moved : Moved attached change after) :
    (site.put index after).IdsExact ↔ change.KeepsIds attached := by
  cases change with
  | enable id => exact idsExact_enable_iff distinct here shared exact (enabling id rfl) moved
  | rename id => exact idsExact_rename_iff distinct here shared exact moved
  | cleanup => exact idsExact_cleanup_iff distinct here shared exact moved
  | nothing | resetMib | storeAllocId | removeAllocId =>
    have past : after.onu.pastEnable = attached.onu.pastEnable := moved.pastEnable
    have sameId : after.onu.id = attached.onu.id := moved.id
    have table : after.resources.allocatedOnuIds = site.resources.allocatedOnuIds := by
      rw [moved.onuIds, ← shared]
      rfl
    simp only [PonChange.KeepsIds, iff_true]
    refine idsExact_of_same distinct here (fun id serial => ?_) table exact
    rw [Onu.Holds, Onu.Holds, past, sameId, moved.serialNumber]

end

theorem idsExact_clear_iff :
    ({ site with resources := site.resources.removeAll } : PonSite).IdsExact ↔
      ∀ onu ∈ site.onus, onu.pastEnable = false := by
  constructor
  · intro exact onu member
    by_contra past
    have held : site.Held onu.id onu.serialNumber :=
      ⟨onu, member, Bool.of_not_eq_false past, rfl, rfl⟩
    have entry := (exact _ _).mpr held
    simp [PonResources.removeAll, PonResources.empty] at entry
  · rintro before id serialNumber
    constructor
    · intro entry
      simp [PonResources.removeAll, PonResources.empty] at entry
    · rintro ⟨onu, member, past, -⟩
      simp [before onu member] at past

theorem step_idsExact_iff (distinct : site.Distinct) (exact : site.IdsExact) {label : PonStep}
    (taken : site.step label = some next) : next.IdsExact ↔ site.KeepsIds label := by
  refine step_iff (fun index action attached after found moved => ?_) idsExact_clear_iff taken
  obtain ⟨here, shared⟩ := attachedAt_eq_some found
  exact idsExact_put_iff distinct here shared exact
    (fun id => AttachedOnu.not_pastEnable_of_change) moved

private theorem idsExact_create (ponPortId : UInt32) (configs : List OnuConfig) :
    (create ponPortId configs).IdsExact := by
  intro id serialNumber
  constructor
  · intro entry
    simp [create, PonResources.empty] at entry
  · rintro ⟨onu, member, past, -⟩
    obtain ⟨index, inside, rfl⟩ := List.mem_mapIdx.mp member
    cases past

/-- The table of ONU ids is exact throughout a run if and only if every step of the run meets the
condition. -/
theorem onuIds_exact_iff {ponPortId : UInt32} {configs : List OnuConfig}
    {history : List (PonSite × PonStep)} {final : PonSite}
    (run : Run step (create ponPortId configs) history final) :
    Meets (fun site _ => site.IdsExact) history ∧ final.IdsExact ↔ Meets KeepsIds history := by
  apply run.throughout_iff ⟨distinct_create ponPortId configs, idsExact_create ponPortId configs⟩
  · exact fun site label next distinct taken => step_distinct distinct taken
  · exact fun site label next distinct exact taken => step_idsExact_iff distinct exact taken

/-- An ONU comes up and is activated under this id. -/
def activating (index : Nat) (id : UInt32) : List PonStep :=
  [.onu index 0 (.event .init), .onu index 0 (.event .discover), .onu index 0 (.activate id)]

theorem onuIds_exact_iff_shutdown :
    ∃ history final, Run step (create 0 twoOnus) history final ∧ Meets KeepsIds history ∧
      final.resources.isOnuIdAllocated 2 = some 1 ∧ final.resources.isOnuIdAllocated 1 = none ∧
      final.IdsExact := by
  obtain ⟨history, final, run, meets, second, first⟩ :=
    run_of_guarded_replay KeepsIds step
      (create 0 twoOnus) (activating 0 1 ++ activating 1 2 ++ ([.onu 0 0 .shutdown] : List PonStep))
      (fun site => site.resources.isOnuIdAllocated 2 = some 1 ∧
        site.resources.isOnuIdAllocated 1 = none) (by decide +kernel)
  exact ⟨history, final, run, meets, second, first, ((onuIds_exact_iff run).mpr meets).2⟩

/-- Two ONUs are activated under one id: both are enabled, and the table has the first. -/
theorem duplicate_id_enabled :
    ∃ history final, Run step (create 0 twoOnus) history final ∧ ¬final.IdsExact := by
  obtain ⟨history, final, run, entry, onu, member, enabled, id, serialNumber⟩ :=
    run_of_replay step (create 0 twoOnus) (activating 0 1 ++ activating 1 1)
      (fun site => site.resources.isOnuIdAllocated 1 = some 0 ∧
        ∃ onu ∈ site.onus, onu.pastEnable = true ∧ onu.id = 1 ∧ onu.serialNumber = 1)
      (by decide +kernel)
  refine ⟨history, final, run, fun exact => ?_⟩
  have second := (exact 1 1).mpr ⟨onu, member, enabled, id, serialNumber⟩
  exact absurd (entry.symm.trans second) (by decide)

end PonSite

end Bbsim.Devices
