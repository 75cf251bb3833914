import Bbsim.Foundation.GrantLog
import Bbsim.Foundation.Run
import Bbsim.Devices.OnuMessages

/-! GEM port requests at the granularity of the PON's lock. Every ONU handles its OMCI requests in a
loop of its own, so that those of different ONUs interleave. `isGemPortAllocated`, `storeGemPort`,
`removeGemPort` and `removeGemPortBySn` take the lock each for itself; a Create checks in one
section and stores in another. -/

namespace Bbsim.Devices

open Foundation GrantLog

/-- A request as an ONU with this serial number handles it. -/
inductive GemRequest where
  | create (gemPortId : UInt16) (onuSn : SerialRef)
  | delete (gemPortId : UInt16)
  | mibReset (onuSn : SerialRef)
deriving DecidableEq

/-- The section of the lock a request takes next. -/
inductive GemCall where
  | check (gemPortId : UInt16) (onuSn : SerialRef)
  | store (gemPortId : UInt16) (onuSn : SerialRef)
  | remove (gemPortId : UInt16)
  | removeBySn (onuSn : SerialRef)
  | answered (result : OmciResult)
deriving DecidableEq

/-- The id a section stores. -/
def GemCall.stored : GemCall → Option UInt16
  | .store gemPortId _ => some gemPortId
  | _ => none

/-- A Create of the multicast GEM port never takes the lock. -/
def GemRequest.entry : GemRequest → GemCall
  | .create gemPortId onuSn =>
    if gemPortId = 4069 then .answered .success else .check gemPortId onuSn
  | .delete gemPortId => .remove gemPortId
  | .mibReset onuSn => .removeBySn onuSn

/-- The table with the requests in progress, and the log of ids granted by a successful Create and of
ids freed. -/
structure GemPortSite where
  resources : PonResources
  calls : List GemCall
  log : List (GrantEvent UInt16 SerialRef)

inductive GemStep where
  | start (request : GemRequest)
  | advance (caller : Nat)
deriving DecidableEq

namespace GemPortSite

/-- Before the first request. -/
def idle (resources : PonResources) : GemPortSite := ⟨resources, [], []⟩

/-- The ids that were in the table and are not any more. -/
def freedIds (before after : PonResources) : List UInt16 :=
  before.allocatedGemPorts.keys.filter fun gemPortId => (after.isGemPortAllocated gemPortId).isNone

def proceed (site : GemPortSite) (caller : Nat) (call : GemCall) : GemPortSite :=
  { site with calls := site.calls.set caller call }

/-- A section that takes ids out of the table, and the request is answered. -/
def release (site : GemPortSite) (caller : Nat) (resources : PonResources) : GemPortSite :=
  { site.proceed caller (.answered .success) with
    resources := resources
    log := (freedIds site.resources resources).map .freed ++ site.log }

def lockSection (site : GemPortSite) (caller : Nat) : GemCall → Option GemPortSite
  | .check gemPortId onuSn =>
    some (site.proceed caller (match site.resources.isGemPortAllocated gemPortId with
      | some _ => .answered .processingError
      | none => .store gemPortId onuSn))
  | .store gemPortId onuSn =>
    some { site.proceed caller (.answered .success) with
      resources := site.resources.storeGemPort gemPortId onuSn
      log := .granted gemPortId onuSn :: site.log }
  | .remove gemPortId => some (site.release caller (site.resources.removeGemPort gemPortId))
  | .removeBySn onuSn => some (site.release caller (site.resources.removeGemPortBySn onuSn))
  | .answered _ => none

def step (site : GemPortSite) : GemStep → Option GemPortSite
  | .start request => some { site with calls := site.calls ++ [request.entry] }
  | .advance caller => site.calls[caller]?.bind (site.lockSection caller)

/-- A held id is in the table, and an id that came into the table after a Create's check is held. -/
structure Sound (site : GemPortSite) : Prop where
  held : ∀ gemPortId, Held site.log gemPortId →
    (site.resources.isGemPortAllocated gemPortId).isSome
  stored : ∀ gemPortId onuSn, .store gemPortId onuSn ∈ site.calls →
    (site.resources.isGemPortAllocated gemPortId).isSome → Held site.log gemPortId

private theorem sound_idle (resources : PonResources) : (idle resources).Sound where
  held := fun _ held => absurd held not_held_nil
  stored := by simp [idle]

variable {site next : GemPortSite} {caller : Nat} {call : GemCall}

theorem Sound.of_calls (sound : site.Sound) {calls : List GemCall}
    (old : ∀ gemPortId onuSn, .store gemPortId onuSn ∈ calls →
      .store gemPortId onuSn ∈ site.calls ∨
        site.resources.isGemPortAllocated gemPortId = none) :
    { site with calls := calls : GemPortSite }.Sound where
  held := sound.held
  stored := by
    intro gemPortId onuSn listed allocated
    rcases old gemPortId onuSn listed with before | free
    · exact sound.stored gemPortId onuSn before allocated
    · simp [free] at allocated

variable {gemPortId : UInt16}

private theorem mem_freedIds {before after : PonResources} :
    gemPortId ∈ freedIds before after ↔
      (before.isGemPortAllocated gemPortId).isSome ∧
        after.isGemPortAllocated gemPortId = none := by
  simp [freedIds, PonResources.isGemPortAllocated, AList.lookup_isSome, AList.mem_keys]

variable {resources : PonResources}

theorem Sound.release (sound : site.Sound)
    (shrinks : ∀ gemPortId, (resources.isGemPortAllocated gemPortId).isSome →
      (site.resources.isGemPortAllocated gemPortId).isSome) :
    (site.release caller resources).Sound where
  held := by
    intro gemPortId held
    obtain ⟨kept, heldBefore⟩ := held_freed_all.mp held
    have allocated := sound.held gemPortId heldBefore
    cases found : resources.isGemPortAllocated gemPortId with
    | none => exact absurd (mem_freedIds.mpr ⟨allocated, found⟩) kept
    | some owner => simp [GemPortSite.release, found]
  stored := by
    intro gemPortId onuSn listed allocated
    have before : .store gemPortId onuSn ∈ site.calls := by
      rcases List.mem_or_eq_of_mem_set listed with old | same
      · exact old
      · cases same
    refine held_freed_all.mpr ⟨fun freed => ?_, sound.stored gemPortId onuSn before (shrinks _ allocated)⟩
    have allocated : (resources.isGemPortAllocated gemPortId).isSome := allocated
    simp [(mem_freedIds.mp freed).2] at allocated

theorem Sound.store (sound : site.Sound) (gemPortId : UInt16) (onuSn : SerialRef) :
    { site.proceed caller (.answered .success) with
      resources := site.resources.storeGemPort gemPortId onuSn
      log := .granted gemPortId onuSn :: site.log : GemPortSite }.Sound where
  held := by
    intro other held
    have lookup : (site.resources.storeGemPort gemPortId onuSn).isGemPortAllocated other =
        if other = gemPortId then some onuSn else site.resources.isGemPortAllocated other :=
      FiniteMap.lookup_insert_eq ..
    rw [lookup]
    split
    · rfl
    · next different =>
      rcases held_granted.mp held with same | before
      · exact absurd same different
      · exact sound.held other before
  stored := by
    intro other owner listed allocated
    have before : .store other owner ∈ site.calls := by
      rcases List.mem_or_eq_of_mem_set listed with old | same
      · exact old
      · cases same
    rw [held_granted]
    by_cases same : other = gemPortId
    · exact .inl same
    · refine .inr (sound.stored other owner before ?_)
      have lookup : (site.resources.storeGemPort gemPortId onuSn).isGemPortAllocated other =
          if other = gemPortId then some onuSn else site.resources.isGemPortAllocated other :=
        FiniteMap.lookup_insert_eq ..
      rw [lookup, if_neg same] at allocated
      exact allocated

private theorem removeGemPort_shrinks {removed gemPortId : UInt16}
    (allocated : ((resources.removeGemPort removed).isGemPortAllocated gemPortId).isSome) :
    (resources.isGemPortAllocated gemPortId).isSome := by
  rw [PonResources.isGemPortAllocated, PonResources.removeGemPort, FiniteMap.lookup_erase_eq] at allocated
  split at allocated
  · cases allocated
  · exact allocated

private theorem removeGemPortBySn_shrinks {onuSn : SerialRef}
    (allocated : ((resources.removeGemPortBySn onuSn).isGemPortAllocated gemPortId).isSome) :
    (resources.isGemPortAllocated gemPortId).isSome := by
  rw [PonResources.isGemPortAllocated, PonResources.removeGemPortBySn, FiniteMap.lookup_filterMap] at allocated
  cases found : resources.allocatedGemPorts.lookup gemPortId with
  | none => simp [found] at allocated
  | some owner => simp [PonResources.isGemPortAllocated, found]

theorem sound_lockSection (sound : site.Sound) (taken : site.lockSection caller call = some next) :
    next.Sound := by
  cases call with
  | check gemPortId onuSn =>
    obtain rfl := Option.some.inj taken
    refine sound.of_calls fun other owner listed => ?_
    rcases List.mem_or_eq_of_mem_set listed with old | same
    · exact .inl old
    · split at same
      · cases same
      · next free =>
        obtain ⟨rfl, -⟩ := GemCall.store.inj same
        exact .inr free
  | store gemPortId onuSn =>
    obtain rfl := Option.some.inj taken
    exact sound.store gemPortId onuSn
  | remove gemPortId =>
    obtain rfl := Option.some.inj taken
    exact sound.release fun _ => removeGemPort_shrinks
  | removeBySn onuSn =>
    obtain rfl := Option.some.inj taken
    exact sound.release fun _ => removeGemPortBySn_shrinks
  | answered result => cases taken

private theorem entry_ne_store (request : GemRequest) (gemPortId : UInt16) (onuSn : SerialRef) :
    request.entry ≠ .store gemPortId onuSn := by
  cases request with
  | create created owner =>
    simp only [GemRequest.entry]
    split <;> simp
  | delete removed | mibReset owner => simp [GemRequest.entry]

theorem sound_step (site : GemPortSite) (label : GemStep) (next : GemPortSite) (sound : site.Sound)
    (taken : site.step label = some next) : next.Sound := by
  cases label with
  | start request =>
    obtain rfl := Option.some.inj taken
    refine sound.of_calls fun gemPortId onuSn listed => .inl ?_
    rcases List.mem_append.mp listed with old | new
    · exact old
    · exact absurd (List.mem_singleton.mp new).symm (entry_ne_store request gemPortId onuSn)
  | advance caller =>
    obtain ⟨call, -, performed⟩ := Option.bind_eq_some_iff.mp taken
    exact sound_lockSection sound performed

/-- The id a Create is about to store is not in the table. -/
def StillFree (site : GemPortSite) : GemStep → Prop
  | .start _ => True
  | .advance caller => ∀ gemPortId ∈ site.calls[caller]?.bind GemCall.stored,
      site.resources.isGemPortAllocated gemPortId = none

theorem exclusive_step_iff (site : GemPortSite) (label : GemStep) (next : GemPortSite)
    (sound : site.Sound) (exclusive : Exclusive site.log) (taken : site.step label = some next) :
    Exclusive next.log ↔ site.StillFree label := by
  cases label with
  | start request =>
    obtain rfl := Option.some.inj taken
    simp [StillFree, exclusive]
  | advance caller =>
    obtain ⟨call, found, performed⟩ := Option.bind_eq_some_iff.mp taken
    cases call with
    | store gemPortId onuSn =>
      obtain rfl := Option.some.inj performed
      have listed : .store gemPortId onuSn ∈ site.calls := List.mem_of_getElem? found
      have heldIff : Held site.log gemPortId ↔
          (site.resources.isGemPortAllocated gemPortId).isSome :=
        ⟨sound.held gemPortId, sound.stored gemPortId onuSn listed⟩
      rw [exclusive_granted, heldIff]
      simp [StillFree, found, exclusive, GemCall.stored]
    | answered result => cases performed
    | _ =>
      obtain rfl := Option.some.inj performed
      simp [StillFree, found, exclusive, proceed, release, exclusive_freed_all, GemCall.stored]

private theorem exclusive_of_step {label : GemStep} (taken : site.step label = some next)
    (exclusive : Exclusive next.log) : Exclusive site.log := by
  cases label with
  | start request =>
    obtain rfl := Option.some.inj taken
    exact exclusive
  | advance caller =>
    obtain ⟨call, -, performed⟩ := Option.bind_eq_some_iff.mp taken
    cases call with
    | store gemPortId onuSn =>
      obtain rfl := Option.some.inj performed
      exact (exclusive_granted.mp exclusive).1
    | answered result => cases performed
    | check gemPortId onuSn =>
      obtain rfl := Option.some.inj performed
      exact exclusive
    | remove gemPortId | removeBySn onuSn =>
      obtain rfl := Option.some.inj performed
      exact exclusive_freed_all.mp exclusive

/-- A log only grows, so that it was exclusive before if it is in the end. -/
theorem exclusive_earlier {start site : GemPortSite} {history : List (GemPortSite × GemStep)}
    (run : Run step start history site) (exclusive : Exclusive site.log) :
    Meets (fun site _ => Exclusive site.log) history := by
  induction run with
  | start => exact meets_nil _
  | @snoc history before next label earlier taken ih =>
    have now : Exclusive before.log := exclusive_of_step taken exclusive
    exact meets_snoc.mpr ⟨ih now, now⟩

/-- No id is granted twice without being freed in between, exactly in the runs in which every Create
finds its id still free when it stores it. -/
theorem gemPorts_granted_once_iff {resources : PonResources} {site : GemPortSite}
    {history : List (GemPortSite × GemStep)} (run : Run step (idle resources) history site) :
    Exclusive site.log ↔ Meets StillFree history := by
  have throughout : Meets (fun site _ => Exclusive site.log) history ∧ Exclusive site.log ↔
      Meets StillFree history :=
    run.throughout_iff ⟨sound_idle resources, exclusive_nil⟩ sound_step exclusive_step_iff
  refine ⟨fun exclusive => throughout.mp ⟨exclusive_earlier run exclusive, exclusive⟩,
    fun free => (throughout.mpr free).2⟩

-- Under all of Mathlib, instance search would enumerate the ids instead.
instance (site : GemPortSite) (label : GemStep) : Decidable (site.StillFree label) :=
  match label with
  | .start _ => .isTrue trivial
  | .advance caller => Option.decidableForallMem (site.calls[caller]?.bind GemCall.stored)

/-- The second Create is checked after the first has stored. -/
def orderlyCreates : List GemStep :=
  [.start (.create 1024 1), .start (.create 1024 2), .advance 0, .advance 0, .advance 1]

theorem gemPorts_granted_once_orderly : ∃ history site,
    Run step (idle .empty) history site ∧ site.log = [.granted 1024 1] ∧ Exclusive site.log := by
  obtain ⟨history, site, run, free, granted⟩ := run_of_guarded_replay StillFree step (idle .empty)
    orderlyCreates (fun site => site.log = [.granted 1024 1]) (by decide +kernel)
  exact ⟨history, site, run, granted, (gemPorts_granted_once_iff run).mpr free⟩

/-- Both Creates are checked before either has stored. -/
def racingCreates : List GemStep :=
  [.start (.create 1024 1), .start (.create 1024 2), .advance 0, .advance 1, .advance 0, .advance 1]

theorem racing_creates_both_granted : ∃ history site, Run step (idle .empty) history site ∧
    site.calls = [.answered .success, .answered .success] ∧ ¬ Exclusive site.log := by
  obtain ⟨history, site, run, answered, log⟩ := run_of_replay step (idle .empty) racingCreates
    (fun site => site.calls = [.answered .success, .answered .success] ∧
      site.log = [.granted 1024 2, .granted 1024 1]) (by decide +kernel)
  refine ⟨history, site, run, answered, fun exclusive => ?_⟩
  have freed := exclusive [] [] [] 1024 2 1 (by rw [log]; rfl)
  cases freed

end GemPortSite

end Bbsim.Devices
