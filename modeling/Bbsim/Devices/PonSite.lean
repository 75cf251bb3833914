import Bbsim.Foundation.Run
import Bbsim.Devices.PonChanges

/-! The ONUs of a PON. The ONUs of one PON act in any order on the resources they share. A step is
one action of one ONU, or the clearing of the resources when the OLT is deleted. -/

namespace Bbsim.Devices

open Foundation

/-- What `CreateONU` is given for one ONU. -/
structure OnuConfig where
  vendorSpecific : List UInt8
  uniPorts : List UniPort
  potsPorts : List PotsPort
  omciResponseRate : UInt8

structure PonSite where
  onus : List Onu
  resources : PonResources

inductive PonStep where
  | onu (index context : Nat) (action : OnuAction)
  | clearAllResources

namespace PonSite

/-- The ONUs get the ids from 1 on, and a serial number each. -/
def create (ponPortId : UInt32) (configs : List OnuConfig) : PonSite where
  onus := configs.mapIdx fun index config =>
    Onu.create (index + 1).toUInt32 ponPortId index config.vendorSpecific config.uniPorts
      config.potsPorts config.omciResponseRate
  resources := .empty

def attachedAt (site : PonSite) (index : Nat) : Option AttachedOnu :=
  site.onus[index]?.map (AttachedOnu.mk · site.resources)

@[simps] def put (site : PonSite) (index : Nat) (attached : AttachedOnu) : PonSite :=
  ⟨site.onus.set index attached.onu, attached.resources⟩

/-- The resources are only changed by the ONUs themselves. -/
def step (site : PonSite) : PonStep → Option PonSite
  | .onu _ _ (.others _) => none
  | .onu index context action =>
    (site.attachedAt index).bind fun attached =>
      (attached.perform context action).toOption.map (site.put index)
  | .clearAllResources => some { site with resources := site.resources.removeAll }

variable {site next : PonSite} {index context : Nat} {action : OnuAction}

/-- A step of an ONU changes on the PON what the action changes. -/
theorem step_onu (taken : site.step (.onu index context action) = some next) :
    ∃ attached after, site.attachedAt index = some attached ∧
      Moved attached (attached.change action) after ∧ next = site.put index after := by
  have own : ∀ resources, action ≠ .others resources := by
    rintro resources rfl
    cases taken
  have acted : ((site.attachedAt index).bind fun attached =>
      (attached.perform context action).toOption.map (site.put index)) = some next := by
    cases action with
    | others resources => exact absurd rfl (own resources)
    | _ => exact taken
  obtain ⟨attached, found, moved⟩ := Option.bind_eq_some_iff.mp acted
  obtain ⟨after, returned, rfl⟩ := Option.map_eq_some_iff.mp moved
  exact ⟨attached, after, found,
    (AttachedOnu.ensures_perform_change own).value (eq_ok_of_toOption returned), rfl⟩

theorem attachedAt_eq_some {attached : AttachedOnu} (found : site.attachedAt index = some attached) :
    site.onus[index]? = some attached.onu ∧ attached.resources = site.resources := by
  obtain ⟨onu, present, rfl⟩ := Option.map_eq_some_iff.mp found
  exact ⟨present, rfl⟩

/-- The condition that the change of every action meets one predicate, and every clearing finds
another. -/
def Allows (condition : AttachedOnu → PonChange → Prop) (clearing : PonSite → Prop) (site : PonSite) :
    PonStep → Prop
  | .onu index _ action =>
    ∀ attached ∈ site.attachedAt index, condition attached (attached.change action)
  | .clearAllResources => clearing site

instance (condition : AttachedOnu → PonChange → Prop) (clearing : PonSite → Prop)
    [∀ attached change, Decidable (condition attached change)] [DecidablePred clearing]
    (site : PonSite) (label : PonStep) : Decidable (site.Allows condition clearing label) := by
  unfold Allows
  split <;> infer_instance

/-- A property that actions and clearings keep exactly under their conditions. -/
theorem step_iff {holds : PonSite → Prop} {condition : AttachedOnu → PonChange → Prop}
    {clearing : PonSite → Prop} {label : PonStep}
    (acting : ∀ index action attached after, site.attachedAt index = some attached →
      Moved attached (attached.change action) after →
      (holds (site.put index after) ↔ condition attached (attached.change action)))
    (cleared : holds { site with resources := site.resources.removeAll } ↔ clearing site)
    (taken : site.step label = some next) :
    holds next ↔ site.Allows condition clearing label := by
  cases label with
  | clearAllResources =>
    obtain rfl := Option.some.inj taken
    exact cleared
  | onu index context action =>
    obtain ⟨attached, after, found, moved, rfl⟩ := step_onu taken
    rw [acting index action attached after found moved, Allows, found]
    simp

def Distinct (site : PonSite) : Prop := (site.onus.map Onu.serialNumber).Nodup

theorem distinct_create (ponPortId : UInt32) (configs : List OnuConfig) :
    (create ponPortId configs).Distinct := by
  have serials : (create ponPortId configs).onus.map Onu.serialNumber =
      List.range configs.length := by
    apply List.ext_getElem
    · simp [create]
    · intro position _ _
      simp [create, Onu.create]
  rw [Distinct, serials]
  exact List.nodup_range

theorem step_distinct (distinct : site.Distinct) {label : PonStep}
    (taken : site.step label = some next) : next.Distinct := by
  cases label with
  | clearAllResources =>
    obtain rfl := Option.some.inj taken
    exact distinct
  | onu index context action =>
    obtain ⟨attached, after, found, moved, rfl⟩ := step_onu taken
    obtain ⟨present, -⟩ := attachedAt_eq_some found
    obtain ⟨inside, here⟩ := List.getElem?_eq_some_iff.mp present
    have serials : (site.onus.set index after.onu).map Onu.serialNumber =
        site.onus.map Onu.serialNumber := by
      rw [List.map_set, moved.serialNumber, ← here]
      have mapped : index < (site.onus.map Onu.serialNumber).length := by simpa using inside
      simpa using List.set_getElem_self mapped
    rw [Distinct, put_onus, serials]
    exact distinct

theorem Distinct.index_unique (distinct : site.Distinct) {other : Nat} {onu twin : Onu}
    (here : site.onus[index]? = some onu) (there : site.onus[other]? = some twin)
    (same : twin.serialNumber = onu.serialNumber) : other = index := by
  have inside : other < (site.onus.map Onu.serialNumber).length := by
    simpa using (List.getElem?_eq_some_iff.mp there).1
  apply (List.getElem?_inj inside distinct).mp
  rw [List.getElem?_map, List.getElem?_map, here, there, Option.map_some, Option.map_some, same]

/-- Two ONUs without ports. -/
def twoOnus : List OnuConfig := List.replicate 2 ⟨[], [], [], 10⟩

end PonSite

end Bbsim.Devices
