import Mathlib.Data.Option.Basic
import Bbsim.Devices.Consumers

/-! How the UNIs of an ONU change. In one step of an ONU each of its UNIs makes at most one move: it
comes up or goes down, a flow is added to it, or one of its services is changed from outside. -/

namespace Bbsim.Devices

open Foundation

inductive UniMove (uni : UniPort) : UniPort → Prop where
  | same : UniMove uni uni
  | enable {other : UniPort} (accepted : uni.enable = some other) : UniMove uni other
  | disable {other : UniPort} (accepted : uni.disable = some other) : UniMove uni other
  | flow (flow : Flow) : UniMove uni (uni.handleFlow flow)
  | respond (service : Nat) (eapolState : EapolState) (dhcpState : DhcpState)
      (groupAddresses : List String) :
      UniMove uni (uni.respond service (Service.respond eapolState dhcpState groupAddresses))

/-- Each UNI of the ONU makes at most one move. -/
def UnisMoved (onu other : Onu) : Prop :=
  ∀ index : Nat, Option.Rel UniMove onu.uniPorts[index]? other.uniPorts[index]?

variable {index : Nat}

namespace UnisMoved

variable {onu other : Onu}

private theorem rel_same (uni : Option UniPort) : Option.Rel UniMove uni uni := by
  cases uni with
  | none => exact .none
  | some uni => exact .some .same

theorem of_same (same : other.uniPorts = onu.uniPorts) : UnisMoved onu other := by
  intro index
  rw [same]
  exact rel_same _

private theorem of_set {uni changed : UniPort} (present : onu.uniPorts[index]? = some uni)
    (moved : UniMove uni changed) (set : other.uniPorts = onu.uniPorts.set index changed) :
    UnisMoved onu other := by
  intro position
  rw [set, List.getElem?_set]
  split
  · next same =>
    subst same
    obtain ⟨inside, -⟩ := List.getElem?_eq_some_iff.mp present
    rw [present, if_pos inside]
    exact .some moved
  · exact rel_same _

variable {change : UniPort → UniPort}

theorem of_modify (moved : ∀ uni, UniMove uni (change uni))
    (modified : other.uniPorts = onu.uniPorts.modify index change) : UnisMoved onu other := by
  intro position
  rw [modified, List.getElem?_modify]
  cases onu.uniPorts[position]? with
  | none => exact .none
  | some uni =>
    rw [Option.map_eq_map, Option.map_some]
    split
    · exact .some (moved uni)
    · exact .some .same

private theorem of_map (moved : ∀ uni, UniMove uni (change uni))
    (mapped : other.uniPorts = onu.uniPorts.map change) : UnisMoved onu other := by
  intro position
  rw [mapped, List.getElem?_map]
  cases onu.uniPorts[position]? with
  | none => exact .none
  | some uni => exact .some (moved uni)

end UnisMoved

theorem UniMove.disable_getD (uni : UniPort) : UniMove uni (uni.disable.getD uni) := by
  cases accepted : uni.disable with
  | none => exact .same
  | some other => exact .disable accepted

namespace Onu

variable {onu : Onu}

theorem ensures_changePort_moved {Port : Type} {changed : Option Port} {alarm : Port → Message}
    {store : Onu → Port → Onu}
    (stores : ∀ port, changed = some port → UnisMoved onu (store (onu.enqueue [alarm port]) port)) :
    Ensures (onu.changePort changed alarm store) (UnisMoved onu) := by
  refine yields_changePort.mpr ⟨fun _ => .of_same rfl, fun port found => ?_⟩
  split
  · exact stores port found
  · trivial

private theorem ensures_changeUni_moved {change : UniPort → Option UniPort}
    (moves : ∀ uni changed, change uni = some changed → UniMove uni changed)
    (raiseOmciAlarm : Bool) :
    Ensures (onu.changeUni index change raiseOmciAlarm) (UnisMoved onu) := by
  refine ensures_changePort_moved fun changed found => ?_
  obtain ⟨uni, present, accepted⟩ := Option.bind_eq_some_iff.mp found
  exact .of_set present (moves uni changed accepted) rfl

theorem ensures_changePots_moved {change : PotsPort → Option PotsPort} (raiseOmciAlarm : Bool) :
    Ensures (onu.changePots index change raiseOmciAlarm) (UnisMoved onu) :=
  ensures_changePort_moved fun _ _ => .of_same rfl

end Onu

namespace AttachedOnu

variable {attached : AttachedOnu} {context : Nat} {tx : OnuTx}

private theorem ensures_tryEvent_moved :
    Ensures (attached.tryEvent context tx) fun next => UnisMoved attached.onu next.onu := by
  refine ensures_tryEvent.mono fun next same => ?_
  subst same
  cases accepted : attached.onu.internalState.after tx with
  | none => exact .of_same rfl
  | some state =>
    by_cases off : state = .disabled
    · exact .of_map UniMove.disable_getD (entered_effects.uniPorts.trans (if_pos off))
    · exact .of_same (entered_effects.uniPorts.trans (if_neg off))

private theorem ensures_processOmci_moved {request : OmciRequest} :
    Ensures (attached.processOmci context request) fun result =>
      UnisMoved attached.onu result.1.onu := by
  apply yields_processOmci_of
  · exact fun _ => .of_same rfl
  · exact fun _ _ _ => .of_same rfl
  · intro entity adminState index _ _
    split
    · exact Onu.ensures_changeUni_moved (fun _ _ accepted => .disable accepted) true
    · exact Onu.ensures_changeUni_moved (fun _ _ accepted => .enable accepted) false
  · intro entity adminState index _ _
    split
    · exact Onu.ensures_changePots_moved true
    · exact Onu.ensures_changePots_moved false

private theorem ensures_handle_moved {message : Message} :
    Ensures (attached.handle context message) fun next => UnisMoved attached.onu next.onu := by
  cases message with
  | omci request =>
    rw [handle, Ensures, yields_map, handleOmciRequest]
    dsimp only
    split
    · exact .of_same rfl
    · rw [yields_map]
      exact ensures_processOmci_moved
  | flowAdd flow =>
    rw [handle, Ensures, yields_map, Onu.handleFlowAdd]
    split
    · trivial
    · exact .of_modify (fun _ => .flow flow) rfl
  | flowRemoved flow =>
    rw [handle, Ensures, yields_map, Onu.handleFlowRemove]
    dsimp only
    split
    · simp only [Onu.yields_closeChannel]
      split
      · exact .of_same rfl
      · trivial
    · exact .of_same rfl
  | _ => exact .of_same rfl

end AttachedOnu

namespace LoopSite

variable {site next : LoopSite}

/-- What one step does to the UNIs. -/
theorem step_unisMoved {label : LoopStep} (taken : site.step label = some next) :
    UnisMoved site.onu next.onu := by
  have changed := step_changed taken
  unfold onu
  generalize next.attached = attached at changed ⊢
  cases changed with
  | loops loops => exact .of_same rfl
  | event tx tried => exact AttachedOnu.ensures_tryEvent_moved.value tried
  | sent message sent =>
    have sends : Ensures (site.onu.send message) (UnisMoved site.onu) := by
      rw [Ensures, Onu.yields_send]
      split
      · exact .of_same rfl
      · trivial
    exact sends.value sent
  | handled received handled =>
    have moved := AttachedOnu.ensures_handle_moved.value handled
    rw [(Onu.receive_eq_some received).frame] at moved
    exact moved
  | discarded received =>
    refine .of_same ?_
    rw [(Onu.receive_eq_some received).frame]
    rfl
  | responded uni service eapolState dhcpState groupAddresses =>
    exact .of_modify (fun _ => .respond service eapolState dhcpState groupAddresses) rfl

end LoopSite

end Bbsim.Devices
