import Bbsim.Foundation.Since
import Bbsim.Devices.RestartRequests
import Bbsim.Devices.ServicePrompts

/-! Memberships of the services of an ONU. `ChangeIgmpState` of the API keeps the VLAN of each group
that a service has joined. A UNI that goes down has its services forget them, and a query is
answered from what is left. -/

namespace Bbsim.Devices

open Foundation Responders

structure IgmpRequest where
  uniId : Int32
  subAction : IgmpAction
  groupAddress : String
  vlan : Int32

/-- The VLAN of the request, or else the C-tag of the service. -/
def IgmpRequest.tag (request : IgmpRequest) (cTag : Int) : Int :=
  if request.vlan ≠ 0 then request.vlan.toInt else cTag

def IgmpRequest.vlanValid (request : IgmpRequest) : Prop :=
  ¬ (request.vlan.toInt > 0xFFF ∨ request.vlan.toInt < 0)

instance (request : IgmpRequest) : Decidable request.vlanValid :=
  inferInstanceAs (Decidable (¬ _))

/-- A service with the VLAN of each group. The empty map stands for the nil map too. -/
structure IgmpMember where
  service : Service
  groupAddresses : FiniteMap String Int

namespace IgmpMember

def initService (member : IgmpMember) : IgmpMember :=
  { member with service := member.service.initService }

def disable (member : IgmpMember) : IgmpMember :=
  match member.service.internalState.after .disable with
  | none => member
  | some _ => ⟨member.service.disable, ∅⟩

/-- The service without the VLANs has the groups. -/
def withGroups (member : IgmpMember) (action : IgmpAction) (addr : String)
    (groupAddresses : FiniteMap String Int) : IgmpMember :=
  ⟨{ member.service with groupAddresses := action.groups addr member.service.groupAddresses }, groupAddresses⟩

def addGroupAddress (member : IgmpMember) (addr : String) (ctag : Int) : IgmpMember :=
  member.withGroups .join addr (member.groupAddresses.insert addr ctag)

def removeGroupAddress (member : IgmpMember) (addr : String) : IgmpMember :=
  member.withGroups .leave addr (member.groupAddresses.erase addr)

/-- The request is for the service. -/
def takes (member : IgmpMember) : Bool :=
  member.service.needsIgmp ∧ member.service.internalState = .initialized

/-- One turn of the loop over the services of the UNI. -/
def changeIgmpState (request : IgmpRequest) (member : IgmpMember) : IgmpMember :=
  if member.takes then
    match request.subAction with
    | .join | .joinV3 => member.addGroupAddress request.groupAddress (request.tag member.service.cTag)
    | .leave => member.removeGroupAddress request.groupAddress
  else member

end IgmpMember

structure IgmpUni where
  id : UInt32
  meId : UInt16
  portNo : UInt32
  operState : PortState
  members : List IgmpMember
  packetLoops : Nat

structure IgmpOnu where
  oltId : Int
  ponPortId : UInt32
  id : UInt32
  uniPorts : List IgmpUni

namespace IgmpUni

def enable (uni : IgmpUni) : Option IgmpUni :=
  (uni.operState.after .enable).map fun state =>
    { uni with
      operState := state
      packetLoops := uni.packetLoops + 1
      members := uni.members.map IgmpMember.initService }

def disable (uni : IgmpUni) : Option IgmpUni :=
  (uni.operState.after .disable).map fun state =>
    { uni with operState := state, members := uni.members.map IgmpMember.disable }

def changeIgmpState (request : IgmpRequest) (uni : IgmpUni) : IgmpUni :=
  { uni with members := uni.members.map (IgmpMember.changeIgmpState request) }

end IgmpUni

namespace IgmpMember

/-- The service as its responders are called. -/
def subscriber (member : IgmpMember) (onu : IgmpOnu) (uni : IgmpUni) : Subscriber where
  oltId := onu.oltId
  ponPortId := onu.ponPortId
  onuId := onu.id
  uniId := uni.id
  portNo := uni.portNo
  groupVlan := fun group => (member.groupAddresses.lookup group).getD 0
  service := member.service

/-- What the turn of the loop has the service send. -/
def sent (onu : IgmpOnu) (uni : IgmpUni) (request : IgmpRequest) (member : IgmpMember) :
    List PacketIndication :=
  if member.takes then
    [request.subAction.send ((member.subscriber onu uni).igmpCaller (request.tag member.service.cTag))
      request.groupAddress]
  else []

/-- `HandlePackets` on an IGMP packet; `none` where the packet does not get there. -/
def receive (member : IgmpMember) (onu : IgmpOnu) (uni : IgmpUni) (packet : Igmp.IgmpPacket) :
    Option (Except Igmp.Fault (List PacketIndication)) :=
  if member.service.packetCh = .served ∧ member.service.needsIgmp then
    some (Igmp.handleNextPacket ((member.subscriber onu uni).igmpCaller member.service.cTag)
      (member.groupAddresses.entries.map fun entry => (entry.1, entry.2)) packet)
  else none

end IgmpMember

namespace IgmpOnu

structure IgmpAnswer where
  onu : IgmpOnu
  response : ApiResponse
  error : Option String
  sent : List PacketIndication

/-- `ChangeIgmpState` once the ONU is found; `none` where a negative index ends the process. -/
def changeIgmpState (onu : IgmpOnu) (request : IgmpRequest) : Option IgmpAnswer :=
  if request.uniId.toInt ≥ onu.uniPorts.length then
    some ⟨onu, ⟨.invalidArgument, ""⟩, some "invalid uni no given", []⟩
  else if ¬ request.vlanValid then
    some ⟨onu, ⟨.invalidArgument, ""⟩, some "invalid vlan given", []⟩
  else if request.uniId.toInt < 0 then none
  else
    let index := request.uniId.toInt.toNat
    onu.uniPorts[index]?.map fun uni =>
      if uni.operState ≠ .up then ⟨onu, ⟨.ok, ""⟩, some "given uni is currently disabled", []⟩
      else ⟨{ onu with uniPorts := onu.uniPorts.set index (uni.changeIgmpState request) }, ⟨.ok, ""⟩, none,
        uni.members.flatMap (IgmpMember.sent onu uni request)⟩

end IgmpOnu

inductive IgmpStep where
  | request (request : IgmpRequest)
  | enable (uni : Nat)
  | disable (uni : Nat)

/-- An event that the UNI does not accept leaves it as it is. -/
def IgmpOnu.step (onu : IgmpOnu) : IgmpStep → Option IgmpOnu
  | .request request => (onu.changeIgmpState request).map IgmpOnu.IgmpAnswer.onu
  | .enable index =>
    some { onu with uniPorts := onu.uniPorts.modify index fun uni => uni.enable.getD uni }
  | .disable index =>
    some { onu with uniPorts := onu.uniPorts.modify index fun uni => uni.disable.getD uni }

namespace IgmpUni

variable {uni : IgmpUni}

end IgmpUni

/-- The UNI has been enabled, and not disabled since. -/
def UpSince (index : Nat) : List IgmpStep → Prop :=
  Since (fun _ step => step = .enable index) fun step => step = .disable index

/-- A request about the group that the API does not reject for its VLAN. -/
def IgmpRequest.About (request : IgmpRequest) (index : Nat) (group : String) : Prop :=
  request.uniId.toInt = index ∧ request.vlanValid ∧ request.groupAddress = group

/-- While the UNI was up there was a request to join the group on the VLAN, and since then the UNI was not
disabled and there was no other request about the group. -/
def JoinedLast (index : Nat) (cTag : Int) (group : String) (vlan : Int) : List IgmpStep → Prop :=
  Since
    (fun before step => UpSince index before ∧ ∃ request, step = .request request ∧
      request.About index group ∧ request.subAction ≠ .leave ∧ request.tag cTag = vlan)
    fun step => step = .disable index ∨ ∃ request, step = .request request ∧ request.About index group

variable {labels : List IgmpStep} {step : IgmpStep} {index : Nat} {cTag : Int} {group : String} {vlan : Int}

theorem upSince_snoc : UpSince index (labels ++ [step]) ↔
    step = .enable index ∨ (UpSince index labels ∧ step ≠ .disable index) :=
  since_snoc

theorem joinedLast_snoc : JoinedLast index cTag group vlan (labels ++ [step]) ↔
    (UpSince index labels ∧ ∃ request, step = .request request ∧ request.About index group ∧
      request.subAction ≠ .leave ∧ request.tag cTag = vlan) ∨
    (JoinedLast index cTag group vlan labels ∧
      ¬ (step = .disable index ∨ ∃ request, step = .request request ∧ request.About index group)) :=
  since_snoc

/-- A group is joined on UNIs that are up only. -/
theorem JoinedLast.up (joined : JoinedLast index cTag group vlan labels) : UpSince index labels := by
  obtain ⟨before, event, after, rfl, ⟨up, request, rfl, -⟩, stays⟩ := joined
  refine up.append fun later member => ?_
  rcases List.mem_cons.mp member with rfl | member
  · exact fun disabled => nomatch disabled
  · exact fun disabled => stays later member (.inl disabled)

/-- The step is about another UNI, or rejected. -/
def Elsewhere (index : Nat) (step : IgmpStep) : Prop :=
  step ≠ .disable index ∧ ∀ request, step = .request request →
    ¬ (request.uniId.toInt = index ∧ request.vlanValid)

theorem joinedLast_snoc_of_elsewhere (elsewhere : Elsewhere index step) :
    JoinedLast index cTag group vlan (labels ++ [step]) ↔ JoinedLast index cTag group vlan labels := by
  rw [joinedLast_snoc]
  constructor
  · rintro (⟨-, request, rfl, about, -⟩ | ⟨joined, -⟩)
    · exact absurd ⟨about.1, about.2.1⟩ (elsewhere.2 request rfl)
    · exact joined
  · intro joined
    refine .inr ⟨joined, ?_⟩
    rintro (disabled | ⟨request, rfl, about⟩)
    · exact elsewhere.1 disabled
    · exact elsewhere.2 request rfl ⟨about.1, about.2.1⟩

theorem not_joinedLast_disabled : ¬ JoinedLast index cTag group vlan (labels ++ [.disable index]) := by
  rw [joinedLast_snoc]
  rintro (⟨-, request, requested, -⟩ | ⟨-, stays⟩)
  · cases requested
  · exact stays (.inl rfl)

/-- A request on a UNI that is up decides about its group. -/
theorem joinedLast_snoc_request {request : IgmpRequest} (up : UpSince index labels)
    (here : request.uniId.toInt = index) (valid : request.vlanValid) :
    JoinedLast index cTag group vlan (labels ++ [.request request]) ↔
      if request.groupAddress = group then request.subAction ≠ .leave ∧ request.tag cTag = vlan
      else JoinedLast index cTag group vlan labels := by
  rw [joinedLast_snoc]
  split
  · next same =>
    constructor
    · rintro (⟨-, other, requested, -, joins⟩ | ⟨-, stays⟩)
      · cases requested
        exact joins
      · exact absurd (.inr ⟨request, rfl, here, valid, same⟩) stays
    · intro joins
      exact .inl ⟨up, request, rfl, ⟨here, valid, same⟩, joins⟩
  · next differs =>
    constructor
    · rintro (⟨-, other, requested, about, -⟩ | ⟨joined, -⟩)
      · cases requested
        exact absurd about.2.2 differs
      · exact joined
    · intro joined
      refine .inr ⟨joined, ?_⟩
      rintro (disabled | ⟨other, requested, about⟩)
      · cases disabled
      · cases requested
        exact differs about.2.2

namespace IgmpMember

variable {member : IgmpMember} {state : PortState} {request : IgmpRequest}

/-- The groups of a service are the ones that its history gives. -/
structure Tracks (labels : List IgmpStep) (index : Nat) (state : PortState) (member : IgmpMember) :
    Prop where
  fits : member.service.Fits state
  groups : ∀ group vlan, member.groupAddresses.lookup group = some vlan ↔
    member.service.needsIgmp = true ∧ JoinedLast index member.service.cTag group vlan labels
  keys : ∀ group, group ∈ member.service.groupAddresses ↔
    (member.groupAddresses.lookup group).isSome = true

theorem Tracks.snoc_elsewhere (tracks : member.Tracks labels index state)
    (elsewhere : Elsewhere index step) : member.Tracks (labels ++ [step]) index state where
  fits := tracks.fits
  groups group vlan := by rw [joinedLast_snoc_of_elsewhere elsewhere, tracks.groups]
  keys := tracks.keys

/-- Whatever happens to a UNI that stays down. -/
theorem Tracks.snoc_down (tracks : member.Tracks labels index state) (down : ¬ UpSince index labels)
    (still : ¬ UpSince index (labels ++ [step])) : member.Tracks (labels ++ [step]) index state where
  fits := tracks.fits
  groups group vlan := by
    rw [tracks.groups]
    exact and_congr_right fun _ => iff_of_false (fun joined => down joined.up) fun joined => still joined.up
  keys := tracks.keys

theorem Tracks.snoc_enable (tracks : member.Tracks labels index .down) :
    member.initService.Tracks (labels ++ [.enable index]) index .up := by
  have elsewhere : Elsewhere index (.enable index) :=
    ⟨(fun same => nomatch same), (fun _ same => nomatch same)⟩
  have config : member.service.initService.needsIgmp = member.service.needsIgmp ∧
      member.service.initService.cTag = member.service.cTag ∧
      member.service.initService.groupAddresses = member.service.groupAddresses := by
    unfold Service.initService
    split <;> exact ⟨rfl, rfl, rfl⟩
  refine ⟨Service.fits_initService tracks.fits, fun group vlan => ?_, fun group => ?_⟩
  · rw [joinedLast_snoc_of_elsewhere elsewhere, initService, config.1, config.2.1, tracks.groups]
  · rw [initService, config.2.2, tracks.keys]

theorem Tracks.snoc_disable (tracks : member.Tracks labels index .up) :
    member.disable.Tracks (labels ++ [.disable index]) index .down := by
  have running : member.service.internalState = .initialized := tracks.fits.1
  have accepted : member.service.internalState.after .disable = some .disabled := by
    rw [running]
    rfl
  have cleared : member.disable = ⟨member.service.disable, ∅⟩ := by
    rw [disable, accepted]
  rw [cleared]
  refine ⟨Service.fits_disable tracks.fits, fun group vlan => ?_, fun group => ?_⟩
  · simp [not_joinedLast_disabled]
  · simp [Service.disable, accepted]

private theorem mem_groups {action : IgmpAction} {addr : String} {groups : List String} :
    group ∈ action.groups addr groups ↔
      if addr = group then action ≠ .leave else group ∈ groups := by
  have join : (group ∈ if addr ∈ groups then groups else groups ++ [addr]) ↔
      if addr = group then True else group ∈ groups := by
    by_cases same : addr = group
    · subst same
      by_cases listed : addr ∈ groups <;> simp [listed]
    · have other : group ≠ addr := fun equal => same equal.symm
      by_cases listed : addr ∈ groups <;> simp [listed, same, other]
  cases action with
  | join | joinV3 => simpa [IgmpAction.groups] using join
  | leave =>
    by_cases same : addr = group
    · simp [IgmpAction.groups, same]
    · have other : group ≠ addr := fun equal => same equal.symm
      simp [IgmpAction.groups, same, other]

/-- The map after a request that the service takes. -/
theorem lookup_changeIgmpState (takes : member.takes = true) :
    (member.changeIgmpState request).groupAddresses.lookup group =
      if request.groupAddress = group then
        if request.subAction = .leave then none else some (request.tag member.service.cTag)
      else member.groupAddresses.lookup group := by
  rw [changeIgmpState, if_pos takes]
  cases request.subAction with
  | join | joinV3 =>
    simp only [addGroupAddress, withGroups, FiniteMap.lookup_insert_eq, eq_comm, reduceCtorEq, if_false]
  | leave =>
    simp only [removeGroupAddress, withGroups, FiniteMap.lookup_erase_eq, eq_comm, if_true]

private theorem mem_changeIgmpState (takes : member.takes = true) :
    group ∈ (member.changeIgmpState request).service.groupAddresses ↔
      if request.groupAddress = group then request.subAction ≠ .leave
      else group ∈ member.service.groupAddresses := by
  rw [changeIgmpState, if_pos takes]
  cases request.subAction with
  | join => exact @mem_groups group .join _ _
  | joinV3 => exact @mem_groups group .joinV3 _ _
  | leave => exact @mem_groups group .leave _ _

private theorem changeIgmpState_config :
    (member.changeIgmpState request).service.needsIgmp = member.service.needsIgmp ∧
    (member.changeIgmpState request).service.cTag = member.service.cTag ∧
    ∀ state, member.service.Fits state → (member.changeIgmpState request).service.Fits state := by
  unfold changeIgmpState
  split
  · cases request.subAction <;> exact ⟨rfl, rfl, fun state fits => fits.of_same rfl rfl rfl⟩
  · exact ⟨rfl, rfl, fun _ fits => fits⟩

theorem Tracks.snoc_request (tracks : member.Tracks labels index .up) (up : UpSince index labels)
    (here : request.uniId.toInt = index) (valid : request.vlanValid) :
    (member.changeIgmpState request).Tracks (labels ++ [.request request]) index .up := by
  obtain ⟨needs, cTag, fits⟩ := @changeIgmpState_config member request
  cases needed : member.service.needsIgmp with
  | false =>
    -- the service is passed over, and has no groups before and after
    have passed : member.changeIgmpState request = member := if_neg (by simp [takes, needed])
    rw [passed]
    refine ⟨tracks.fits, fun group vlan => ?_, tracks.keys⟩
    rw [tracks.groups, needed]
    simp
  | true =>
    have takes : member.takes = true := decide_eq_true ⟨needed, tracks.fits.1⟩
    refine ⟨fits .up tracks.fits, fun group vlan => ?_, fun group => ?_⟩
    · rw [needs, cTag, lookup_changeIgmpState takes, joinedLast_snoc_request up here valid]
      split
      · cases request.subAction <;> simp [needed]
      · rw [tracks.groups]
    · rw [lookup_changeIgmpState takes, mem_changeIgmpState takes]
      split
      · cases request.subAction <;> simp
      · exact tracks.keys group

end IgmpMember

namespace IgmpUni

variable {uni : IgmpUni}

structure Tracks (labels : List IgmpStep) (index : Nat) (uni : IgmpUni) : Prop where
  up : uni.operState = .up ↔ UpSince index labels
  members : ∀ member ∈ uni.members, member.Tracks labels index uni.operState

/-- The UNI with the index is given the request. -/
abbrev Accepts (uni : IgmpUni) (index : Nat) (request : IgmpRequest) : Prop :=
  request.uniId.toInt = index ∧ request.vlanValid ∧ uni.operState = .up

/-- What a step does to the UNI with an index. -/
def take (index : Nat) (uni : IgmpUni) : IgmpStep → IgmpUni
  | .enable other => if other = index then uni.enable.getD uni else uni
  | .disable other => if other = index then uni.disable.getD uni else uni
  | .request request => if uni.Accepts index request then uni.changeIgmpState request else uni

section

variable (tracks : uni.Tracks labels index)
include tracks

/-- A step that leaves the UNI as it is. -/
theorem Tracks.snoc_same (up : uni.operState = .up → Elsewhere index step)
    (down : uni.operState = .down → step ≠ .enable index) : uni.Tracks (labels ++ [step]) index := by
  cases state : uni.operState with
  | up =>
    have since := tracks.up.mp state
    have elsewhere := up state
    refine ⟨iff_of_true state (upSince_snoc.mpr (.inr ⟨since, elsewhere.1⟩)), fun member listed => ?_⟩
    exact (tracks.members member listed).snoc_elsewhere elsewhere
  | down =>
    have since : ¬ UpSince index labels := by
      rw [← tracks.up, state]
      exact PortState.noConfusion
    have still : ¬ UpSince index (labels ++ [step]) := by
      rw [upSince_snoc]
      rintro (enabled | ⟨was, -⟩)
      · exact down state enabled
      · exact since was
    refine ⟨iff_of_false (by simp [state]) still, fun member listed => ?_⟩
    exact (tracks.members member listed).snoc_down since still

theorem Tracks.snoc_enable : (uni.enable.getD uni).Tracks (labels ++ [.enable index]) index := by
  cases state : uni.operState with
  | up =>
    have refused : uni.enable = none := by
      rw [enable, state]
      rfl
    rw [refused]
    exact tracks.snoc_same (fun _ => ⟨(fun same => nomatch same), (fun _ same => nomatch same)⟩)
      fun down => by simp [state] at down
  | down =>
    have accepted : uni.operState.after .enable = some .up := by
      rw [state]
      rfl
    rw [enable, accepted]
    refine ⟨iff_of_true rfl (upSince_snoc.mpr (.inl rfl)), fun member listed => ?_⟩
    obtain ⟨before, was, rfl⟩ := List.mem_map.mp listed
    have tracked := tracks.members before was
    rw [state] at tracked
    exact tracked.snoc_enable

theorem Tracks.snoc_disable : (uni.disable.getD uni).Tracks (labels ++ [.disable index]) index := by
  cases state : uni.operState with
  | up =>
    have accepted : uni.operState.after .disable = some .down := by
      rw [state]
      rfl
    rw [disable, accepted]
    refine ⟨iff_of_false PortState.noConfusion ?_, fun member listed => ?_⟩
    · rw [upSince_snoc]
      rintro (enabled | ⟨-, stays⟩)
      · cases enabled
      · exact stays rfl
    · obtain ⟨before, was, rfl⟩ := List.mem_map.mp listed
      have tracked := tracks.members before was
      rw [state] at tracked
      exact tracked.snoc_disable
  | down =>
    have refused : uni.disable = none := by
      rw [disable, state]
      rfl
    rw [refused]
    exact tracks.snoc_same (fun up => by simp [state] at up) fun _ same => nomatch same

end

theorem Tracks.snoc_request {request : IgmpRequest} (tracks : uni.Tracks labels index)
    (here : request.uniId.toInt = index) (valid : request.vlanValid) (up : uni.operState = .up) :
    (uni.changeIgmpState request).Tracks (labels ++ [.request request]) index := by
  have since := tracks.up.mp up
  refine ⟨iff_of_true up (upSince_snoc.mpr (.inr ⟨since, (fun same => nomatch same)⟩)),
    fun member listed => ?_⟩
  obtain ⟨before, was, rfl⟩ := List.mem_map.mp listed
  have tracked := tracks.members before was
  rw [up] at tracked
  rw [changeIgmpState, up]
  exact tracked.snoc_request since here valid

theorem Tracks.snoc (tracks : uni.Tracks labels index) (step : IgmpStep) :
    (uni.take index step).Tracks (labels ++ [step]) index := by
  unfold take
  cases step with
  | enable other =>
    dsimp only
    split
    · next same =>
      subst same
      exact tracks.snoc_enable
    · next differs =>
      exact tracks.snoc_same (fun _ => ⟨(fun same => nomatch same), (fun _ same => nomatch same)⟩)
        fun _ same => differs (IgmpStep.enable.inj same)
  | disable other =>
    dsimp only
    split
    · next same =>
      subst same
      exact tracks.snoc_disable
    · next differs =>
      exact tracks.snoc_same
        (fun _ => ⟨fun same => differs (IgmpStep.disable.inj same), (fun _ same => nomatch same)⟩)
        (fun _ same => nomatch same)
  | request request =>
    dsimp only
    split
    · next accepted => exact tracks.snoc_request accepted.1 accepted.2.1 accepted.2.2
    · next rejected =>
      refine tracks.snoc_same (fun up => ⟨(fun same => nomatch same), fun other same about => ?_⟩)
        (fun _ same => nomatch same)
      cases same
      exact rejected ⟨about.1, about.2, up⟩

end IgmpUni

namespace IgmpOnu

variable {onu next final : IgmpOnu} {history : List (IgmpOnu × IgmpStep)}

/-- A request is given to one UNI, or rejected. -/
theorem changeIgmpState_cases {request : IgmpRequest} {answer : IgmpAnswer}
    (answered : onu.changeIgmpState request = some answer) :
    (answer.onu = onu ∧ ∀ (index : Nat) (uni : IgmpUni), onu.uniPorts[index]? = some uni →
        ¬ uni.Accepts index request) ∨
      ∃ (place : Nat) (uni : IgmpUni), onu.uniPorts[place]? = some uni ∧ uni.Accepts place request ∧
        answer.onu = { onu with uniPorts := onu.uniPorts.set place (uni.changeIgmpState request) } := by
  unfold changeIgmpState at answered
  split at answered
  · next beyond =>
    obtain rfl := Option.some.inj answered
    refine .inl ⟨rfl, fun index uni present accepts => ?_⟩
    obtain ⟨inside, -⟩ := List.getElem?_eq_some_iff.mp present
    omega
  · split at answered
    · next invalid =>
      obtain rfl := Option.some.inj answered
      exact .inl ⟨rfl, fun _ _ _ accepts => invalid accepts.2.1⟩
    · next valid =>
      split at answered
      · cases answered
      · next positive =>
        obtain ⟨uni, present, outcome⟩ := Option.map_eq_some_iff.mp answered
        split at outcome
        · next down =>
          obtain rfl := outcome
          refine .inl ⟨rfl, fun index other there accepts => down ?_⟩
          obtain rfl : index = request.uniId.toInt.toNat := by omega
          rw [there] at present
          obtain rfl := Option.some.inj present
          exact accepts.2.2
        · next up =>
          obtain rfl := outcome
          exact .inr ⟨_, uni, present, ⟨by omega, not_not.mp valid, not_not.mp up⟩, rfl⟩

/-- The request changes the UNI with its index where that is up, and no other. -/
theorem changeIgmpState_uniPorts {request : IgmpRequest} {answer : IgmpAnswer}
    (answered : onu.changeIgmpState request = some answer) (index : Nat) :
    answer.onu.uniPorts[index]? =
      onu.uniPorts[index]?.map fun uni => uni.take index (.request request) := by
  have rejected : (∀ uni : IgmpUni, onu.uniPorts[index]? = some uni → ¬ uni.Accepts index request) →
      onu.uniPorts[index]? = onu.uniPorts[index]?.map fun uni => uni.take index (.request request) := by
    intro refused
    cases present : onu.uniPorts[index]? with
    | none => rfl
    | some uni => exact congrArg some (if_neg (refused uni present)).symm
  rcases changeIgmpState_cases answered with ⟨same, refused⟩ | ⟨place, uni, present, accepts, changed⟩
  · rw [same]
    exact rejected (refused index)
  · rw [changed]
    by_cases same : place = index
    · subst same
      obtain ⟨inside, -⟩ := List.getElem?_eq_some_iff.mp present
      rw [List.getElem?_set_self inside, present, Option.map_some]
      exact congrArg some (if_pos accepts).symm
    · rw [List.getElem?_set_ne same]
      refine rejected fun other _ others => same ?_
      exact Int.natCast_inj.mp (accepts.1.symm.trans others.1)

private theorem step_uniPorts (taken : onu.step step = some next) (index : Nat) :
    next.uniPorts[index]? = onu.uniPorts[index]?.map fun uni => uni.take index step := by
  cases step with
  | enable other | disable other =>
    obtain rfl := Option.some.inj taken
    simp only [IgmpUni.take, List.getElem?_modify]
    by_cases same : other = index <;> cases onu.uniPorts[index]? <;> simp [same]
  | request request =>
    obtain ⟨answer, answered, rfl⟩ := Option.map_eq_some_iff.mp taken
    exact changeIgmpState_uniPorts answered index

/-- No UNI was up before, and no service has a group. -/
def Fresh (onu : IgmpOnu) : Prop :=
  ∀ uni ∈ onu.uniPorts, uni.operState = .down ∧ ∀ member ∈ uni.members,
    member.service.Fits .down ∧ member.service.groupAddresses = [] ∧ member.groupAddresses = ∅

theorem Fresh.tracks (fresh : onu.Fresh) {uni : IgmpUni} (present : onu.uniPorts[index]? = some uni) :
    uni.Tracks [] index := by
  obtain ⟨down, members⟩ := fresh uni (List.mem_of_getElem? present)
  refine ⟨iff_of_false (by simp [down]) not_since_nil, fun member listed => ?_⟩
  obtain ⟨fits, none, empty⟩ := members member listed
  refine ⟨down ▸ fits, fun group vlan => ?_, fun group => ?_⟩
  · rw [empty]
    exact iff_of_false (by simp) fun joined => not_since_nil joined.2
  · simp [none, empty]

theorem Fresh.run_tracks (fresh : onu.Fresh) (run : Run IgmpOnu.step onu history final) {uni : IgmpUni}
    (present : final.uniPorts[index]? = some uni) : uni.Tracks (history.map Prod.snd) index := by
  induction run generalizing uni with
  | start => exact fresh.tracks present
  | snoc before taken ih =>
    rw [step_uniPorts taken, Option.map_eq_some_iff] at present
    obtain ⟨earlier, was, rfl⟩ := present
    rw [List.map_append]
    exact (ih was).snoc _

end IgmpOnu

namespace IgmpMember

variable {member : IgmpMember}

/-- The report for a group. -/
def report (member : IgmpMember) (onu : IgmpOnu) (uni : IgmpUni) (vlan : UInt16) (group : String) :
    PacketIndication where
  intfId := onu.ponPortId
  gemportId := Igmp.gemPortOr member.service.gemPort onu.ponPortId onu.id
  portNo := uni.portNo
  onuId := onu.id
  uniId := uni.id
  frame := ⟨member.service.hwAddress, broadcast,
    .igmp vlan member.service.usPonCTagPriority ⟨.membershipReportV2, group, 2⟩⟩

/-- A well-formed query. -/
def query (vlan : UInt16) : Igmp.IgmpPacket := ⟨some vlan, some (some .membershipQuery)⟩

/-- The groups that are joined on a VLAN. -/
def groupsOn (member : IgmpMember) (vlan : Int) : List String :=
  (member.groupAddresses.entries.filter fun entry => entry.2 = vlan).map Sigma.fst

private theorem nodup_groupsOn (member : IgmpMember) (vlan : Int) : (member.groupsOn vlan).Nodup :=
  List.Nodup.sublist (List.filter_sublist.map Sigma.fst) member.groupAddresses.nodupKeys

theorem mem_groupsOn : group ∈ member.groupsOn vlan ↔ member.groupAddresses.lookup group = some vlan := by
  rw [← Option.mem_def, AList.mem_lookup_iff, groupsOn, List.mem_map]
  constructor
  · rintro ⟨⟨key, value⟩, kept, rfl⟩
    obtain ⟨listed, same⟩ := List.mem_filter.mp kept
    obtain rfl : value = vlan := of_decide_eq_true same
    exact listed
  · intro listed
    exact ⟨⟨group, vlan⟩, List.mem_filter.mpr ⟨listed, decide_eq_true rfl⟩, rfl⟩

/-- A query is answered with a report for each group on its VLAN. -/
theorem receive_query {onu : IgmpOnu} {uni : IgmpUni} {vlan : UInt16}
    {answer : Except Igmp.Fault (List PacketIndication)}
    (handled : member.receive onu uni (query vlan) = some answer) :
    member.service.needsIgmp = true ∧
      answer = .ok ((member.groupsOn vlan.toNat).map (member.report onu uni vlan)) := by
  unfold receive at handled
  split at handled
  · next taken =>
    refine ⟨taken.2, (Option.some.inj handled).symm.trans ?_⟩
    have tagged : vlanIdentifier (vlan.toNat : Int) = vlan := by
      have bound := vlan.toNat_lt
      rw [vlanIdentifier, UInt16.ofInt, ← UInt16.toNat_inj, UInt16.toNat_ofNat']
      omega
    rw [Igmp.handleNextPacket, query]
    dsimp only
    rw [if_pos rfl, groupsOn, List.filter_map, List.map_map, List.map_map]
    refine congrArg Except.ok (List.map_congr_left fun entry listed => ?_)
    have same : entry.2 = vlan.toNat := of_decide_eq_true (List.mem_filter.mp listed).2
    simp only [Function.comp_apply, same, Igmp.sendIGMPMembershipReportV2, Igmp.Caller.send,
      Igmp.serializeIgmpPacket, tagged]
    rfl
  · cases handled

end IgmpMember

/-- Queries are answered from the history of requests. -/
theorem igmp_queries_answered_from_history {onu final : IgmpOnu} {history : List (IgmpOnu × IgmpStep)}
    (fresh : onu.Fresh) (run : Run IgmpOnu.step onu history final) {uni : IgmpUni} {member : IgmpMember}
    (present : final.uniPorts[index]? = some uni) (listed : member ∈ uni.members) (vlan : UInt16)
    {answer : Except Igmp.Fault (List PacketIndication)}
    (handled : member.receive final uni (IgmpMember.query vlan) = some answer) :
    ∃ groups : List String, groups.Nodup ∧
      (∀ group, group ∈ groups ↔
        JoinedLast index member.service.cTag group vlan.toNat (history.map Prod.snd)) ∧
      answer = .ok (groups.map (member.report final uni vlan)) := by
  obtain ⟨needed, answered⟩ := IgmpMember.receive_query handled
  have tracks := (fresh.run_tracks run present).members member listed
  refine ⟨member.groupsOn vlan.toNat, member.nodup_groupsOn _, fun group => ?_, answered⟩
  rw [IgmpMember.mem_groupsOn, tracks.groups, needed]
  exact ⟨And.right, fun joined => ⟨rfl, joined⟩⟩

/-- A television service with C-tag 900. -/
def televisionMember : IgmpMember :=
  ⟨Service.create 0 "mc" [46, 0, 0, 1, 0, 0] 900 900 false false true 0 0, ∅⟩

def televisionOnu : IgmpOnu := ⟨0, 0, 1, [⟨0, 257, 16, .down, [televisionMember], 0⟩]⟩

/-- A group is joined on the C-tag, another one on VLAN 55. -/
def televisionSteps : List IgmpStep :=
  [.enable 0, .request ⟨0, .join, "224.0.0.22", 0⟩, .request ⟨0, .joinV3, "224.0.0.23", 55⟩]

private theorem televisionOnu_fresh : televisionOnu.Fresh := by
  intro uni listed
  obtain rfl := List.mem_singleton.mp listed
  refine ⟨rfl, fun member present => ?_⟩
  obtain rfl := List.mem_singleton.mp present
  exact ⟨⟨ServiceState.noConfusion, rfl, rfl⟩, rfl, rfl⟩

theorem television_query_answered : ∃ history final uni member answer,
    Run IgmpOnu.step televisionOnu history final ∧ history.map Prod.snd = televisionSteps ∧
      final.uniPorts[0]? = some uni ∧ member ∈ uni.members ∧
      member.receive final uni (IgmpMember.query 900) = some answer ∧
      ∃ groups : List String, groups.Nodup ∧
        (∀ group, group ∈ groups ↔ JoinedLast 0 member.service.cTag group 900 televisionSteps) ∧
        answer = .ok (groups.map (member.report final uni 900)) := by
  obtain ⟨final, replayed, reached⟩ : ∃ final, replay IgmpOnu.step televisionOnu televisionSteps = some final ∧
      ∃ uni member answer, final.uniPorts[0]? = some uni ∧ member ∈ uni.members ∧
        member.receive final uni (IgmpMember.query 900) = some answer :=
    ⟨_, rfl, _, _, _, rfl, List.mem_singleton.mpr rfl, rfl⟩
  obtain ⟨uni, member, answer, present, listed, handled⟩ := reached
  obtain ⟨history, run, labels⟩ := exists_run_of_replay replayed
  have answered := igmp_queries_answered_from_history televisionOnu_fresh run present listed 900 handled
  rw [labels] at answered
  exact ⟨history, final, uni, member, answer, run, labels, present, listed, handled, answered⟩

end Bbsim.Devices
