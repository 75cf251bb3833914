import Bbsim.Foundation.Strconv
import Bbsim.Foundation.Visits
import Bbsim.Devices.Identities

/-! Restarting the exchanges of a UNI. `RestartEapol` and `RestartDhcp` of the API. The id of the
UNI is a text. It is read with `Atoi` and cut to 32 bits, and where it cannot be read the request is
taken for one to all UNIs. -/

namespace Bbsim.Devices

open Foundation

inductive Exchange where
  | eapol
  | dhcp
deriving DecidableEq, Repr

inductive ApiStatus where
  | ok
  | invalidArgument
  | notFound
  | failedPrecondition
deriving DecidableEq, Repr

structure ApiResponse where
  statusCode : ApiStatus
  message : String
deriving DecidableEq, Repr

/-- A service that was sent the event; the error is the one that `Event` returns. -/
structure RestartNote where
  serviceKey : String
  error : Option String
deriving DecidableEq, Repr

/-- A slice of texts as `%v` prints it. -/
def printed (texts : List String) : String := "[" ++ " ".intercalate texts ++ "]"

def Exchange.report (exchange : Exchange) (onuSn : String) (startedOn : List String) : String :=
  match exchange with
  | .eapol =>
    if startedOn.length > 0 then
      "Authentication restarted on Services " ++ printed startedOn ++ " for ONU " ++ onuSn ++ "."
    else "No service requires EAPOL"
  | .dhcp =>
    if startedOn.length > 0 then
      "DHCP restarted on Services " ++ printed startedOn ++ " for ONU " ++ onuSn ++ "."
    else "No service requires DHCP"

/-- A service is put on `startedOn` also after an error, but then the list is not sent. -/
def Exchange.response (exchange : Exchange) (onuSn : String) (notes : List RestartNote) : ApiResponse :=
  let errors := notes.filterMap fun note => note.error.map fun error => note.serviceKey ++ ": " ++ error
  let startedOn := notes.map RestartNote.serviceKey
  if errors = [] then ⟨.ok, exchange.report onuSn startedOn⟩
  else ⟨.failedPrecondition, printed errors⟩

def EapolState.text : EapolState → String
  | .created => "created"
  | .authStarted => "auth_started"
  | .startSent => "eap_start_sent"
  | .responseIdentitySent => "eap_response_identity_sent"
  | .responseChallengeSent => "eap_response_challenge_sent"
  | .responseSuccessReceived => "eap_response_success_received"
  | .authFailed => "auth_failed"

def DhcpState.text : DhcpState → String
  | .created => "created"
  | .started => "dhcp_started"
  | .discoverySent => "dhcp_discovery_sent"
  | .requestSent => "dhcp_request_sent"
  | .ackReceived => "dhcp_ack_received"
  | .failed => "dhcp_failed"

def invalidEvent (event state : String) : String :=
  "event " ++ event ++ " inappropriate in current state " ++ state

namespace Service

def key (uniId : UInt32) (service : Service) : String := s!"uni[{uniId}]" ++ service.name

/-- The service in the state that the event leads to. -/
def moved (service : Service) : Exchange → Option Service
  | .eapol => (service.eapolState.after .startAuth).map fun state => { service with eapolState := state }
  | .dhcp => (service.dhcpState.after .start).map fun state => { service with dhcpState := state }

/-- `Event` with the event that starts the exchange. The callback before the transition sends on
`Channel`, for ever where that is nil. -/
def sendStart (service : Service) (uniId : UInt32) (exchange : Exchange) (refusal : String) :
    Visit Service RestartNote :=
  match service.moved exchange with
  | none => ⟨service, [⟨service.key uniId, some refusal⟩], true⟩
  | some next =>
    if service.channel = .served then ⟨next, [⟨service.key uniId, none⟩], true⟩ else ⟨service, [], false⟩

def restartEapol (uniId : UInt32) (service : Service) : Visit Service RestartNote :=
  if service.needsEapol then
    if service.internalState ≠ .initialized then .pass service
    else service.sendStart uniId .eapol (invalidEvent "start_auth" service.eapolState.text)
  else .pass service

/-- Whether the service is initialized is not asked. -/
def restartDhcp (uniId : UInt32) (service : Service) : Visit Service RestartNote :=
  if service.needsDhcp then
    service.sendStart uniId .dhcp (invalidEvent "start_dhcp" service.dhcpState.text)
  else .pass service

def restart : Exchange → UInt32 → Service → Visit Service RestartNote
  | .eapol => restartEapol
  | .dhcp => restartDhcp

end Service

/-- The UNI is another one than the request asks for. -/
def UniPort.skips (uniId : String) (uni : UniPort) : Bool :=
  match atoi uniId with
  | none => false
  | some number => uniId ≠ "" ∧ uni.id ≠ UInt32.ofInt number

def UniPort.restart (exchange : Exchange) (uniId : String) (uni : UniPort) : Visit UniPort RestartNote :=
  if uni.skips uniId then .pass uni
  else if uni.operState ≠ .up then .pass uni
  else (visitAll (Service.restart exchange uni.id) uni.services).map
    fun services => { uni with services := services }

def Onu.restart (exchange : Exchange) (uniId : String) (onu : Onu) : Visit Onu RestartNote :=
  (visitAll (UniPort.restart exchange uniId) onu.uniPorts).map
    fun uniPorts => { onu with uniPorts := uniPorts }

namespace Olt

/-- What both requests do; there is no answer where a service is waited for without end. -/
def restart (exchange : Exchange) (olt : Olt) (serialNumber uniId : String) : Olt × Option ApiResponse :=
  match olt.onuBySerialText serialNumber with
  | none => (olt, some ⟨.notFound, "cannot-find-onu-by-serial-number-" ++ serialNumber⟩)
  | some (position, onu) =>
    let visit := onu.restart exchange uniId
    (olt.setOnu position visit.after,
      if visit.finished then some (exchange.response onu.sn visit.notes) else none)

def restartEapol : Olt → String → String → Olt × Option ApiResponse := restart .eapol

def restartDhcp : Olt → String → String → Olt × Option ApiResponse := restart .dhcp

end Olt

/-- The state machine has taken the event that starts the exchange. -/
def Service.begins (exchange : Exchange) (before after : Service) : Bool :=
  match exchange with
  | .eapol => before.eapolState.after .startAuth = some after.eapolState
  | .dhcp => before.dhcpState.after .start = some after.dhcpState

/-- The services of a UNI whose exchange has begun. -/
def UniPort.begun (exchange : Exchange) (before after : UniPort) : List String :=
  expectedAll (fun service next => if service.begins exchange next then [service.key before.id] else [])
    before.services after.services

def Onu.begun (exchange : Exchange) (before after : Onu) : List String :=
  expectedAll (UniPort.begun exchange) before.uniPorts after.uniPorts

/-- The UNI with this index on the ONU has the text for its id. -/
def Olt.IsNamed (olt : Olt) (serialNumber uniId : String) (position : Position) (index : Nat) : Prop :=
  ∃ onu uni, olt.onuBySerialText serialNumber = some (position, onu) ∧ onu.uniPorts[index]? = some uni ∧
    toString uni.id = uniId

structure OnlyNamedUni (exchange : Exchange) (olt : Olt) (serialNumber uniId : String) : Prop where
  outside : ∀ place service, olt.serviceAt place = some service →
    ¬ olt.IsNamed serialNumber uniId place.onu place.uni →
    (olt.restart exchange serialNumber uniId).1.serviceAt place = some service
  nobody : (∀ position index, ¬ olt.IsNamed serialNumber uniId position index) →
    (olt.restart exchange serialNumber uniId).1 = olt
  reported : ∀ response, (olt.restart exchange serialNumber uniId).2 = some response →
    response.statusCode = .ok →
    ∃ position onu next, olt.onuBySerialText serialNumber = some (position, onu) ∧
      (olt.restart exchange serialNumber uniId).1.onuAt position = some next ∧
      response.message = exchange.report onu.sn (onu.begun exchange next)

/-- The service would take the event. -/
def Service.wantsStart (exchange : Exchange) (service : Service) : Bool :=
  match exchange with
  | .eapol => service.needsEapol ∧ service.internalState = .initialized ∧
      (service.eapolState.after .startAuth).isSome
  | .dhcp => service.needsDhcp ∧ (service.dhcpState.after .start).isSome

def Service.isServed (service : Service) : Bool := service.channel = .served

/-- The services that the request asks, in order. -/
def UniPort.asked (uniId : String) (uni : UniPort) : List Service :=
  if uni.skips uniId = false ∧ uni.operState = .up then uni.services else []

def Onu.asked (uniId : String) (onu : Onu) : List Service := onu.uniPorts.flatMap (UniPort.asked uniId)

def Olt.asked (olt : Olt) (serialNumber uniId : String) : List Service :=
  ((olt.onuBySerialText serialNumber).map fun found => found.2.asked uniId).getD []

/-- The first service that would take the event, if any, has no channel. -/
def Olt.NobodyStarts (olt : Olt) (exchange : Exchange) (serialNumber uniId : String) : Prop :=
  ∀ service, (olt.asked serialNumber uniId).find? (Service.wantsStart exchange) = some service →
    service.isServed = false

namespace Service

variable {exchange : Exchange} {service next : Service} {uniId : UInt32} {refusal : String}

/-- No event that starts an exchange leads back to the state. -/
theorem not_begins_self (exchange : Exchange) (service : Service) :
    service.begins exchange service = false := by
  have eapol : ∀ state : EapolState, state.after .startAuth ≠ some state := by
    intro state
    cases state <;> decide
  have dhcp : ∀ state : DhcpState, state.after .start ≠ some state := by
    intro state
    cases state <;> decide
  cases exchange with
  | eapol => exact decide_eq_false (eapol _)
  | dhcp => exact decide_eq_false (dhcp _)

theorem begins_of_moved (moved : service.moved exchange = some next) :
    service.begins exchange next = true := by
  cases exchange with
  | eapol | dhcp =>
    obtain ⟨state, taken, rfl⟩ := Option.map_eq_some_iff.mp moved
    exact decide_eq_true taken

private theorem ne_of_moved (moved : service.moved exchange = some next) : next ≠ service := by
  rintro rfl
  exact Bool.false_ne_true ((not_begins_self exchange next).symm.trans (begins_of_moved moved))

private theorem sendStart_finished : (service.sendStart uniId exchange refusal).finished = true ↔
    ((service.moved exchange).isSome = true → service.isServed = true) := by
  unfold sendStart isServed
  cases service.moved exchange with
  | none => simp
  | some next => by_cases served : service.channel = .served <;> simp [served]

private theorem sendStart_after : (service.sendStart uniId exchange refusal).after = service ↔
    ((service.moved exchange).isSome = true → service.isServed = false) := by
  unfold sendStart isServed
  cases moved : service.moved exchange with
  | none => simp
  | some next => by_cases served : service.channel = .served <;> simp [served, ne_of_moved moved]

/-- The notes about a service that took the event. -/
def started (note : RestartNote) : Option String :=
  if note.error = none then some note.serviceKey else none

theorem sendStart_notes : (service.sendStart uniId exchange refusal).notes.filterMap started =
    if service.begins exchange (service.sendStart uniId exchange refusal).after then [service.key uniId]
    else [] := by
  unfold sendStart
  cases moved : service.moved exchange with
  | none => simp [started, not_begins_self]
  | some next =>
    by_cases served : service.channel = .served <;>
      simp [served, started, begins_of_moved moved, not_begins_self]

/-- A request either passes the service or sends it the event. -/
theorem restart_cases (exchange : Exchange) (uniId : UInt32) (service : Service) :
    (service.wantsStart exchange = false ∧ service.restart exchange uniId = .pass service) ∨
      ((service.wantsStart exchange = (service.moved exchange).isSome) ∧
        ∃ refusal, service.restart exchange uniId = service.sendStart uniId exchange refusal) := by
  cases exchange with
  | eapol =>
    simp only [restart, restartEapol, wantsStart, moved, Option.isSome_map]
    by_cases needed : service.needsEapol = true
    · by_cases ready : service.internalState = .initialized
      · exact .inr ⟨by simp [needed, ready], _, (if_pos needed).trans (if_neg (not_not.mpr ready))⟩
      · refine .inl ⟨by simp [ready], ?_⟩
        rw [if_pos needed, if_pos ready]
    · refine .inl ⟨by simp [needed], ?_⟩
      rw [if_neg needed]
  | dhcp =>
    simp only [restart, restartDhcp, wantsStart, moved, Option.isSome_map]
    by_cases needed : service.needsDhcp = true
    · exact .inr ⟨by simp [needed], _, if_pos needed⟩
    · refine .inl ⟨by simp [needed], ?_⟩
      rw [if_neg needed]

private theorem walks (exchange : Exchange) (uniId : UInt32) :
    Walks (Service.restart exchange uniId) (fun service => [service]) (wantsStart exchange) isServed where
  finished service := by
    rw [List.forall_mem_singleton]
    rcases restart_cases exchange uniId service with ⟨idle, passed⟩ | ⟨wants, refusal, sent⟩
    · rw [passed, idle]
      simp [Visit.pass]
    · rw [sent, wants, sendStart_finished]
  unchanged service := by
    rcases restart_cases exchange uniId service with ⟨idle, passed⟩ | ⟨wants, refusal, sent⟩
    · rw [passed]
      simp [Visit.pass, idle]
    · rw [sent, sendStart_after, ← wants]
      by_cases wanted : service.wantsStart exchange = true <;> simp [wanted]

private theorem notes (exchange : Exchange) (uniId : UInt32) :
    Notes (Service.restart exchange uniId) started
      fun service next => if service.begins exchange next then [service.key uniId] else [] where
  notes service := by
    rcases restart_cases exchange uniId service with ⟨-, passed⟩ | ⟨-, refusal, sent⟩
    · rw [passed, Visit.pass, if_neg (by simp [not_begins_self])]
      rfl
    · rw [sent, sendStart_notes]
  same service := if_neg (by simp [not_begins_self])

end Service

variable {exchange : Exchange} {uniId serialNumber : String} {olt : Olt}

variable {uni : UniPort}

theorem UniPort.restart_of_asked (asks : uni.skips uniId = false ∧ uni.operState = .up) :
    uni.restart exchange uniId = (visitAll (Service.restart exchange uni.id) uni.services).map
      fun services => { uni with services := services } := by
  rw [restart, if_neg (by simp [asks.1]), if_neg (not_not.mpr asks.2)]

theorem UniPort.restart_of_not_asked (passed : ¬ (uni.skips uniId = false ∧ uni.operState = .up)) :
    uni.restart exchange uniId = .pass uni := by
  rw [restart]
  by_cases skipped : uni.skips uniId = true
  · rw [if_pos skipped]
  · rw [if_neg skipped, if_pos fun up => passed ⟨by simpa using skipped, up⟩]

theorem UniPort.walks (exchange : Exchange) (uniId : String) :
    Walks (UniPort.restart exchange uniId) (UniPort.asked uniId) (Service.wantsStart exchange)
      Service.isServed where
  finished uni := by
    by_cases asks : uni.skips uniId = false ∧ uni.operState = .up
    · have services := (Service.walks exchange uni.id).visitAll.finished uni.services
      rw [List.flatMap_singleton'] at services
      rw [restart_of_asked asks, asked, if_pos asks]
      exact services
    · rw [restart_of_not_asked asks, asked, if_neg asks]
      simp [Visit.pass]
  unchanged uni := by
    by_cases asks : uni.skips uniId = false ∧ uni.operState = .up
    · have services := (Service.walks exchange uni.id).visitAll.unchanged uni.services
      rw [List.flatMap_singleton'] at services
      rw [restart_of_asked asks, asked, if_pos asks, ← services]
      exact ⟨fun same => congrArg UniPort.services same,
        fun same => congrArg (fun services => { uni with services := services }) same⟩
    · rw [restart_of_not_asked asks, asked, if_neg asks]
      simp [Visit.pass]

theorem UniPort.notes (exchange : Exchange) (uniId : String) :
    Notes (UniPort.restart exchange uniId) Service.started (UniPort.begun exchange) where
  notes uni := by
    by_cases asks : uni.skips uniId = false ∧ uni.operState = .up
    · rw [restart_of_asked asks]
      exact (Service.notes exchange uni.id).visitAll.notes uni.services
    · rw [restart_of_not_asked asks]
      exact ((Service.notes exchange uni.id).visitAll.same uni.services).symm
  same uni := (Service.notes exchange uni.id).visitAll.same uni.services

variable {onu : Onu}

/-- The ONU is changed where a service that takes the event is reached. -/
theorem Onu.restart_after : (onu.restart exchange uniId).after = onu ↔
    ∀ service, (onu.asked uniId).find? (Service.wantsStart exchange) = some service →
      service.isServed = false := by
  refine Iff.trans ?_ ((UniPort.walks exchange uniId).visitAll.unchanged onu.uniPorts)
  exact ⟨fun same => congrArg Onu.uniPorts same,
    fun same => congrArg (fun uniPorts => { onu with uniPorts := uniPorts }) same⟩

theorem Onu.restart_notes : (onu.restart exchange uniId).notes.filterMap Service.started =
    onu.begun exchange (onu.restart exchange uniId).after :=
  (UniPort.notes exchange uniId).visitAll.notes onu.uniPorts

/-- A UNI that is not asked is left as it was. -/
theorem Onu.restart_uniPorts {index : Nat} (present : onu.uniPorts[index]? = some uni)
    (skipped : uni.skips uniId = true) :
    (onu.restart exchange uniId).after.uniPorts[index]? = some uni := by
  have pairs := forall₂_visitAll (UniPort.restart exchange uniId) onu.uniPorts
  obtain ⟨inside, rfl⟩ := List.getElem?_eq_some_iff.mp present
  have bound := pairs.length_eq ▸ inside
  have pair := pairs.get inside bound
  have same : (onu.uniPorts[index].restart exchange uniId).after = onu.uniPorts[index] := by
    rw [UniPort.restart_of_not_asked (by simp [skipped])]
    rfl
  refine List.getElem?_eq_some_iff.mpr ⟨bound, ?_⟩
  rcases pair with left | had
  · exact left
  · exact had.trans same

/-- An answer without errors lists the services that took the event. -/
theorem Exchange.response_ok {notes : List RestartNote} {onuSn : String}
    (ok : (exchange.response onuSn notes).statusCode = .ok) :
    (exchange.response onuSn notes).message =
      exchange.report onuSn (notes.filterMap Service.started) := by
  unfold response at ok ⊢
  dsimp only at ok ⊢
  split at ok
  · next success =>
    rw [if_pos success]
    have plain : ∀ note ∈ notes, note.error = none := by
      intro note member
      have missing := List.filterMap_eq_nil_iff.mp success note member
      simpa using missing
    have keys : notes.filterMap Service.started = notes.map RestartNote.serviceKey := by
      rw [← List.filterMap_eq_map]
      refine List.filterMap_congr fun note member => ?_
      rw [Service.started, if_pos (plain note member)]
      rfl
    rw [keys]
  · cases ok

/-- The text is the id of some UNI as it is printed. -/
def IsUniId (text : String) : Prop := ∃ id : UInt32, text = toString id

theorem UniPort.skips_of_ne {id : UInt32} (differ : uni.id ≠ id) :
    uni.skips (toString id) = true := by
  have text : toString id = toString id.toNat := rfl
  have read := atoi_toString (id.toNat_lt.trans (by decide))
  have low : UInt32.ofInt (id.toNat : Int) = id := by
    have bound := id.toNat_lt
    rw [UInt32.ofInt, ← UInt32.toNat_inj, UInt32.toNat_ofNat']
    omega
  rw [skips, text, read]
  exact decide_eq_true ⟨toString_ne_empty _, low.symm ▸ differ⟩

namespace Olt

private theorem setOnu_self {position : Position} (present : olt.onuAt position = some onu) :
    olt.setOnu position onu = olt := by
  obtain ⟨pon, foundPon, present⟩ := Option.bind_eq_some_iff.mp present
  obtain ⟨inside, rfl⟩ := List.getElem?_eq_some_iff.mp present
  have pons : olt.pons.modify position.1
      (fun port => { port with onus := port.onus.set position.2 pon.onus[position.2] }) = olt.pons := by
    apply List.ext_getElem?
    intro index
    rw [List.getElem?_modify]
    by_cases same : position.1 = index
    · subst same
      simp [foundPon]
    · simp [same]
  rw [setOnu, pons]

/-- A request leaves the OLT as it was exactly if it starts nobody. -/
theorem restart_eq_self_iff :
    (olt.restart exchange serialNumber uniId).1 = olt ↔ olt.NobodyStarts exchange serialNumber uniId := by
  unfold restart NobodyStarts asked
  cases found : olt.onuBySerialText serialNumber with
  | none => simp
  | some pair =>
    obtain ⟨position, onu⟩ := pair
    have present := onuAt_of_onuBySerialText found
    dsimp only [Option.map_some, Option.getD_some]
    rw [← Onu.restart_after]
    constructor
    · intro same
      have after := olt.onuAt_setOnu position position (onu.restart exchange uniId).after
      rw [same, if_pos rfl, present] at after
      exact (Option.some.inj after).symm
    · intro same
      rw [same, setOnu_self present]

/-- The request with the id of a UNI leaves the services elsewhere as they were. -/
theorem restart_outside {place : ServicePlace} {service : Service} (isId : IsUniId uniId)
    (present : olt.serviceAt place = some service)
    (outside : ¬ olt.IsNamed serialNumber uniId place.onu place.uni) :
    (olt.restart exchange serialNumber uniId).1.serviceAt place = some service := by
  unfold restart
  cases found : olt.onuBySerialText serialNumber with
  | none => exact present
  | some pair =>
    obtain ⟨position, onu⟩ := pair
    obtain ⟨id, rfl⟩ := isId
    have here := onuAt_of_onuBySerialText found
    dsimp only
    rw [serviceAt, onuAt_setOnu]
    split
    · next same =>
      obtain ⟨holder, foundOnu, inside⟩ := Option.bind_eq_some_iff.mp present
      obtain ⟨uni, foundUni, listed⟩ := Option.bind_eq_some_iff.mp inside
      rw [same, here] at foundOnu
      obtain rfl := Option.some.inj foundOnu
      have other : uni.id ≠ id := by
        rintro rfl
        exact outside ⟨onu, uni, same ▸ found, foundUni, rfl⟩
      rw [here, Option.map_some, Option.bind_some,
        Onu.restart_uniPorts foundUni (UniPort.skips_of_ne other), Option.bind_some]
      exact listed
    · exact present

private theorem nobodyStarts_of_not_named (isId : IsUniId uniId)
    (nobody : ∀ position index, ¬ olt.IsNamed serialNumber uniId position index) :
    olt.NobodyStarts exchange serialNumber uniId := by
  have none : olt.asked serialNumber uniId = [] := by
    unfold asked
    cases found : olt.onuBySerialText serialNumber with
    | none => rfl
    | some pair =>
      obtain ⟨position, onu⟩ := pair
      obtain ⟨id, rfl⟩ := isId
      refine List.flatMap_eq_nil_iff.mpr fun uni member => ?_
      obtain ⟨index, present⟩ := List.mem_iff_getElem?.mp member
      have other : uni.id ≠ id := by
        rintro rfl
        exact nobody position index ⟨onu, uni, found, present, rfl⟩
      rw [UniPort.asked, if_neg (by simp [UniPort.skips_of_ne other])]
  intro service first
  rw [none] at first
  cases first

/-- The services that an answer lists are the ones whose exchange has begun. -/
theorem restart_reported {response : ApiResponse}
    (answered : (olt.restart exchange serialNumber uniId).2 = some response)
    (ok : response.statusCode = .ok) :
    ∃ position onu next, olt.onuBySerialText serialNumber = some (position, onu) ∧
      (olt.restart exchange serialNumber uniId).1.onuAt position = some next ∧
      response.message = exchange.report onu.sn (onu.begun exchange next) := by
  unfold restart at answered ⊢
  cases found : olt.onuBySerialText serialNumber with
  | none =>
    rw [found] at answered
    obtain rfl := Option.some.inj answered
    cases ok
  | some pair =>
    obtain ⟨position, onu⟩ := pair
    have present := onuAt_of_onuBySerialText found
    rw [found] at answered
    dsimp only at answered ⊢
    split at answered
    · obtain rfl := Option.some.inj answered
      refine ⟨position, onu, (onu.restart exchange uniId).after, rfl, ?_, ?_⟩
      · rw [onuAt_setOnu, if_pos rfl, present, Option.map_some]
      · rw [Exchange.response_ok ok, Onu.restart_notes]
    · cases answered

end Olt

/-- A request for one UNI keeps to it exactly if the text is an id as it is printed, or nobody is
started. -/
theorem restart_only_named_iff (exchange : Exchange) (olt : Olt) (serialNumber uniId : String) :
    OnlyNamedUni exchange olt serialNumber uniId ↔
      IsUniId uniId ∨ olt.NobodyStarts exchange serialNumber uniId := by
  constructor
  · intro only
    by_cases isId : IsUniId uniId
    · exact .inl isId
    · -- no UNI has the text, so nothing may have changed
      refine .inr (Olt.restart_eq_self_iff.mp (only.nobody ?_))
      rintro position index ⟨onu, uni, -, -, text⟩
      exact isId ⟨uni.id, text.symm⟩
  · intro condition
    refine ⟨fun place service present outside => ?_, fun nobody => ?_, fun response answered ok => ?_⟩
    · rcases condition with isId | idle
      · exact Olt.restart_outside isId present outside
      · rw [Olt.restart_eq_self_iff.mpr idle]
        exact present
    · rcases condition with isId | idle
      · exact Olt.restart_eq_self_iff.mpr (Olt.nobodyStarts_of_not_named isId nobody)
      · exact Olt.restart_eq_self_iff.mpr idle
    · exact Olt.restart_reported answered ok

/-- A service of UNI 0 that can be started. -/
def clientService : Service :=
  { Service.create 0 "hsia" [46, 0, 0, 1, 0, 0] 900 900 true true false 0 0 with
    internalState := .initialized, channel := .served, packetCh := .served }

def clientOlt : Olt where
  enablePerf := false
  flows := ∅
  gemPortIDs := ∅
  allocIDs := ∅
  pons := [⟨0, .enabled, [{ Onu.create 1 0 0 [0, 0, 0, 1] [⟨0, 257, 16, .up, [clientService], 1⟩] [] 10 with
    internalState := .enabled, channel := some {} }], .empty⟩]

theorem clientOlt_named {text : String} (named : clientOlt.IsNamed "BBSM00000001" text (0, 0) 0) :
    text = "0" := by
  obtain ⟨onu, uni, found, present, rfl⟩ := named
  have here := Olt.onuAt_of_onuBySerialText found
  cases here
  cases present
  rfl

/-- A text that is no number, and one whose low 32 bits are those of 0, start the exchange of UNI 0. -/
theorem strange_ids_start_first_uni :
    ¬ clientOlt.IsNamed "BBSM00000001" "abc" (0, 0) 0 ∧
      ¬ clientOlt.IsNamed "BBSM00000001" "4294967296" (0, 0) 0 ∧
      (clientOlt.serviceAt ⟨(0, 0), 0, 0⟩).map Service.eapolState = some .created ∧
      ["abc", "4294967296"].map (fun text =>
        ((clientOlt.restartEapol "BBSM00000001" text).1.serviceAt ⟨(0, 0), 0, 0⟩).map
          Service.eapolState) = [some .authStarted, some .authStarted] := by
  refine ⟨fun named => ?_, fun named => ?_, rfl, by decide +kernel⟩
  · exact absurd (clientOlt_named named) (by decide)
  · exact absurd (clientOlt_named named) (by decide)

end Bbsim.Devices
