import Bbsim.Foundation.Run
import Bbsim.Devices.Subscriber
import Bbsim.Responders.Md5

/-! The order of an EAPOL exchange. The EAPOL client of a service, step by step, with a log of what
it received and sent. Packets come in any order and any packet may fail to be sent; a timer may
expire at any time. -/

namespace Bbsim.Devices

open Foundation Responders

/-- What the client did in one step. -/
inductive EapolEntry where
  /-- An accepted `start_auth`, with the Start packet if it could be sent. -/
  | started (sent : Option PacketIndication)
  | received (eap : Eap) (sent : Option PacketIndication)

structure EapolSite where
  subscriber : Subscriber
  /-- Oldest first. -/
  log : List EapolEntry

inductive EapolStep where
  | startAuth (sends : Bool)
  /-- An EAP packet comes in, in a message with these ids. -/
  | receive (intfId onuId : UInt32) (sends : Bool) (eap : Eap)
  /-- The timer of some attempt expires. -/
  | expire (authRetry sends : Bool)
  | init
  | disable
  /-- Flows, calls and the DHCP client leave the EAPOL machine and the channels alone. -/
  | others (subscriber : Subscriber)

namespace EapolSite

def state (site : EapolSite) : EapolState := site.subscriber.service.eapolState

def startAuth (site : EapolSite) (sends : Bool) : Option EapolSite :=
  (site.subscriber.startAuth sends).map fun (subscriber, sent) =>
    ⟨subscriber, site.log ++ (sent.map .started).toList⟩

def receive (site : EapolSite) (md5 : List UInt8 → List UInt8) (intfId onuId : UInt32) (sends : Bool)
    (eap : Eap) : Option EapolSite :=
  if site.subscriber.service.packetCh = .served then
    (site.subscriber.handleEapolPacket md5 intfId onuId sends ⟨some .eap, some eap⟩).toOption.map
      fun (subscriber, sent) => ⟨subscriber, site.log ++ [.received eap sent]⟩
  else none

def failed (site : EapolSite) : EapolSite :=
  { site with subscriber := site.subscriber.withEapol (Eapol.fire site.state .authFailed) }

/-- After a success the timer only starts again. -/
def expire (site : EapolSite) (authRetry sends : Bool) : Option EapolSite :=
  if site.state = .responseSuccessReceived then some site
  else if authRetry then site.failed.startAuth sends
  else some site.failed

def withService (site : EapolSite) (service : Service) : EapolSite :=
  { site with subscriber := { site.subscriber with service := service } }

def adopt (site : EapolSite) (subscriber : Subscriber) : EapolSite :=
  { site with
    subscriber := { subscriber with
      service := { subscriber.service with
        internalState := site.subscriber.service.internalState
        eapolState := site.subscriber.service.eapolState
        channel := site.subscriber.service.channel
        packetCh := site.subscriber.service.packetCh } } }

def step (md5 : List UInt8 → List UInt8) (site : EapolSite) : EapolStep → Option EapolSite
  | .startAuth sends => site.startAuth sends
  | .receive intfId onuId sends eap => site.receive md5 intfId onuId sends eap
  | .expire authRetry sends => site.expire authRetry sends
  | .init => some (site.withService site.subscriber.service.initService)
  | .disable => some (site.withService site.subscriber.service.disable)
  | .others subscriber => some (site.adopt subscriber)

end EapolSite

inductive EapolStage where
  | start
  | identityResponse
  | challengeResponse
deriving DecidableEq, Repr

/-- The part of an exchange that a packet is. -/
def eapolStage (indication : PacketIndication) : Option EapolStage :=
  match indication.frame.payload with
  | .eapol .start _ none => some .start
  | .eapol .eap _ (some { code := .response, type := .identity, .. }) => some .identityResponse
  | .eapol .eap _ (some { code := .response, type := .otp, .. }) => some .challengeResponse
  | _ => none

def eapolExchange : List (Option EapolStage) :=
  [some .start, some .identityResponse, some .challengeResponse]

namespace EapolEntry

/-- The stages of the packets sent since the last `start_auth`, after one more entry. -/
def track (stages : List (Option EapolStage)) : EapolEntry → List (Option EapolStage)
  | .started sent => sent.toList.map eapolStage
  | .received _ sent => stages ++ sent.toList.map eapolStage

/-- The stages of the packets sent since the last `start_auth`. -/
def stages (log : List EapolEntry) : List (Option EapolStage) := log.foldl track []

end EapolEntry

/-- The response is to the request: it repeats its type and its id. -/
def EapAnswers (request : Eap) (response : PacketIndication) : Prop :=
  request.code = .request ∧ ∃ length eap, response.frame.payload = .eapol .eap length (some eap) ∧
    eap.code = .response ∧ eap.type = request.type ∧ eap.id = request.id

inductive EapolMove (state : EapolState) : EapolState → Option EapolEntry → Prop where
  | same : EapolMove state state none
  /-- The attempt is over without success, or was over before. -/
  | ended {after : EapolState} (settled : after = .created ∨ after = .authFailed) :
      EapolMove state after none
  | started {start : PacketIndication} (first : eapolStage start = some .start) :
      EapolMove state .startSent (some (.started (some start)))
  | unsent : EapolMove state .authFailed (some (.started none))
  | ignored (eap : Eap) : EapolMove state state (some (.received eap none))
  | failed (eap : Eap) : EapolMove state .authFailed (some (.received eap none))
  | identity {eap : Eap} {response : PacketIndication} (expected : state = .startSent)
      (answers : EapAnswers eap response) (stage : eapolStage response = some .identityResponse) :
      EapolMove state .responseIdentitySent (some (.received eap (some response)))
  | challenge {eap : Eap} {response : PacketIndication} (expected : state = .responseIdentitySent)
      (answers : EapAnswers eap response) (stage : eapolStage response = some .challengeResponse) :
      EapolMove state .responseChallengeSent (some (.received eap (some response)))
  | success {eap : Eap} (expected : state = .responseChallengeSent) (code : eap.code = .success) :
      EapolMove state .responseSuccessReceived (some (.received eap none))

namespace EapolSite

variable {site next : EapolSite} {md5 : List UInt8 → List UInt8}

/-- A move of the client with its entry in the log. -/
def Moved (site next : EapolSite) : Prop :=
  ∃ entry, EapolMove site.state next.state entry ∧ next.log = site.log ++ entry.toList

theorem Moved.quiet (moved : EapolMove site.state next.state none) (same : next.log = site.log) :
    site.Moved next := ⟨none, moved, by simp [same]⟩

variable {sends : Bool}

theorem startAuth_moved (taken : site.startAuth sends = some next) : site.Moved next := by
  obtain ⟨⟨subscriber, sent⟩, answered, rfl⟩ := Option.map_eq_some_iff.mp taken
  unfold Subscriber.startAuth at answered
  split at answered
  · cases answered
    exact .quiet .same (by simp)
  · next started accepted =>
    obtain ⟨-, answered⟩ := Option.ite_none_right_eq_some.mp answered
    cases answered
    obtain rfl : started = .authStarted := by
      cases before : site.subscriber.service.eapolState <;> rw [before] at accepted <;>
        cases accepted <;> rfl
    cases sends with
    | true => exact ⟨_, .started rfl, rfl⟩
    | false => exact ⟨_, .unsent, rfl⟩

/-- A packet that is dropped is not answered. -/
theorem drop_cases (state : EapolState) : Eapol.drop state = state ∨ Eapol.drop state = .authFailed := by
  cases state <;> first | exact .inl rfl | exact .inr rfl

theorem fire_authFailed_cases (state : EapolState) :
    Eapol.fire state .authFailed = state ∨ Eapol.fire state .authFailed = .authFailed := by
  cases state <;> first | exact .inl rfl | exact .inr rfl

private theorem dropped_moved (state : EapolState) (eap : Eap) :
    EapolMove state (Eapol.drop state) (some (.received eap none)) := by
  rcases drop_cases state with kept | failed
  · rw [kept]
    exact .ignored eap
  · rw [failed]
    exact .failed eap

variable {sent : Option PacketIndication} {state after : EapolState} {eap : Eap}

/-- What the responder does with a packet that does not bring it down. -/
theorem handleEap_moved {caller : Eapol.Caller}
    (handled : Eapol.handleEap md5 caller state sends eap = .ok (after, sent)) :
    EapolMove state after (some (.received eap sent)) := by
  unfold Eapol.handleEap at handled
  split at handled
  · next code type =>
    split at handled
    · next expected =>
      subst expected
      obtain ⟨rfl, rfl⟩ := Prod.mk.inj (Except.ok.inj handled)
      cases sends with
      | true => exact .identity rfl ⟨code, _, _, rfl, rfl, type.symm, rfl⟩ rfl
      | false => exact .failed eap
    · cases handled
      exact dropped_moved state eap
  · cases data : Eapol.getMD5Data md5 eap <;> rw [data] at handled <;> cases handled
  · next code type =>
    split at handled
    · next expected =>
      subst expected
      cases data : Eapol.getMD5Data md5 eap with
      | error fault => rw [data] at handled; cases handled
      | ok bytes =>
        rw [data] at handled
        obtain ⟨rfl, rfl⟩ := Prod.mk.inj (Except.ok.inj handled)
        cases sends with
        | true => exact .challenge rfl ⟨code, _, _, rfl, rfl, type.symm, rfl⟩ rfl
        | false => exact .failed eap
    · cases handled
      exact dropped_moved state eap
  · cases handled
  · next code type =>
    split at handled
    · next expected =>
      subst expected
      cases handled
      exact .success rfl code
    · cases handled
      exact dropped_moved state eap
  · cases handled
    exact .ignored eap

variable {intfId onuId : UInt32}

private theorem handleEapolPacket_eq_ok {subscriber after : Subscriber}
    (returned : subscriber.handleEapolPacket md5 intfId onuId sends ⟨some .eap, some eap⟩ =
      .ok (after, sent)) :
    ∃ state, Eapol.handleEap md5 (subscriber.eapolCaller intfId onuId) subscriber.service.eapolState
      sends eap = .ok (state, sent) ∧ after = subscriber.withEapol state := by
  rw [Subscriber.handleEapolPacket, Eapol.handleNextPacket_eap] at returned
  cases outcome : Eapol.handleEap md5 (subscriber.eapolCaller intfId onuId)
      subscriber.service.eapolState sends eap with
  | error fault =>
    rw [outcome] at returned
    cases returned
  | ok answer =>
    rw [outcome] at returned
    cases returned
    exact ⟨answer.1, rfl, rfl⟩

private theorem receive_moved (taken : site.receive md5 intfId onuId sends eap = some next) :
    site.Moved next := by
  obtain ⟨-, received⟩ := Option.ite_none_right_eq_some.mp taken
  obtain ⟨⟨subscriber, sent⟩, answered, rfl⟩ := Option.map_eq_some_iff.mp received
  obtain ⟨after, handled, rfl⟩ := handleEapolPacket_eq_ok (eq_ok_of_toOption answered)
  exact ⟨_, handleEap_moved handled, rfl⟩

/-- A retry begins where the timer left the machine. -/
theorem Moved.of_failed (moved : site.failed.Moved next) : site.Moved next := by
  obtain ⟨entry, move, log⟩ := moved
  refine ⟨entry, ?_, log⟩
  rcases fire_authFailed_cases site.state with kept | failed
  · exact kept ▸ move
  · change EapolMove (Eapol.fire site.state .authFailed) _ _ at move
    rw [failed] at move
    generalize next.state = after at move ⊢
    cases move with
    | same => exact .ended (.inr rfl)
    | ended settled => exact .ended settled
    | started first => exact .started first
    | unsent => exact .unsent
    | ignored eap | failed eap => exact .failed eap
    | identity expected answers stage | challenge expected answers stage | success expected code =>
      cases expected

theorem expire_moved {authRetry sends : Bool} (taken : site.expire authRetry sends = some next) :
    site.Moved next := by
  unfold expire at taken
  split at taken
  · obtain rfl := Option.some.inj taken
    exact .quiet .same rfl
  · split at taken
    · exact .of_failed (startAuth_moved taken)
    · obtain rfl := Option.some.inj taken
      refine .quiet ?_ rfl
      change EapolMove _ (Eapol.fire site.state .authFailed) none
      rcases fire_authFailed_cases site.state with kept | failed
      · rw [kept]
        exact .same
      · exact .ended (.inr failed)

theorem step_moved {label : EapolStep} (taken : site.step md5 label = some next) :
    site.Moved next := by
  cases label with
  | startAuth sends => exact startAuth_moved taken
  | receive intfId onuId sends eap => exact receive_moved taken
  | expire authRetry sends => exact expire_moved taken
  | init =>
    obtain rfl := Option.some.inj taken
    refine .quiet ?_ rfl
    change EapolMove _ site.subscriber.service.initService.eapolState none
    unfold Service.initService
    split
    · exact .same
    · exact .same
  | disable =>
    obtain rfl := Option.some.inj taken
    refine .quiet ?_ rfl
    change EapolMove _ site.subscriber.service.disable.eapolState none
    unfold Service.disable
    split
    · exact .same
    · exact .ended (.inl rfl)
  | others subscriber =>
    obtain rfl := Option.some.inj taken
    exact .quiet .same rfl

/-- How far the packets sent since the last `start_auth` have come, by the state of the client. -/
def Tracks (stages : List (Option EapolStage)) : EapolState → Prop
  | .created | .authFailed | .responseSuccessReceived => stages <+: eapolExchange
  -- only inside a step
  | .authStarted => False
  | .startSent => stages = [some .start]
  | .responseIdentitySent => stages = [some .start, some .identityResponse]
  | .responseChallengeSent => stages = eapolExchange

variable {stages : List (Option EapolStage)}

theorem Tracks.isPrefix {state : EapolState} (tracks : Tracks stages state) :
    stages <+: eapolExchange := by
  cases state with
  | created | authFailed | responseSuccessReceived => exact tracks
  | authStarted => exact tracks.elim
  | startSent | responseIdentitySent => exact tracks ▸ ⟨_, rfl⟩
  | responseChallengeSent => exact tracks ▸ List.prefix_refl _

theorem Tracks.move {entry : Option EapolEntry} (tracks : Tracks stages state)
    (move : EapolMove state after entry) :
    Tracks (entry.toList.foldl EapolEntry.track stages) after := by
  cases move with
  | same => exact tracks
  | ended settled => rcases settled with rfl | rfl <;> exact tracks.isPrefix
  | started first => simp [Tracks, EapolEntry.track, first]
  | unsent => exact ⟨eapolExchange, rfl⟩
  | ignored eap => simpa [EapolEntry.track] using tracks
  | failed eap => simpa [EapolEntry.track, Tracks] using tracks.isPrefix
  | identity expected answers stage =>
    subst expected
    obtain rfl : stages = [some .start] := tracks
    simp [EapolEntry.track, stage, Tracks]
  | challenge expected answers stage =>
    subst expected
    obtain rfl : stages = [some .start, some .identityResponse] := tracks
    simp [EapolEntry.track, stage, Tracks, eapolExchange]
  | success expected code =>
    subst expected
    simpa [EapolEntry.track, Tracks] using tracks.isPrefix

/-- What the log of a client says at any time. -/
structure Ordered (site : EapolSite) : Prop where
  tracks : Tracks (EapolEntry.stages site.log) site.state
  answers : ∀ request response, .received request (some response) ∈ site.log →
    EapAnswers request response

theorem Ordered.moved (ordered : site.Ordered) (moved : site.Moved next) : next.Ordered := by
  obtain ⟨entry, move, log⟩ := moved
  constructor
  · rw [EapolEntry.stages, log, List.foldl_append]
    exact ordered.tracks.move move
  · intro request response member
    rw [log, List.mem_append] at member
    rcases member with old | fresh
    · exact ordered.answers request response old
    · obtain rfl := Option.mem_toList.mp fresh
      generalize next.state = after at move
      cases move with
      | identity expected answers stage | challenge expected answers stage => exact answers

private theorem run_ordered {start : EapolSite} {history : List (EapolSite × EapolStep)}
    (initial : start.Ordered) (run : Run (step md5) start history site) : site.Ordered :=
  run.invariant_of_step initial fun _ _ _ ordered taken => ordered.moved (step_moved taken)

/-- A client that has not begun. -/
theorem ordered_created {subscriber : Subscriber} (created : subscriber.service.eapolState = .created) :
    Ordered ⟨subscriber, []⟩ := by
  constructor
  · change Tracks _ subscriber.service.eapolState
    rw [created]
    exact List.nil_prefix
  · intro request response member
    exact absurd member List.not_mem_nil

/-- In every run of a client, what it sent since its last `start_auth` is the beginning of Start,
Identity Response, Challenge Response; every response is to the request just received; and a step that
reaches success receives an EAP Success after all three were sent. -/
theorem eapol_exchange_order {subscriber : Subscriber} {history : List (EapolSite × EapolStep)}
    (created : subscriber.service.eapolState = .created)
    (run : Run (step md5) ⟨subscriber, []⟩ history site) :
    EapolEntry.stages site.log <+: eapolExchange ∧
    (∀ request response, .received request (some response) ∈ site.log →
      EapAnswers request response) ∧
    ∀ label next, site.step md5 label = some next → next.state = .responseSuccessReceived →
      site.state ≠ .responseSuccessReceived →
        EapolEntry.stages site.log = eapolExchange ∧
          ∃ eap, next.log = site.log ++ [.received eap none] ∧ eap.code = .success := by
  have ordered := run_ordered (ordered_created created) run
  refine ⟨ordered.tracks.isPrefix, ordered.answers, ?_⟩
  intro label next taken entered before
  obtain ⟨entry, move, log⟩ := step_moved taken
  rw [entered] at move
  generalize reached : EapolState.responseSuccessReceived = after at move
  cases move with
  | same | ignored eap => exact absurd reached.symm before
  | ended settled => subst reached; simp at settled
  | success expected code =>
    have tracks := ordered.tracks
    rw [expected] at tracks
    exact ⟨tracks, _, log, code⟩
  | _ => cases reached

/-- A server that asks for the identity, challenges and accepts. -/
def authentication : List EapolStep := [
  .init,
  .startAuth true,
  .receive 0 1 true ⟨.request, 7, 5, .identity, [], [1, 7, 0, 5, 1]⟩,
  .receive 0 1 true ⟨.request, 8, 6, .otp, [0], [1, 8, 0, 6, 4, 0]⟩,
  .receive 0 1 true ⟨.success, 9, 4, .none, [], [3, 9, 0, 4]⟩]

theorem eapol_exchange_completed : ∃ history site,
    Run (step Responders.md5) ⟨.fresh, []⟩ history site ∧ site.state = .responseSuccessReceived ∧
      EapolEntry.stages site.log <+: eapolExchange := by
  obtain ⟨history, site, run, reached⟩ := run_of_replay (step Responders.md5) ⟨.fresh, []⟩ authentication
    (fun site => site.state = .responseSuccessReceived) (by decide)
  exact ⟨history, site, run, reached, (eapol_exchange_order rfl run).1⟩

end EapolSite

end Bbsim.Devices
