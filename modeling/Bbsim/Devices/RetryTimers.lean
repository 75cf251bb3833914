import Bbsim.Devices.ServiceLocks

/-! Retry timers. Every accepted start event of the EAPOL or DHCP machine starts a loop that waits,
looks at the state and, unless the exchange has succeeded, fires the failure event and perhaps the
start event again. Attempts are numbered here, and a timer has the number of the attempt that
started it; the loop itself does not know its attempt.

An event runs under the event lock of its machine, so it is one step; what a timer does on expiry is
not under the lock, and is three steps. -/

namespace Bbsim.Devices

open Foundation

/-- What became of the last attempt of a machine. -/
inductive Attempt where
  /-- None was made since the service was created or disabled. -/
  | none
  | ongoing
  | succeeded
  | failed
deriving DecidableEq, Repr

def EapolState.attempt : EapolState → Attempt
  | .created => .none
  | .authStarted | .startSent | .responseIdentitySent | .responseChallengeSent => .ongoing
  | .responseSuccessReceived => .succeeded
  | .authFailed => .failed

def DhcpState.attempt : DhcpState → Attempt
  | .created => .none
  | .started | .discoverySent | .requestSent => .ongoing
  | .ackReceived => .succeeded
  | .failed => .failed

def Responder.failure : Responder → ServiceEvent
  | .eapol => .eapol .authFailed
  | .dhcp => .dhcp .failed

def Responder.success : Responder → ServiceEvent
  | .eapol => .eapol .responseSuccessReceived
  | .dhcp => .dhcp .ackReceived

inductive TimerPhase where
  | waiting
  /-- It saw an exchange that has not succeeded. -/
  | failing
  /-- The failure event is fired; `ended` if the machine accepted it. The code does not look at that. -/
  | restarting (ended : Bool)
deriving DecidableEq, Repr

/-- What a timer finds of its attempt. Without retry somebody else may have ended it. -/
def TimerPhase.Expects (retry : Bool) : TimerPhase → Attempt → Prop
  | .waiting, attempt | .failing, attempt =>
    attempt = .ongoing ∨ retry = false ∧ attempt ≠ .succeeded
  | .restarting ended, attempt => retry = true ∧ ended = true ∧ attempt = .failed

structure TimerSite where
  /-- `AuthRetry` and `DhcpRetry`. -/
  retry : Responder → Bool
  internalState : ServiceState
  eapolState : EapolState
  dhcpState : DhcpState
  /-- Accepted start events so far, which is the number of the current attempt. -/
  attempts : Responder → Nat
  timers : Responder → Nat → Option TimerPhase
  /-- A start event sends on a nil channel and never releases the event lock. -/
  stuck : Responder → Bool

inductive TimerStep where
  /-- A flow, the API, a loop or a packet fires an event. -/
  | event (event : ServiceEvent)
  | init
  | disable
  /-- The time is over, and the timer looks at the state. -/
  | expire (responder : Responder) (number : Nat)
  | fail (responder : Responder) (number : Nat)
  | restart (responder : Responder) (number : Nat)
  /-- The OLT is disabled. -/
  | cancel (responder : Responder) (number : Nat)
deriving DecidableEq, Repr

/-- The timer that takes a step. -/
def TimerStep.timer : TimerStep → Option (Responder × Nat)
  | .event _ | .init | .disable => none
  | .expire responder number | .fail responder number | .restart responder number
  | .cancel responder number => some (responder, number)

namespace TimerSite

def create (retry : Responder → Bool) : TimerSite where
  retry := retry
  internalState := .created
  eapolState := .created
  dhcpState := .created
  attempts := fun _ => 0
  timers := fun _ _ => none
  stuck := fun _ => false

def attempt (site : TimerSite) : Responder → Attempt
  | .eapol => site.eapolState.attempt
  | .dhcp => site.dhcpState.attempt

/-- The transition of an event, where the machine accepts it. -/
def fired (site : TimerSite) : ServiceEvent → Option TimerSite
  | .eapol event => (site.eapolState.after event).map fun state => { site with eapolState := state }
  | .dhcp event => (site.dhcpState.after event).map fun state => { site with dhcpState := state }

@[simps] def withTimer (site : TimerSite) (responder : Responder) (number : Nat)
    (phase : Option TimerPhase) : TimerSite :=
  { site with
    timers := Function.update site.timers responder
      (Function.update (site.timers responder) number phase) }

/-- The state is entered and the loop begins. -/
def begin (site : TimerSite) (responder : Responder) : TimerSite :=
  { site with attempts := Function.update site.attempts responder (site.attempts responder + 1) }
    |>.withTimer responder (site.attempts responder + 1) (some .waiting)

def halt (site : TimerSite) (responder : Responder) : TimerSite :=
  { site with stuck := Function.update site.stuck responder true }

/-- The start event. The channel is nil unless the service is initialized. -/
def start (site : TimerSite) (responder : Responder) : TimerSite :=
  match site.fired responder.start with
  | none => site
  | some started =>
    if site.internalState = .initialized then started.begin responder else site.halt responder

def reset (site : TimerSite) (state : ServiceState) : TimerSite :=
  { site with internalState := state, eapolState := .created, dhcpState := .created }

def step (site : TimerSite) : TimerStep → Option TimerSite
  | .event event =>
    if site.stuck event.responder then none
    else if event.isStart then some (site.start event.responder)
    else some ((site.fired event).getD site)
  | .init =>
    match site.internalState.after .init with
    | none => some site
    | some state => some { site with internalState := state }
  | .disable =>
    match site.internalState.after .disable with
    | none => some site
    | some state =>
      -- `SetState` waits for a callback that never ends
      if site.stuck .eapol ∨ site.stuck .dhcp then none else some (site.reset state)
  | .expire responder number =>
    if site.timers responder number = some .waiting then
      if site.attempt responder = .succeeded then some site
      else some (site.withTimer responder number (some .failing))
    else none
  | .fail responder number =>
    if site.timers responder number = some .failing ∧ site.stuck responder = false then
      let accepted := site.fired responder.failure
      some ((accepted.getD site).withTimer responder number
        (if site.retry responder then some (.restarting accepted.isSome) else none))
    else none
  | .restart responder number =>
    match site.timers responder number with
    | some (.restarting _) =>
      if site.stuck responder then none
      else some ((site.withTimer responder number none).start responder)
    | _ => none
  | .cancel responder number =>
    if site.timers responder number = some .waiting then
      some (site.withTimer responder number none)
    else none

/-- The machine of a responder is in the same state. -/
def SameMachine (site next : TimerSite) : Responder → Prop
  | .eapol => next.eapolState = site.eapolState
  | .dhcp => next.dhcpState = site.dhcpState

/-- A step changes the machine or begins an attempt. -/
def Touches (site next : TimerSite) (responder : Responder) : Prop :=
  ¬ site.SameMachine next responder ∨ next.attempts responder ≠ site.attempts responder

/-- The attempt is the last one, and goes on or has just been ended by its own timer. -/
def Current (site : TimerSite) (responder : Responder) (number : Nat) : Prop :=
  number = site.attempts responder ∧
    (site.attempt responder = .ongoing ∨
      site.attempt responder = .failed ∧
        site.timers responder number = some (.restarting true))

/-- A timer only touches its own attempt. -/
def OwnAttempt (site : TimerSite) (label : TimerStep) : Prop :=
  ∀ responder number, label.timer = some (responder, number) →
    ∀ next, site.step label = some next → ∀ other, site.Touches next other →
      other = responder ∧ site.Current responder number

/-- An attempt that succeeded has no timer. -/
def Quiet (site : TimerSite) : Prop :=
  ∀ responder, site.attempt responder = .succeeded →
    site.timers responder (site.attempts responder) = none

/-- No timer of the machine is running. -/
def Idle (site : TimerSite) (responder : Responder) : Prop :=
  ∀ number, site.timers responder number = none

/-- The events that are not to happen while a timer of the machine runs: a success, a start that the
service can begin and, with retry, a failure. -/
def Critical (site : TimerSite) (event : ServiceEvent) : Prop :=
  event = event.responder.success ∨
    event = event.responder.start ∧ site.internalState = .initialized ∨
    event = event.responder.failure ∧ site.retry event.responder = true

/-- While timers of a machine run, no other than a timer brings about a success or the start of another
attempt and, with retry, no other ends an attempt. -/
def Careful (site : TimerSite) : TimerStep → Prop
  | .event event =>
    site.Critical event → (site.fired event).isSome = true → site.Idle event.responder
  | .disable => (site.internalState.after .disable).isSome = true →
      ∀ responder, site.retry responder = true → site.Idle responder
  | _ => True

variable {site next : TimerSite} {responder : Responder}

theorem SameMachine.attempt (same : site.SameMachine next responder) :
    next.attempt responder = site.attempt responder := by
  cases responder with
  | eapol => exact congrArg EapolState.attempt same
  | dhcp => exact congrArg DhcpState.attempt same

theorem SameMachine.refl (site : TimerSite) (responder : Responder) :
    site.SameMachine site responder := by
  cases responder <;> rfl

private theorem sameMachine_withTimer (site : TimerSite) (responder other : Responder) (number : Nat)
    (phase : Option TimerPhase) : site.SameMachine (site.withTimer responder number phase) other := by
  cases other <;> rfl

@[simp] theorem attempt_withTimer (site : TimerSite) (responder other : Responder) (number : Nat)
    (phase : Option TimerPhase) :
    (site.withTimer responder number phase).attempt other = site.attempt other := by
  cases other <;> rfl

theorem timers_withTimer_self (site : TimerSite) (responder : Responder) (number : Nat)
    (phase : Option TimerPhase) :
    (site.withTimer responder number phase).timers responder number = phase := by
  simp

theorem timers_withTimer_of_ne {number other : Nat} (ne : other ≠ number) (phase : Option TimerPhase) :
    (site.withTimer responder number phase).timers responder other = site.timers responder other := by
  simp [ne]

variable {other : Responder}

theorem timers_withTimer_other (ne : other ≠ responder) (number : Nat) (phase : Option TimerPhase) :
    (site.withTimer responder number phase).timers other = site.timers other := by
  funext
  simp [ne]

/-- An event changes the state of one machine and nothing else. -/
structure Fired (site next : TimerSite) (responder : Responder) : Prop where
  retry : next.retry = site.retry
  internalState : next.internalState = site.internalState
  attempts : next.attempts = site.attempts
  timers : next.timers = site.timers
  stuck : next.stuck = site.stuck
  other : ∀ other, other ≠ responder → site.SameMachine next other

variable {event : ServiceEvent}

theorem fired_frame (accepted : site.fired event = some next) :
    Fired site next event.responder := by
  cases event with
  | eapol event =>
    obtain ⟨state, -, rfl⟩ := Option.map_eq_some_iff.mp accepted
    refine ⟨rfl, rfl, rfl, rfl, rfl, fun other ne => ?_⟩
    cases other with
    | eapol => exact absurd rfl ne
    | dhcp => rfl
  | dhcp event =>
    obtain ⟨state, -, rfl⟩ := Option.map_eq_some_iff.mp accepted
    refine ⟨rfl, rfl, rfl, rfl, rfl, fun other ne => ?_⟩
    cases other with
    | eapol => rfl
    | dhcp => exact absurd rfl ne

def started (site : TimerSite) : Responder → TimerSite
  | .eapol => { site with eapolState := .authStarted }
  | .dhcp => { site with dhcpState := .started }

def failed (site : TimerSite) : Responder → TimerSite
  | .eapol => { site with eapolState := .authFailed }
  | .dhcp => { site with dhcpState := .failed }

/-- A start event is accepted unless an attempt goes on. -/
theorem fired_start (site : TimerSite) (responder : Responder) :
    site.fired responder.start =
      if site.attempt responder = .ongoing then none else some (site.started responder) := by
  cases responder with
  | eapol => cases state : site.eapolState <;> simp only [fired, Responder.start, attempt, state] <;> rfl
  | dhcp => cases state : site.dhcpState <;> simp only [fired, Responder.start, attempt, state] <;> rfl

/-- The failure event is accepted while an attempt goes on. -/
theorem fired_failure (site : TimerSite) (responder : Responder) :
    site.fired responder.failure =
      if site.attempt responder = .ongoing then some (site.failed responder) else none := by
  cases responder with
  | eapol =>
    cases state : site.eapolState <;> simp only [fired, Responder.failure, attempt, state] <;> rfl
  | dhcp =>
    cases state : site.dhcpState <;> simp only [fired, Responder.failure, attempt, state] <;> rfl

theorem started_frame (site : TimerSite) (responder : Responder) :
    Fired site (site.started responder) responder := by
  cases responder with
  | eapol | dhcp =>
    exact ⟨rfl, rfl, rfl, rfl, rfl, fun other ne => by cases other <;> first | rfl | contradiction⟩

theorem failed_frame (site : TimerSite) (responder : Responder) :
    Fired site (site.failed responder) responder := by
  cases responder with
  | eapol | dhcp =>
    exact ⟨rfl, rfl, rfl, rfl, rfl, fun other ne => by cases other <;> first | rfl | contradiction⟩

@[simp] theorem attempt_started (site : TimerSite) (responder : Responder) :
    (site.started responder).attempt responder = .ongoing := by
  cases responder <;> rfl

@[simp] theorem attempt_failed (site : TimerSite) (responder : Responder) :
    (site.failed responder).attempt responder = .failed := by
  cases responder <;> rfl

theorem start_of_ongoing (ongoing : site.attempt responder = .ongoing) :
    site.start responder = site := by
  rw [start, fired_start, if_pos ongoing]

theorem start_of_closed (finished : site.attempt responder ≠ .ongoing)
    (closed : site.internalState ≠ .initialized) : site.start responder = site.halt responder := by
  rw [start, fired_start, if_neg finished]
  exact if_neg closed

theorem start_of_open (finished : site.attempt responder ≠ .ongoing)
    (opened : site.internalState = .initialized) :
    site.start responder = (site.started responder).begin responder := by
  rw [start, fired_start, if_neg finished]
  exact if_pos opened

/-- All timers of the machine belong to its last attempt, which is as they expect. -/
def Owned (site : TimerSite) (responder : Responder) : Prop :=
  ∀ number phase, site.timers responder number = some phase →
    number = site.attempts responder ∧
      phase.Expects (site.retry responder) (site.attempt responder)

theorem Owned.of_same (owned : site.Owned responder)
    (retry : next.retry responder = site.retry responder)
    (timers : next.timers responder = site.timers responder)
    (attempt : next.attempt responder = site.attempt responder)
    (attempts : next.attempts responder = site.attempts responder) : next.Owned responder := by
  intro number phase running
  rw [timers] at running
  rw [attempt, attempts, retry]
  exact owned number phase running

theorem owned_of_idle (idle : site.Idle responder) : site.Owned responder := by
  intro number phase running
  rw [idle number] at running
  cases running

/-- A machine without timers begins an attempt. -/
theorem owned_begin (idle : site.Idle responder) (ongoing : site.attempt responder = .ongoing) :
    (site.begin responder).Owned responder := by
  intro number phase running
  by_cases fresh : number = site.attempts responder + 1
  · subst fresh
    rw [begin, timers_withTimer_self] at running
    obtain rfl := Option.some.inj running
    refine ⟨by simp [begin], .inl ?_⟩
    rw [← ongoing]
    cases responder <;> rfl
  · rw [begin, timers_withTimer_of_ne fresh] at running
    change site.timers responder number = some phase at running
    rw [idle] at running
    cases running

/-- The other machine is not touched by a start. -/
theorem start_other {other : Responder} (ne : other ≠ responder) :
    (site.start responder).retry = site.retry ∧
      (site.start responder).timers other = site.timers other ∧
      site.SameMachine (site.start responder) other ∧
      (site.start responder).attempts other = site.attempts other := by
  by_cases ongoing : site.attempt responder = .ongoing
  · rw [start_of_ongoing ongoing]
    exact ⟨rfl, rfl, .refl site other, rfl⟩
  · by_cases opened : site.internalState = .initialized
    · rw [start_of_open ongoing opened]
      have frame := started_frame site responder
      refine ⟨frame.retry, ?_, ?_, ?_⟩
      · rw [begin, timers_withTimer_other ne]
        exact congrFun frame.timers other
      · have same := frame.other other ne
        cases other <;> exact same
      · simp [begin, ne, frame.attempts]
    · rw [start_of_closed ongoing opened]
      exact ⟨rfl, rfl, by cases other <;> rfl, rfl⟩

/-- A start leaves the timers as they are, or begins an attempt of a service that is open. -/
theorem owned_start (owned : site.Owned responder)
    (idle : site.attempt responder ≠ .ongoing → site.internalState = .initialized →
      site.Idle responder) : (site.start responder).Owned responder := by
  by_cases ongoing : site.attempt responder = .ongoing
  · rwa [start_of_ongoing ongoing]
  · by_cases opened : site.internalState = .initialized
    · rw [start_of_open ongoing opened]
      refine owned_begin (fun number => ?_) (attempt_started site responder)
      rw [(started_frame site responder).timers]
      exact idle ongoing opened number
    · rw [start_of_closed ongoing opened]
      exact owned.of_same rfl rfl (by cases responder <;> rfl) rfl

theorem Owned.start_other (owned : site.Owned responder) {other : Responder}
    (ne : responder ≠ other) : (site.start other).Owned responder := by
  obtain ⟨retry, timers, same, attempts⟩ := TimerSite.start_other ne
  exact owned.of_same (congrFun retry responder) timers same.attempt attempts

/-- A timer step of the other machine. -/
theorem Owned.withTimer_other (owned : site.Owned responder) (ne : responder ≠ other)
    (number : Nat) (phase : Option TimerPhase) :
    (site.withTimer other number phase).Owned responder :=
  owned.of_same rfl (timers_withTimer_other ne number phase) (attempt_withTimer ..) rfl

variable {number : Nat}

/-- The one timer that the machine can have goes on or ends. -/
theorem owned_withTimer (phase : Option TimerPhase)
    (others : ∀ other, other ≠ number → site.timers responder other = none)
    (current : number = site.attempts responder)
    (expects : ∀ present, phase = some present →
      present.Expects (site.retry responder) (site.attempt responder)) :
    (site.withTimer responder number phase).Owned responder := by
  intro other present running
  rw [attempt_withTimer]
  by_cases same : other = number
  · subst same
    rw [timers_withTimer_self] at running
    exact ⟨current, expects present running⟩
  · rw [timers_withTimer_of_ne same, others other same] at running
    cases running

theorem Owned.others (owned : site.Owned responder) (current : number = site.attempts responder)
    {other : Nat} (ne : other ≠ number) :
    site.timers responder other = none := by
  cases running : site.timers responder other with
  | none => rfl
  | some phase => exact absurd ((owned other phase running).1.trans current.symm) ne

/-- Every other event of a machine comes while an attempt goes on, and lets it go on. -/
theorem fired_ongoing (accepted : site.fired event = some next) (notStart : event.isStart = false)
    (notSuccess : event ≠ event.responder.success) (notFailure : event ≠ event.responder.failure) :
    next.attempt event.responder = site.attempt event.responder := by
  cases event with
  | eapol event =>
    obtain ⟨state, moved, rfl⟩ := Option.map_eq_some_iff.mp accepted
    cases event <;> simp [ServiceEvent.isStart, Responder.success, Responder.failure,
      ServiceEvent.responder] at notStart notSuccess notFailure <;>
      cases present : site.eapolState <;> rw [present] at moved <;> cases moved <;>
      simp [attempt, present, ServiceEvent.responder, EapolState.attempt]
  | dhcp event =>
    obtain ⟨state, moved, rfl⟩ := Option.map_eq_some_iff.mp accepted
    cases event <;> simp [ServiceEvent.isStart, Responder.success, Responder.failure,
      ServiceEvent.responder] at notStart notSuccess notFailure <;>
      cases present : site.dhcpState <;> rw [present] at moved <;> cases moved <;>
      simp [attempt, present, ServiceEvent.responder, DhcpState.attempt]

/-- A failure that is not the doing of a timer leaves a timer without retry behind. -/
theorem Owned.failed (owned : site.Owned responder) (noRetry : site.retry responder = false) :
    (site.failed responder).Owned responder := by
  have frame := failed_frame site responder
  intro number phase running
  rw [frame.timers] at running
  obtain ⟨current, expects⟩ := owned number phase running
  rw [frame.attempts, frame.retry, attempt_failed]
  refine ⟨current, ?_⟩
  cases phase with
  | waiting | failing => exact .inr ⟨noRetry, by decide⟩
  | restarting ended => cases noRetry.symm.trans expects.1

theorem eq_start_of_isStart (starts : event.isStart = true) : event = event.responder.start := by
  rcases of_decide_eq_true starts with rfl | rfl <;> rfl

private theorem fired_event_owned (owned : site.Owned event.responder)
    (careful : site.Careful (.event event)) (notStart : event.isStart = false)
    (accepted : site.fired event = some next) : next.Owned event.responder := by
  have frame := fired_frame accepted
  have fires : (site.fired event).isSome = true := Option.isSome_of_eq_some accepted
  have none (critical : site.Critical event) : next.Owned event.responder := by
    refine owned_of_idle fun number => ?_
    rw [frame.timers]
    exact careful critical fires number
  by_cases success : event = event.responder.success
  · exact none (.inl success)
  by_cases failure : event = event.responder.failure
  · cases retry : site.retry event.responder with
    | true => exact none (.inr (.inr ⟨failure, retry⟩))
    | false =>
      rw [failure, fired_failure] at accepted
      obtain ⟨-, same⟩ := Option.ite_none_right_eq_some.mp accepted
      obtain rfl := Option.some.inj same
      exact owned.failed retry
  · exact owned.of_same (congrFun frame.retry _) (congrFun frame.timers _)
      (fired_ongoing accepted notStart success failure) (congrFun frame.attempts _)

private theorem event_owned (owned : site.Owned responder) (careful : site.Careful (.event event))
    (taken : site.step (.event event) = some next) :
    next.Owned responder := by
  obtain ⟨-, answered⟩ := Option.ite_none_left_eq_some.mp taken
  split at answered
  · next starts =>
    obtain rfl := Option.some.inj answered
    by_cases same : responder = event.responder
    · subst same
      refine owned_start owned fun finished opened => ?_
      have start := eq_start_of_isStart starts
      refine careful (.inr (.inl ⟨start, opened⟩)) ?_
      rw [start, fired_start, if_neg finished]
      rfl
    · exact owned.start_other same
  · next other =>
    obtain rfl := Option.some.inj answered
    cases accepted : site.fired event with
    | none => exact owned
    | some next =>
      by_cases same : responder = event.responder
      · subst same
        exact fired_event_owned owned careful (Bool.eq_false_iff.mpr other) accepted
      · have frame := fired_frame accepted
        exact owned.of_same (congrFun frame.retry _) (congrFun frame.timers _)
          (frame.other responder same).attempt (congrFun frame.attempts _)

private theorem disable_owned (owned : site.Owned responder) (careful : site.Careful .disable)
    (taken : site.step .disable = some next) : next.Owned responder := by
  simp only [step] at taken
  split at taken
  · rwa [← Option.some.inj taken]
  · next state moved =>
    obtain ⟨-, answered⟩ := Option.ite_none_left_eq_some.mp taken
    obtain rfl := Option.some.inj answered
    cases retry : site.retry responder with
    | true => exact owned_of_idle (careful (Option.isSome_of_eq_some moved) responder retry)
    | false =>
      intro number phase running
      obtain ⟨current, expects⟩ := owned number phase running
      refine ⟨current, ?_⟩
      have disabled : (site.reset state).attempt responder = .none := by cases responder <;> rfl
      rw [disabled]
      cases phase with
      | waiting | failing => exact .inr ⟨retry, by decide⟩
      | restarting ended => cases retry.symm.trans expects.1

private theorem init_owned (owned : site.Owned responder) (taken : site.step .init = some next) :
    next.Owned responder := by
  simp only [step] at taken
  split at taken
  · rwa [← Option.some.inj taken]
  · rw [← Option.some.inj taken]
    exact owned.of_same rfl rfl (by cases responder <;> rfl) rfl

variable {acting : Responder}

private theorem expire_owned (owned : site.Owned responder)
    (taken : site.step (.expire acting number) = some next) : next.Owned responder := by
  obtain ⟨running, answered⟩ := Option.ite_none_right_eq_some.mp taken
  split at answered
  · rwa [← Option.some.inj answered]
  · obtain rfl := Option.some.inj answered
    by_cases same : responder = acting
    · subst same
      obtain ⟨current, expects⟩ := owned number _ running
      exact owned_withTimer _ (fun _ ne => owned.others current ne) current (by rintro _ ⟨⟩; exact expects)
    · exact owned.withTimer_other same number _

/-- The timer of the present attempt ends. -/
private theorem Owned.endTimer (owned : site.Owned responder)
    (current : responder = acting → number = site.attempts responder) :
    (site.withTimer acting number none).Owned responder := by
  by_cases same : responder = acting
  · subst same
    exact owned_withTimer none (fun _ ne => owned.others (current rfl) ne) (current rfl) nofun
  · exact owned.withTimer_other same number none

private theorem cancel_owned (owned : site.Owned responder)
    (taken : site.step (.cancel acting number) = some next) : next.Owned responder := by
  obtain ⟨running, answered⟩ := Option.ite_none_right_eq_some.mp taken
  obtain rfl := Option.some.inj answered
  refine owned.endTimer fun same => ?_
  subst same
  exact (owned number _ running).1

/-- The failure event of a timer is for its own attempt if that goes on, and is refused otherwise. -/
theorem fail_eq (owned : site.Owned acting) (taken : site.step (.fail acting number) = some next) :
    number = site.attempts acting ∧
      (site.attempt acting = .ongoing ∧ next = (site.failed acting).withTimer acting number
          (if site.retry acting then some (.restarting true) else none) ∨
        site.attempt acting ≠ .ongoing ∧ next = site.withTimer acting number none) := by
  obtain ⟨⟨running, -⟩, answered⟩ := Option.ite_none_right_eq_some.mp taken
  obtain ⟨current, expects⟩ := owned number _ running
  rw [fired_failure] at answered
  refine ⟨current, ?_⟩
  rcases expects with ongoing | ⟨noRetry, -⟩
  · rw [if_pos ongoing] at answered
    exact .inl ⟨ongoing, (Option.some.inj answered).symm⟩
  · by_cases ongoing : site.attempt acting = .ongoing
    · rw [if_pos ongoing] at answered
      exact .inl ⟨ongoing, (Option.some.inj answered).symm⟩
    · rw [if_neg ongoing, noRetry] at answered
      exact .inr ⟨ongoing, (Option.some.inj answered).symm⟩

private theorem fail_owned (all : ∀ other, site.Owned other)
    (taken : site.step (.fail acting number) = some next) : next.Owned responder := by
  obtain ⟨current, ⟨ongoing, rfl⟩ | ⟨-, rfl⟩⟩ := fail_eq (all acting) taken
  · have frame := failed_frame site acting
    by_cases same : responder = acting
    · subst same
      refine owned_withTimer _ (fun other ne => ?_) ?_ ?_
      · rw [frame.timers]
        exact (all responder).others current ne
      · rw [frame.attempts]
        exact current
      · intro present running
        rw [attempt_failed, frame.retry]
        obtain ⟨retry, same⟩ := Option.ite_none_right_eq_some.mp running
        obtain rfl := Option.some.inj same
        exact ⟨retry, rfl, rfl⟩
    · have kept : (site.failed acting).Owned responder :=
        (all responder).of_same (congrFun frame.retry _) (congrFun frame.timers _)
          (frame.other responder same).attempt (congrFun frame.attempts _)
      exact kept.withTimer_other same number _
  · refine (all responder).endTimer fun same => ?_
    rw [same, current]

/-- The start event of a timer that has failed its own attempt. -/
theorem restart_eq (owned : site.Owned acting)
    (taken : site.step (.restart acting number) = some next) :
    number = site.attempts acting ∧ site.attempt acting = .failed ∧
      site.timers acting number = some (.restarting true) ∧
        next = (site.withTimer acting number none).start acting := by
  simp only [step] at taken
  split at taken
  · next ended running =>
    obtain ⟨current, -, rfl, failed⟩ := owned number _ running
    obtain ⟨-, answered⟩ := Option.ite_none_left_eq_some.mp taken
    exact ⟨current, failed, running, (Option.some.inj answered).symm⟩
  · cases taken

private theorem restart_owned (all : ∀ other, site.Owned other)
    (taken : site.step (.restart acting number) = some next) : next.Owned responder := by
  obtain ⟨current, -, -, rfl⟩ := restart_eq (all acting) taken
  by_cases same : responder = acting
  · subst same
    have idle : (site.withTimer responder number none).Idle responder := by
      intro other
      by_cases own : other = number
      · rw [own, timers_withTimer_self]
      · rw [timers_withTimer_of_ne own]
        exact (all responder).others current own
    exact owned_start (owned_of_idle idle) fun _ _ => idle
  · exact ((all responder).withTimer_other same number none).start_other same

/-- Under the condition all timers belong to the last attempt of their machine. -/
theorem step_owned {label : TimerStep} (all : ∀ responder, site.Owned responder)
    (careful : site.Careful label) (taken : site.step label = some next) (responder : Responder) :
    next.Owned responder := by
  cases label with
  | event event => exact event_owned (all responder) careful taken
  | init => exact init_owned (all responder) taken
  | disable => exact disable_owned (all responder) careful taken
  | expire acting number => exact expire_owned (all responder) taken
  | fail acting number => exact fail_owned all taken
  | restart acting number => exact restart_owned all taken
  | cancel acting number => exact cancel_owned (all responder) taken

private theorem not_touches_withTimer (site : TimerSite) (responder other : Responder) (number : Nat)
    (phase : Option TimerPhase) : ¬ site.Touches (site.withTimer responder number phase) other :=
  not_or.mpr ⟨not_not.mpr (sameMachine_withTimer ..), not_not.mpr rfl⟩

private theorem ownAttempt_of_owned (all : ∀ responder, site.Owned responder) (label : TimerStep) :
    site.OwnAttempt label := by
  rintro responder number acting next taken other touched
  cases label with
  | event event | init | disable => cases acting
  | expire expired which =>
    obtain ⟨-, answered⟩ := Option.ite_none_right_eq_some.mp taken
    split at answered <;> obtain rfl := Option.some.inj answered
    · rcases touched with changed | begun
      · exact absurd (SameMachine.refl site other) changed
      · exact absurd rfl begun
    · exact (not_touches_withTimer _ _ _ _ _ touched).elim
  | cancel cancelled which =>
    obtain ⟨-, answered⟩ := Option.ite_none_right_eq_some.mp taken
    obtain rfl := Option.some.inj answered
    exact (not_touches_withTimer _ _ _ _ _ touched).elim
  | fail failing which =>
    obtain ⟨rfl, rfl⟩ := Prod.mk.inj (Option.some.inj acting)
    obtain ⟨current, ⟨ongoing, rfl⟩ | ⟨-, rfl⟩⟩ := fail_eq (all failing) taken
    · have frame := failed_frame site failing
      refine ⟨?_, current, .inl ongoing⟩
      by_contra ne
      rcases touched with changed | begun
      · have same := frame.other other ne
        exact changed (by cases other <;> exact same)
      · exact begun (congrFun frame.attempts other)
    · exact (not_touches_withTimer _ _ _ _ _ touched).elim
  | restart restarting which =>
    obtain ⟨rfl, rfl⟩ := Prod.mk.inj (Option.some.inj acting)
    obtain ⟨current, failed, running, rfl⟩ := restart_eq (all restarting) taken
    refine ⟨?_, current, .inr ⟨failed, running⟩⟩
    by_contra ne
    obtain ⟨-, -, same, attempts⟩ :=
      @start_other (site.withTimer restarting which none) restarting other ne
    rcases touched with changed | begun
    · exact changed (by cases other <;> exact same)
    · exact begun attempts

private theorem quiet_of_owned (all : ∀ responder, site.Owned responder) : site.Quiet := by
  intro responder succeeded
  cases running : site.timers responder (site.attempts responder) with
  | none => rfl
  | some phase =>
    obtain ⟨-, expects⟩ := all responder _ phase running
    rw [succeeded] at expects
    cases phase <;> simp [TimerPhase.Expects] at expects

private theorem owned_create (retry : Responder → Bool) (responder : Responder) :
    (create retry).Owned responder := owned_of_idle fun _ => rfl

/-- A timer that has looked at an attempt of somebody else ends it. -/
theorem not_ownAttempt_of_stale (failing : site.timers responder number = some .failing)
    (free : site.stuck responder = false) (ongoing : site.attempt responder = .ongoing)
    (stale : number ≠ site.attempts responder) :
    ¬ site.OwnAttempt (.fail responder number) := by
  intro own
  have taken : site.step (.fail responder number) = some _ := if_pos ⟨failing, free⟩
  rw [fired_failure, if_pos ongoing] at taken
  refine stale (own responder number rfl _ taken responder (.inl fun same => ?_)).2.1
  have kept := same.attempt
  rw [attempt_withTimer, Option.getD_some, attempt_failed, ongoing] at kept
  cases kept

/-- Only DHCP is retried. -/
def dhcpRetry : Responder → Bool
  | .eapol => false
  | .dhcp => true

/-- An authentication that succeeds. -/
def authenticated : List TimerStep :=
  [.init, .event (.eapol .startAuth), .event (.eapol .startSent), .event (.eapol .responseIdentitySent),
    .event (.eapol .responseChallengeSent), .event (.eapol .responseSuccessReceived)]

end TimerSite

end Bbsim.Devices
