import Mathlib.Logic.Function.Basic
import Bbsim.Foundation.Run
import Bbsim.Devices.StateMachines

/-! Locks and channels of a service. An event of a state machine runs under the event lock of the
machine, callbacks included. The start events of the EAPOL and DHCP machines send to the service's
`HandleChannel` loop from a callback, over an unbuffered channel, and that loop fires events on the
same machines. `Disable` resets both machines, which waits for a callback in progress, and then
closes the channel. -/

namespace Bbsim.Devices

open Foundation

inductive Responder where
  | eapol
  | dhcp
deriving DecidableEq, Repr

inductive ServiceEvent where
  | eapol (event : EapolEvent)
  | dhcp (event : DhcpEvent)
deriving DecidableEq, Repr

namespace ServiceEvent

def responder : ServiceEvent → Responder
  | .eapol _ => .eapol
  | .dhcp _ => .dhcp

def isStart (event : ServiceEvent) : Bool := event = .eapol .startAuth ∨ event = .dhcp .start

end ServiceEvent

/-- How `HandleChannel` ends the handling of a start message. -/
inductive Report where
  | sent
  | failed
deriving DecidableEq, Repr

namespace Responder

def start : Responder → ServiceEvent
  | .eapol => .eapol .startAuth
  | .dhcp => .dhcp .start

def report : Responder → Report → ServiceEvent
  | .eapol, .sent => .eapol .startSent
  | .eapol, .failed => .eapol .authFailed
  | .dhcp, .sent => .dhcp .discoverySent
  | .dhcp, .failed => .dhcp .failed

end Responder

/-- A start event that holds the event lock. -/
inductive Starter where
  /-- In the callback before the transition, on the channel it found there. -/
  | sending (channel : Option Nat)
  /-- The message is taken, the transition follows. -/
  | sent
deriving DecidableEq, Repr

/-- Where the `HandleChannel` loop of the present channel stands. -/
inductive ChannelLoop where
  | ready
  /-- In `SendEapStart` or `SendDHCPDiscovery`, before the packet is out. -/
  | sending (responder : Responder)
  /-- About to fire an event, and these after it. -/
  | firing (responder : Responder) (report : Report) (rest : List Report)
deriving DecidableEq, Repr

/-- The machine a loop works for. -/
def ChannelLoop.responder? : ChannelLoop → Option Responder
  | .ready => none
  | .sending responder => some responder
  | .firing responder _ _ => some responder

/-- The callback of the service's own machine that is in progress. -/
inductive ServiceCallback where
  | none
  | opening
  | resetEapol
  | resetDhcp
  | closing
deriving DecidableEq, Repr

structure ServiceSite where
  internalState : ServiceState
  callback : ServiceCallback
  eapolState : EapolState
  dhcpState : DhcpState
  starter : Responder → Option Starter
  /-- Channels made so far; a channel's number is how many were made before it. -/
  channels : Nat
  channel : Option Nat
  loop : ChannelLoop

inductive ServiceStep where
  /-- A flow, the API or a retry timer fires the start event and gets the lock. -/
  | start (responder : Responder)
  /-- `HandleChannel` takes the message of the start event. -/
  | receive (responder : Responder)
  /-- The start event ends, with its transition. -/
  | finish (responder : Responder)
  /-- The packet of the handler is out, or could not be sent. -/
  | network (success : Bool)
  /-- `HandleChannel` fires its next event. -/
  | fire
  /-- A packet handler, a timer or the loop of a closed channel fires an event. -/
  | event (event : ServiceEvent)
  | init
  | makeChannels
  | disable
  /-- `SetState` in `Disable`. -/
  | reset (responder : Responder)
  | close
deriving DecidableEq, Repr

namespace ServiceSite

def create : ServiceSite where
  internalState := .created
  callback := .none
  eapolState := .created
  dhcpState := .created
  starter := fun _ => none
  channels := 0
  channel := none
  loop := .ready

/-- The transition of an event, where the machine accepts it. -/
def fired (site : ServiceSite) : ServiceEvent → Option ServiceSite
  | .eapol event => (site.eapolState.after event).map fun state => { site with eapolState := state }
  | .dhcp event => (site.dhcpState.after event).map fun state => { site with dhcpState := state }

@[simps] def withStarter (site : ServiceSite) (responder : Responder) (starter : Option Starter) :
    ServiceSite :=
  { site with starter := Function.update site.starter responder starter }

@[simps] def withLoop (site : ServiceSite) (loop : ChannelLoop) : ServiceSite :=
  { site with loop := loop }

/-- The state the start event leads to, whatever `SetState` did in the meantime. -/
def started (site : ServiceSite) : Responder → ServiceSite
  | .eapol => { site with eapolState := .authStarted }
  | .dhcp => { site with dhcpState := .started }

def nextReport (responder : Responder) : List Report → ChannelLoop
  | [] => .ready
  | report :: rest => .firing responder report rest

def sendsNow (site : ServiceSite) (responder : Responder) : Bool :=
  match site.starter responder with
  | some (.sending _) => true
  | _ => false

def step (site : ServiceSite) : ServiceStep → Option ServiceSite
  | .start responder =>
    if site.starter responder = none then
      match site.fired responder.start with
      | none => some site
      | some _ => some (site.withStarter responder (some (.sending site.channel)))
    else none
  | .receive responder =>
    match site.starter responder, site.loop with
    | some (.sending (some number)), .ready =>
      if site.channel = some number then
        some ((site.withStarter responder (some .sent)).withLoop (.sending responder))
      else none
    | _, _ => none
  | .finish responder =>
    if site.starter responder = some .sent then
      some ((site.started responder).withStarter responder none)
    else none
  | .network success =>
    match site.loop with
    | .sending responder =>
      some (site.withLoop
        (if success then .firing responder .sent [] else .firing responder .failed [.failed]))
    | _ => none
  | .fire =>
    match site.loop with
    | .firing responder report rest =>
      if site.starter responder = none then
        match site.fired (responder.report report), report with
        | some next, _ => some (next.withLoop (nextReport responder rest))
        | none, .sent => some (site.withLoop (.firing responder .failed []))
        | none, .failed => some (site.withLoop (nextReport responder rest))
      else none
    | _ => none
  | .event event =>
    if event.isStart = false ∧ site.starter event.responder = none then
      some ((site.fired event).getD site)
    else none
  | .init =>
    if site.callback = .none then
      match site.internalState.after .init with
      | none => some site
      | some state => some { site with internalState := state, callback := .opening }
    else none
  | .makeChannels =>
    if site.callback = .opening then
      some { site with
        callback := .none, channels := site.channels + 1, channel := some site.channels,
        loop := .ready }
    else none
  | .disable =>
    if site.callback = .none then
      match site.internalState.after .disable with
      | none => some site
      | some state => some { site with internalState := state, callback := .resetEapol }
    else none
  | .reset responder =>
    -- `SetState` waits for the callback before a transition
    if site.sendsNow responder then none
    else match site.callback, responder with
      | .resetEapol, .eapol => some { site with eapolState := .created, callback := .resetDhcp }
      | .resetDhcp, .dhcp => some { site with dhcpState := .created, callback := .closing }
      | _, _ => none
  | .close =>
    if site.callback = .closing then
      some { site with callback := .none, channel := none, loop := .ready }
    else none

/-- The start event holds the lock and its message is not taken any more: the channel is nil or
closed, or the loop that would take it waits for the lock. -/
def Stuck (site : ServiceSite) (responder : Responder) : Prop :=
  ∃ channel, site.starter responder = some (.sending channel) ∧
    (channel = none ∨ channel ≠ site.channel ∨
      ∃ report rest, site.loop = .firing responder report rest)

/-- `Disable` has reset the machine and not yet returned. -/
def wasReset (site : ServiceSite) : Responder → Bool
  | .eapol => site.callback = .resetDhcp || site.callback = .closing
  | .dhcp => site.callback = .closing

/-- A start event that is accepted finds an open channel, no `Disable` past its reset, and a loop
that is not handling an earlier start message of the machine. -/
def Careful (site : ServiceSite) : ServiceStep → Prop
  | .start responder =>
    (site.fired responder.start).isSome →
      site.channel.isSome ∧ site.wasReset responder = false ∧
        site.loop.responder? ≠ some responder
  | _ => True

instance (site : ServiceSite) (label : ServiceStep) : Decidable (site.Careful label) := by
  unfold Careful
  split <;> infer_instance

structure Served (site : ServiceSite) : Prop where
  waiting : ∀ responder channel, site.starter responder = some (.sending channel) →
    channel.isSome = true ∧ channel = site.channel ∧ site.loop.responder? ≠ some responder ∧
      site.wasReset responder = false
  opening : site.callback = .opening → site.internalState = .initialized ∧ site.channel = none
  closed : site.callback = .none → site.internalState ≠ .initialized → site.channel = none

variable {site next : ServiceSite}

theorem Served.not_stuck (served : site.Served) (responder : Responder) : ¬site.Stuck responder := by
  rintro ⟨channel, sending, missing | other | ⟨report, rest, waits⟩⟩
  · obtain ⟨present, -⟩ := served.waiting responder channel sending
    rw [missing] at present
    cases present
  · exact other (served.waiting responder channel sending).2.1
  · obtain ⟨-, -, free, -⟩ := served.waiting responder channel sending
    exact free (by rw [waits]; rfl)

theorem fired_frame {event : ServiceEvent} (accepted : site.fired event = some next) :
    ∃ eapolState dhcpState, next = { site with eapolState := eapolState, dhcpState := dhcpState } := by
  cases event with
  | eapol event =>
    obtain ⟨state, -, rfl⟩ := Option.map_eq_some_iff.mp accepted
    exact ⟨state, site.dhcpState, rfl⟩
  | dhcp event =>
    obtain ⟨state, -, rfl⟩ := Option.map_eq_some_iff.mp accepted
    exact ⟨site.eapolState, state, rfl⟩

/-- The states of the two machines play no part. -/
theorem Served.withStates (served : site.Served) (eapolState : EapolState) (dhcpState : DhcpState) :
    ({ site with eapolState := eapolState, dhcpState := dhcpState } : ServiceSite).Served :=
  ⟨served.waiting, served.opening, served.closed⟩

theorem Served.fired (served : site.Served) {event : ServiceEvent}
    (accepted : site.fired event = some next) : next.Served := by
  obtain ⟨eapolState, dhcpState, rfl⟩ := fired_frame accepted
  exact served.withStates eapolState dhcpState

/-- The loop goes on with what it works for, or becomes ready. -/
theorem Served.withLoop (served : site.Served) {loop : ChannelLoop}
    (less : ∀ responder, loop.responder? = some responder → site.loop.responder? = some responder) :
    (site.withLoop loop).Served := by
  refine ⟨fun responder channel sending => ?_, served.opening, served.closed⟩
  obtain ⟨present, current, free, active⟩ := served.waiting responder channel sending
  exact ⟨present, current, fun busy => free (less responder busy), active⟩

section

variable (served : site.Served) {responder : Responder}
include served

theorem Served.withStarter {starter : Option Starter}
    (allowed : ∀ channel, starter = some (.sending channel) → channel.isSome = true ∧
      channel = site.channel ∧ site.loop.responder? ≠ some responder ∧
      site.wasReset responder = false) :
    (site.withStarter responder starter).Served := by
  refine ⟨fun other channel sending => ?_, served.opening, served.closed⟩
  by_cases same : other = responder
  · subst same
    exact allowed channel (by simpa using sending)
  · exact served.waiting other channel (by simpa [same] using sending)

theorem Served.start (careful : site.Careful (.start responder))
    (taken : site.step (.start responder) = some next) :
    next.Served := by
  obtain ⟨-, answered⟩ := Option.ite_none_right_eq_some.mp taken
  split at answered
  · obtain rfl := Option.some.inj answered
    exact served
  · next accepted =>
    obtain rfl := Option.some.inj answered
    obtain ⟨present, active, free⟩ := careful (by rw [accepted]; rfl)
    apply served.withStarter
    intro channel same
    obtain rfl : site.channel = channel := by simpa using same
    exact ⟨present, rfl, free, active⟩

theorem Served.receive (taken : site.step (.receive responder) = some next) : next.Served := by
  simp only [step] at taken
  split at taken
  · split at taken
    · obtain rfl := Option.some.inj taken
      have sent : (site.withStarter responder (some .sent)).Served := served.withStarter nofun
      refine ⟨fun other channel sending => ?_, served.opening, served.closed⟩
      obtain ⟨present, current, -, active⟩ := sent.waiting other channel sending
      refine ⟨present, current, ?_, active⟩
      -- the loop now works for the machine whose message it took
      intro busy
      obtain rfl : responder = other := Option.some.inj busy
      simp at sending
    · cases taken
  · cases taken

theorem Served.finish (taken : site.step (.finish responder) = some next) : next.Served := by
  obtain ⟨-, ended⟩ := Option.ite_none_right_eq_some.mp taken
  obtain rfl := Option.some.inj ended
  have states : (site.started responder).Served := by
    cases responder with
    | eapol => exact served.withStates .authStarted site.dhcpState
    | dhcp => exact served.withStates site.eapolState .started
  exact states.withStarter nofun

end

private theorem nextReport_responder {responder other : Responder} {rest : List Report}
    (busy : (nextReport responder rest).responder? = some other) : responder = other := by
  cases rest with
  | nil => cases busy
  | cons report rest => exact Option.some.inj busy

section

variable (served : site.Served)
include served

theorem Served.network {success : Bool} (taken : site.step (.network success) = some next) :
    next.Served := by
  simp only [step] at taken
  split at taken
  · next responder loop =>
    obtain rfl := Option.some.inj taken
    apply served.withLoop
    intro other busy
    rw [loop]
    cases success <;> exact busy
  · cases taken

theorem Served.fire (taken : site.step .fire = some next) : next.Served := by
  simp only [step] at taken
  split at taken
  · next responder report rest loop =>
    have onward : ∀ other, (nextReport responder rest).responder? = some other →
        site.loop.responder? = some other := by
      intro other busy
      rw [loop, nextReport_responder busy]
      rfl
    split at taken
    · split at taken
      · next after accepted =>
        obtain rfl := Option.some.inj taken
        obtain ⟨eapolState, dhcpState, rfl⟩ := fired_frame accepted
        exact (served.withStates eapolState dhcpState).withLoop onward
      · obtain rfl := Option.some.inj taken
        apply served.withLoop
        intro other busy
        rw [loop]
        exact busy
      · obtain rfl := Option.some.inj taken
        exact served.withLoop onward
    · cases taken
  · cases taken

theorem Served.event {event : ServiceEvent} (taken : site.step (.event event) = some next) :
    next.Served := by
  obtain ⟨-, ended⟩ := Option.ite_none_right_eq_some.mp taken
  obtain rfl := Option.some.inj ended
  cases accepted : site.fired event with
  | none => exact served
  | some after => exact served.fired accepted

theorem Served.init (taken : site.step .init = some next) : next.Served := by
  obtain ⟨idle, answered⟩ := Option.ite_none_right_eq_some.mp taken
  split at answered
  · obtain rfl := Option.some.inj answered
    exact served
  · next state accepted =>
    obtain rfl := Option.some.inj answered
    have entered : state = .initialized ∧ site.internalState ≠ .initialized := by
      cases before : site.internalState <;> rw [before] at accepted <;> cases accepted <;> simp
    have none := served.closed idle entered.2
    refine ⟨fun responder channel sending => ?_, fun _ => ⟨entered.1, none⟩, nofun⟩
    obtain ⟨present, current, -⟩ := served.waiting responder channel sending
    rw [current, none] at present
    cases present

theorem Served.makeChannels (taken : site.step .makeChannels = some next) : next.Served := by
  obtain ⟨opening, made⟩ := Option.ite_none_right_eq_some.mp taken
  obtain rfl := Option.some.inj made
  obtain ⟨initialized, none⟩ := served.opening opening
  refine ⟨fun responder channel sending => ?_, nofun, fun _ other => absurd initialized other⟩
  obtain ⟨present, current, -⟩ := served.waiting responder channel sending
  rw [current, none] at present
  cases present

theorem Served.disable (taken : site.step .disable = some next) : next.Served := by
  obtain ⟨-, answered⟩ := Option.ite_none_right_eq_some.mp taken
  split at answered
  · obtain rfl := Option.some.inj answered
    exact served
  · obtain rfl := Option.some.inj answered
    refine ⟨fun responder channel sending => ?_, nofun, nofun⟩
    obtain ⟨present, current, free, -⟩ := served.waiting responder channel sending
    exact ⟨present, current, free, by cases responder <;> rfl⟩

theorem Served.reset {responder : Responder} (taken : site.step (.reset responder) = some next) :
    next.Served := by
  simp only [step] at taken
  split at taken
  · cases taken
  · next still =>
    have waited : ∀ channel, site.starter responder ≠ some (.sending channel) := by
      intro channel sending
      exact still (by rw [sendsNow, sending])
    split at taken
    · -- the EAPOL machine: a DHCP start may still be waiting
      obtain rfl := Option.some.inj taken
      refine ⟨fun other channel sending => ?_, nofun, nofun⟩
      obtain ⟨present, current, free, -⟩ := served.waiting other channel sending
      cases other with
      | eapol => exact absurd sending (waited channel)
      | dhcp => exact ⟨present, current, free, rfl⟩
    · next phase =>
      obtain rfl := Option.some.inj taken
      refine ⟨fun other channel sending => ?_, nofun, nofun⟩
      cases other with
      | eapol =>
        obtain ⟨-, -, -, active⟩ := served.waiting .eapol channel sending
        simp [wasReset, phase] at active
      | dhcp => exact absurd sending (waited channel)
    · cases taken

theorem Served.close (taken : site.step .close = some next) : next.Served := by
  obtain ⟨phase, shut⟩ := Option.ite_none_right_eq_some.mp taken
  obtain rfl := Option.some.inj shut
  refine ⟨fun responder channel sending => ?_, nofun, fun _ _ => rfl⟩
  obtain ⟨-, -, -, active⟩ := served.waiting responder channel sending
  cases responder <;> simp [wasReset, phase] at active

private theorem step_served {label : ServiceStep} (careful : site.Careful label)
    (taken : site.step label = some next) : next.Served := by
  cases label with
  | start responder => exact served.start careful taken
  | receive responder => exact served.receive taken
  | finish responder => exact served.finish taken
  | network success => exact served.network taken
  | fire => exact served.fire taken
  | event event => exact served.event taken
  | init => exact served.init taken
  | makeChannels => exact served.makeChannels taken
  | disable => exact served.disable taken
  | reset responder => exact served.reset taken
  | close => exact served.close taken

end

private theorem served_create : create.Served := ⟨nofun, nofun, fun _ _ => rfl⟩

end ServiceSite

/-- While start events are careful, no start event that holds its lock waits for a receiver that is
gone or waits for that lock, in any state a service reaches. -/
theorem careful_starts_never_stuck {history : List (ServiceSite × ServiceStep)} {final : ServiceSite}
    (run : Run ServiceSite.step ServiceSite.create history final)
    (careful : Meets ServiceSite.Careful history) (responder : Responder) :
    ¬final.Stuck responder := by
  have served : final.Served := by
    apply run.invariant careful
    · exact ServiceSite.served_create
    · exact fun site label next before allowed taken =>
        ServiceSite.step_served before allowed taken
  exact served.not_stuck responder

/-- Authentication starts, and the packet cannot be sent: the first of two failure events. -/
def failedStart : List ServiceStep :=
  [.init, .makeChannels, .start .eapol, .receive .eapol, .finish .eapol, .network false, .fire]

theorem careful_starts_never_stuck_failedStart : ∃ history final,
    Run ServiceSite.step ServiceSite.create history final ∧ final.eapolState = .authFailed ∧
      ¬final.Stuck .eapol := by
  obtain ⟨history, final, run, careful, failed⟩ := run_of_guarded_replay ServiceSite.Careful
    ServiceSite.step ServiceSite.create failedStart (fun final => final.eapolState = .authFailed)
    (by decide +kernel)
  exact ⟨history, final, run, failed, careful_starts_never_stuck run careful .eapol⟩

/-- Authentication is started again before the loop has fired the second failure event: the new start
event waits for the loop with the lock that the loop waits for. -/
theorem restart_after_failure_is_stuck : ∃ history final,
    Run ServiceSite.step ServiceSite.create history final ∧ final.channel = some 0 ∧
      final.starter .eapol = some (.sending (some 0)) ∧
      final.loop = .firing .eapol .failed [] ∧ final.Stuck .eapol := by
  obtain ⟨history, final, run, channel, sending, waits⟩ := run_of_replay ServiceSite.step
    ServiceSite.create (failedStart ++ ([.start .eapol] : List ServiceStep))
    (fun final => final.channel = some 0 ∧
      final.starter .eapol = some (.sending (some 0)) ∧ final.loop = .firing .eapol .failed [])
    (by decide +kernel)
  exact ⟨history, final, run, channel, sending, waits, some 0, sending, .inr (.inr ⟨_, _, waits⟩)⟩

end Bbsim.Devices
