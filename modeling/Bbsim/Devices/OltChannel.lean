import Bbsim.Foundation.Run
import Bbsim.Devices.StateMachines

/-! The OLT channel across a reboot. Requests of VOLTHA, of the API and of the DMI server send to
the OLT over an unbuffered channel that `processOltMessages` reads. `RestartOLT` closes the channel,
waits, and has `InitOlt` make another. Sending on a closed channel and closing one twice are
run-time panics. -/

namespace Bbsim.Devices

open Foundation

/-- The calls that send on the OLT channel. `Reboot` of an ONU is a shutdown and a power-on. -/
inductive OltRequest where
  | enable
  | disableOlt
  | reenableOlt
  | disablePonIf
  | enablePonIf
  | handleShutdownOnu
  | handlePowerOnOnu
  | setOltAlarm
  | setOnuAlarm
  | plugTransceiver
deriving DecidableEq, Repr

/-- What the call checks of the OLT before it sends anything. -/
def OltRequest.passes : OltRequest → OltState → Bool
  | .enable, state => state ≠ .deleted
  | .handlePowerOnOnu, state => state ≠ .deleted
  | .plugTransceiver, state => state = .enabled
  | _, _ => true

/-- Where a call that may still send stands. -/
inductive OltCall where
  /-- `Enable`, before it replaces the context. -/
  | preparing
  | running
  /-- At a send, on the channel it found in the OLT. -/
  | sending (channel : Nat)
deriving DecidableEq, Repr

def OltRequest.first : OltRequest → OltCall
  | .enable => .preparing
  | _ => .running

/-- A `processOltMessages` goroutine. -/
structure ProcessLoop where
  cancelled : Bool
  /-- The channel it took from the OLT, once it runs. -/
  channel : Option Nat
deriving DecidableEq, Repr

@[simps] def ProcessLoop.cancel (loop : ProcessLoop) : ProcessLoop := { loop with cancelled := true }

/-- What `RestartOLT` has done: disabled the OLT, closed the channel, taken the lock of the OLT for
the reboot delay, released it. -/
inductive RestartPhase where
  | disabling
  | closed
  | waiting
  | waited
deriving DecidableEq, Repr

structure OltSite where
  internalState : OltState
  /-- Channels are numbered in the order they are made. -/
  channel : Nat
  closed : List Nat
  loops : List ProcessLoop
  calls : List OltCall
  restarts : List RestartPhase
deriving DecidableEq, Repr

inductive OltSiteStep where
  | request (request : OltRequest)
  /-- `Enable` replaces the context and starts a loop. -/
  | renew (call : Nat)
  | send (call : Nat)
  | receive (call loop : Nat)
  | finish (call : Nat)
  /-- A loop begins to run. -/
  | serve (loop : Nat)
  | stop (loop : Nat)
  /-- A loop handles an OLT indication, or the API shuts the OLT down. -/
  | indicate (up : Bool)
  /-- `PoweronOlt` of the API. -/
  | powerOn
  | restart
  | close (restart : Nat)
  | lock (restart : Nat)
  | unlock (restart : Nat)
  | init (restart : Nat)
deriving DecidableEq, Repr

/-- A step of a `processOltMessages` goroutine. -/
def OltSiteStep.ofLoop : OltSiteStep → Bool
  | .receive _ _ | .serve _ => true
  | _ => false

/-- The channel of the OLT as a sender finds it. -/
inductive OltLink where
  | unread
  | served
  | closed
deriving DecidableEq, Repr

namespace OltSite

def link (site : OltSite) : OltLink :=
  if site.channel ∈ site.closed then .closed
  else if site.loops.any fun loop => loop.channel = some site.channel then .served
  else .unread

/-- The OLT that `CreateOLT` returns. -/
def create : OltSite where
  internalState := .initialized
  channel := 0
  closed := []
  loops := []
  calls := []
  restarts := []

@[simps] def initOlt (site : OltSite) : OltSite :=
  { site with internalState := .initialized, channel := site.channel + 1 }

@[simps] def withCall (site : OltSite) (index : Nat) (call : OltCall) : OltSite :=
  { site with calls := site.calls.set index call }

@[simps] def withRestart (site : OltSite) (index : Nat) (phase : RestartPhase) : OltSite :=
  { site with restarts := site.restarts.set index phase }

/-- The context of `Enable` is cancelled. -/
@[simps] def cancelLoops (site : OltSite) : OltSite :=
  { site with loops := site.loops.map ProcessLoop.cancel }

/-- `Enable` starts a loop under a new context. -/
@[simps] def startLoop (site : OltSite) : OltSite :=
  { site with loops := site.loops ++ [{ cancelled := false, channel := none }] }

def step (site : OltSite) : OltSiteStep → Option OltSite
  | .request request =>
    if request.passes site.internalState then
      some { site with calls := site.calls ++ [request.first] }
    else some site
  | .renew index =>
    -- the lock of the OLT is taken for the whole of it
    if site.calls[index]? = some .preparing ∧ .waiting ∉ site.restarts then
      some (site.cancelLoops.startLoop.withCall index .running)
    else none
  | .send index =>
    if site.calls[index]? = some .running then some (site.withCall index (.sending site.channel))
    else none
  | .receive index reader =>
    match site.calls[index]?, site.loops[reader]? with
    | some (.sending number), some loop =>
      if loop.channel = some number ∧ number ∉ site.closed then some (site.withCall index .running)
      else none
    | _, _ => none
  | .finish index =>
    if site.calls[index]? = some .running then some { site with calls := site.calls.eraseIdx index }
    else none
  | .serve index =>
    match site.loops[index]? with
    | some loop =>
      if loop.channel = none then
        some { site with loops := site.loops.set index { loop with channel := some site.channel } }
      else none
    | none => none
  | .stop index =>
    match site.loops[index]? with
    | some loop =>
      if loop.cancelled = true ∨ ∃ number ∈ site.closed, loop.channel = some number then
        some { site with loops := site.loops.eraseIdx index }
      else none
    | none => none
  | .indicate up =>
    let event := if up then OltTx.enable else OltTx.disable
    some { site with internalState := (site.internalState.after event).getD site.internalState }
  | .powerOn => some (if (site.internalState.after .init).isSome then site.initOlt else site)
  | .restart =>
    match site.internalState.after .delete with
    | some state => some { site with
        internalState := state, restarts := site.restarts ++ [.disabling] }
    | none => some site
  | .close index =>
    if site.restarts[index]? = some .disabling then
      some { site.withRestart index .closed with closed := site.channel :: site.closed }
    else none
  | .lock index =>
    if site.restarts[index]? = some .closed ∧ .waiting ∉ site.restarts then
      some (site.cancelLoops.withRestart index .waiting)
    else none
  | .unlock index =>
    if site.restarts[index]? = some .waiting then some (site.withRestart index .waited) else none
  | .init index =>
    if site.restarts[index]? = some .waited then
      let returned := { site with restarts := site.restarts.eraseIdx index }
      some (if (site.internalState.after .init).isSome then returned.initOlt else returned)
    else none

/-- A call that passes its own check begins while the channel is open, the channel is closed when no
call is in progress, a restart begins with a loop there to receive, and the API does not power on an
OLT that is being restarted. -/
def Orderly (site : OltSite) : OltSiteStep → Prop
  | .request request => request.passes site.internalState → site.channel ∉ site.closed
  | .close _ => site.calls = []
  | .restart => (site.internalState.after .delete).isSome →
      ∃ loop ∈ site.loops, loop.cancelled = false
  | .powerOn => site.internalState ≠ .deleted
  | _ => True

instance (site : OltSite) (label : OltSiteStep) : Decidable (site.Orderly label) := by
  unfold Orderly
  split <;> infer_instance

/-- Orderly steps remain, all of them of the loops if asked, by which the message of the call is
received. -/
def Receives (site : OltSite) (index : Nat) (ownSteps : Bool) : Prop :=
  ∃ history later, Run step site history later ∧ Meets Orderly history ∧
    (ownSteps = true → ∀ entry ∈ history, entry.2.ofLoop = true) ∧
    later.calls[index]? = some .running

/-- The message of the call is received, by the loops alone where one of them is not cancelled. -/
def Receivable (site : OltSite) (index : Nat) : Prop :=
  site.Receives index (site.loops.any fun loop => !loop.cancelled)

structure Kept (site : OltSite) : Prop where
  past : site.internalState ≠ .created
  older : ∀ number ∈ site.closed, number ≤ site.channel
  /-- An OLT is deleted exactly during its one restart. -/
  restarting :
    (site.internalState ≠ .deleted ∧ site.restarts = [] ∧ site.channel ∉ site.closed) ∨
    (site.internalState = .deleted ∧ ∃ phase, site.restarts = [phase] ∧
      (site.channel ∈ site.closed ↔ phase ≠ .disabling))
  idle : site.channel ∈ site.closed → site.calls = []
  waiting : ∀ number, .sending number ∈ site.calls → number = site.channel
  reading : ∀ loop ∈ site.loops, loop.cancelled = false →
    ∀ number, loop.channel = some number → number = site.channel
  attended : site.restarts = [.disabling] → ∃ loop ∈ site.loops, loop.cancelled = false
  ended : site.restarts = [.waiting] ∨ site.restarts = [.waited] →
    ∀ loop ∈ site.loops, loop.cancelled = true

variable {site next : OltSite} {index reader : Nat}

private theorem kept_create : create.Kept where
  past := nofun
  older := nofun
  restarting := .inl ⟨nofun, rfl, nofun⟩
  idle := nofun
  waiting := nofun
  reading := nofun
  attended := nofun
  ended := nofun

section

variable (kept : site.Kept)
include kept

/-- Every restart is the restart, and it is under way. -/
theorem Kept.only_restart {phase : RestartPhase} (found : site.restarts[index]? = some phase) :
    index = 0 ∧ site.restarts = [phase] ∧ site.internalState = .deleted ∧
      (site.channel ∈ site.closed ↔ phase ≠ .disabling) := by
  rcases kept.restarting with ⟨-, none, -⟩ | ⟨deleted, only, restarts, shut⟩
  · simp [none] at found
  · rw [restarts, List.getElem?_singleton] at found
    split at found
    · next first =>
      obtain rfl := Option.some.inj found
      exact ⟨first, restarts, deleted, shut⟩
    · cases found

/-- A change of the calls that leaves none in progress on a closed channel, and none at a send
elsewhere than on the present one. -/
theorem Kept.withCalls {calls : List OltCall} (idle : site.channel ∈ site.closed → calls = [])
    (waiting : ∀ number, .sending number ∈ calls → number = site.channel) :
    ({ site with calls := calls } : OltSite).Kept :=
  ⟨kept.past, kept.older, kept.restarting, idle, waiting, kept.reading, kept.attended, kept.ended⟩

theorem Kept.withCall {call : OltCall}
    (waiting : ∀ number, call = .sending number → number = site.channel) :
    (site.withCall index call).Kept := by
  apply kept.withCalls
  · intro shut
    rw [kept.idle shut, List.set_nil]
  · intro number member
    rcases List.mem_or_eq_of_mem_set member with old | rfl
    · exact kept.waiting number old
    · exact waiting number rfl

/-- A change of the loops under one channel. -/
theorem Kept.withLoops {loops : List ProcessLoop}
    (reading : ∀ loop ∈ loops, loop.cancelled = false → ∀ number, loop.channel = some number →
      number = site.channel)
    (attended : site.restarts = [.disabling] → ∃ loop ∈ loops, loop.cancelled = false)
    (ended : site.restarts = [.waiting] ∨ site.restarts = [.waited] → ∀ loop ∈ loops, loop.cancelled = true) :
    ({ site with loops := loops } : OltSite).Kept :=
  ⟨kept.past, kept.older, kept.restarting, kept.idle, kept.waiting, reading, attended, ended⟩

theorem Kept.request {request : OltRequest} (orderly : site.Orderly (.request request))
    (taken : site.step (.request request) = some next) : next.Kept := by
  simp only [step] at taken
  split at taken
  · next passed =>
    obtain rfl := Option.some.inj taken
    apply kept.withCalls
    · intro shut
      exact absurd shut (orderly passed)
    · intro number member
      rcases List.mem_append.mp member with old | new
      · exact kept.waiting number old
      · cases request <;> simp [OltRequest.first] at new
  · obtain rfl := Option.some.inj taken
    exact kept

end

variable {loop : ProcessLoop}

theorem cancelled_of_mem_cancelLoops (member : loop ∈ site.cancelLoops.loops) :
    loop.cancelled = true := by
  obtain ⟨old, -, rfl⟩ := List.mem_map.mp member
  rfl

section

variable (kept : site.Kept)
include kept

theorem Kept.renew (taken : site.step (.renew index) = some next) : next.Kept := by
  obtain ⟨guard, renewed⟩ := Option.ite_none_right_eq_some.mp taken
  obtain rfl := Option.some.inj renewed
  -- the call in progress keeps the channel open, so no restart is past its close
  have opened : site.channel ∉ site.closed := by
    intro shut
    simp [kept.idle shut] at guard
  refine Kept.withCall (kept.withLoops ?_ ?_ ?_) nofun
  · intro loop member live number captured
    rcases List.mem_append.mp member with old | new
    · simp [cancelled_of_mem_cancelLoops old] at live
    · obtain rfl := List.mem_singleton.mp new
      cases captured
  · intro _
    exact ⟨⟨false, none⟩, by simp, rfl⟩
  · intro later
    rcases kept.restarting with ⟨-, none, -⟩ | ⟨-, phase, restarts, shut⟩
    · simp [none] at later
    · have first : phase = .disabling := by
        by_contra past
        exact opened (shut.mpr past)
      simp [restarts, first] at later

theorem Kept.send (taken : site.step (.send index) = some next) : next.Kept := by
  obtain ⟨-, sent⟩ := Option.ite_none_right_eq_some.mp taken
  obtain rfl := Option.some.inj sent
  apply kept.withCall
  rintro number same
  exact (OltCall.sending.inj same).symm

theorem Kept.receive (taken : site.step (.receive index reader) = some next) : next.Kept := by
  simp only [step] at taken
  split at taken
  · split at taken
    · obtain rfl := Option.some.inj taken
      exact kept.withCall nofun
    · cases taken
  · cases taken

theorem Kept.finish (taken : site.step (.finish index) = some next) : next.Kept := by
  obtain ⟨-, ended⟩ := Option.ite_none_right_eq_some.mp taken
  obtain rfl := Option.some.inj ended
  apply kept.withCalls
  · intro shut
    rw [kept.idle shut, List.eraseIdx_nil]
  · intro number member
    exact kept.waiting number (List.mem_of_mem_eraseIdx member)

theorem Kept.serve (taken : site.step (.serve index) = some next) : next.Kept := by
  simp only [step] at taken
  split at taken
  · next loop found =>
    split at taken
    · obtain rfl := Option.some.inj taken
      have present := List.mem_of_getElem? found
      have inside := (List.getElem?_eq_some_iff.mp found).1
      apply kept.withLoops
      · intro other member live number captured
        rcases List.mem_or_eq_of_mem_set member with old | rfl
        · exact kept.reading other old live number captured
        · exact (Option.some.inj captured).symm
      · intro first
        obtain ⟨other, member, live⟩ := kept.attended first
        obtain ⟨position, located⟩ := List.mem_iff_getElem?.mp member
        by_cases same : index = position
        · subst same
          obtain rfl := Option.some.inj (found.symm.trans located)
          exact ⟨_, List.mem_set inside _, live⟩
        · refine ⟨other, List.mem_iff_getElem?.mpr ⟨position, ?_⟩, live⟩
          rw [List.getElem?_set_ne same, located]
      · intro later other member
        rcases List.mem_or_eq_of_mem_set member with old | rfl
        · exact kept.ended later other old
        · exact kept.ended later loop present
    · cases taken
  · cases taken

theorem Kept.stop (taken : site.step (.stop index) = some next) : next.Kept := by
  simp only [step] at taken
  split at taken
  · next loop found =>
    split at taken
    · next finished =>
      obtain rfl := Option.some.inj taken
      have present := List.mem_of_getElem? found
      apply kept.withLoops
      · intro other member
        exact kept.reading other (List.mem_of_mem_eraseIdx member)
      · intro first
        obtain ⟨other, member, live⟩ := kept.attended first
        refine ⟨other, ?_, live⟩
        obtain ⟨position, located⟩ := List.mem_iff_getElem?.mp member
        refine List.mem_eraseIdx_iff_getElem?.mpr ⟨position, ?_, located⟩
        rintro rfl
        obtain rfl := Option.some.inj (found.symm.trans located)
        -- a loop that is not cancelled reads the present channel, which is still open
        rcases finished with cancelled | ⟨number, shut, captured⟩
        · simp [live] at cancelled
        · rw [kept.reading loop present live number captured] at shut
          rcases kept.restarting with ⟨-, none, -⟩ | ⟨-, phase, restarts, closed⟩
          · simp [none] at first
          · exact closed.mp shut (by simpa [restarts] using first)
      · intro later other member
        exact kept.ended later other (List.mem_of_mem_eraseIdx member)
    · cases taken
  · cases taken

end

private theorem indicated_eq_deleted (state : OltState) (up : Bool) :
    (state.after (if up then .enable else .disable)).getD state = .deleted ↔ state = .deleted := by
  cases state <;> cases up <;> decide

private theorem indicated_ne_created {state : OltState} (past : state ≠ .created) (up : Bool) :
    (state.after (if up then .enable else .disable)).getD state ≠ .created := by
  cases state <;> cases up <;> revert past <;> decide

theorem Kept.indicate (kept : site.Kept) {up : Bool}
    (taken : site.step (.indicate up) = some next) : next.Kept := by
  obtain rfl := Option.some.inj taken
  refine ⟨indicated_ne_created kept.past up, kept.older, ?_, kept.idle, kept.waiting, kept.reading,
    kept.attended, kept.ended⟩
  simpa only [ne_eq, indicated_eq_deleted] using kept.restarting

theorem after_init_isSome (state : OltState) :
    (state.after .init).isSome = true ↔ state = .created ∨ state = .deleted := by
  cases state <;> decide

theorem after_delete {state target : OltState} (accepted : state.after .delete = some target) :
    state ≠ .deleted ∧ target = .deleted := by
  cases state <;> revert target <;> decide

section

variable (kept : site.Kept)
include kept

theorem Kept.powerOn (orderly : site.Orderly .powerOn) (taken : site.step .powerOn = some next) :
    next.Kept := by
  have refused : ¬(site.internalState.after .init).isSome = true := by
    rw [after_init_isSome]
    rintro (created | deleted)
    · exact kept.past created
    · exact orderly deleted
  obtain rfl : site = next := by simpa [step, refused] using taken
  exact kept

theorem Kept.restart (orderly : site.Orderly .restart) (taken : site.step .restart = some next) :
    next.Kept := by
  simp only [step] at taken
  split at taken
  · next target accepted =>
    obtain rfl := Option.some.inj taken
    obtain ⟨before, rfl⟩ := after_delete accepted
    have reader := orderly (by rw [accepted]; rfl)
    rcases kept.restarting with ⟨-, none, opened⟩ | ⟨deleted, -⟩
    · refine ⟨nofun, kept.older, .inr ⟨rfl, .disabling, by simp [none], by simp [opened]⟩, kept.idle,
        kept.waiting, kept.reading, fun _ => reader, ?_⟩
      intro later
      simp [none] at later
    · exact absurd deleted before
  · obtain rfl := Option.some.inj taken
    exact kept

theorem Kept.close (orderly : site.Orderly (.close index))
    (taken : site.step (.close index) = some next) : next.Kept := by
  obtain ⟨found, shutdown⟩ := Option.ite_none_right_eq_some.mp taken
  obtain rfl := Option.some.inj shutdown
  obtain ⟨rfl, restarts, deleted, -⟩ := kept.only_restart found
  refine ⟨kept.past, ?_, .inr ⟨deleted, .closed, by simp [restarts], by simp⟩, fun _ => orderly,
    kept.waiting, kept.reading, ?_, ?_⟩
  · intro number member
    rcases List.mem_cons.mp member with rfl | old
    · exact Nat.le_refl _
    · exact kept.older number old
  · intro first
    simp [restarts] at first
  · intro later
    simp [restarts] at later

theorem Kept.lock (taken : site.step (.lock index) = some next) : next.Kept := by
  obtain ⟨guard, locked⟩ := Option.ite_none_right_eq_some.mp taken
  obtain rfl := Option.some.inj locked
  obtain ⟨rfl, restarts, deleted, shut⟩ := kept.only_restart guard.1
  have closed := shut.mpr nofun
  refine ⟨kept.past, kept.older, .inr ⟨deleted, .waiting, by simp [restarts], by simpa using closed⟩,
    kept.idle, kept.waiting, ?_, ?_, fun _ loop => cancelled_of_mem_cancelLoops⟩
  · intro loop member live
    simp [cancelled_of_mem_cancelLoops member] at live
  · intro first
    simp [restarts] at first

theorem Kept.unlock (taken : site.step (.unlock index) = some next) : next.Kept := by
  obtain ⟨found, unlocked⟩ := Option.ite_none_right_eq_some.mp taken
  obtain rfl := Option.some.inj unlocked
  obtain ⟨rfl, restarts, deleted, shut⟩ := kept.only_restart found
  have closed := shut.mpr nofun
  refine ⟨kept.past, kept.older, .inr ⟨deleted, .waited, by simp [restarts], by simpa using closed⟩,
    kept.idle, kept.waiting, kept.reading, ?_, fun _ => kept.ended (.inl restarts)⟩
  intro first
  simp [restarts] at first

theorem Kept.init (taken : site.step (.init index) = some next) : next.Kept := by
  obtain ⟨found, initialized⟩ := Option.ite_none_right_eq_some.mp taken
  obtain ⟨rfl, restarts, deleted, shut⟩ := kept.only_restart found
  have closed := shut.mpr nofun
  have accepted : (site.internalState.after .init).isSome = true :=
    (after_init_isSome _).mpr (.inr deleted)
  rw [if_pos accepted] at initialized
  obtain rfl := Option.some.inj initialized
  -- the new channel is none of those closed, and all loops of the old one are cancelled
  have fresh : site.channel + 1 ∉ site.closed := by
    intro member
    have := kept.older _ member
    omega
  refine ⟨nofun, ?_, .inl ⟨nofun, by simp [restarts], fresh⟩, fun shut => absurd shut fresh, ?_, ?_,
    ?_, ?_⟩
  · intro number member
    exact Nat.le_succ_of_le (kept.older number member)
  · intro number member
    change OltCall.sending number ∈ site.calls at member
    simp [kept.idle closed] at member
  · intro loop member live
    simp [kept.ended (.inr restarts) loop member] at live
  · intro first
    simp [restarts] at first
  · intro later
    simp [restarts] at later

end

variable {label : OltSiteStep}

private theorem step_kept (kept : site.Kept) (orderly : site.Orderly label)
    (taken : site.step label = some next) : next.Kept := by
  cases label with
  | request request => exact kept.request orderly taken
  | renew call => exact kept.renew taken
  | send call => exact kept.send taken
  | receive call loop => exact kept.receive taken
  | finish call => exact kept.finish taken
  | serve loop => exact kept.serve taken
  | stop loop => exact kept.stop taken
  | indicate up => exact kept.indicate taken
  | powerOn => exact kept.powerOn orderly taken
  | restart => exact kept.restart orderly taken
  | close restart => exact kept.close orderly taken
  | lock restart => exact kept.lock taken
  | unlock restart => exact kept.unlock taken
  | init restart => exact kept.init taken

theorem Receives.after {ownSteps : Bool} (taken : site.step label = some next)
    (orderly : site.Orderly label) (own : ownSteps = true → label.ofLoop = true)
    (later : next.Receives index ownSteps) : site.Receives index ownSteps := by
  obtain ⟨history, final, run, meets, steps, received⟩ := later
  refine ⟨_, final, run.cons taken, meets_cons.mpr ⟨orderly, meets⟩, fun asked => ?_, received⟩
  exact List.forall_mem_cons.mpr ⟨own asked, steps asked⟩

theorem Receives.weaken (received : site.Receives index true) (ownSteps : Bool) :
    site.Receives index ownSteps := by
  obtain ⟨history, final, run, meets, steps, received⟩ := received
  exact ⟨history, final, run, meets, fun _ => steps rfl, received⟩

variable {number : Nat}

private theorem receives_of_reader (sending : site.calls[index]? = some (.sending number))
    (opened : number ∉ site.closed) (found : site.loops[reader]? = some loop)
    (captured : loop.channel = some number) :
    site.Receives index true := by
  have taken : site.step (.receive index reader) = some (site.withCall index .running) := by
    simp [step, sending, found, captured, opened]
  have inside := (List.getElem?_eq_some_iff.mp sending).1
  exact ⟨_, _, Run.start.snoc taken, by simp [Orderly], by simp [OltSiteStep.ofLoop], by simp [inside]⟩

/-- A loop that is not cancelled receives what is sent on the present channel. -/
theorem Kept.receives_of_loop (kept : site.Kept)
    (sending : site.calls[index]? = some (.sending site.channel))
    (opened : site.channel ∉ site.closed) (found : site.loops[reader]? = some loop)
    (live : loop.cancelled = false) :
    site.Receives index true := by
  cases captured : loop.channel with
  | some number =>
    obtain rfl := kept.reading loop (List.mem_of_getElem? found) live number captured
    exact receives_of_reader sending opened found captured
  | none =>
    -- it has still to begin to run
    have inside := (List.getElem?_eq_some_iff.mp found).1
    have taken : site.step (.serve reader) = some { site with
        loops := site.loops.set reader { loop with channel := some site.channel } } := by
      simp [step, found, captured]
    have located : (site.loops.set reader { loop with channel := some site.channel })[reader]? =
        some { loop with channel := some site.channel } := List.getElem?_set_self inside
    exact Receives.after taken trivial (fun _ => rfl) (receives_of_reader sending opened located rfl)

/-- Before a restart, `Enable` brings a loop. -/
theorem Kept.receives_of_enable (kept : site.Kept) (present : site.internalState ≠ .deleted)
    (sending : site.calls[index]? = some (.sending site.channel)) : site.Receives index false := by
  obtain ⟨-, free, opened⟩ : site.internalState ≠ .deleted ∧ site.restarts = [] ∧
      site.channel ∉ site.closed := by
    rcases kept.restarting with before | ⟨deleted, -⟩
    · exact before
    · exact absurd deleted present
  have inside := (List.getElem?_eq_some_iff.mp sending).1
  have asked : site.step (.request .enable) =
      some { site with calls := site.calls ++ [.preparing] } := by
    simp [step, OltRequest.passes, present, OltRequest.first]
  have renewed : OltSite.step { site with calls := site.calls ++ [.preparing] }
      (.renew site.calls.length) =
      some (OltSite.withCall (startLoop (cancelLoops { site with calls := site.calls ++ [.preparing] }))
        site.calls.length .running) := by
    simp [step, free]
  refine Receives.after asked (fun _ => opened) nofun (Receives.after renewed trivial nofun ?_)
  have enabling := (kept.request (fun _ => opened) asked).renew renewed
  have started : (startLoop (cancelLoops site)).loops[site.loops.length]? = some ⟨false, .none⟩ := by
    simp
  refine (enabling.receives_of_loop ?_ opened started rfl).weaken false
  simp [List.getElem?_append_left inside, sending]

theorem Kept.receivable (kept : site.Kept) (sending : site.calls[index]? = some (.sending number)) :
    site.Receivable index := by
  have member := List.mem_of_getElem? sending
  obtain rfl := kept.waiting number member
  have opened : site.channel ∉ site.closed := by
    intro shut
    simp [kept.idle shut] at member
  unfold Receivable
  cases attended : site.loops.any fun loop => !loop.cancelled with
  | true =>
    obtain ⟨loop, found, live⟩ := List.any_eq_true.mp attended
    obtain ⟨position, located⟩ := List.mem_iff_getElem?.mp found
    exact kept.receives_of_loop sending opened located (by simpa using live)
  | false =>
    -- a restart that has not closed the channel has a loop, so there is none under way
    refine kept.receives_of_enable (fun deleted => ?_) sending
    rcases kept.restarting with ⟨present, -⟩ | ⟨-, phase, restarts, shut⟩
    · exact present deleted
    · have first : phase = .disabling := by
        by_contra past
        exact opened (shut.mpr past)
      obtain ⟨loop, found, live⟩ := kept.attended (by rw [restarts, first])
      simpa [live] using List.any_eq_false.mp attended loop found

theorem kept_of_run {history : List (OltSite × OltSiteStep)} (run : Run step create history site)
    (orderly : Meets Orderly history) : site.Kept := by
  apply run.invariant orderly kept_create
  exact fun state label next before allowed taken => step_kept before allowed taken

/-- In orderly runs no call sends on a closed channel, `RestartOLT` comes to its close only on an open
channel, and no message waits in vain. -/
theorem olt_channel_orderly {history : List (OltSite × OltSiteStep)}
    (run : Run step create history site) (orderly : Meets Orderly history) :
    (∀ number, .sending number ∈ site.calls → number ∉ site.closed) ∧
      (.disabling ∈ site.restarts → site.channel ∉ site.closed) ∧
      ∀ index number, site.calls[index]? = some (.sending number) → site.Receivable index := by
  have kept := kept_of_run run orderly
  refine ⟨?_, ?_, fun index number sending => kept.receivable sending⟩
  · intro number member shut
    obtain rfl := kept.waiting number member
    simp [kept.idle shut] at member
  · intro member shut
    obtain ⟨position, located⟩ := List.mem_iff_getElem?.mp member
    obtain ⟨-, -, -, closed⟩ := kept.only_restart located
    exact closed.mp shut rfl

/-- `Enable`, up to where the OLT is enabled. -/
def enabling : List OltSiteStep :=
  [.request .enable, .renew 0, .serve 0, .send 0, .receive 0 0, .indicate true, .finish 0]

def rebooting : List OltSiteStep := [.restart, .close 0, .lock 0, .unlock 0, .init 0]

/-- A reboot after which VOLTHA connects again and an alarm waits to be received. -/
theorem olt_channel_orderly_reboot :
    ∃ history final, Run step create history final ∧ Meets Orderly history ∧
      final.channel = 1 ∧ .sending 1 ∈ final.calls ∧ 1 ∉ final.closed := by
  obtain ⟨history, final, run, meets, current, waits⟩ :=
    run_of_guarded_replay Orderly step create
      (enabling ++ rebooting ++ ([.stop 0] : List OltSiteStep) ++ enabling ++
        ([.request .setOltAlarm, .send 0] : List OltSiteStep))
      (fun site => site.channel = 1 ∧ .sending 1 ∈ site.calls) (by decide +kernel)
  exact ⟨history, final, run, meets, current, waits, (olt_channel_orderly run meets).1 1 waits⟩

/-- While `RestartOLT` waits, an alarm request of the API sends on the channel it closed. -/
theorem alarm_during_reboot_sends_on_closed :
    ∃ history final, Run step create history final ∧
      ∃ number, .sending number ∈ final.calls ∧ number ∈ final.closed := by
  obtain ⟨history, final, run, reached⟩ :=
    run_of_replay step create
      (enabling ++
        ([.restart, .close 0, .lock 0, .request .setOltAlarm, .send 0] : List OltSiteStep))
      (fun site => .sending 0 ∈ site.calls ∧ 0 ∈ site.closed) (by decide +kernel)
  exact ⟨history, final, run, 0, reached⟩

end OltSite

end Bbsim.Devices
