import Mathlib.Algebra.GroupWithZero.Nat
import Bbsim.Foundation.Progress

/-! Attempts at a protocol. A client starts attempts, each with a timer, and exchanges messages with
a server over two queues. Nobody numbers the attempts, so that messages of several of them are under
way at once. -/

namespace Bbsim.Foundation

variable {State Server Up Down : Type*}

/-- What each party does. -/
structure Protocol (State Server Up Down : Type*) where
  /-- The client may start an attempt. -/
  idle : State → Bool
  /-- Where the client stands once it has sent its opening. -/
  begun : State
  opening : Up
  fail : State → State
  complete : State → Bool
  respond : State → Down → State × List Up
  /-- `none` where the server takes no message. -/
  serve : Server → Up → Option (Server × List Up × List Down)
  stop : Server → Option Server

structure Talk (State Server Up Down : Type*) where
  state : State
  /-- The timers of attempts that have not ended. -/
  timers : Nat
  server : Server
  up : List Up
  down : List Down

inductive TalkStep where
  | start
  /-- The wait of a timer is over. -/
  | expire
  /-- The client handles the next message. -/
  | receive
  /-- The server handles the next message. -/
  | serve
  | stop

namespace Protocol

variable (protocol : Protocol State Server Up Down) (talk : Talk State Server Up Down)

def start : Talk State Server Up Down :=
  if protocol.idle talk.state then
    ⟨protocol.begun, talk.timers + 1, talk.server, talk.up ++ [protocol.opening], talk.down⟩
  else talk

def failed : Talk State Server Up Down :=
  { talk with state := protocol.fail talk.state, timers := talk.timers - 1 }

/-- Once an attempt is complete the timer only starts again. -/
def expire (retry : Bool) : Option (Talk State Server Up Down) :=
  if talk.timers = 0 then none
  else if protocol.complete talk.state then some talk
  else some (if retry then protocol.start (protocol.failed talk) else protocol.failed talk)

def receive : Option (Talk State Server Up Down) :=
  match talk.down with
  | [] => none
  | message :: later =>
    let (state, up) := protocol.respond talk.state message
    some ⟨state, talk.timers, talk.server, talk.up ++ up, later⟩

def serveNext : Option (Talk State Server Up Down) :=
  match talk.up with
  | [] => none
  | message :: later =>
    (protocol.serve talk.server message).map fun (server, up, down) =>
      ⟨talk.state, talk.timers, server, later ++ up, talk.down ++ down⟩

def step (retry : Bool) : TalkStep → Option (Talk State Server Up Down)
  | .start => some (protocol.start talk)
  | .expire => protocol.expire talk retry
  | .receive => protocol.receive talk
  | .serve => protocol.serveNext talk
  | .stop => (protocol.stop talk.server).map fun server => { talk with server := server }

def completed : Prop := protocol.complete talk.state = true

/-- An attempt under way has a timer. -/
def Timed : Prop := protocol.idle talk.state = false → 0 < talk.timers

/-- How the parts of a client belong together. -/
structure Lawful : Prop where
  fail_idle : ∀ state, protocol.idle (protocol.fail state) = true
  fail_incomplete : ∀ state, protocol.complete state = false →
    protocol.complete (protocol.fail state) = false
  respond_idle : ∀ state message, protocol.idle state = true →
    protocol.idle (protocol.respond state message).1 = true

/-- What is left to do about each part of a talk. -/
structure Weights (State Up Down : Type*) where
  state : State → Nat
  up : Up → Nat
  down : Down → Nat

def Weights.total (weights : Weights State Up Down) (talk : Talk State Server Up Down) : Nat :=
  weights.state talk.state + (talk.up.map weights.up).sum + (talk.down.map weights.down).sum

/-- While this holds of the server and the queues, the server takes its messages, and every message
gives rise to lighter ones. -/
structure Handles (weights : Weights State Up Down) (isOpen : Server → List Up → List Down → Prop) :
    Prop where
  serve : ∀ server message later down, isOpen server (message :: later) down →
    ∃ after up more, protocol.serve server message = some (after, up, more) ∧
      isOpen after (later ++ up) (down ++ more) ∧
      (up.map weights.up).sum + (more.map weights.down).sum < weights.up message
  respond : ∀ server up message later state, isOpen server up (message :: later) →
    isOpen server (up ++ (protocol.respond state message).2) later ∧
      weights.state (protocol.respond state message).1 +
          ((protocol.respond state message).2.map weights.up).sum <
        weights.state state + weights.down message

/-- What every part of a step keeps. -/
structure Keeps (holds : Talk State Server Up Down → Prop) : Prop where
  begun : ∀ state timers server up down, holds ⟨state, timers, server, up, down⟩ →
    holds ⟨protocol.begun, timers + 1, server, up ++ [protocol.opening], down⟩
  fail : ∀ talk, protocol.complete talk.state = false → holds talk → holds (protocol.failed talk)
  respond : ∀ state timers server up message later,
    holds ⟨state, timers, server, up, message :: later⟩ →
    holds ⟨(protocol.respond state message).1, timers, server,
      up ++ (protocol.respond state message).2, later⟩
  serve : ∀ state timers server message later down after up more,
    protocol.serve server message = some (after, up, more) →
    holds ⟨state, timers, server, message :: later, down⟩ →
    holds ⟨state, timers, after, later ++ up, down ++ more⟩
  stop : ∀ talk after, protocol.stop talk.server = some after → holds talk →
    holds { talk with server := after }

variable {protocol talk} {next : Talk State Server Up Down} {retry : Bool}

section

variable {holds : Talk State Server Up Down → Prop} (keeps : protocol.Keeps holds)
include keeps

theorem Keeps.start (held : holds talk) : holds (protocol.start talk) := by
  rw [Protocol.start]
  split
  · exact keeps.begun _ _ _ _ _ held
  · exact held

theorem Keeps.step {label : TalkStep} (held : holds talk)
    (taken : protocol.step talk retry label = some next) : holds next := by
  obtain ⟨state, timers, server, up, down⟩ := talk
  cases label with
  | start =>
    cases taken
    exact keeps.start held
  | expire =>
    rw [Protocol.step, expire] at taken
    split at taken
    · cases taken
    · split at taken
      · exact Option.some.inj taken ▸ held
      · next incomplete =>
        have ended := keeps.fail _ (Bool.eq_false_iff.mpr incomplete) held
        cases retry with
        | false => exact Option.some.inj taken ▸ ended
        | true => exact Option.some.inj taken ▸ keeps.start ended
  | receive =>
    cases down with
    | nil => cases taken
    | cons message later =>
      cases taken
      exact keeps.respond _ _ _ _ _ _ held
  | serve =>
    cases up with
    | nil => cases taken
    | cons message later =>
      obtain ⟨⟨after, up, more⟩, served, rfl⟩ := Option.map_eq_some_iff.mp taken
      exact keeps.serve _ _ _ _ _ _ _ _ _ served held
  | stop =>
    obtain ⟨after, stopped, rfl⟩ := Option.map_eq_some_iff.mp taken
    exact keeps.stop _ _ stopped held

theorem Keeps.run {history : List (Talk State Server Up Down × TalkStep)}
    (run : Run (protocol.step · retry) talk history next) (held : holds talk) : holds next := by
  induction run with
  | start => exact held
  | snoc before taken ih => exact keeps.step ih taken

end

theorem timed_keeps (lawful : protocol.Lawful) : protocol.Keeps protocol.Timed where
  begun _ _ _ _ _ _ _ := Nat.succ_pos _
  fail talk _ _ ongoing := Bool.noConfusion (ongoing.symm.trans (lawful.fail_idle talk.state))
  respond state _ _ _ message _ timed ongoing := by
    apply timed
    by_contra idle
    have stays := lawful.respond_idle state message (Bool.not_eq_false _ ▸ idle)
    exact Bool.noConfusion (ongoing.symm.trans stays)
  serve _ _ _ _ _ _ _ _ _ _ timed := timed
  stop _ _ _ timed := timed

section

variable {weights : Weights State Up Down} {isOpen : Server → List Up → List Down → Prop}

/-- A message that waits can be handled, and less is left to do. -/
theorem advances (handles : protocol.Handles weights isOpen)
    (held : isOpen talk.server talk.up talk.down) (waiting : talk.up ≠ [] ∨ talk.down ≠ []) :
    ∃ label next, protocol.step talk retry label = some next ∧
      isOpen next.server next.up next.down ∧ weights.total next < weights.total talk := by
  obtain ⟨state, timers, server, up, down⟩ := talk
  cases up with
  | cons message later =>
    obtain ⟨after, up, more, served, kept, less⟩ := handles.serve server message later down held
    refine ⟨.serve, ⟨state, timers, after, later ++ up, down ++ more⟩, ?_, kept, ?_⟩
    · simp only [step, serveNext, served, Option.map_some]
    · simp only [Weights.total, List.map_append, List.map_cons, List.sum_append, List.sum_cons]
      omega
  | nil =>
    cases down with
    | cons message later =>
      obtain ⟨kept, less⟩ := handles.respond _ _ _ _ state held
      refine ⟨.receive, ⟨(protocol.respond state message).1, timers, server,
        (protocol.respond state message).2, later⟩, rfl, kept, ?_⟩
      simp only [Weights.total, List.map_cons, List.sum_cons, List.map_nil, List.sum_nil]
      omega
    | nil => exact absurd rfl (waiting.resolve_left fun up => up rfl)

/-- An attempt can be completed from wherever the server still serves, if it can be where nothing
disturbs it. -/
theorem canReach_completed (lawful : protocol.Lawful) (handles : protocol.Handles weights isOpen)
    (completes : ∀ server timers, isOpen server [] [] → CanReach (protocol.step · retry)
      protocol.completed ⟨protocol.begun, timers, server, [protocol.opening], []⟩)
    (timed : protocol.Timed talk) (held : isOpen talk.server talk.up talk.down) :
    CanReach (protocol.step · retry) protocol.completed talk := by
  have drained : CanReach (protocol.step · retry) (fun talk => protocol.Timed talk ∧
      isOpen talk.server [] [] ∧ talk.up = [] ∧ talk.down = []) talk := by
    refine canReach_of_rank weights.total
      (fun talk => protocol.Timed talk ∧ isOpen talk.server talk.up talk.down) ?_ ⟨timed, held⟩
    rintro talk ⟨timed, held⟩
    by_cases waiting : talk.up ≠ [] ∨ talk.down ≠ []
    · obtain ⟨label, next, taken, kept, less⟩ := advances handles held waiting
      exact .inr ⟨label, next, taken, ⟨(timed_keeps lawful).step timed taken, kept⟩, less⟩
    · obtain ⟨up, down⟩ := not_or.mp waiting
      rw [not_not.mp up, not_not.mp down] at held
      exact .inl ⟨timed, held, not_not.mp up, not_not.mp down⟩
  refine drained.trans ?_
  rintro ⟨state, timers, server, up, down⟩ ⟨timed, held, rfl, rfl⟩
  have begins : ∀ state timers, protocol.idle state = true → CanReach (protocol.step · retry)
      protocol.completed (protocol.start ⟨state, timers, server, [], []⟩) := by
    intro state timers accepted
    rw [start, if_pos accepted]
    exact completes _ _ held
  have starts : ∀ talk, protocol.step talk retry .start = some (protocol.start talk) := fun _ => rfl
  cases idle : protocol.idle state with
  | true => exact canReach_of_step (starts _) (begins state timers idle)
  | false =>
    -- the attempt under way is ended by its timer
    cases done : protocol.complete state with
    | true => exact canReach_of_goal done
    | false =>
      have failed := begins (protocol.fail state) (timers - 1) (lawful.fail_idle _)
      have taken : protocol.step ⟨state, timers, server, [], []⟩ retry .expire = some (if retry
          then protocol.start (protocol.failed ⟨state, timers, server, [], []⟩)
          else protocol.failed ⟨state, timers, server, [], []⟩) := by
        rw [step, expire, if_neg (Nat.ne_of_gt (timed idle)), done, if_neg Bool.false_ne_true]
      apply canReach_of_step taken
      cases retry with
      | false => exact canReach_of_step (starts _) failed
      | true => exact failed

end

end Protocol

end Bbsim.Foundation
