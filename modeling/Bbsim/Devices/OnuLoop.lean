import Bbsim.Devices.OnuMessages

/-! The message loops of an ONU. A `ProcessOnuMessages` loop evaluates `o.Channel` at each turn of
its `for` and then waits on that channel, also when the ONU gets another one in the meantime. What a
replaced channel still holds is handled only as far as loops already wait on it. -/

namespace Bbsim.Devices

namespace Onu

/-- Receive from the channel with this number. -/
def takeFrom (onu : Onu) (number : Nat) : Option (Message × Onu) :=
  if number = onu.retired.length then onu.takeCurrent
  else match onu.retired[number]? with
    | some { queue := message :: rest, closed } =>
      some (message, { onu with retired := onu.retired.set number { queue := rest, closed } })
    | _ => none

@[simps] def setLoop (onu : Onu) (index : Nat) (loop : OnuLoop) : Onu :=
  { onu with loops := onu.loops.set index loop }

/-- A loop reaches its `select`. -/
def select (onu : Onu) (index : Nat) : Onu :=
  match onu.loops[index]? with
  | some ⟨context, .turning⟩ => onu.setLoop index ⟨context, .waiting onu.channelNumber⟩
  | _ => onu

/-- A waiting loop receives a message, which it handles next. -/
def receive (onu : Onu) (index : Nat) : Option (Message × Onu) :=
  match onu.loops[index]? with
  | some ⟨context, .waiting (some number)⟩ =>
    (onu.takeFrom number).map fun (message, rest) =>
      (message, rest.setLoop index ⟨context, .turning⟩)
  | _ => none

/-- A loop ends: its context or the stream is cancelled, or its channel is closed and drained. -/
@[simps] def stopLoop (onu : Onu) (index : Nat) : Onu :=
  { onu with loops := onu.loops.eraseIdx index }

/-- The loops that wait on the channel with this number. -/
def readers (onu : Onu) (number : Nat) : Nat :=
  onu.loops.countP fun loop => loop.point = .waiting (some number)

/-- The messages that may still be handled without another send. -/
def reachable (onu : Onu) : List Message :=
  onu.pending ++ onu.retired.zipIdx.flatMap fun (chan, number) =>
    chan.queue.take (onu.readers number)

variable {onu other : Onu} {message : Message}

theorem mem_reachable :
    message ∈ onu.reachable ↔ message ∈ onu.pending ∨
      ∃ (chan : Chan) (number : Nat), onu.retired[number]? = some chan ∧
        message ∈ chan.queue.take (onu.readers number) := by
  simp only [reachable, List.mem_append, List.mem_flatMap, Prod.exists,
    List.mem_zipIdx_iff_getElem?]

/-- Fewer readers of the replaced channels reach fewer messages. -/
theorem reachable_of_fewer_readers (current : other.pending ⊆ onu.pending)
    (replaced : other.retired = onu.retired)
    (fewer : ∀ number < onu.retired.length, other.readers number ≤ onu.readers number) :
    other.reachable ⊆ onu.reachable := by
  intro message reached
  rcases mem_reachable.mp reached with now | ⟨chan, number, found, taken⟩
  · exact mem_reachable.mpr (.inl (current now))
  · rw [replaced] at found
    obtain ⟨inside, -⟩ := List.getElem?_eq_some_iff.mp found
    exact mem_reachable.mpr (.inr ⟨chan, number, found,
      (List.take_subset_take_left chan.queue (fewer number inside)) taken⟩)

variable {index : Nat}

theorem readers_setLoop {before after : OnuLoop} (found : onu.loops[index]? = some before)
    (number : Nat) :
    (onu.setLoop index after).readers number =
      onu.readers number - (if before.point = .waiting (some number) then 1 else 0) +
        (if after.point = .waiting (some number) then 1 else 0) := by
  obtain ⟨inside, rfl⟩ := List.getElem?_eq_some_iff.mp found
  simp [readers, List.countP_set inside]

private theorem readers_stopLoop (index number : Nat) :
    (onu.stopLoop index).readers number ≤ onu.readers number :=
  (List.eraseIdx_sublist _ _).countP_le

theorem reachable_stopLoop (index : Nat) : (onu.stopLoop index).reachable ⊆ onu.reachable :=
  reachable_of_fewer_readers (List.Subset.refl _) rfl fun number _ => readers_stopLoop index number

theorem reachable_spawnLoop (context : Nat) :
    (onu.spawnLoop context).reachable ⊆ onu.reachable := by
  refine reachable_of_fewer_readers (List.Subset.refl _) rfl ?_
  intro number inside
  simp [readers]

theorem reachable_select (index : Nat) : (onu.select index).reachable ⊆ onu.reachable := by
  unfold select
  split
  case h_2 => exact List.Subset.refl _
  case h_1 context found =>
    refine reachable_of_fewer_readers (List.Subset.refl _) rfl ?_
    intro number inside
    have elsewhere : onu.channelNumber ≠ some number := by
      intro same
      obtain ⟨chan, present, rfl⟩ := Option.map_eq_some_iff.mp same
      exact Nat.lt_irrefl _ inside
    rw [readers_setLoop found]
    simp [elsewhere]

variable {rest : Onu}

theorem takeFrom_eq_some {number : Nat} (taken : onu.takeFrom number = some (message, rest)) :
    (∃ chan queue, number = onu.retired.length ∧ onu.channel = some chan ∧
      chan.queue = message :: queue ∧
      rest = { onu with channel := some { chan with queue := queue } }) ∨
    ∃ chan queue, onu.retired[number]? = some chan ∧ chan.queue = message :: queue ∧
      rest = { onu with retired := onu.retired.set number { chan with queue := queue } } := by
  unfold takeFrom at taken
  split at taken
  · next latest =>
    obtain ⟨chan, queue, channel, head, rfl⟩ := takeCurrent_eq_some taken
    exact .inl ⟨chan, queue, latest, channel, head, rfl⟩
  · split at taken
    · next first queue closed found =>
      cases taken
      exact .inr ⟨_, queue, found, rfl, rfl⟩
    · cases taken

/-- A message received was reachable, and nothing becomes reachable by receiving it. -/
structure Received (onu : Onu) (message : Message) (rest : Onu) : Prop where
  message_reachable : message ∈ onu.reachable
  rest_reachable : rest.reachable ⊆ onu.reachable
  same_status : rest.channel.map Chan.closed = onu.channel.map Chan.closed
  frame : rest = { onu with channel := rest.channel, retired := rest.retired, loops := rest.loops }

theorem Received.writable {onu rest : Onu} {message : Message} (received : Received onu message rest) :
    rest.writable = onu.writable := by
  have status := received.same_status
  cases before : onu.channel <;> cases after : rest.channel <;> simp_all [Onu.writable]

/-- The loop that received no longer waits on the channel. -/
theorem readers_of_turn {middle : Onu} {index context number : Nat}
    (sameLoops : middle.loops = onu.loops)
    (found : onu.loops[index]? = some ⟨context, .waiting (some number)⟩) (other : Nat) :
    (middle.setLoop index ⟨context, .turning⟩).readers other =
      onu.readers other - if other = number then 1 else 0 := by
  have same : middle.readers other = onu.readers other := by rw [readers, sameLoops, readers]
  rw [readers_setLoop (by rw [sameLoops]; exact found), same]
  simp [eq_comm]

/-- The parts of a receive. -/
theorem receive_parts {message : Message} (received : onu.receive index = some (message, rest)) :
    ∃ context number middle, onu.loops[index]? = some ⟨context, .waiting (some number)⟩ ∧
      onu.takeFrom number = some (message, middle) ∧
      rest = middle.setLoop index ⟨context, .turning⟩ := by
  unfold Onu.receive at received
  split at received
  case h_2 => cases received
  case h_1 context number found =>
    obtain ⟨⟨first, middle⟩, taken, same⟩ := Option.map_eq_some_iff.mp received
    dsimp only at same
    obtain ⟨rfl, rfl⟩ := Prod.mk.inj same
    exact ⟨context, number, middle, found, taken, rfl⟩

theorem receive_eq_some (received : onu.receive index = some (message, rest)) :
    Received onu message rest := by
  obtain ⟨context, number, middle, found, taken, rfl⟩ := receive_parts received
  have reading : 0 < onu.readers number :=
    List.countP_pos_iff.mpr ⟨_, List.mem_of_getElem? found, by simp⟩
  rcases takeFrom_eq_some taken with ⟨chan, queue, rfl, channel, head, rfl⟩ |
    ⟨chan, queue, present, head, rfl⟩
  · refine ⟨mem_reachable.mpr (.inl (by simp [pending, channel, head])), ?_,
      by simp [channel], rfl⟩
    refine reachable_of_fewer_readers (by simp [pending, channel, head]) rfl ?_
    intro other inside
    rw [readers_of_turn (by simp) found]
    exact Nat.sub_le _ _
  · obtain ⟨fewer, counted⟩ : ∃ fewer, onu.readers number = fewer + 1 :=
      Nat.exists_eq_add_of_lt reading |>.imp fun fewer eq => by omega
    refine ⟨mem_reachable.mpr (.inr ⟨chan, number, present, by simp [counted, head]⟩), ?_, rfl, rfl⟩
    intro reached member
    rcases mem_reachable.mp member with now | ⟨other, place, holds, waits⟩
    · exact mem_reachable.mpr (.inl now)
    · apply mem_reachable.mpr
      right
      rw [readers_of_turn (by simp) found] at waits
      simp only [setLoop_retired, List.getElem?_set] at holds
      split at holds
      · next same =>
        -- the channel taken from: its queue and the number of its readers both lose one
        subst same
        refine ⟨chan, number, present, ?_⟩
        rw [if_pos rfl, counted] at waits
        split at holds
        · obtain rfl := Option.some.inj holds
          rw [counted, head, List.take_succ_cons]
          exact List.mem_cons_of_mem _ (by simpa using waits)
        · cases holds
      · next different =>
        rw [if_neg (Ne.symm different)] at waits
        exact ⟨other, place, holds, waits⟩

end Onu

end Bbsim.Devices
