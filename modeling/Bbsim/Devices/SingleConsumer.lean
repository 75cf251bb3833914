import Bbsim.Devices.Consumers

/-! At most one consumer. Orderly steps keep at most one live loop on the channel of an ONU and on
the packet channel of each of its UNIs, over whole runs. -/

namespace Bbsim.Devices

open Foundation

namespace LoopSite

structure Ordered (site : LoopSite) : Prop where
  past : ∀ loop ∈ site.onu.loops, loop.context ≤ site.contexts
  known : ∀ loop ∈ site.onu.loops, ∀ number, loop.point = .waiting (some number) →
    number < site.onu.retired.length ∨
      number = site.onu.retired.length ∧ site.onu.channel.isSome = true
  single : site.consumers ≤ 1
  /-- A live loop left behind on a replaced channel finds nothing there. -/
  parked : ∀ loop ∈ site.onu.loops, site.live loop = true → ∀ number chan,
    loop.point = .waiting (some number) → site.onu.retired[number]? = some chan → chan.queue = []
  resuming_le : site.resuming ≤ 1
  resuming_alone : 0 < site.resuming → ∀ loop ∈ site.onu.loops, site.live loop = false
  packetLoops : site.onu.PacketLoopsSingle

variable {site next : LoopSite}

private theorem consumers_eq_zero (dead : ∀ loop ∈ site.onu.loops, site.live loop = false) :
    site.consumers = 0 := by
  rw [consumers, List.countP_eq_zero]
  intro loop member
  simp [consumes, dead loop member]

/-- The loops stand where they did, and no replaced channel has gained a message. -/
structure SamePlaces (onu other : Onu) : Prop where
  loops : other.loops = onu.loops
  length : other.retired.length = onu.retired.length
  drained : ∀ (number : Nat) (chan : Chan), other.retired[number]? = some chan →
    ∃ before, onu.retired[number]? = some before ∧ (before.queue = [] → chan.queue = [])
  exists_channel : other.channel.isSome = onu.channel.isSome
  packetLoops : onu.PacketLoopsSingle → other.PacketLoopsSingle

variable {attached : AttachedOnu}

section

variable (ordered : site.Ordered)
include ordered

theorem Ordered.of_samePlaces (same : SamePlaces site.onu attached.onu) :
    (site.withAttached attached).Ordered := by
  have loops : (site.withAttached attached).onu.loops = site.onu.loops := same.loops
  have length : (site.withAttached attached).onu.retired.length = site.onu.retired.length :=
    same.length
  have exists_channel : (site.withAttached attached).onu.channel.isSome = site.onu.channel.isSome :=
    same.exists_channel
  constructor
  · rw [loops]
    exact ordered.past
  · rw [loops, length, exists_channel]
    exact ordered.known
  · have consumes : (site.withAttached attached).consumes = site.consumes := by
      funext loop
      unfold LoopSite.consumes
      rw [length]
      rfl
    rw [consumers, loops, consumes]
    exact ordered.single
  · rw [loops]
    intro loop member live number chan waits found
    obtain ⟨before, present, drained⟩ := same.drained number chan found
    exact drained (ordered.parked loop member live number before waits present)
  · exact ordered.resuming_le
  · rw [loops]
    exact ordered.resuming_alone
  · exact same.packetLoops ordered.packetLoops

theorem Ordered.of_sameLoops (same : Onu.SameLoops site.onu attached.onu) :
    (site.withAttached attached).Ordered := by
  apply ordered.of_samePlaces
  refine ⟨same.loops, by rw [same.retired], fun number chan found => ?_, same.exists_channel,
    same.packetLoops⟩
  rw [same.retired] at found
  exact ⟨chan, found, fun drained => drained⟩

/-- Without live loops there is nothing to say about them. -/
theorem Ordered.of_dead (sameOnu : next.onu = site.onu) (later : site.contexts ≤ next.contexts)
    (dead : ∀ loop ∈ site.onu.loops, next.live loop = false) (resuming_le : next.resuming ≤ 1) :
    next.Ordered := by
  constructor
  · rw [sameOnu]
    exact fun loop member => Nat.le_trans (ordered.past loop member) later
  · rw [sameOnu]
    exact ordered.known
  · rw [consumers_eq_zero (by rwa [sameOnu])]
    exact Nat.zero_le 1
  · rw [sameOnu]
    intro loop member live
    rw [dead loop member] at live
    cases live
  · exact resuming_le
  · rw [sameOnu]
    exact fun _ => dead
  · rw [sameOnu]
    exact ordered.packetLoops

theorem Ordered.connect (free : site.resuming = 0) (taken : site.step .connect = some next) :
    next.Ordered := by
  obtain rfl := Option.some.inj taken
  refine ordered.of_dead rfl (Nat.le_succ _) ?_ ?_
  · -- the loops there are have earlier contexts
    intro loop member
    have past := ordered.past loop member
    simp only [live, Bool.not_false, Bool.and_true, decide_eq_false_iff_not]
    omega
  · dsimp only
    split <;> omega

theorem Ordered.cancel (taken : site.step .cancel = some next) : next.Ordered := by
  obtain rfl := Option.some.inj taken
  refine ordered.of_dead rfl (Nat.le_refl _) ?_ ordered.resuming_le
  intro loop member
  simp [live]

/-- A loop is started where no loop consumes, and those there are find nothing to take. -/
theorem Ordered.of_started (sameLive : next.live = site.live)
    (contexts : next.contexts = site.contexts) (free : next.resuming = 0)
    (loops : next.onu.loops = site.onu.loops ++ [⟨site.contexts, .turning⟩])
    (known : ∀ loop ∈ site.onu.loops, ∀ number, loop.point = .waiting (some number) →
      number < next.onu.retired.length ∨ number = next.onu.retired.length ∧
      next.onu.channel.isSome = true)
    (alone : ∀ loop ∈ site.onu.loops, site.live loop = true → loop.point ≠ .turning ∧
      loop.point ≠ .waiting (some next.onu.retired.length))
    (parked : ∀ loop ∈ site.onu.loops, site.live loop = true →
      ∀ number chan, loop.point = .waiting (some number) → next.onu.retired[number]? = some chan →
      chan.queue = [])
    (packetLoops : next.onu.PacketLoopsSingle) : next.Ordered := by
  have split : ∀ loop ∈ next.onu.loops, loop ∈ site.onu.loops ∨ loop = ⟨site.contexts, .turning⟩ := by
    intro loop member
    simpa [loops] using member
  constructor
  · intro loop member
    rw [contexts]
    rcases split loop member with old | rfl
    · exact ordered.past loop old
    · exact Nat.le_refl _
  · intro loop member number waits
    rcases split loop member with old | rfl
    · exact known loop old number waits
    · cases waits
  · rw [consumers, loops, List.countP_append, List.countP_eq_zero.mpr, Nat.zero_add]
    · exact List.countP_le_length
    · intro loop member consumes
      obtain ⟨live, reads⟩ := Bool.and_eq_true_iff.mp consumes
      obtain ⟨still, away⟩ := alone loop member (sameLive ▸ live)
      rcases (Bool.or_eq_true _ _).mp reads with turning | waits
      · exact still (of_decide_eq_true turning)
      · exact away (of_decide_eq_true waits)
  · intro loop member live number chan waits found
    rcases split loop member with old | rfl
    · exact parked loop old (sameLive ▸ live) number chan waits found
    · cases waits
  · rw [free]
    exact Nat.zero_le 1
  · rw [free]
    exact fun positive => absurd positive (Nat.lt_irrefl 0)
  · exact packetLoops

theorem Ordered.spawn (taken : site.step .spawn = some next) : next.Ordered := by
  simp only [step] at taken
  split at taken
  · cases taken
  · next busy =>
    obtain rfl := Option.some.inj taken
    have dead := ordered.resuming_alone (Nat.pos_of_ne_zero busy)
    have last : site.resuming - 1 = 0 := by
      have atMost := ordered.resuming_le
      omega
    refine ordered.of_started rfl rfl last rfl ordered.known ?_ ?_ ordered.packetLoops
    · intro loop member live
      rw [dead loop member] at live
      cases live
    · intro loop member live
      rw [dead loop member] at live
      cases live

/-- The channel is replaced while every live loop waits and finds nothing. -/
theorem Ordered.restart (free : site.resuming = 0)
    (idle : ∀ loop ∈ site.onu.loops, site.live loop = true → site.idle loop = true) :
    (site.withAttached (site.attached.entered site.contexts .initialized)).Ordered := by
  have retired : (site.withAttached (site.attached.entered site.contexts .initialized)).onu.retired =
      site.onu.retired ++ site.onu.channel.toList := AttachedOnu.entered_effects.retired
  have behind : ∀ loop ∈ site.onu.loops, ∀ number, loop.point = .waiting (some number) →
      number < (site.onu.retired ++ site.onu.channel.toList).length := by
    intro loop member number waits
    rw [List.length_append]
    rcases ordered.known loop member number waits with earlier | ⟨rfl, present⟩
    · exact Nat.lt_add_right _ earlier
    · obtain ⟨chan, channel⟩ := Option.isSome_iff_exists.mp present
      simp [channel]
  refine ordered.of_started rfl rfl free AttachedOnu.entered_effects.loops ?_ ?_ ?_ ordered.packetLoops
  · intro loop member number waits
    rw [retired]
    exact .inl (behind loop member number waits)
  · intro loop member live
    have waiting := idle loop member live
    constructor
    · intro turning
      simp [LoopSite.idle, turning] at waiting
    · intro waits
      rw [retired] at waits
      exact Nat.lt_irrefl _ (behind loop member _ waits)
  · intro loop member live number chan waits found
    rw [retired] at found
    simpa [LoopSite.idle, waits, queueOf, found] using idle loop member live

theorem Ordered.event {tx : OnuTx} (orderly : site.Orderly (.event tx))
    (taken : site.step (.event tx) = some next) : next.Ordered := by
  obtain ⟨attached, returned, rfl⟩ := Option.map_eq_some_iff.mp taken
  by_cases first : tx = .init
  · subst first
    have after := AttachedOnu.ensures_tryEvent.value (eq_ok_of_toOption returned)
    cases accepted : site.attached.onu.internalState.after .init with
    | none =>
      rw [accepted] at after
      rw [after]
      exact ordered
    | some state =>
      obtain rfl := OnuState.after_init accepted
      obtain ⟨free, idle⟩ := orderly (by rw [onu, accepted]; rfl)
      rw [accepted] at after
      rw [after]
      exact ordered.restart free idle
  · exact ordered.of_sameLoops
      ((AttachedOnu.ensures_tryEvent_same first).value (eq_ok_of_toOption returned))

end

variable {message : Message}

theorem Ordered.send (ordered : site.Ordered) (taken : site.step (.send message) = some next) :
    next.Ordered := by
  obtain ⟨sent, returned, rfl⟩ := Option.map_eq_some_iff.mp taken
  exact ordered.of_sameLoops ((Onu.ensures_send message).value (eq_ok_of_toOption returned))

variable {index : Nat}

/-- A loop moves, and consumes only if it did before. -/
theorem Ordered.setLoop (ordered : site.Ordered) {before after : OnuLoop}
    (found : site.onu.loops[index]? = some before) (context : after.context = before.context)
    (consumed : site.consumes after = true → site.consumes before = true)
    (known : ∀ number, after.point = .waiting (some number) → number = site.onu.retired.length ∧
      site.onu.channel.isSome = true) :
    (site.withOnu (site.onu.setLoop index after)).Ordered := by
  have member := List.mem_of_getElem? found
  have live : site.live after = site.live before := by rw [LoopSite.live, context, LoopSite.live]
  have split : ∀ loop ∈ site.onu.loops.set index after, loop ∈ site.onu.loops ∨ loop = after :=
    fun loop => List.mem_or_eq_of_mem_set
  constructor
  · intro loop present
    rcases split loop present with old | rfl
    · exact ordered.past loop old
    · rw [context]
      exact ordered.past before member
  · intro loop present number waits
    rcases split loop present with old | rfl
    · exact ordered.known loop old number waits
    · exact .inr (known number waits)
  · have fewer : (site.onu.loops.set index after).countP site.consumes ≤
        site.onu.loops.countP site.consumes := by
      obtain ⟨inside, rfl⟩ := List.getElem?_eq_some_iff.mp found
      have counted : site.consumes site.onu.loops[index] = true →
          0 < site.onu.loops.countP site.consumes :=
        fun consumes => List.countP_pos_iff.mpr ⟨_, member, consumes⟩
      rw [List.countP_set inside]
      split <;> split <;> grind
    exact Nat.le_trans fewer ordered.single
  · intro loop present alive number chan waits there
    rcases split loop present with old | rfl
    · exact ordered.parked loop old alive number chan waits there
    · rw [(known number waits).1] at there
      rw [show (site.withOnu (site.onu.setLoop index loop)).onu.retired = site.onu.retired from rfl,
        List.getElem?_length] at there
      cases there
  · exact ordered.resuming_le
  · intro positive loop present
    rcases split loop present with old | rfl
    · exact ordered.resuming_alone positive loop old
    · exact live.trans (ordered.resuming_alone positive before member)
  · exact ordered.packetLoops

theorem Ordered.stopLoop (ordered : site.Ordered) (index : Nat) :
    (site.withOnu (site.onu.stopLoop index)).Ordered := by
  have fewer : (site.onu.loops.eraseIdx index).Sublist site.onu.loops := List.eraseIdx_sublist _ _
  constructor
  · exact fun loop member => ordered.past loop (fewer.mem member)
  · exact fun loop member => ordered.known loop (fewer.mem member)
  · have le : (site.onu.loops.eraseIdx index).countP site.consumes ≤ site.consumers := fewer.countP_le
    exact Nat.le_trans le ordered.single
  · exact fun loop member => ordered.parked loop (fewer.mem member)
  · exact ordered.resuming_le
  · exact fun positive loop member => ordered.resuming_alone positive loop (fewer.mem member)
  · exact ordered.packetLoops

theorem Ordered.select (ordered : site.Ordered) (index : Nat) :
    (site.withOnu (site.onu.select index)).Ordered := by
  unfold Onu.select
  split
  · next context found =>
    refine ordered.setLoop found rfl ?_ ?_
    · intro consumes
      simpa [LoopSite.consumes, LoopSite.live] using (Bool.and_eq_true_iff.mp consumes).1
    · intro number waits
      obtain ⟨chan, present, rfl⟩ :=
        Option.map_eq_some_iff.mp (LoopPoint.waiting.inj waits : site.onu.channelNumber = some number)
      exact ⟨rfl, by rw [present]; rfl⟩
  · exact ordered

/-- Taking a message away moves no loop. -/
theorem samePlaces_takeFrom {onu rest : Onu} {number : Nat}
    (taken : onu.takeFrom number = some (message, rest)) : SamePlaces onu rest := by
  rcases Onu.takeFrom_eq_some taken with ⟨chan, queue, -, channel, -, rfl⟩ |
    ⟨chan, queue, found, head, rfl⟩
  · exact ⟨rfl, rfl, fun number chan there => ⟨chan, there, fun drained => drained⟩,
      by simp [channel], fun single => single⟩
  · refine ⟨rfl, by simp, fun other there present => ?_, rfl, fun single => single⟩
    simp only [List.getElem?_set] at present
    split at present
    · next same =>
      subst same
      exact ⟨chan, found, by simp [head]⟩
    · exact ⟨there, present, fun drained => drained⟩

section

variable (ordered : site.Ordered)
include ordered

/-- What a waiting loop that is live receives comes from the current channel. -/
theorem Ordered.receive_current {index number context : Nat} {rest : Onu}
    (found : site.onu.loops[index]? = some ⟨context, .waiting (some number)⟩)
    (live : site.live ⟨context, .waiting (some number)⟩ = true)
    (taken : site.onu.takeFrom number = some (message, rest)) :
    number = site.onu.retired.length ∧ site.onu.pending = message :: rest.pending := by
  rcases Onu.takeFrom_eq_some taken with ⟨chan, queue, current, channel, head, rfl⟩ |
    ⟨chan, queue, present, head, -⟩
  · exact ⟨current, by simp [Onu.pending, channel, head]⟩
  · have empty := ordered.parked _ (List.mem_of_getElem? found) live number chan rfl present
    rw [head] at empty
    cases empty

theorem Ordered.receive (orderly : site.Orderly (.receive index))
    (taken : site.step (.receive index) = some next) :
    next.Ordered := by
  simp only [step] at taken
  split at taken
  case isFalse => cases taken
  case isTrue alive =>
    obtain ⟨⟨message, rest⟩, received, handled⟩ := Option.bind_eq_some_iff.mp taken
    obtain ⟨attached, returned, rfl⟩ := Option.map_eq_some_iff.mp handled
    have settled : site.onu.reopens message = false := orderly (message, rest) received
    obtain ⟨context, number, middle, found, took, rfl⟩ := Onu.receive_parts received
    have live : site.live ⟨context, .waiting (some number)⟩ = true := by
      simpa [found] using alive
    obtain ⟨rfl, -⟩ := ordered.receive_current found live took
    have places := samePlaces_takeFrom took
    have same : (site.withOnu middle).onu = middle := rfl
    -- first the message is gone, then the loop turns, then it handles the message
    have turned : (site.withOnu (middle.setLoop index ⟨context, .turning⟩)).Ordered := by
      have emptied : (site.withOnu middle).Ordered := ordered.of_samePlaces places
      have here : (site.withOnu middle).onu.loops[index]? =
          some ⟨context, .waiting (some site.onu.retired.length)⟩ := by
        rw [same, places.loops]
        exact found
      have lives : (site.withOnu middle).live ⟨context, .waiting (some site.onu.retired.length)⟩ =
          true := live
      exact emptied.setLoop here rfl
        (fun _ => by simp [LoopSite.consumes, same, places.length, lives]) nofun
    have unis : middle.uniPorts = site.onu.uniPorts := by
      rcases Onu.takeFrom_eq_some took with ⟨_, _, _, _, _, rfl⟩ | ⟨_, _, _, _, rfl⟩ <;> rfl
    have still : (site.attached.withOnu (middle.setLoop index ⟨context, .turning⟩)).onu.reopens
        message = false := by
      rw [← settled]
      unfold Onu.reopens
      rw [AttachedOnu.withOnu_onu, Onu.setLoop_uniPorts, unis]
    exact turned.of_sameLoops ((AttachedOnu.ensures_handle still).value (eq_ok_of_toOption returned))

theorem Ordered.discard (taken : site.step (.discard index) = some next) : next.Ordered := by
  simp only [step] at taken
  split at taken
  case isTrue => cases taken
  case isFalse =>
    obtain ⟨⟨message, rest⟩, received, rfl⟩ := Option.map_eq_some_iff.mp taken
    obtain ⟨context, number, middle, found, took, rfl⟩ := Onu.receive_parts received
    have emptied : (site.withOnu middle).Ordered := ordered.of_samePlaces (samePlaces_takeFrom took)
    have stopped := emptied.stopLoop index
    have same : (middle.setLoop index ⟨context, .turning⟩).stopLoop index = middle.stopLoop index := by
      simp [Onu.stopLoop, Onu.setLoop, List.eraseIdx_set_eq]
    dsimp only
    rw [same]
    exact stopped

private theorem step_ordered {label : LoopStep} (orderly : site.Orderly label)
    (taken : site.step label = some next) : next.Ordered := by
  cases label with
  | connect => exact ordered.connect orderly taken
  | spawn => exact ordered.spawn taken
  | cancel => exact ordered.cancel taken
  | event tx => exact ordered.event orderly taken
  | send message => exact ordered.send taken
  | select index =>
    obtain rfl := Option.some.inj taken
    exact ordered.select index
  | receive index => exact ordered.receive orderly taken
  | discard index => exact ordered.discard taken
  | stop index =>
    obtain rfl := Option.some.inj taken
    exact ordered.stopLoop index
  | respond uni service eapolState dhcpState groupAddresses =>
    obtain rfl := Option.some.inj taken
    exact ordered.of_sameLoops (Onu.sameLoops_respond uni service _)

end

private theorem ordered_create (loops : attached.onu.loops = [])
    (closed : ∀ uni ∈ attached.onu.uniPorts, uni.packetLoops = 0) : (create attached).Ordered := by
  have none : (create attached).onu.loops = [] := loops
  constructor
  · simp [none]
  · simp [none]
  · simp [consumers, none]
  · simp [none]
  · exact Nat.zero_le 1
  · simp [none]
  · intro uni member
    rw [closed uni member]
    exact Nat.zero_le 1

end LoopSite

/-- In every run of orderly steps from a new ONU, at most one live loop consumes from its channel and
at most one from each UNI, and a live loop only ever receives the oldest message of the channel. -/
theorem single_consumer {id ponPortId : UInt32} {serialNumber : SerialRef}
    {vendorSpecific : List UInt8} {uniPorts : List UniPort} {potsPorts : List PotsPort}
    {omciResponseRate : UInt8} {resources : PonResources}
    (closed : ∀ uni ∈ uniPorts, uni.packetLoops = 0)
    {history : List (LoopSite × LoopStep)} {final : LoopSite}
    (run : Run LoopSite.step (.create ⟨Onu.create id ponPortId serialNumber vendorSpecific uniPorts
      potsPorts omciResponseRate, resources⟩) history final)
    (orderly : Meets LoopSite.Orderly history) :
    final.consumers ≤ 1 ∧ (∀ uni ∈ final.onu.uniPorts, uni.packetLoops ≤ 1) ∧
      ∀ index message rest, (final.onu.loops[index]?.any final.live) = true →
        final.onu.receive index = some (message, rest) →
        final.onu.pending = message :: rest.pending := by
  have ordered : final.Ordered := by
    apply run.invariant orderly
    · exact LoopSite.ordered_create rfl closed
    · exact fun site label next before allowed taken => LoopSite.step_ordered before allowed taken
  refine ⟨ordered.single, ordered.packetLoops, fun index message rest alive received => ?_⟩
  obtain ⟨context, number, middle, found, took, rfl⟩ := Onu.receive_parts received
  exact (ordered.receive_current found (by simpa [found] using alive) took).2

def newSite : LoopSite :=
  .create ⟨Onu.create 1 0 0 [0, 0, 0, 1] [⟨0, 257, 0, .down, [], 0⟩] [] 10, .empty⟩

/-- First `Enable`; the ONU comes up and its loop waits. -/
def firstEnable : List LoopStep :=
  [.connect, .event .init, .event .discover, .select 0, .receive 0, .select 0, .event .enable]

theorem single_consumer_firstEnable : ∃ history final,
    Run LoopSite.step newSite history final ∧ final.consumers ≤ 1 ∧
      ∀ uni ∈ final.onu.uniPorts, uni.packetLoops ≤ 1 := by
  obtain ⟨history, final, run, orderly, -⟩ := run_of_guarded_replay LoopSite.Orderly LoopSite.step
    newSite firstEnable (fun _ => True) (by decide +kernel)
  have closed : ∀ uni ∈ [(⟨0, 257, 0, .down, [], 0⟩ : UniPort)], uni.packetLoops = 0 := by decide
  have single := single_consumer closed run orderly
  exact ⟨history, final, run, single.1, single.2.1⟩

/-- The OLT reboots: `RestartOLT` disables the ONU and cancels the context; the next `Enable`
rediscovers the ONU, which starts a loop, and then starts another one. -/
def reboot : List LoopStep :=
  [.event .disable, .cancel, .stop 0, .connect, .event .init, .event .discover, .spawn,
    .select 0, .select 1]

theorem reboot_starts_two_loops : ∃ history final,
    Run LoopSite.step newSite history final ∧ final.consumers = 2 ∧
      final.onu.channelNumber = some 1 ∧
      ∀ loop ∈ final.onu.loops, final.live loop = true ∧ loop.point = .waiting (some 1) :=
  run_of_replay LoopSite.step newSite (firstEnable ++ reboot) _ (by decide +kernel)

end Bbsim.Devices
