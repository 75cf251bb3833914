import Bbsim.Foundation.Run
import Bbsim.Devices.Subscriber

/-! The order of a DHCP exchange. The DHCP client of a service, step by step, with a log of what it
received and sent. The client answers an Offer before it looks at its state machine, so an Offer
nobody asked for, or one that comes twice, gets a Request as well. -/

namespace Bbsim.Devices

open Foundation Responders

/-- Each `second` comes right after a `first`. -/
def Follows {Item : Type} (first second : Item) (items : List Item) : Prop :=
  ∀ before after, items = before ++ second :: after → ∃ earlier, before = earlier ++ [first]

variable {Item : Type}

private theorem follows_nil (first second : Item) : Follows first second [] := by
  intro before after same
  simp at same

private theorem follows_snoc {first second last : Item} {items : List Item} :
    Follows first second (items ++ [last]) ↔ Follows first second items ∧
      (last = second → ∃ earlier, items = earlier ++ [first]) := by
  constructor
  · intro follows
    refine ⟨fun before after same => ?_, fun same => ?_⟩
    · exact follows before (after ++ [last]) (by simp [same])
    · exact follows items [] (by rw [same])
  · rintro ⟨earlier, final⟩ before after same
    rcases List.eq_nil_or_concat after with rfl | ⟨rest, item, rfl⟩
    · obtain ⟨rfl, shared⟩ := List.append_inj' same rfl
      exact final (List.cons.inj shared).1
    · rw [List.concat_eq_append, ← List.cons_append, ← List.append_assoc] at same
      obtain ⟨rfl, -⟩ := List.append_inj' same rfl
      exact earlier before rest rfl

/-- What the client did in one step. -/
inductive DhcpEntry where
  /-- An accepted `start_dhcp`, with the Discover if it could be sent. -/
  | started (sent : Option PacketIndication)
  /-- A packet handled in this state; `none` has no DHCP layer. -/
  | received (state : DhcpState) (packet : Option DhcpLayer) (sent : Option PacketIndication)

structure DhcpSite where
  subscriber : Subscriber
  /-- Oldest first. -/
  log : List DhcpEntry

inductive DhcpStep where
  | startDhcp (sends : Bool)
  | receive (sends : Bool) (packet : Option DhcpLayer)
  /-- The timer of some attempt expires. -/
  | expire (dhcpRetry sends : Bool)
  | init
  | disable
  /-- Flows, calls and the EAPOL client leave the DHCP machine and the channels alone. -/
  | others (subscriber : Subscriber)

namespace DhcpSite

def state (site : DhcpSite) : DhcpState := site.subscriber.service.dhcpState

def startDhcp (site : DhcpSite) (sends : Bool) : Option DhcpSite :=
  (site.subscriber.startDhcp sends).map fun (subscriber, sent) =>
    ⟨subscriber, site.log ++ (sent.map .started).toList⟩

def receive (site : DhcpSite) (sends : Bool) (packet : Option DhcpLayer) : Option DhcpSite :=
  if site.subscriber.service.packetCh = .served then
    let (subscriber, sent) := site.subscriber.handleDhcpPacket sends packet
    some ⟨subscriber, site.log ++ [.received site.state packet sent]⟩
  else none

def failed (site : DhcpSite) : DhcpSite :=
  { site with subscriber := site.subscriber.withDhcp (Dhcp.fire site.state .failed) }

/-- After an Ack the timer only starts again. -/
def expire (site : DhcpSite) (dhcpRetry sends : Bool) : Option DhcpSite :=
  if site.state = .ackReceived then some site
  else if dhcpRetry then site.failed.startDhcp sends
  else some site.failed

def withService (site : DhcpSite) (service : Service) : DhcpSite :=
  { site with subscriber := { site.subscriber with service := service } }

def adopt (site : DhcpSite) (subscriber : Subscriber) : DhcpSite :=
  { site with
    subscriber := { subscriber with
      service := { subscriber.service with
        internalState := site.subscriber.service.internalState
        dhcpState := site.subscriber.service.dhcpState
        channel := site.subscriber.service.channel
        packetCh := site.subscriber.service.packetCh } } }

def step (site : DhcpSite) : DhcpStep → Option DhcpSite
  | .startDhcp sends => site.startDhcp sends
  | .receive sends packet => site.receive sends packet
  | .expire dhcpRetry sends => site.expire dhcpRetry sends
  | .init => some (site.withService site.subscriber.service.initService)
  | .disable => some (site.withService site.subscriber.service.disable)
  | .others subscriber => some (site.adopt subscriber)

end DhcpSite

def dhcpKind (indication : PacketIndication) : Option DhcpMsgType :=
  match indication.frame.payload with
  | .dhcp _ _ layer => Dhcp.getDhcpMessageType layer
  | _ => none

def IsOffer (layer : DhcpLayer) : Prop :=
  layer.operation = .reply ∧ Dhcp.getDhcpMessageType layer = some .offer

instance (layer : DhcpLayer) : Decidable (IsOffer layer) := inferInstanceAs (Decidable (_ ∧ _))

/-- The indication is a Request for the address that the Offer has. -/
def AsksFor (offer : DhcpLayer) (request : PacketIndication) : Prop :=
  ∃ vlan priority layer, request.frame.payload = .dhcp vlan priority layer ∧
    layer.options.filter (fun option => option.type = .requestIp) =
      [⟨.requestIp, offer.yourClientIp⟩]

namespace DhcpEntry

def sent : DhcpEntry → Option PacketIndication
  | .started sent => sent
  | .received _ _ sent => sent

/-- The kinds of all packets sent. -/
def kinds (log : List DhcpEntry) : List (Option DhcpMsgType) :=
  log.flatMap fun entry => entry.sent.toList.map dhcpKind

/-- The kinds of the packets sent since the last `start_dhcp`, after one more entry. -/
def track (sofar : List (Option DhcpMsgType)) : DhcpEntry → List (Option DhcpMsgType)
  | .started sent => sent.toList.map dhcpKind
  | .received _ _ sent => sofar ++ sent.toList.map dhcpKind

def sinceStart (log : List DhcpEntry) : List (Option DhcpMsgType) := log.foldl track []

end DhcpEntry

inductive DhcpMove (state : DhcpState) : DhcpState → Option DhcpEntry → Prop where
  | same : DhcpMove state state none
  /-- The attempt is over without an address, or was over before. -/
  | ended {after : DhcpState} (settled : after = .created ∨ after = .failed) :
      DhcpMove state after none
  | started {discover : PacketIndication} (first : dhcpKind discover = some .discover) :
      DhcpMove state .discoverySent (some (.started (some discover)))
  | unsent : DhcpMove state .failed (some (.started none))
  | ignored (packet : Option DhcpLayer) : DhcpMove state state (some (.received state packet none))
  | failed (packet : Option DhcpLayer) : DhcpMove state .failed (some (.received state packet none))
  | requested {offer : DhcpLayer} {request : PacketIndication} (offers : IsOffer offer)
      (asks : AsksFor offer request) (kind : dhcpKind request = some .request) :
      DhcpMove state (Dhcp.fire state .requestSent)
        (some (.received state (some offer) (some request)))
  | acknowledged (packet : Option DhcpLayer) (expected : state = .requestSent) :
      DhcpMove state .ackReceived (some (.received state packet none))

namespace DhcpSite

variable {site next : DhcpSite}

/-- A move of the client with its entry in the log. -/
def Moved (site next : DhcpSite) : Prop :=
  ∃ entry, DhcpMove site.state next.state entry ∧ next.log = site.log ++ entry.toList

theorem Moved.quiet (moved : DhcpMove site.state next.state none) (same : next.log = site.log) :
    site.Moved next := ⟨none, moved, by simp [same]⟩

variable {sends : Bool}

/-- A start is refused, or sends a Discover, or cannot send it. -/
theorem startDhcp_cases (taken : site.startDhcp sends = some next) :
    (next.state = site.state ∧ next.log = site.log) ∨
      (next.state = .discoverySent ∧ ∃ discover, dhcpKind discover = some .discover ∧
        next.log = site.log ++ [.started (some discover)]) ∨
      (next.state = .failed ∧ next.log = site.log ++ [.started none]) := by
  obtain ⟨⟨subscriber, sent⟩, answered, rfl⟩ := Option.map_eq_some_iff.mp taken
  unfold Subscriber.startDhcp at answered
  split at answered
  · cases answered
    exact .inl ⟨rfl, by simp⟩
  · next after accepted =>
    obtain ⟨-, answered⟩ := Option.ite_none_right_eq_some.mp answered
    cases answered
    obtain rfl : after = .started := by
      cases before : site.subscriber.service.dhcpState <;> rw [before] at accepted <;>
        cases accepted <;> rfl
    cases sends with
    | true => exact .inr (.inl ⟨rfl, _, rfl, rfl⟩)
    | false => exact .inr (.inr ⟨rfl, rfl⟩)

theorem fire_failed_cases (state : DhcpState) :
    Dhcp.fire state .failed = state ∨ Dhcp.fire state .failed = .failed := by
  cases state <;> first | exact .inl rfl | exact .inr rfl

private theorem reported_moved (state : DhcpState) (packet : Option DhcpLayer) :
    DhcpMove state (Dhcp.updateDhcpFailed state) (some (.received state packet none)) := by
  unfold Dhcp.updateDhcpFailed
  rcases fire_failed_cases state with kept | failed
  · rw [kept]
    exact .ignored packet
  · rw [failed]
    exact .failed packet

/-- A second report of a failure changes nothing. -/
theorem updateDhcpFailed_twice (state : DhcpState) :
    Dhcp.updateDhcpFailed (Dhcp.updateDhcpFailed state) = Dhcp.updateDhcpFailed state := by
  cases state <;> rfl

private theorem asksFor_request (caller : Dhcp.Caller) (offer : DhcpLayer) :
    AsksFor offer (caller.request offer.yourClientIp) := ⟨_, _, _, rfl, rfl⟩

private theorem handleNextPacket_moved (caller : Dhcp.Caller) (state : DhcpState) (sends : Bool)
    (packet : Option DhcpLayer) :
    DhcpMove state (Dhcp.handleNextPacket caller state sends packet).1
      (some (.received state packet (Dhcp.handleNextPacket caller state sends packet).2)) := by
  unfold Dhcp.handleNextPacket
  split
  · exact reported_moved state none
  · next layer =>
    split
    · exact reported_moved state _
    · next type decoded =>
      split
      · next reply =>
        split
        · cases sends with
          | true => exact .requested ⟨reply, decoded⟩ (asksFor_request caller layer) rfl
          | false =>
            rw [Dhcp.handleOffer, if_neg Bool.false_ne_true, updateDhcpFailed_twice]
            exact reported_moved state _
        · by_cases expected : state = .requestSent
          · subst expected
            exact .acknowledged _ rfl
          · have refused : Dhcp.fire state .ackReceived = state := by
              cases state <;> first | rfl | contradiction
            rw [refused]
            exact .ignored _
        · exact .ignored _
      · exact .ignored _

variable {packet : Option DhcpLayer}

theorem receive_eq_some (taken : site.receive sends packet = some next) :
    next = ⟨(site.subscriber.handleDhcpPacket sends packet).1, site.log ++
      [.received site.state packet (site.subscriber.handleDhcpPacket sends packet).2]⟩ := by
  obtain ⟨-, received⟩ := Option.ite_none_right_eq_some.mp taken
  exact (Option.some.inj received).symm

private theorem receive_moved (taken : site.receive sends packet = some next) : site.Moved next := by
  obtain rfl := receive_eq_some taken
  exact ⟨_, handleNextPacket_moved site.subscriber.dhcpCaller site.state sends packet, rfl⟩

/-- A start, from the state that the machine has or from the one that a timer leaves it in. -/
theorem moved_of_start {begun : DhcpSite} (taken : begun.startDhcp sends = some next)
    (log : begun.log = site.log) (origin : begun.state = site.state ∨ begun.state = .failed) :
    site.Moved next := by
  rcases startDhcp_cases taken with ⟨state, same⟩ | ⟨state, discover, first, grown⟩ | ⟨state, grown⟩
  · refine .quiet ?_ (same.trans log)
    rw [state]
    rcases origin with kept | failed
    · exact kept ▸ .same
    · exact .ended (.inr failed)
  · refine ⟨some (.started (some discover)), ?_, log ▸ grown⟩
    rw [state]
    exact .started first
  · refine ⟨some (.started none), ?_, log ▸ grown⟩
    rw [state]
    exact .unsent

theorem expire_moved {dhcpRetry sends : Bool} (taken : site.expire dhcpRetry sends = some next) :
    site.Moved next := by
  unfold expire at taken
  split at taken
  · obtain rfl := Option.some.inj taken
    exact .quiet .same rfl
  · split at taken
    · exact moved_of_start taken rfl (fire_failed_cases site.state)
    · obtain rfl := Option.some.inj taken
      refine .quiet ?_ rfl
      change DhcpMove _ (Dhcp.fire site.state .failed) none
      rcases fire_failed_cases site.state with kept | failed
      · rw [kept]
        exact .same
      · exact .ended (.inr failed)

variable {label : DhcpStep}

theorem step_moved (taken : site.step label = some next) : site.Moved next := by
  cases label with
  | startDhcp sends => exact moved_of_start taken rfl (.inl rfl)
  | receive sends packet => exact receive_moved taken
  | expire dhcpRetry sends => exact expire_moved taken
  | init =>
    obtain rfl := Option.some.inj taken
    refine .quiet ?_ rfl
    change DhcpMove _ site.subscriber.service.initService.dhcpState none
    unfold Service.initService
    split
    · exact .same
    · exact .same
  | disable =>
    obtain rfl := Option.some.inj taken
    refine .quiet ?_ rfl
    change DhcpMove _ site.subscriber.service.disable.dhcpState none
    unfold Service.disable
    split
    · exact .same
    · exact .ended (.inl rfl)
  | others subscriber =>
    obtain rfl := Option.some.inj taken
    exact .quiet .same rfl

/-- What was sent since the last `start_dhcp`, by the state of the client. -/
def Tracks (sofar : List (Option DhcpMsgType)) : DhcpState → Prop
  | .discoverySent => sofar = [some .discover]
  | .requestSent => [some .discover, some .request] <+: sofar
  | _ => True

theorem Tracks.move {sofar : List (Option DhcpMsgType)} {state after : DhcpState}
    {entry : Option DhcpEntry} (tracks : Tracks sofar state) (move : DhcpMove state after entry) :
    Tracks (entry.toList.foldl DhcpEntry.track sofar) after := by
  cases move with
  | same => exact tracks
  | ended settled => rcases settled with rfl | rfl <;> trivial
  | started first => simp [Tracks, DhcpEntry.track, first]
  | unsent | failed packet | acknowledged packet expected => trivial
  | ignored packet => simpa [DhcpEntry.track] using tracks
  | requested offers asks kind =>
    cases state with
    | discoverySent =>
      obtain rfl : sofar = [some .discover] := tracks
      change _ <+: [some .discover] ++ [dhcpKind _]
      rw [kind]
      exact List.prefix_refl _
    | requestSent => exact tracks.trans (List.prefix_append _ _)
    | _ => trivial

theorem kinds_append (log : List DhcpEntry) (entry : Option DhcpEntry) :
    DhcpEntry.kinds (log ++ entry.toList) = DhcpEntry.kinds log ++
      entry.toList.flatMap fun entry => entry.sent.toList.map dhcpKind := by
  rw [DhcpEntry.kinds, List.flatMap_append]
  rfl

/-- What the log of a client says at any time. -/
structure Ordered (site : DhcpSite) : Prop where
  tracks : Tracks (DhcpEntry.sinceStart site.log) site.state
  discovered : site.state = .discoverySent →
    ∃ earlier, DhcpEntry.kinds site.log = earlier ++ [some .discover]
  asks : ∀ state packet request, .received state packet (some request) ∈ site.log →
    ∃ offer, packet = some offer ∧ IsOffer offer ∧ AsksFor offer request

theorem Ordered.moved (ordered : site.Ordered) (moved : site.Moved next) : next.Ordered := by
  obtain ⟨entry, move, log⟩ := moved
  constructor
  · rw [DhcpEntry.sinceStart, log, List.foldl_append]
    exact ordered.tracks.move move
  · intro waiting
    rw [log, kinds_append]
    have known := ordered.discovered
    generalize next.state = after at move waiting
    generalize site.state = before at move known
    cases move with
    | same => simpa using known waiting
    | ended settled => simp [waiting] at settled
    | started first => exact ⟨DhcpEntry.kinds site.log, by simp [DhcpEntry.sent, first]⟩
    | unsent | failed packet | acknowledged packet expected => cases waiting
    | ignored packet => simpa [DhcpEntry.sent] using known waiting
    | requested offers asks kind => cases before <;> cases waiting
  · intro state packet request member
    rw [log, List.mem_append] at member
    rcases member with old | fresh
    · exact ordered.asks state packet request old
    · obtain rfl := Option.mem_toList.mp fresh
      generalize next.state = after at move
      generalize site.state = before at move
      cases move with
      | requested offers asks kind => exact ⟨_, rfl, offers, asks⟩

theorem ordered_created {subscriber : Subscriber} (created : subscriber.service.dhcpState = .created) :
    Ordered ⟨subscriber, []⟩ := by
  constructor
  · change Tracks _ subscriber.service.dhcpState
    rw [created]
    trivial
  · intro waiting
    change subscriber.service.dhcpState = _ at waiting
    rw [created] at waiting
    cases waiting
  · intro state packet request member
    exact absurd member List.not_mem_nil

theorem step_ordered (label : DhcpStep) (ordered : site.Ordered) (taken : site.step label = some next) :
    next.Ordered := ordered.moved (step_moved taken)

/-- All Requests were sent while the client waited for an Offer. -/
def InTurn (log : List DhcpEntry) : Prop :=
  ∀ state packet request, .received state packet (some request) ∈ log → state = .discoverySent

theorem inTurn_append {log added : List DhcpEntry} :
    InTurn (log ++ added) ↔ InTurn log ∧ InTurn added := by
  simp only [InTurn, List.mem_append, or_imp, forall_and]

private theorem inTurn_nil : InTurn [] := by
  simp [InTurn]

private theorem inTurn_started (sent : Option PacketIndication) : InTurn [.started sent] := by
  simp [InTurn]

theorem inTurn_received {state : DhcpState} {sent : Option PacketIndication} :
    InTurn [.received state packet sent] ↔ (sent.isSome = true → state = .discoverySent) := by
  cases sent with
  | none => simp [InTurn]
  | some request =>
    refine ⟨fun inTurn _ => inTurn state packet request (by simp), fun turn => ?_⟩
    intro _ _ _ member
    cases List.mem_singleton.mp member
    exact turn rfl

/-- An Offer that is answered comes while the client waits for one. -/
def Solicited (site : DhcpSite) : DhcpStep → Prop
  | .receive true (some layer) => IsOffer layer → site.state = .discoverySent
  | _ => True

instance (site : DhcpSite) (label : DhcpStep) : Decidable (Solicited site label) := by
  unfold Solicited
  split <;> infer_instance

theorem handleNextPacket_sent_iff (caller : Dhcp.Caller) (state : DhcpState) (sends : Bool)
    (packet : Option DhcpLayer) :
    (Dhcp.handleNextPacket caller state sends packet).2.isSome = true ↔
      sends = true ∧ ∃ layer, packet = some layer ∧ IsOffer layer := by
  cases packet with
  | none => simp [Dhcp.handleNextPacket]
  | some layer =>
    unfold Dhcp.handleNextPacket IsOffer
    cases decoded : Dhcp.getDhcpMessageType layer with
    | none => simp [decoded]
    | some type =>
      by_cases reply : layer.operation = .reply
      · cases type <;> cases sends <;> simp [decoded, reply, Dhcp.handleOffer]
      · simp [decoded, reply]

theorem solicited_receive_iff :
    Solicited site (.receive sends packet) ↔
      ((sends = true ∧ ∃ layer, packet = some layer ∧ IsOffer layer) →
        site.state = .discoverySent) := by
  cases sends <;> cases packet <;> simp [Solicited]

theorem startDhcp_inTurn (taken : site.startDhcp sends = some next) :
    InTurn next.log ↔ InTurn site.log := by
  rcases startDhcp_cases taken with ⟨-, log⟩ | ⟨-, discover, -, log⟩ | ⟨-, log⟩
  · rw [log]
  · rw [log, inTurn_append, and_iff_left (inTurn_started _)]
  · rw [log, inTurn_append, and_iff_left (inTurn_started _)]

theorem expire_inTurn {dhcpRetry sends : Bool} (taken : site.expire dhcpRetry sends = some next) :
    InTurn next.log ↔ InTurn site.log := by
  unfold expire at taken
  split at taken
  · rw [Option.some.inj taken]
  · split at taken
    · change InTurn next.log ↔ InTurn site.failed.log
      exact startDhcp_inTurn taken
    · obtain rfl := Option.some.inj taken
      rfl

/-- A step sends a Request out of turn exactly if it answers an Offer nobody asked for. -/
theorem step_inTurn_iff (taken : site.step label = some next) :
    InTurn next.log ↔ InTurn site.log ∧ Solicited site label := by
  cases label with
  | receive sends packet =>
    obtain rfl := receive_eq_some taken
    rw [inTurn_append, inTurn_received, solicited_receive_iff]
    exact and_congr_right fun _ => imp_congr_left (handleNextPacket_sent_iff ..)
  | startDhcp sends => rw [startDhcp_inTurn taken]; exact (and_iff_left trivial).symm
  | expire dhcpRetry sends => rw [expire_inTurn taken]; exact (and_iff_left trivial).symm
  | init | disable | others subscriber =>
    obtain rfl := Option.some.inj taken
    exact (and_iff_left trivial).symm

/-- Requests that are sent in turn each follow a Discover of their own. -/
def Paired (site : DhcpSite) : Prop :=
  InTurn site.log → Follows (some .discover) (some .request) (DhcpEntry.kinds site.log)

theorem Paired.moved (paired : site.Paired) (ordered : site.Ordered) (moved : site.Moved next) :
    next.Paired := by
  obtain ⟨entry, move, log⟩ := moved
  intro inTurn
  rw [log, inTurn_append] at inTurn
  rw [log, kinds_append]
  have follows := paired inTurn.1
  have known := ordered.discovered
  generalize next.state = after at move
  generalize site.state = before at move known
  cases move with
  | started first => simpa [DhcpEntry.sent, first, follows_snoc] using follows
  | requested offers asks kind =>
    have waiting := inTurn_received.mp inTurn.2 rfl
    simpa [DhcpEntry.sent, kind, follows_snoc] using ⟨follows, known waiting⟩
  | _ => simpa [DhcpEntry.sent] using follows

variable {start : DhcpSite} {history : List (DhcpSite × DhcpStep)}

theorem run_ordered (initial : start.Ordered) (run : Run step start history site) : site.Ordered :=
  run.invariant_of_step initial fun _ label _ ordered taken => step_ordered label ordered taken

private theorem run_paired (initial : start.Ordered) (paired : start.Paired)
    (run : Run step start history site) : site.Paired := by
  induction run with
  | start => exact paired
  | snoc before taken ih => exact ih.moved (run_ordered initial before) (step_moved taken)

/-- An Ack is only taken after a Discover and a Request. -/
theorem Ordered.acknowledged (ordered : site.Ordered) (moved : site.Moved next)
    (other : site.state ≠ .ackReceived) (entered : next.state = .ackReceived) :
    [some .discover, some .request] <+: DhcpEntry.sinceStart site.log := by
  obtain ⟨entry, move, -⟩ := moved
  have tracks := ordered.tracks
  generalize next.state = after at move entered
  generalize site.state = before at move other tracks
  cases move with
  | same | ignored packet => exact absurd entered other
  | ended settled => simp [entered] at settled
  | started first | unsent | failed packet => cases entered
  | requested offers asks kind =>
    cases before with
    | ackReceived => exact absurd rfl other
    | _ => cases entered
  | acknowledged packet expected =>
    subst expected
    exact tracks

/-- The order of an exchange: Requests are sent in turn and one for each Discover exactly if no Offer
is answered that nobody asked for. A Request always asks for the offered address, and an Ack is only
taken after a Discover and a Request of the same attempt. -/
theorem dhcp_exchange_order_iff {subscriber : Subscriber}
    (created : subscriber.service.dhcpState = .created)
    (run : Run step ⟨subscriber, []⟩ history site) :
    (InTurn site.log ∧ Follows (some .discover) (some .request) (DhcpEntry.kinds site.log) ↔
      Meets Solicited history) ∧
    (∀ state packet request, .received state packet (some request) ∈ site.log →
      ∃ offer, packet = some offer ∧ IsOffer offer ∧ AsksFor offer request) ∧
    ∀ label next, site.step label = some next → site.state ≠ .ackReceived →
      next.state = .ackReceived →
      [some .discover, some .request] <+: DhcpEntry.sinceStart site.log := by
  have ordered := run_ordered (ordered_created created) run
  have initial : Paired ⟨subscriber, []⟩ := fun _ => follows_nil _ _
  have paired := run_paired (ordered_created created) initial run
  have turns : InTurn site.log ↔ Meets Solicited history :=
    run.final_iff inTurn_nil fun _ _ _ taken => step_inTurn_iff taken
  refine ⟨?_, ordered.asks, fun label next taken other entered => ?_⟩
  · rw [← turns]
    exact and_iff_left_of_imp paired
  · exact ordered.acknowledged (step_moved taken) other entered

/-- An Offer of an address. -/
def offer : DhcpLayer where
  operation := .reply
  xid := 0
  clientHwAddr := [0x2e, 0, 0, 1, 0, 0]
  yourClientIp := [10, 0, 0, 7]
  options := [Dhcp.messageType .offer]

def ack : DhcpLayer := { offer with options := [Dhcp.messageType .ack] }

theorem dhcp_exchange_completed : ∃ history site,
    Run step ⟨.fresh, []⟩ history site ∧ site.state = .ackReceived ∧ InTurn site.log := by
  obtain ⟨history, site, run, solicited, reached⟩ := run_of_guarded_replay Solicited step ⟨.fresh, []⟩
    [.init, .startDhcp true, .receive true (some offer), .receive true (some ack)]
    (fun site => site.state = .ackReceived) (by decide)
  exact ⟨history, site, run, reached, ((dhcp_exchange_order_iff rfl run).1.mpr solicited).1⟩

/-- A client that can receive and has not begun. -/
def listening : DhcpSite :=
  withService ⟨.fresh, []⟩ Subscriber.fresh.service.initService

/-- It answers an Offer without a Discover. -/
theorem request_out_of_turn : ∃ history site, Run step ⟨.fresh, []⟩ history site ∧
    ¬ InTurn site.log ∧ DhcpEntry.kinds site.log = [some .request] := by
  have listens : step ⟨.fresh, []⟩ .init = some listening := rfl
  have answers : listening.step (.receive true (some offer)) = some _ := rfl
  refine ⟨_, _, (Run.start.snoc listens).snoc answers, ?_, rfl⟩
  intro inTurn
  cases inTurn .created (some offer) _ (List.mem_singleton.mpr rfl)

end DhcpSite

end Bbsim.Devices
