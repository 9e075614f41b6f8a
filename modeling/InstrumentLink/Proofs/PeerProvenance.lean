import InstrumentLink.Proofs.HistorySteps
import InstrumentLink.Proofs.PeerKnowledge

/-!
Where a link has the address of its peer from.

In every run from its creation, whatever the device receives and the consumer does, what a link
knows of its peer at any moment is what the events up to there tell, and every datagram of that
moment goes to that peer.
-/

set_option autoImplicit false

namespace InstrumentLink

namespace Link

def knownAfter (history : List Moment) : Arp.PeerCache :=
  (history.getLast?.map Moment.cache).getD {}

/-- A moment is explained by what happened before. -/
structure Moment.Explained (interface : Interface) (earlier : List Moment) (moment : Moment) :
    Prop where
  /-- What is known of the peer is what the events tell. -/
  source : moment.cache = provenance interface ((earlier ++ [moment]).map Moment.event)
  /-- A known hardware address is the one in the last reply from the peer's address since the link
  was pointed there. -/
  answered : moment.cache.isResolved = true → ∃ before slot frame since,
    (earlier ++ [moment]).map Moment.event = before ++ .received slot :: since ∧
      unframe interface slot = .ok (.ok frame) ∧ Arp.ReplyFrom moment.cache.station frame ∧
      ∀ event ∈ since, event.pointsAt = none ∧
        event.answer interface moment.cache.ip = none
  /-- Nothing else changes what is known. -/
  unchanged : moment.event.pointsAt = none →
    moment.event.answer interface (knownAfter earlier).ip = none →
      moment.cache = knownAfter earlier
  /-- Datagrams go to the peer, which is known. -/
  datagrams : ∀ octets ∈ moment.frames, ∀ station ∈ Udp.addressee interface octets,
    moment.cache.isResolved = true ∧ station = moment.cache.station
  /-- What was sent for somebody went to the peer, which is known and has the address asked for. -/
  offers : ∀ offer ∈ moment.offers, offer.ToPeer moment.cache

namespace Told

section Telling

variable {Hardware Consumer : Type} [Mac.Device Hardware] {geometry : Mac.SlotGeometry}
  {config : LinkConfig} {link after next last : Told geometry Hardware Consumer}

/-- A moment tells truly how a link became another. -/
structure Tells (config : LinkConfig) (link : Told geometry Hardware Consumer) (moment : Moment)
    (after : Told geometry Hardware Consumer) : Prop where
  tidy : Tidy config after
  cache : moment.cache = after.cache
  remembered : after.cache = remember config.interface link.cache moment.event
  appended : frames after = frames link ++ moment.frames
  built : ∀ octets ∈ moment.frames, config.interface.Built moment.cache octets
  toPeer : ∀ offer ∈ moment.offers, offer.ToPeer moment.cache

theorem Tells.of_transmits (tidy : Tidy config link)
    (transmits : Transmits geometry Mac.Tapped.Whole Mac.Tapped.side link after) {event : Event}
    (remembered : after.cache = remember config.interface link.cache event)
    {offers : List Udp.Offer} (toPeer : ∀ offer ∈ offers, offer.ToPeer after.cache) :
    Tells config link (moment event offers link after) after := by
  have kept := tidy.of_transmits transmits
  have same := tidy.configured
  obtain ⟨-, -, sent, appended, built⟩ := transmits
  change frames after = frames link ++ sent at appended
  have added : (frames after).drop (frames link).length = sent := by
    rw [appended, List.drop_left]
  refine ⟨kept, rfl, remembered, ?_, ?_, toPeer⟩
  · exact appended.trans (congrArg _ added.symm)
  · change ∀ octets ∈ (frames after).drop (frames link).length, _
    rw [added, ← same]
    exact built

theorem Tells.of_same (tidy : Tidy config link)
    (transmits : Transmits geometry Mac.Tapped.Whole Mac.Tapped.side link after)
    (same : after.cache = link.cache) {offers : List Udp.Offer}
    (toPeer : ∀ offer ∈ offers, offer.ToPeer link.cache) :
    Tells config link (moment .other offers link after) after := by
  have remembered : after.cache = remember config.interface link.cache .other := same
  rw [← same] at toPeer
  exact .of_transmits tidy transmits remembered toPeer

inductive Tale (config : LinkConfig) :
    Told geometry Hardware Consumer → List Moment → Told geometry Hardware Consumer → Prop where
  | nil (link : Told geometry Hardware Consumer) : Tale config link [] link
  | cons {link next last : Told geometry Hardware Consumer} {moment : Moment}
      {later : List Moment} (now : Tells config link moment next)
      (rest : Tale config next later last) :
      Tale config link (moment :: later) last

theorem Tale.tidy {history : List Moment} (tale : Tale config link history last)
    (tidy : Tidy config link) : Tidy config last := by
  induction tale with
  | nil link => exact tidy
  | cons now rest induction => exact induction now.tidy

theorem Tale.of_chain {history : List Moment} (chain : Chain (Tells config) link history last) :
    Tale config link history last := by
  induction chain with
  | nil link => exact .nil link
  | cons now rest induction => exact .cons now induction

theorem Tells.explained {moment : Moment} (tells : Tells config link moment after)
    {earlier : List Moment}
    (known : link.cache = provenance config.interface (earlier.map Moment.event))
    (current : link.cache = knownAfter earlier) : moment.Explained config.interface earlier := by
  have source : moment.cache =
      provenance config.interface ((earlier ++ [moment]).map Moment.event) := by
    rw [tells.cache, tells.remembered, known, List.map_append, List.map_singleton,
      provenance_concat]
  refine ⟨source, ?_, ?_, fun octets member => (tells.built octets member).addressee, tells.toPeer⟩
  · rw [source]
    exact provenance_resolved
  · intro points silent
    rw [tells.cache, tells.remembered, remember, points, current, silent]
    rfl

/-- A true tale is explained from its first moment to the last. -/
theorem Tale.explained {history : List Moment} (tale : Tale config link history last)
    {earlier : List Moment}
    (known : link.cache = provenance config.interface (earlier.map Moment.event))
    (current : link.cache = knownAfter earlier) :
    last.cache = knownAfter (earlier ++ history) ∧
      frames last = frames link ++ history.flatMap Moment.frames ∧
      ∀ before moment later, history = before ++ moment :: later →
        moment.Explained config.interface (earlier ++ before) := by
  induction tale generalizing earlier with
  | nil link => exact ⟨by rw [List.append_nil, current], by simp, by simp⟩
  | @cons link next last now later tells rest induction =>
      have explained := tells.explained known current
      have nextKnown : next.cache =
          provenance config.interface ((earlier ++ [now]).map Moment.event) := by
        rw [← tells.cache, explained.source]
      have nextCurrent : next.cache = knownAfter (earlier ++ [now]) := by
        simp [knownAfter, tells.cache]
      obtain ⟨ends, sent, each⟩ := induction nextKnown nextCurrent
      rw [List.append_assoc] at ends
      refine ⟨ends, ?_, ?_⟩
      · rw [sent, tells.appended, List.flatMap_cons, List.append_assoc]
      · intro before moment after same
        cases before with
        | nil =>
            cases same
            rw [List.append_nil]
            exact explained
        | cons first before =>
            cases same
            rw [List.append_cons]
            exact each before moment after rfl

end Telling

section Running

variable {Hardware Consumer : Type} [Mac.Device Hardware] [Udp.Handler Consumer]
  {geometry : Mac.SlotGeometry} [Mac.SteadyDevice geometry Hardware] {config : LinkConfig}
  {link after : Told geometry Hardware Consumer}

/-- A moment that tells truly how a link became another, and in which the link is pointed only at an
address that it does not know. -/
def TellsAim (config : LinkConfig) : StepKind geometry Hardware Consumer :=
  fun link moment after => Tells config link moment after ∧
    ∀ ip, moment.event = .aimed ip → link.cache.resolves ip = false

omit [Mac.SteadyDevice geometry Hardware] [Udp.Handler Consumer] in
theorem Tells.aimless {moment : Moment} (tells : Tells config link moment after)
    (points : moment.event.pointsAt = none ∨ moment.event = .started) :
    Tidy config after ∧ TellsAim config link moment after := by
  refine ⟨tells.tidy, tells, ?_⟩
  intro ip aimed
  rw [aimed] at points
  rcases points with ⟨⟨⟩⟩ | ⟨⟨⟩⟩

omit [Mac.SteadyDevice geometry Hardware] [Udp.Handler Consumer] in
theorem service_event_points (link : Told geometry Hardware Consumer) :
    link.serviceEvent.pointsAt = none := by
  unfold serviceEvent
  cases arriving link <;> rfl

theorem service_tells (tidy : Tidy config link) :
    Yields (service link) fun serviced =>
      Tidy config serviced.2 ∧ TellsAim config link serviced.1 serviced.2 := by
  have same := tidy.configured
  unfold service
  apply ((service_transmits Mac.Tapped.transmitter Mac.Tapped.quiet tidy.up).and
    ((service_remembers link).and (service_offers link))).bind
  rintro serviced ⟨transmits, remembered, more, noted, toPeer⟩
  apply (Tells.of_transmits tidy transmits _ _).aimless (.inl (service_event_points link))
  · rw [remembered, ← same]
    rfl
  · rw [noted, List.drop_left]
    exact toPeer

theorem tells_stepwise :
    Stepwise .yields (Tidy config) Action.LeavesTap (TellsAim config :
      StepKind geometry Hardware Consumer) where
  start link tidy := by
    apply ((start_transmits Mac.Tapped.transmitter Mac.Tapped.quiet tidy.up).and
      (start_forgets link)).mono
    rintro ⟨started, log⟩ ⟨transmits, forgotten⟩
    have remembered : started.cache = remember config.interface link.cache .started := forgotten
    exact (Tells.of_transmits tidy transmits remembered (List.forall_mem_nil _)).aimless (.inr rfl)
  service link tidy := service_tells tidy
  aim link ip tidy unknown := by
    have transmits : Transmits geometry Mac.Tapped.Whole Mac.Tapped.side link
        { link with cache := .target ip } := .of_keeps rfl ⟨tidy.up, rfl⟩
    have remembered : Arp.PeerCache.target ip =
        remember config.interface link.cache (.aimed ip) := rfl
    have tells := Tells.of_transmits tidy transmits remembered (List.forall_mem_nil _)
    refine ⟨tells.tidy, tells, ?_⟩
    rintro aim ⟨⟩
    exact unknown
  ask link ip tidy := by
    apply ((ask_transmits Mac.Tapped.transmitter tidy.up ip).and (ask_remembers link ip)).mono
    rintro ⟨asked, log⟩ ⟨transmits, same⟩
    exact (Tells.of_same tidy transmits same (List.forall_mem_nil _)).aimless (.inl rfl)
  send link sourcePort destinationPort length tidy := by
    apply ((send_transmits Mac.Tapped.transmitter tidy.up sourcePort destinationPort length).and
      (send_remembers link sourcePort destinationPort length)).mono
    rintro ⟨sent, next, log⟩ ⟨transmits, same, toPeer⟩
    exact (Tells.of_same tidy transmits same
      (List.forall_mem_singleton.mpr toPeer)).aimless (.inl rfl)
  sendTo link ip sourcePort destinationPort length tidy := by
    apply ((send_to_transmits Mac.Tapped.transmitter tidy.up ip sourcePort destinationPort
      length).and (send_to_remembers link sourcePort destinationPort length ip)).mono
    rintro ⟨sent, next, log⟩ ⟨transmits, same, toPeer⟩
    exact (Tells.of_same tidy transmits same
      (List.forall_mem_singleton.mpr toPeer)).aimless (.inl rfl)
  quiet link action tidy leaves calm := by
    have transmits : Yields (action.perform link) fun after =>
        Transmits geometry Mac.Tapped.Whole Mac.Tapped.side link after ∧
          after.cache = link.cache := by
      cases action with
      | fill offset patch =>
          exact (store_payload_transmits Mac.Tapped.transmitter tidy.up offset patch).and
            (store_payload_remembers link offset patch)
      | register port consumer => exact ⟨.of_keeps rfl ⟨tidy.up, rfl⟩, rfl⟩
      | device change =>
          exact (Action.device_transmits tidy.up change leaves).and rfl
      | start | service | resolve | send | sendTo => exact calm.elim
    apply transmits.mono
    rintro after ⟨transmits, same⟩
    exact (Tells.of_same tidy transmits same (List.forall_mem_nil _)).aimless (.inl rfl)

theorem perform_all_tells (tidy : Tidy config link)
    (actions : List (Action (Mac.Tapped geometry Hardware) (Udp.Noted Consumer)))
    (leave : ∀ action ∈ actions, action.LeavesTap) :
    Yields (performAll actions link) fun performed =>
      Tale config link performed.1 performed.2 := by
  apply (tells_stepwise.perform_all tidy actions leave).mono
  rintro performed ⟨-, chain⟩
  exact .of_chain (chain.mono fun before moment after tells => tells.1)

end Running

end Told

open Mac (SteadyDevice Tapped)

variable {Hardware Consumer : Type} [Mac.Device Hardware] [Udp.Handler Consumer]

/-- In every run from the creation of a link, every moment is explained by the events up to it: what
is known of the peer comes from its last reply since the link was pointed at it, and every datagram
goes there. -/
theorem peer_is_the_last_to_answer (config : LinkConfig) (geometry : Mac.SlotGeometry)
    [SteadyDevice geometry Hardware] (device : Hardware)
    (whole : (Mac.memory device).length = geometry.length) (link : Told geometry Hardware Consumer)
    (created : Link.create ⟨⟨device, {}⟩, {}⟩ geometry config = .ok link)
    (actions : List (Action (Tapped geometry Hardware) (Udp.Noted Consumer)))
    (leave : ∀ action ∈ actions, action.LeavesTap) :
    Prod.snd <$> Told.performAll actions link = Action.performAll actions link ∧
    ∀ history last, Told.performAll actions link = .ok (history, last) →
      last.cache = knownAfter history ∧
      Told.frames last = history.flatMap Moment.frames ∧
      ∀ earlier moment later, history = earlier ++ moment :: later →
        moment.Explained config.interface earlier := by
  refine ⟨Told.perform_all_told actions link, ?_⟩
  intro history last performed
  have tale := (Told.perform_all_tells (tidy_of_create whole created) actions leave).of_ok performed
  obtain ⟨-, rfl⟩ := of_create created
  have nothing : ({} : Arp.PeerCache) =
      provenance config.interface (([] : List Moment).map Moment.event) := rfl
  exact tale.explained nothing rfl

/-- Another station answers first, then the peer. Only what is meant for the peer is sent. -/
theorem peer_answers_after_another :
    let geometry : Mac.SlotGeometry := ⟨1532, 2, 1, by decide, by decide, by decide⟩
    let config : LinkConfig := { resolveBudget := ⟨1, 2⟩ }
    let host : Arp.Station := ⟨Simulation.Wire.hostMac, Simulation.Wire.hostIp⟩
    let other : Arp.Station := ⟨⟨2, 0, 0, 0, 0, 9⟩, ⟨10, 0, 11, 9⟩⟩
    let station : Arp.Station := ⟨config.mac, config.ip⟩
    let device : Mailbox := ⟨Bytes.padTo 1532 (Simulation.Wire.arpReply other station) ++
      Bytes.padTo 3064 (Simulation.Wire.arpReply host station), [1, 0, 60, 1, 1, 60]⟩
    let actions : List (Action (Tapped geometry Mailbox) (Udp.Noted Simulation.Consumer)) :=
      [.start, .resolve host.ip, .sendTo other.ip 1 2 4, .sendTo host.ip 1 2 4]
    ∃ link, Link.create ⟨⟨device, {}⟩, {}⟩ geometry config = .ok link ∧
      Returns (Told.performAll actions link) fun told =>
        knownAfter told.1 = ⟨host.ip, host.mac⟩ ∧
        told.1.flatMap Moment.offers = [⟨some other.ip, false⟩, ⟨some host.ip, true⟩] ∧
        (Told.frames told.2).map (Udp.addressee config.interface) = [none, some host] ∧
        ∀ earlier moment later, told.1 = earlier ++ moment :: later →
          moment.Explained config.interface earlier := by
  intro geometry config host other station device actions
  have steady := Mailbox.steady geometry (by decide)
  have whole : (Mac.memory device).length = geometry.length := by decide +kernel
  have leave : ∀ action ∈ actions, action.LeavesTap := by
    intro action member
    simp only [actions, List.mem_cons, List.not_mem_nil, or_false] at member
    rcases member with rfl | rfl | rfl | rfl <;> trivial
  let link : Told geometry Mailbox Simulation.Consumer :=
    { config, ring := { device := ⟨⟨device, {}⟩, {}⟩, geometry, softwareFrameCheck := false } }
  have created : Link.create ⟨⟨device, {}⟩, {}⟩ geometry config = .ok link := rfl
  have seen : (Told.performAll actions link).toOption.map (fun told =>
      (knownAfter told.1, told.1.flatMap Moment.offers,
        (Told.frames told.2).map (Udp.addressee config.interface))) =
      some (⟨host.ip, host.mac⟩, [⟨some other.ip, false⟩, ⟨some host.ip, true⟩],
        [none, some host]) := by decide +kernel
  have explained := (peer_is_the_last_to_answer config geometry device whole link created actions
    leave).2
  obtain ⟨told, performed, same⟩ := Returns.of_seen seen
  rw [Prod.mk.injEq, Prod.mk.injEq] at same
  obtain ⟨known, offered, sent⟩ := same
  exact ⟨link, created, told, performed, known, offered, sent,
    (explained told.1 told.2 performed).2.2⟩

end Link

end InstrumentLink
