import InstrumentLink.Proofs.FrameAccounts
import InstrumentLink.Proofs.HistorySteps
import InstrumentLink.Proofs.RegisterStream
import InstrumentLink.Simulation.Wire

/-!
Unrelated traffic does not disturb the register stream.

Of all that a link receives and does, an endpoint meets the payloads of the datagrams that are
delivered to its port, and the starts of the link. Questions, echoes, frames for others, malformed
frames, whatever a device reports and whatever is sent in between change transmit slots, the cache
and the fate of replies, and none of these comes back to the registers.
-/

set_option autoImplicit false

namespace InstrumentLink

open Etherbone (Endpoint handedOut)
open Etherbone.Endpoint (Fed)

/-- The datagram in an IPv4 frame that is delivered to a port. -/
def Ipv4.delivery (interface : Interface) (port : UInt16) (frame : Bytes) :
    Option Udp.Datagram := do
  if carried frame = some .udp then
    let packet ← (Ethernet.payload frame).toOption
    (datagramFor interface port packet).toOption.join
  else none

namespace Link

def delivery (interface : Interface) (port : UInt16) (slot : Bytes) : Option Udp.Datagram :=
  match unframe interface slot with
  | .ok (.ok frame) =>
      if Ethernet.classify frame = .ipv4 then Ipv4.delivery interface port frame else none
  | _ => none

def Event.input (interface : Interface) (port : UInt16) : Event → Option Etherbone.Input
  | .received slot => (delivery interface port slot).map fun datagram => .push datagram.payload
  | .started => some .reset
  | .aimed _ | .other => none

end Link

section Frames

variable {Space Port : Type} [Bus Space] [TransmitPort Port] {port : UInt16}
  {registration : Option (Udp.Registration (Udp.Noted (Endpoint Space)))}
  {endpoint : Endpoint Space}

def Listens (port : UInt16) (endpoint : Endpoint Space)
    (registration : Option (Udp.Registration (Udp.Noted (Endpoint Space)))) : Prop :=
  ∃ offers, registration = some ⟨port, ⟨endpoint, offers⟩⟩

def Feeds (port : UInt16) (input : Option Etherbone.Input)
    (before after : Option (Udp.Registration (Udp.Noted (Endpoint Space)))) : Prop :=
  ∀ endpoint, Listens port endpoint before →
    ∃ next, Listens port next after ∧ Fed input.toList endpoint next

theorem Feeds.none (port : UInt16)
    (registration : Option (Udp.Registration (Udp.Noted (Endpoint Space)))) :
    Feeds port none registration registration :=
  fun endpoint listens => ⟨endpoint, listens, .nil endpoint⟩

theorem noted_runs (datagram : Udp.Datagram) (noted : Udp.Noted (Endpoint Space))
    (binding : Udp.Binding) (socket : Port) :
    Yields ((Udp.Handler.onDatagram datagram noted).run binding socket) fun answer =>
      Fed [.push datagram.payload] noted.consumer answer.1.consumer := by
  have leads : (Udp.Handler.onDatagram datagram noted).Leads fun after =>
      Fed [.push datagram.payload] noted.consumer after.consumer :=
    ((Etherbone.Endpoint.on_datagram_leads datagram noted.consumer).noting noted.offers).and_then
      fun _ fed => fed
  exact leads.run binding socket

namespace Ipv4

theorem delivery_eq (interface : Interface) (port : UInt16) (frame : Bytes) :
    delivery interface port frame =
      if Udp.Reaches interface.ip port frame then some (Udp.datagramIn frame) else none := by
  unfold delivery
  by_cases udp : carried frame = some .udp
  · obtain ⟨plain, carries⟩ := carried_udp.mp udp
    rw [if_pos udp, packet_stands plain.long]
    change (datagramFor interface port (frame.drop 14)).toOption.join = _
    rw [datagram_for_stands interface port plain carries]
    rfl
  · have missed : ¬Udp.Reaches interface.ip port frame :=
      fun reaches => udp (carried_udp.mpr ⟨reaches.plain, reaches.carries⟩)
    rw [if_neg udp, if_neg missed]

theorem handle_frame_feeds (binding : Udp.Binding) (frame : Bytes) (socket : Port) :
    Yields (handleFrame binding registration frame socket) fun handled =>
      Feeds port ((delivery binding.interface port frame).map fun datagram =>
        .push datagram.payload) registration handled.2.1 := by
  have missed (unreached : ¬Udp.ForConsumer binding.interface.ip registration frame) :
      Feeds port ((delivery binding.interface port frame).map fun datagram =>
        .push datagram.payload) registration registration := by
    rintro endpoint ⟨offers, rfl⟩
    have elsewhere : ¬Udp.Reaches binding.interface.ip port frame :=
      fun reaches => unreached ⟨_, rfl, reaches⟩
    rw [delivery_eq, if_neg elsewhere]
    exact ⟨endpoint, ⟨offers, rfl⟩, .nil endpoint⟩
  apply handle_frame_cases .yields
  case other => exact fun _ _ unreached => missed unreached
  case ignored => exact fun _ _ carries _ => missed (Udp.icmp_not_for_consumer carries)
  case echoed =>
    intro answerable
    exact (Yields.intro _).mono fun _ _ => missed (Udp.icmp_not_for_consumer answerable.carries)
  case delivered =>
    rintro registered rfl reaches
    -- With its octets in view, the reaction of the endpoint would be evaluated.
    generalize stands : Udp.datagramIn frame = datagram
    apply (noted_runs datagram registered.consumer binding socket).mono
    rintro answer fed endpoint ⟨offers, same⟩
    cases same
    rw [delivery_eq, if_pos reaches, stands]
    exact ⟨answer.1.consumer, ⟨answer.1.offers, rfl⟩, fed⟩

theorem handle_frame_unrelated {Sound : Port → Prop} (safe : SafePort Sound)
    (binding : Udp.Binding) (placed : binding.interface.Placed)
    (listens : Listens port endpoint registration) (frame : Bytes)
    (unrelated : delivery binding.interface port frame = none) (socket : Port)
    (sound : Sound socket) :
    Returns (handleFrame binding registration frame socket) fun handled =>
      handled.2.1 = registration ∧ Sound handled.2.2.1 := by
  obtain ⟨offers, rfl⟩ := listens
  apply handle_frame_cases .returns
  case other => exact fun _ _ _ => ⟨rfl, sound⟩
  case ignored => exact fun _ _ _ _ => ⟨rfl, sound⟩
  case echoed =>
    intro answerable
    exact (answerable.emit_returns safe placed socket sound).mono fun _ sound => ⟨rfl, sound⟩
  case delivered =>
    rintro registered ⟨⟩ reaches
    rw [delivery_eq, if_pos reaches] at unrelated
    cases unrelated

end Ipv4

end Frames

namespace Link

section Steps

variable {Hardware Space : Type} [Mac.Device Hardware] [Bus Space]
  {link : Link Hardware (Udp.Noted (Endpoint Space))} {port : UInt16}

abbrev FedBy (port : UInt16) (input : Option Etherbone.Input)
    (link after : Link Hardware (Udp.Noted (Endpoint Space))) : Prop :=
  after.config = link.config ∧ Feeds port input link.registration after.registration

theorem dispatch_feeds (slot : Bytes) :
    Yields (link.dispatch slot) fun dispatched =>
      FedBy port ((Event.received slot).input link.interface port) link dispatched.2.1 := by
  have nothing (missed : delivery link.interface port slot = none) :
      (Event.received slot).input link.interface port = none := by
    rw [Event.input, missed]
    rfl
  apply dispatch_cases .yields
  case dropped =>
    intro frameClass log other
    have missed : delivery link.interface port slot = none := by
      unfold delivery
      split
      · next frame unframed => exact if_neg (other frame unframed).2
      · rfl
    rw [nothing missed]
    exact ⟨rfl, .none port _⟩
  case arp =>
    intro frame unframed arp
    rw [nothing (by rw [delivery, unframed]; exact if_neg (by simp [arp]))]
    exact (Yields.intro _).mono fun _ _ => ⟨rfl, .none port _⟩
  case ipv4 =>
    intro frame unframed ipv4
    have delivers : delivery link.interface port slot =
        Ipv4.delivery link.interface port frame := by
      rw [delivery, unframed]
      exact if_pos ipv4
    rw [Event.input, delivers]
    apply (Ipv4.handle_frame_feeds link.binding frame link.ring).mono
    exact fun _ feeds => ⟨rfl, feeds⟩

theorem service_feeds :
    Yields link.service fun serviced =>
      FedBy port (link.serviceEvent.input link.interface port) link serviced.2.1 := by
  apply service_cases
  · intro ring log _ event
    rw [event]
    exact ⟨rfl, .none port _⟩
  · intro received ring log slot _ event
    rw [event]
    exact (dispatch_feeds slot).mono fun dispatched fed released _ => fed

/-- On a sound ring, an endpoint listens. -/
structure Attends (geometry : Mac.SlotGeometry) (config : LinkConfig) (port : UInt16)
    (endpoint : Endpoint Space)
    (link : Link (Mac.Watched Hardware) (Udp.Noted (Endpoint Space))) : Prop where
  ring : SlotRing.Sound geometry link.ring
  configured : link.config = config
  listens : Listens port endpoint link.registration

/-- What is not delivered to the endpoint does not stop the link, and leaves it listening. -/
theorem Attends.dispatch_unrelated [Mac.LawfulDevice Hardware] {geometry : Mac.SlotGeometry}
    {config : LinkConfig} {endpoint : Endpoint Space}
    {link : Link (Mac.Watched Hardware) (Udp.Noted (Endpoint Space))}
    (attends : Attends geometry config port endpoint link) (slot : Bytes)
    (unrelated : delivery link.interface port slot = none) :
    Returns (link.dispatch slot) fun dispatched =>
      Attends geometry config port endpoint dispatched.2.1 := by
  obtain ⟨sound, configured, listens⟩ := attends
  have safe : SafePort fun ring : SlotRing (Mac.Watched Hardware) => SlotRing.Sound geometry ring :=
    SlotRing.safe_port geometry
  have placed : link.interface.Placed := placed_interface link.config
  apply dispatch_cases .returns
  case dropped => exact fun _ _ _ => ⟨sound, configured, listens⟩
  case arp =>
    intro frame _ _
    apply (Arp.handle_frame_returns safe placed link.cache frame link.ring sound).mono
    exact fun _ ring => ⟨ring, configured, listens⟩
  case ipv4 =>
    intro frame unframed ipv4
    have missed : Ipv4.delivery link.interface port frame = none := by
      rw [delivery, unframed] at unrelated
      exact (if_pos ipv4).symm.trans unrelated
    apply (Ipv4.handle_frame_unrelated safe link.binding placed listens frame missed link.ring
      sound).mono
    rintro handled ⟨same, ring⟩
    exact ⟨ring, configured, same ▸ listens⟩

theorem Attends.service_unrelated [Mac.LawfulDevice Hardware] {geometry : Mac.SlotGeometry}
    {config : LinkConfig} {endpoint : Endpoint Space}
    {link : Link (Mac.Watched Hardware) (Udp.Noted (Endpoint Space))}
    (attends : Attends geometry config port endpoint link)
    (unrelated : link.serviceEvent.input link.interface port = none) :
    Returns link.service fun answer => Attends geometry config port endpoint answer.2.1 := by
  apply service_returns_cases attends.ring
  · exact fun ring log sound => ⟨sound, attends.configured, attends.listens⟩
  · intro received ring log slot polled taken _ sound
    rw [service_event_of_frame polled taken] at unrelated
    have counted : Attends geometry config port endpoint
        { link with ring, stats.rxFrames := link.stats.rxFrames + 1 } :=
      ⟨sound, attends.configured, attends.listens⟩
    apply (counted.dispatch_unrelated slot (Option.map_eq_none_iff.mp unrelated)).mono
    exact fun dispatched after => ⟨after.ring, fun released sound =>
      ⟨sound, after.configured, after.listens⟩⟩

theorem start_feeds :
    Yields link.start fun answer => FedBy port (some .reset) link answer.1 := by
  unfold start
  apply (Yields.intro _).bind
  rintro ring -
  refine ⟨rfl, ?_⟩
  rintro endpoint ⟨offers, same⟩
  refine ⟨endpoint.reset, ⟨offers, ?_⟩, endpoint.reset_fed⟩
  simp only [mapConsumer, same]
  rfl

end Steps

namespace Action

def KeepsRegistration {Hardware Consumer : Type} : Action Hardware Consumer → Prop
  | .register .. => False
  | _ => True

end Action

namespace Told

variable {Hardware Space : Type} [Mac.Device Hardware] [Bus Space] {geometry : Mac.SlotGeometry}
  {config : LinkConfig} {link last : Told geometry Hardware (Endpoint Space)} {port : UInt16}
  {endpoint : Endpoint Space} {history : List Moment}

/-- In a moment, an endpoint became what its event makes of it. -/
abbrev Meets (interface : Interface) (port : UInt16) :
    StepKind geometry Hardware (Endpoint Space) :=
  fun link moment after =>
    Feeds port (moment.event.input interface port) link.registration after.registration

theorem feeds_stepwise :
    Stepwise .yields (fun link => link.config = config) Action.KeepsRegistration
      (Meets config.interface port :
        StepKind geometry Hardware (Endpoint Space)) where
  start link configured := by
    subst configured
    exact start_feeds
  service link configured := by
    subst configured
    apply service_feeds.bind
    intro serviced fed
    exact fed
  aim link ip configured unknown := ⟨configured, .none port _⟩
  ask link ip configured :=
    (Yields.intro _).bind fun answer _ => ⟨configured, .none port _⟩
  send link sourcePort destinationPort length configured :=
    (Yields.intro _).bind fun answer _ => ⟨configured, .none port _⟩
  sendTo link ip sourcePort destinationPort length configured :=
    (Yields.intro _).bind fun answer _ => ⟨configured, .none port _⟩
  quiet link action configured keeps calm := by
    cases action with
    | fill offset patch =>
        exact (Yields.intro _).bind fun ring _ => ⟨configured, .none port _⟩
    | register port consumer => exact keeps.elim
    | device change => exact ⟨configured, .none port _⟩
    | start | service | resolve | send | sendTo => exact calm.elim

def inputs (interface : Interface) (port : UInt16) (history : List Moment) : List Etherbone.Input :=
  history.filterMap fun moment => moment.event.input interface port

theorem inputs_cons (interface : Interface) (port : UInt16) (moment : Moment)
    (later : List Moment) :
    inputs interface port (moment :: later) =
      (moment.event.input interface port).toList ++ inputs interface port later := by
  unfold inputs
  rw [List.filterMap_cons]
  cases moment.event.input interface port <;> rfl

omit [Mac.Device Hardware] in
theorem Chain.fed (chain : Chain (Meets config.interface port) link history last)
    (listens : Listens port endpoint link.registration) :
    ∃ next, Listens port next last.registration ∧
      Fed (inputs config.interface port history) endpoint next := by
  induction chain generalizing endpoint with
  | nil link => exact ⟨endpoint, listens, .nil endpoint⟩
  | @cons link between last moment later now rest induction =>
      obtain ⟨middle, listens, first⟩ := now endpoint listens
      obtain ⟨next, listens, second⟩ := induction listens
      refine ⟨next, listens, ?_⟩
      rw [inputs_cons]
      exact first.append second

/-- A whole run, whatever it does, feeds the endpoint what it met. -/
theorem run_fed (listens : Listens port endpoint link.registration)
    {actions : List (Action (Mac.Tapped geometry Hardware) (Udp.Noted (Endpoint Space)))}
    (keep : ∀ action ∈ actions, action.KeepsRegistration)
    (performed : performAll actions link = .ok (history, last)) :
    ∃ next, Listens port next last.registration ∧
      Fed (inputs link.interface port history) endpoint next := by
  obtain ⟨-, chain⟩ := (feeds_stepwise.perform_all rfl actions keep).of_ok performed
  exact chain.fed listens

end Told

/-- Two runs, on whatever devices, configurations and divisions of the slot memory, of links on
whose port the same endpoint listens. What they receive, send and look for, in which order, and what
their devices report is arbitrary. If the same payloads are delivered to the port, and starts come
at the same places between them, then the endpoint hands out the same packets, makes the same
accesses and holds the same octets in the end. And on a lawful device nothing that is not delivered
to the port stops the link or its endpoint. -/
theorem unrelated_traffic_leaves_registers_alone {Space Hardware Other : Type} [Bus Space]
    [Mac.Device Hardware] [Mac.Device Other] {geometry division : Mac.SlotGeometry} (port : UInt16)
    (endpoint : Endpoint (Bus.Watched Space))
    (link : Told geometry Hardware (Endpoint (Bus.Watched Space)))
    (other : Told division Other (Endpoint (Bus.Watched Space)))
    (listens : Listens port endpoint link.registration)
    (listensToo : Listens port endpoint other.registration)
    (actions : List (Action (Mac.Tapped geometry Hardware)
      (Udp.Noted (Endpoint (Bus.Watched Space)))))
    (keep : ∀ action ∈ actions, action.KeepsRegistration)
    (doings : List (Action (Mac.Tapped division Other)
      (Udp.Noted (Endpoint (Bus.Watched Space)))))
    (keepToo : ∀ action ∈ doings, action.KeepsRegistration)
    (history record : List Moment) (last : Told geometry Hardware (Endpoint (Bus.Watched Space)))
    (final : Told division Other (Endpoint (Bus.Watched Space)))
    (performed : Told.performAll actions link = .ok (history, last))
    (performedToo : Told.performAll doings other = .ok (record, final))
    (same : Told.inputs link.interface port history = Told.inputs other.interface port record) :
    Action.performAll actions link = .ok last ∧ Action.performAll doings other = .ok final ∧
    ∃ (packets : List Bytes) (next after : Endpoint (Bus.Watched Space)),
      packets = handedOut endpoint.reassembler (Told.inputs link.interface port history) ∧
      Listens port next last.registration ∧ Listens port after final.registration ∧
      next.bus = packets.foldl Etherbone.Endpoint.touched endpoint.bus ∧
      next.bus.accesses = after.bus.accesses ∧ next.bus = after.bus ∧
      next.stats.executed = after.stats.executed ∧
      next.stats.unsupported = after.stats.unsupported ∧
      next.reassembler = after.reassembler ∧
      ∀ [Mac.LawfulDevice Hardware] (config : LinkConfig)
        (listening : Endpoint (Bus.Watched Space))
        (before : Told geometry Hardware (Endpoint (Bus.Watched Space))),
        Attends geometry config port listening before →
        before.serviceEvent.input before.interface port = none →
          Returns (Link.service before) fun answer =>
            Attends geometry config port listening answer.2.1 := by
  have told := Told.perform_all_told actions link
  have toldToo := Told.perform_all_told doings other
  rw [performed] at told
  rw [performedToo] at toldToo
  obtain ⟨next, listensLast, fed⟩ := Told.run_fed listens keep performed
  obtain ⟨after, listensFinal, fedToo⟩ := Told.run_fed listensToo keepToo performedToo
  rw [← same] at fedToo
  have bus : next.bus = after.bus := fed.bus.trans fedToo.bus.symm
  exact ⟨told.symm, toldToo.symm, _, next, after, rfl, listensLast, listensFinal, fed.bus,
    congrArg Bus.Watched.accesses bus, bus, fed.executed.trans fedToo.executed.symm,
    fed.unsupported.trans fedToo.unsupported.symm, fed.held.trans fedToo.held.symm,
    fun config listening before attends unrelated => attends.service_unrelated unrelated⟩

deriving instance DecidableEq for Etherbone.Input

def Told.seen {geometry : Mac.SlotGeometry} {Hardware Space : Type} (interface : Interface)
    (port : UInt16)
    (told : List Moment × Told geometry Hardware (Endpoint (Bus.Watched Space))) :
    List Etherbone.Input × Option (List Simulation.BusAccess × UInt32 × UInt32) :=
  (Told.inputs interface port told.1, told.2.registration.map fun registered =>
    let endpoint := registered.consumer.consumer
    (endpoint.bus.accesses, endpoint.stats.replies, endpoint.stats.replyFailures))

/-- A request comes in two datagrams. On the quiet wire nothing else comes, and the reply finds no
peer. On the busy one the link sends in vain, a report names no slot, and the peer answers between
the datagrams, so that the reply is sent. The accesses are the same. -/
theorem busy_wire_gives_same_accesses :
    let geometry : Mac.SlotGeometry := ⟨1532, 2, 1, by decide, by decide, by decide⟩
    let division : Mac.SlotGeometry := ⟨1532, 3, 1, by decide, by decide, by decide⟩
    let config : LinkConfig := { resolveBudget := ⟨1, 1⟩ }
    let port := LinkConfig.etherbonePort
    let host : Arp.Station := ⟨Simulation.Wire.hostMac, Simulation.Wire.hostIp⟩
    let station : Arp.Station := ⟨Simulation.Wire.deviceMac, Simulation.Wire.deviceIp⟩
    let request := Etherbone.header .request {} 0x0f 1 1 ++ Etherbone.block 0x1000 [5] ++
      Etherbone.block 0x40 [0x1000]
    let begun := Simulation.Wire.etherbone (request.take 9)
    let rest := Simulation.Wire.etherbone (request.drop 9)
    let quiet : Mailbox :=
      ⟨Bytes.padTo 1532 begun ++ Bytes.padTo 3064 rest, [1, 0, 60, 1, 1, 61]⟩
    let busy : Mailbox := ⟨Bytes.padTo 1532 begun ++
      (Bytes.padTo 1532 (Simulation.Wire.arpReply host station) ++ Bytes.padTo 3064 rest),
      [1, 0, 60, 1, 7, 60, 1, 1, 60, 1, 2, 61]⟩
    let endpoint : Endpoint (Bus.Watched MappedBus) := { bus := ⟨{}, []⟩ }
    let link : Told geometry Mailbox (Endpoint (Bus.Watched MappedBus)) :=
      { config, registration := some ⟨port, ⟨endpoint, []⟩⟩, ring := {
          device := ⟨⟨quiet, {}⟩, {}⟩, geometry, softwareFrameCheck := false } }
    let other : Told division Mailbox (Endpoint (Bus.Watched MappedBus)) :=
      { config, registration := some ⟨port, ⟨endpoint, []⟩⟩, ring := {
          device := ⟨⟨busy, {}⟩, {}⟩, geometry := division, softwareFrameCheck := false } }
    let accesses : List Simulation.BusAccess := [.write 0x1000 5, .read 0x1000 5]
    let inputs : List Etherbone.Input := [.push (request.take 9), .push (request.drop 9)]
    Returns (Told.performAll [.service, .service] link) fun told =>
      Told.seen config.interface port told = (inputs, some (accesses, 0, 1)) ∧
      Returns (Told.performAll
          [.send 1 2 4, .service, .service, .resolve host.ip, .service] other) fun toldToo =>
        Told.seen config.interface port toldToo = (inputs, some (accesses, 1, 0)) ∧
        ∃ next after, Listens port next told.2.registration ∧
          Listens port after toldToo.2.registration ∧ next.bus.accesses = after.bus.accesses ∧
          next.reassembler = after.reassembler := by
  intro geometry division config port host station request begun rest quiet busy endpoint link other
    accesses inputs
  have seen : (Told.performAll [.service, .service] link).toOption.map
      (Told.seen config.interface port) = some (inputs, some (accesses, 0, 1)) := by
    decide +kernel
  have seenToo : (Told.performAll
      [.send 1 2 4, .service, .service, .resolve host.ip, .service] other).toOption.map
        (Told.seen config.interface port) = some (inputs, some (accesses, 1, 0)) := by
    decide +kernel
  obtain ⟨⟨history, last⟩, performed, quietly⟩ := Returns.of_seen seen
  obtain ⟨⟨record, final⟩, performedToo, busily⟩ := Returns.of_seen seenToo
  have same : Told.inputs link.interface port history = Told.inputs other.interface port record :=
    (congrArg Prod.fst quietly).trans (congrArg Prod.fst busily).symm
  obtain ⟨-, -, -, next, after, -, listensLast, listensFinal, -, agree, -, -, -, held, -⟩ :=
    unrelated_traffic_leaves_registers_alone port endpoint link other ⟨[], rfl⟩ ⟨[], rfl⟩ _
      (by simp [Action.KeepsRegistration]) _ (by simp [Action.KeepsRegistration]) history record
      last final performed performedToo same
  exact ⟨_, performed, quietly, _, performedToo, busily, next, after, listensLast, listensFinal,
    agree, held⟩

end Link

end InstrumentLink
