import InstrumentLink.Proofs.FilmedMac
import InstrumentLink.Proofs.HistorySteps
import InstrumentLink.Simulation.Harness
import InstrumentLink.Simulation.Wire

/-!
No frame is lost on its way to a link.

The frames that a link handles are those that were queued towards its device, in the same order and
each of them once; the others are still waiting. A frame stays in its slot, octet for octet, until
it is handled, whatever is sent meanwhile, and is then taken back once.
-/

set_option autoImplicit false

namespace InstrumentLink

namespace Udp

theorem Reaction.Ends.noting {Result : Type} {room : Nat} {good : Except Fault Result → Prop}
    (reaction : Reaction Result) (ends : reaction.Ends room good) (offers : List Offer) :
    (reaction.noting offers).Ends room fun result => good (Prod.fst <$> result) := by
  induction reaction generalizing offers with
  | done result => exact ends
  | fail fault => exact ends
  | report event next induction => exact induction ends offers
  | look next induction => exact fun area length => induction area (ends area length) offers
  | store offset patch next induction => exact ⟨ends.1, induction ends.2 offers⟩
  | send sourcePort destinationPort length next induction =>
      exact fun sent => induction sent (ends sent) _
  | sendTo ip sourcePort destinationPort length next induction =>
      exact fun sent => induction sent (ends sent) _

theorem Noted.safe_handler {Consumer : Type} [Handler Consumer] {room longest : Nat}
    {Safe : Consumer → Prop} (handler : SafeHandler room longest Safe) :
    SafeHandler room longest fun noted : Noted Consumer => Safe noted.consumer where
  on_datagram := fun datagram noted safe short => by
    apply Reaction.Ends.and_then _
      ((handler.on_datagram datagram noted.consumer safe short).noting _ noted.offers)
    · rintro ⟨consumer, offers⟩ ⟨after, same, safe⟩
      cases same
      exact Returns.ok safe
    · rintro fault ⟨after, same, -⟩
      cases same
  reset := fun noted safe => handler.reset noted.consumer safe

end Udp

namespace Link

section Counted

variable {Hardware Consumer : Type} [Mac.Device Hardware] (link : Link Hardware Consumer)

variable [Udp.Handler Consumer]

theorem dispatch_rx_frames (slot : Bytes) :
    Yields (link.dispatch slot) fun dispatched =>
      dispatched.2.1.stats.rxFrames = link.stats.rxFrames := by
  apply dispatch_cases .yields
  case dropped => exact fun _ _ _ => rfl
  case arp =>
    refine fun frame _ _ => (Yields.intro _).mono ?_
    rintro ⟨outcome, cache, ring, log⟩ -
    cases outcome <;> rfl
  case ipv4 =>
    refine fun frame _ _ => (Yields.intro _).mono ?_
    rintro ⟨handled, registration, ring, log⟩ -
    cases handled <;> rfl

end Counted

/-- A frame that the device reports is taken out of its slot, counted and dispatched, once; then its
slot is given back. -/
structure Handles {Hardware Consumer : Type} [Mac.Device Hardware] [Udp.Handler Consumer]
    (frame : Bytes) (frameClass : Ethernet.FrameClass)
    (link dispatched next : Link Hardware Consumer) : Prop where
  dispatch : ∃ received ring polling handling,
    link.ring.pollReceive = .ok (some received, ring, polling) ∧
    ring.receivedFrame received = .ok frame ∧
    { link with ring, stats.rxFrames := link.stats.rxFrames + 1 }.dispatch frame =
      .ok (frameClass, dispatched, handling)
  release : ∃ released, dispatched.ring.acknowledge = .ok released ∧
    next = { dispatched with ring := released }

/-- A call of `service` whose four steps are known. -/
theorem service_steps {Hardware Consumer : Type} [Mac.Device Hardware] [Udp.Handler Consumer]
    {frame : Bytes} {frameClass : Ethernet.FrameClass} {link dispatched : Link Hardware Consumer}
    {received : SlotRing.Received} {ring released : SlotRing Hardware} {polling handling : Log}
    (polled : link.ring.pollReceive = .ok (some received, ring, polling))
    (taken : ring.receivedFrame received = .ok frame)
    (dispatching : { link with ring, stats.rxFrames := link.stats.rxFrames + 1 }.dispatch frame =
      .ok (frameClass, dispatched, handling))
    (releasing : dispatched.ring.acknowledge = .ok released) :
    link.service = .ok (some frameClass, { dispatched with ring := released }, polling ++ handling) ∧
      Handles frame frameClass link dispatched { dispatched with ring := released } :=
  ⟨bind_known polled (bind_known taken (bind_known dispatching (bind_known releasing rfl))),
    ⟨_, _, _, _, polled, taken, dispatching⟩, _, releasing, rfl⟩

theorem Handles.rx_frames {Hardware Consumer : Type} [Mac.Device Hardware] [Udp.Handler Consumer]
    {frame : Bytes} {frameClass : Ethernet.FrameClass}
    {link dispatched next : Link Hardware Consumer}
    (handles : Handles frame frameClass link dispatched next) :
    next.stats.rxFrames = link.stats.rxFrames + 1 := by
  obtain ⟨received, ring, polling, handling, -, -, dispatching⟩ := handles.dispatch
  obtain ⟨released, -, rfl⟩ := handles.release
  exact (dispatch_rx_frames _ frame).of_ok dispatching

def Event.handled : Event → List Bytes
  | .received slot => [slot]
  | .started | .aimed _ | .other => []

def Moment.handled (moment : Moment) : List Bytes := moment.event.handled

def Action.befall {geometry : Mac.SlotGeometry} (happening : Simulation.Happening)
    (tapped : Mac.Tapped geometry Simulation.Filmed) : Mac.Tapped geometry Simulation.Filmed :=
  { tapped with device := tapped.device.befallen happening }

/-- What callers and the world outside promise: a caller writes into the payload area it was given,
a consumer does not stop the link, and frames and answers that arrive fit a slot. -/
def Action.Fair {Consumer : Type} {geometry : Mac.SlotGeometry} (config : LinkConfig)
    (Safe : Consumer → Prop) :
    Action (Mac.Tapped geometry Simulation.Filmed) (Udp.Noted Consumer) → Prop
  | .fill offset patch => offset + patch.length ≤ Udp.payloadRoom config.interface
  | .register _ consumer => Safe consumer.consumer
  | .device change => ∃ happening : Simulation.Happening, happening.Fits geometry.slotSize ∧
      change = befall happening
  | .start | .service | .resolve .. | .send .. | .sendTo .. => True

/-- Frames that arrived were handled one for one, each as the registers show it. -/
structure Delivers (geometry : Mac.SlotGeometry) (arrived handled : List Bytes) : Prop where
  length : handled.length = arrived.length
  read : ∀ number frame octets, arrived[number]? = some frame → handled[number]? = some octets →
    Simulation.SimulatedMac.ThroughRegisters (number % geometry.rxSlots) frame octets

section Delivers

variable {geometry : Mac.SlotGeometry} {arrived handled : List Bytes} {frame octets : Bytes}

theorem Delivers.snoc (delivers : Delivers geometry arrived handled)
    (read : Simulation.SimulatedMac.ThroughRegisters (arrived.length % geometry.rxSlots) frame
      octets) :
    Delivers geometry (arrived ++ [frame]) (handled ++ [octets]) := by
  refine ⟨by rw [List.length_append, List.length_append, delivers.length]; rfl, ?_⟩
  intro number frame octets came went
  rcases Nat.lt_or_ge number arrived.length with earlier | last
  · rw [List.getElem?_append_left earlier] at came
    rw [List.getElem?_append_left (delivers.length ▸ earlier)] at went
    exact delivers.read number frame octets came went
  · rw [List.getElem?_append_right last, List.getElem?_singleton] at came
    rw [List.getElem?_append_right (delivers.length ▸ last), List.getElem?_singleton] at went
    split at came
    · next now =>
        rw [delivers.length, if_pos now] at went
        cases came
        cases went
        rwa [show number = arrived.length by omega]
    · cases came

theorem Delivers.exact (delivers : Delivers geometry arrived handled)
    (numbered : geometry.rxSlots ≤ 4294967296)
    (narrow : ∀ frame ∈ arrived, frame.length < 4294967296) : handled = arrived := by
  apply List.ext_getElem delivers.length
  intro number went came
  have slot := Nat.mod_lt number geometry.has_rx_slot
  exact (delivers.read number _ _ (List.getElem?_eq_getElem came)
    (List.getElem?_eq_getElem went)).exact (Nat.lt_of_lt_of_le slot numbered)
    (narrow _ (List.getElem_mem came))

end Delivers

namespace Told

open Mac (Observes Tapped Watched)
open Simulation (Filmed Happening Shows Still Tracks)
open Simulation.SimulatedMac (ThroughRegisters)

section Steps

variable {Consumer : Type} {geometry : Mac.SlotGeometry} {config : LinkConfig}
  {Safe : Consumer → Prop} {held : Option Bytes} {arrived : List Bytes}
  {before : List (Option Bytes)} {frame : Bytes} {link after : Told geometry Filmed Consumer}
  {moment : Moment}

def filmed (link : Told geometry Filmed Consumer) : Filmed := link.ring.device.device.device

/-- In a moment, the frame that was next on the wire is handled. All pictures show it while it is
dispatched, and none after it was given back. -/
structure Receives [Udp.Handler Consumer] (frame octets : Bytes)
    (link : Told geometry Filmed Consumer) (moment : Moment)
    (after : Told geometry Filmed Consumer) : Prop where
  handled : moment.handled = [octets]
  arrived : after.filmed.arrived = link.filmed.arrived ++ [frame]
  read : ThroughRegisters (link.filmed.arrived.length % geometry.rxSlots) frame octets
  handles : ∃ frameClass dispatched, Handles octets frameClass link dispatched after ∧
    Still (some octets) (link.filmed.film ++ [some octets]) (filmed dispatched).film ∧
    after.filmed.film = (filmed dispatched).film ++ [none]

/-- What a moment is for the frames that arrive: none is handled, or one. -/
inductive Serves [Udp.Handler Consumer] (link : Told geometry Filmed Consumer) (moment : Moment)
    (after : Told geometry Filmed Consumer) : Prop where
  | nothing (handled : moment.handled = []) (stats : after.stats = link.stats)
      (arrived : after.filmed.arrived = link.filmed.arrived)
      (still : Still none link.filmed.film after.filmed.film)
  | frame (frame octets : Bytes) (receives : Receives frame octets link moment after)

/-- The invariant of a ring whose device is on film. -/
abbrev RingTracks (config : LinkConfig) (geometry : Mac.SlotGeometry) (held : Option Bytes)
    (arrived : List Bytes) (before : List (Option Bytes)) :
    SlotRing (Watched (Tapped geometry Filmed)) → Prop :=
  SlotRing.Transmitting geometry
    (fun watched => Tracks geometry held arrived before watched.device.device)
    config.interface.softwareFraming

abbrev OnFilm (config : LinkConfig) (Safe : Consumer → Prop) (held : Option Bytes)
    (arrived : List Bytes) (before : List (Option Bytes)) : Told geometry Filmed Consumer → Prop :=
  OnSafeRing config (RingTracks config geometry held arrived before)
    fun noted => Safe noted.consumer

def Rests (config : LinkConfig) (Safe : Consumer → Prop) (link : Told geometry Filmed Consumer) :
    Prop :=
  OnFilm config Safe none link.filmed.arrived link.filmed.film link

theorem OnFilm.rests (sound : OnFilm config Safe none arrived before link) :
    Rests config Safe link := by
  have tracks : Tracks geometry none arrived before link.filmed := sound.ring.good
  have same := tracks.arrived_eq
  refine ⟨sound.configured, sound.ring.of_device ?_, sound.registered⟩
  exact ⟨tracks.sane, tracks.reported, same ▸ tracks.slot, same ▸ tracks.queued, 0,
    (List.append_nil _).symm⟩

variable [Udp.Handler Consumer]

theorem OnFilm.serves_nothing
    (sound : OnFilm config Safe none link.filmed.arrived link.filmed.film after)
    (stats : after.stats = link.stats) (nothing : moment.handled = []) :
    Rests config Safe after ∧ Serves link moment after :=
  ⟨sound.rests, .nothing nothing stats sound.ring.good.arrived_eq sound.ring.good.still⟩

omit [Udp.Handler Consumer] in
theorem observes : Observes fun watched : Watched (Tapped geometry Filmed) =>
    watched.device.device :=
  Watched.observes.comp Tapped.observes

omit [Udp.Handler Consumer] in
theorem sender (held : Option Bytes) (arrived : List Bytes) (before : List (Option Bytes)) :
    Mac.Sender geometry (fun watched : Watched (Tapped geometry Filmed) =>
      Tracks geometry held arrived before watched.device.device)
      fun watched => watched.device.device.mac.side :=
  observes.sender Tracks.sender

omit [Udp.Handler Consumer] in
theorem safe_port (config : LinkConfig) (held : Option Bytes) (arrived : List Bytes)
    (before : List (Option Bytes)) : SafePort (RingTracks config geometry held arrived before) :=
  SlotRing.Transmitting.safe_port (sender held arrived before) _

variable (handler : SafeConsumer config geometry Safe)

include handler

omit handler in
theorem Rests.service_idle (rests : Rests config Safe link) (empty : link.filmed.mac.wire = []) :
    Returns (Told.service link) fun told =>
      Rests config Safe told.2 ∧ Serves link told.1 told.2 := by
  obtain ⟨⟨received, ring, log⟩, polled, tracked, -, rfl⟩ :=
    (rests.ring.of_device (observes.silent (rests.ring.good.silent empty))).polls_silence
  have serviced : Link.service link = .ok (none, { link with ring }, log) :=
    bind_known polled rfl
  have handled : (serviceEvent link).handled = [] := by
    rw [service_event_of_nothing polled]
    rfl
  have sound : OnFilm config Safe none link.filmed.arrived link.filmed.film { link with ring } :=
    ⟨rests.configured, tracked, rests.registered⟩
  unfold Told.service
  exact Returns.bind_ok serviced (Returns.ok (sound.serves_nothing rfl handled))

/-- A call of `service` handles the frame at the front of the wire. -/
theorem Rests.service_receives (rests : Rests config Safe link) {rest : List Bytes}
    (waiting : link.filmed.mac.wire = frame :: rest) :
    Returns (Told.service link) fun told =>
      Rests config Safe told.2 ∧ ∃ octets, Receives frame octets link told.1 told.2 := by
  have tracks : Tracks geometry none link.filmed.arrived link.filmed.film link.filmed :=
    rests.ring.good
  obtain ⟨octets, read, short, reporting⟩ := tracks.reports waiting
  have whole (watched : Watched (Tapped geometry Filmed))
      (tracks : Tracks geometry (some octets) (link.filmed.arrived ++ [frame])
        (link.filmed.film ++ [some octets]) watched.device.device) :
      (Mac.memory watched).length = geometry.length := tracks.sane.whole
  obtain ⟨⟨_, ring, log⟩, polled, tracked, -, received, rfl, held⟩ :=
    (rests.ring.of_device (observes.reports reporting)).polls whole short
  have carried : octets.length ≤ Udp.frameHeaders + longestDatagram geometry := by
    unfold longestDatagram
    omega
  have ready : OnFilm config Safe (some octets) (link.filmed.arrived ++ [frame])
      (link.filmed.film ++ [some octets])
      { link with ring, stats.rxFrames := link.stats.rxFrames + 1 } :=
    ⟨rests.configured, tracked, rests.registered⟩
  obtain ⟨⟨frameClass, dispatched, handling⟩, dispatching, sound⟩ :=
    ready.dispatch_returns (safe_port config _ _ _) (Udp.Noted.safe_handler handler) octets carried
  obtain ⟨released, releasing, ⟨divided, framing, slot, tracked, given_back⟩, -⟩ :=
    (sound.ring.of_device ⟨sound.ring.good, rfl⟩).releases
      (observes.releases (Tracks.releases (filmed dispatched).film))
  obtain ⟨serviced, handles⟩ := service_steps polled held dispatching releasing
  have handled : (serviceEvent link).handled = [octets] := by
    rw [service_event_of_frame polled held]
    rfl
  have rested : OnFilm config Safe none (link.filmed.arrived ++ [frame])
      ((filmed dispatched).film ++ [none]) { dispatched with ring := released } :=
    ⟨sound.configured, ⟨divided, framing, slot, tracked⟩, sound.registered⟩
  unfold Told.service
  refine Returns.bind_ok serviced (Returns.ok ⟨rested.rests, octets, handled, tracked.arrived_eq,
    read, frameClass, dispatched, handles, sound.ring.good.still, given_back⟩)

theorem Rests.service_returns (rests : Rests config Safe link) :
    Returns (Told.service link) fun told =>
      Rests config Safe told.2 ∧ Serves link told.1 told.2 := by
  cases waiting : link.filmed.mac.wire with
  | nil => exact rests.service_idle waiting
  | cons frame rest =>
      apply (rests.service_receives handler waiting).mono
      rintro told ⟨rests, octets, receives⟩
      exact ⟨rests, .frame frame octets receives⟩

end Steps

variable {Consumer : Type} {geometry : Mac.SlotGeometry} {config : LinkConfig}
  {Safe : Consumer → Prop} {link last after : Told geometry Filmed Consumer}
  {history : List Moment} {moment : Moment} {handled : List Bytes}

/-- The frames handled so far are those that arrived, the film shows them, and they are counted. -/
structure Recorded (handled : List Bytes) (link : Told geometry Filmed Consumer) : Prop where
  delivers : Delivers geometry link.filmed.arrived handled
  shows : Shows handled none link.filmed.film
  counted : link.stats.rxFrames = UInt32.ofNat handled.length

variable [Udp.Handler Consumer]

theorem Serves.records (serves : Serves link moment after) (recorded : Recorded handled link) :
    Recorded (handled ++ moment.handled) after := by
  obtain ⟨delivers, shows, counted⟩ := recorded
  cases serves with
  | nothing none stats arrived still =>
      rw [none, List.append_nil]
      exact ⟨arrived ▸ delivers, shows.still still, by rw [stats, counted]⟩
  | frame frame octets receives =>
      obtain ⟨one, arrived, read, frameClass, dispatched, handles, held, given_back⟩ := receives
      rw [one]
      refine ⟨arrived ▸ delivers.snoc read, ?_, ?_⟩
      · rw [given_back]
        exact ((shows.appears octets).still held).taken_back
      · rw [handles.rx_frames, counted, List.length_append, List.length_singleton,
          UInt32.ofNat_add]
        rfl

theorem Chain.records (chain : Chain Serves link history last) (recorded : Recorded handled link) :
    Recorded (handled ++ history.flatMap Moment.handled) last := by
  induction chain generalizing handled with
  | nil link =>
      rw [List.flatMap_nil, List.append_nil]
      exact recorded
  | cons now rest induction =>
      rw [List.flatMap_cons, ← List.append_assoc]
      exact induction (now.records recorded)

end Told

section Narrow

open Mac (Reports Releases)
open Simulation (SimulatedLink SimulatedMac)
open Simulation.SimulatedMac (Fetches Sane)

/-- A device that received only frames without octets. -/
structure Blank (geometry : Mac.SlotGeometry) (count : Nat) (mac : SimulatedMac) : Prop where
  sane : Sane geometry mac
  memory : mac.memory = Bytes.zeros geometry.length
  idle : mac.writerPending = 0
  wire : mac.wire = []
  slot : mac.nextRxSlot = count % geometry.rxSlots

variable {Consumer : Type} [Udp.Handler Consumer] {geometry : Mac.SlotGeometry} {count : Nat}
  {octets frame : Bytes} {Holding Idle : SimulatedMac → Prop} {mac polled : SimulatedMac}
  {link : Link SimulatedMac Consumer}

theorem service_drops (releases : Releases Holding Idle SimulatedMac.side)
    (whole : ∀ mac, Holding mac → mac.memory.length = geometry.length)
    (sound : SlotRing.Transmitting geometry (Reports geometry Holding SimulatedMac.side octets)
      false link.ring) (hardware : link.interface.softwareFraming = false)
    (fits : octets.length ≤ geometry.slotSize) (few : octets.length ≤ 12) :
    Returns link.service fun answer =>
      (∃ frameClass dispatched, Handles octets frameClass link dispatched answer.2.1) ∧
      SlotRing.Transmitting geometry Idle false answer.2.1.ring ∧
      answer.2.1.interface = link.interface := by
  obtain ⟨⟨_, ring, log⟩, polled, held, -, received, rfl, taken⟩ := sound.polls whole fits
  let counted := { link with ring, stats.rxFrames := link.stats.rxFrames + 1 }
  have unframed : unframe counted.interface octets = .ok (.ok octets) :=
    if_neg (hardware ▸ Bool.false_ne_true)
  have other : Ethernet.classify octets = .other := by
    simp [Ethernet.classify, Ethernet.etherType, Bytes.word16At, List.drop_of_length_le few]
  have dispatching : counted.dispatch octets =
      .ok (.other, { counted with stats := countDropped counted.stats }, []) := by
    unfold dispatch
    refine bind_known unframed ?_
    dsimp only
    rw [other]
    rfl
  obtain ⟨released, releasing, idle, -⟩ := held.releases releases
  obtain ⟨serviced, handles⟩ := service_steps polled taken dispatching releasing
  exact ⟨_, serviced, ⟨_, _, handles⟩, idle, rfl⟩

/-- What the registers name of a frame that arrives at such a device is handled. -/
theorem Blank.serves
    (sound : SlotRing.Transmitting geometry (Blank geometry count) false link.ring)
    (hardware : link.interface.softwareFraming = false) (short : frame.length ≤ geometry.slotSize)
    (few : frame.length % 4294967296 ≤ 12) :
    Returns (SimulatedLink.inject frame link) fun injected => ∃ polled : SimulatedMac,
      Fetches geometry frame [] injected.ring.device polled ∧
      injected.ring.device.memory = Bytes.zeros geometry.length ∧
      injected.ring.device.nextRxSlot = count % geometry.rxSlots ∧
      Returns injected.service fun answer =>
        (∃ frameClass dispatched, Handles polled.named frameClass injected dispatched answer.2.1) ∧
        SlotRing.Transmitting geometry (· = { polled with writerPending := 0 }) false
          answer.2.1.ring ∧
        answer.2.1.interface = link.interface ∧
        answer.2.1.stats.rxFrames = link.stats.rxFrames + 1 := by
  obtain ⟨divided, framing, slot, blank⟩ := sound
  let waiting : SimulatedMac := { link.ring.device with wire := [frame] }
  let injected : Link SimulatedMac Consumer :=
    { link with ring := { link.ring with device := waiting } }
  have sane : Sane geometry waiting :=
    ⟨blank.sane.divided, blank.sane.whole, blank.sane.next, List.forall_mem_singleton.mpr short,
      blank.sane.peer, blank.sane.event, blank.sane.report⟩
  have putting : SimulatedLink.inject frame link = .ok injected := by
    refine bind_known (if_pos (blank.sane.divided ▸ short)) ?_
    rw [blank.wire]
    rfl
  obtain ⟨polled, received, fetches⟩ := sane.fetches blank.idle rfl
  obtain ⟨exist, fits⟩ := fetches.inside sane short
  have event : (1 : UInt32) &&& Mac.eventBit ≠ 0 := by decide
  have named : (polled.memory.drop (geometry.rxStart polled.writerSlot.toNat)).take
      polled.named.length = polled.named := by
    rw [fetches.length_named, ← fetches.sane.divided]
    rfl
  have reports : Reports geometry (· = polled) SimulatedMac.side polled.named waiting :=
    ⟨_, fetches.polls received, event, _, rfl, exist, _, rfl, fetches.length_named.symm, rfl,
      congrArg (List.map Simulation.SentFrame.octets) fetches.sent, named⟩
  have releases : Releases (· = polled) (· = { polled with writerPending := 0 })
      SimulatedMac.side := by
    rintro mac rfl
    have cleared : mac.writerPending &&& ~~~Mac.eventBit = 0 := by
      rw [fetches.pending]
      decide
    exact Returns.ok ⟨by rw [cleared], rfl⟩
  have cut : polled.named.length ≤ 12 := by
    rw [fetches.length_named, fetches.length]
    exact few
  have ready : SlotRing.Transmitting geometry
      (Reports geometry (· = polled) SimulatedMac.side polled.named) false injected.ring :=
    ⟨divided, framing, slot, reports⟩
  refine ⟨injected, putting, polled, fetches, blank.memory, blank.slot, ?_⟩
  apply (service_drops releases (fun mac same => same ▸ fetches.sane.whole) ready hardware fits
    cut).mono
  rintro answer ⟨⟨frameClass, dispatched, handles⟩, idle, same⟩
  exact ⟨⟨frameClass, dispatched, handles⟩, idle, same, handles.rx_frames⟩

end Narrow

end Link

end InstrumentLink
