import InstrumentLink.Proofs.LosslessReception
import InstrumentLink.Proofs.SimulatedHistory

/-!
A simulated link with frames on its wire.

Whatever happened to it before, its device waits with frames that fit their slots. A call of
`service` finds one of three things: a report that names no receive slot, or more octets than a slot
has, which is dropped; nothing; or the frame in front, which is handled.
-/

set_option autoImplicit false

namespace InstrumentLink

namespace Simulation.SimulatedMac

open Mac (Reports Transmitter)

/-- Whatever is reported, the frames on the wire fit a slot, and so do the answers to come. -/
structure Stocked (geometry : Mac.SlotGeometry) (mac : SimulatedMac) : Prop where
  settled : Settled geometry mac
  wire : ∀ frame ∈ mac.wire, frame.length ≤ geometry.slotSize
  peer : mac.peer.Fits geometry.slotSize

/-- A report is pending that names no receive slot, or more octets than a slot has. -/
def Refuses (mac : SimulatedMac) : Prop :=
  mac.writerPending ≠ 0 ∧ ¬ (mac.writerSlot.toNat < mac.geometry.rxSlots ∧
    mac.writerLength.toNat ≤ mac.geometry.slotSize)

instance (mac : SimulatedMac) : Decidable mac.Refuses := inferInstanceAs (Decidable (_ ∧ _))

/-- The frames that wait to be handled. Nothing waits in a report that will be refused. -/
def waiting (mac : SimulatedMac) : List Bytes :=
  (if mac.Refuses then none else mac.reported).toList ++ mac.wire

/-- A device that waits with frames on its wire that are known so far. -/
structure Supplied (geometry : Mac.SlotGeometry) (pending : UInt32) (known : List Bytes)
    (mac : SimulatedMac) : Prop where
  waits : Waiting geometry pending mac
  wire : known <+: mac.wire

variable {geometry : Mac.SlotGeometry} {mac after : SimulatedMac} {pending : UInt32}
  {known rest : List Bytes} {frame : Bytes}

theorem Stocked.leaves (stocked : Stocked geometry mac) (leaves : LeavesReceiver mac after) :
    Stocked geometry after := by
  obtain ⟨wire, peer⟩ := leaves.traffic.fits stocked.wire stocked.peer
  exact ⟨stocked.settled.leaves leaves, wire, peer⟩

theorem Stocked.transmitter (named : geometry.txSlots ≤ 4294967296) :
    Transmitter geometry (Stocked geometry) side :=
  transmitter_of_leaves named (fun _ stocked => stocked.settled.divided)
    (fun _ stocked => stocked.settled.whole) fun _ _ stocked leaves => stocked.leaves leaves

theorem Supplied.transmitter (named : geometry.txSlots ≤ 4294967296) :
    Transmitter geometry (Supplied geometry pending known) side := by
  apply transmitter_of_leaves named (fun _ supplied => supplied.waits.sane.divided)
    (fun _ supplied => supplied.waits.sane.whole)
  intro mac after supplied leaves
  obtain ⟨arrived, wire⟩ := leaves.traffic.arrives
  have waits : Waiting geometry pending after :=
    ⟨supplied.waits.sane.leaves leaves, leaves.pending.trans supplied.waits.pending⟩
  refine ⟨waits, ?_⟩
  rw [wire]
  exact supplied.wire.trans (List.prefix_append _ _)

theorem Stocked.changes (stocked : Stocked geometry mac) (happening : Happening)
    (fits : happening.Fits geometry.slotSize) :
    Yields (happening.change mac) (Stocked geometry) := by
  obtain ⟨settled, wire, peer⟩ := stocked
  apply ((settled.changes happening).and (Yields.self _)).mono
  intro after kept
  obtain ⟨⟨settled, -⟩, changed⟩ := kept
  cases happening with
  | arrival frame =>
      change mac.inject frame = .ok after at changed
      unfold inject at changed
      split at changed
      · next short =>
          cases changed
          rw [settled.divided] at short
          have longer := List.forall_mem_append.mpr ⟨wire, List.forall_mem_singleton.mpr short⟩
          exact ⟨settled, longer, peer⟩
      · contradiction
  | delay polls =>
      cases changed
      exact ⟨settled, wire, peer⟩
  | listener other =>
      cases changed
      exact ⟨settled, wire, fits⟩
  | collection =>
      cases changed
      exact ⟨settled, wire, peer⟩

theorem Stocked.sane (stocked : Stocked geometry mac) (accepted : ¬ mac.Refuses) :
    Sane geometry mac := by
  have settled := stocked.settled
  refine ⟨settled.divided, settled.whole, settled.next, stocked.wire, stocked.peer, settled.event,
    ?_⟩
  intro reports
  have named : mac.writerSlot.toNat < mac.geometry.rxSlots ∧
      mac.writerLength.toNat ≤ mac.geometry.slotSize :=
    not_not.mp fun outside => accepted ⟨reports, outside⟩
  rw [settled.divided] at named
  have inside := geometry.rx_before_tx named.1 0
  omega

theorem Waiting.stocked (waits : Waiting geometry pending mac) : Stocked geometry mac :=
  ⟨waits.sane.settled, waits.sane.wire, waits.sane.peer⟩

theorem Waiting.accepted (waits : Waiting geometry 0 mac) : ¬ mac.Refuses :=
  fun refuses => refuses.1 waits.pending

theorem waiting_of_refuses (refuses : mac.Refuses) : mac.waiting = mac.wire := by
  unfold waiting
  rw [if_pos refuses]
  rfl

theorem waiting_of_idle (idle : mac.writerPending = 0) : mac.waiting = mac.wire := by
  have accepted : ¬ mac.Refuses := fun refuses => refuses.1 idle
  unfold waiting reported
  rw [if_neg accepted, if_pos idle]
  rfl

theorem pending_rx_of_waiting (accepted : ¬ mac.Refuses) (empty : mac.waiting = []) :
    mac.pendingRx = 0 := by
  unfold waiting reported at empty
  rw [if_neg accepted] at empty
  split at empty
  · next idle =>
      unfold pendingRx
      rw [idle, show mac.wire = [] from empty]
      rfl
  · contradiction

theorem polls_reported (pending : mac.writerPending = 1) :
    Mac.readRegister .writerEvent mac = .ok (1, mac) := by
  have received : mac.receiveNext = .ok mac := by
    unfold receiveNext
    rw [if_pos (by rw [pending]; decide)]
    rfl
  exact (bind_known received rfl).trans (congrArg (fun event => Except.ok (event, mac)) pending)

theorem Stocked.reports (stocked : Stocked geometry mac) (accepted : ¬ mac.Refuses)
    (numbered : geometry.rxSlots ≤ 4294967296) (narrow : geometry.slotSize < 4294967296)
    (front : mac.waiting = frame :: rest) :
    frame.length ≤ geometry.slotSize ∧
      Reports geometry (Supplied geometry 1 rest) side frame mac := by
  have sane := stocked.sane accepted
  rcases stocked.settled.event with idle | pending
  · rw [waiting_of_idle idle] at front
    have short : frame.length ≤ geometry.slotSize :=
      stocked.wire frame (by rw [front]; exact List.mem_cons_self)
    obtain ⟨⟨event, polled⟩, polling, same, takes⟩ :=
      sane.polls numbered (Nat.lt_of_le_of_lt short narrow) idle front
    cases same
    have supplied : Supplied geometry 1 rest polled :=
      ⟨⟨takes.sane, takes.pending⟩, takes.wire ▸ List.prefix_refl _⟩
    exact ⟨short, takes.reports polling supplied⟩
  · have raised : mac.writerPending ≠ 0 := by rw [pending]; decide
    have named : mac.writerSlot.toNat < geometry.rxSlots ∧
        mac.writerLength.toNat ≤ geometry.slotSize := by
      rw [← stocked.settled.divided]
      exact not_not.mp fun outside => accepted ⟨raised, outside⟩
    unfold waiting reported SimulatedMac.named at front
    rw [if_neg accepted, if_neg raised, stocked.settled.divided] at front
    obtain ⟨held, wire⟩ := List.cons_eq_cons.mp front
    have room := geometry.rx_slot_inside _ named.1
    have whole := stocked.settled.whole
    have length : mac.writerLength.toNat = frame.length := by
      rw [← held, List.length_take, List.length_drop]
      omega
    have event : (1 : UInt32) &&& Mac.eventBit ≠ 0 := by decide
    have known : mac.wire = rest := wire
    have supplied : Supplied geometry 1 rest mac :=
      ⟨⟨sane, pending⟩, known ▸ List.prefix_refl _⟩
    refine ⟨by omega, _, polls_reported pending, event, _, rfl, named.1, _, rfl, length, supplied,
      rfl, ?_⟩
    rw [← length]
    exact held

theorem supplied_releases : Mac.Releases (Supplied geometry 1 known) (Supplied geometry 0 known)
    side := by
  intro mac supplied
  have sane := supplied.waits.sane
  have clear : mac.writerPending &&& ~~~Mac.eventBit = 0 := by
    rw [supplied.waits.pending]
    decide
  exact Returns.ok ⟨⟨⟨⟨sane.divided, sane.whole, sane.next, sane.wire, sane.peer, .inl clear,
    fun pending => (pending clear).elim⟩, clear⟩, supplied.wire⟩, rfl⟩

def withoutReport (mac : SimulatedMac) : SimulatedMac := { mac with writerPending := 0 }

end Simulation.SimulatedMac

namespace Link

open Simulation (Happening SimulatedLink SimulatedMac maximumServiceSteps)
open Simulation.SimulatedMac (Supplied)

variable {Consumer : Type} [Udp.Handler Consumer] {config : LinkConfig}
  {geometry : Mac.SlotGeometry} {Safe : Consumer → Prop} {frame : Bytes}
  {known rest frames : List Bytes} {link next last : Link SimulatedMac Consumer}

/-- What the world promises: no answer of a peer is longer than a slot, and no consumer stops the
link. Reports are as they are. -/
def Deed.Fair (geometry : Mac.SlotGeometry) (Safe : Consumer → Prop) : Deed Consumer → Prop
  | .register _ consumer => Safe consumer
  | .outside happening => happening.Fits geometry.slotSize
  | .start | .service | .resolve .. | .send .. | .sendTo .. | .fill .. | .unregister
  | .report .. => True

abbrev OnGoodRing (config : LinkConfig) (geometry : Mac.SlotGeometry)
    (Good : SimulatedMac → Prop) (Safe : Consumer → Prop) : Link SimulatedMac Consumer → Prop :=
  OnSafeRing config (SlotRing.Transmitting geometry Good config.interface.softwareFraming) Safe

/-- The invariant of a link whose device has frames on its wire. -/
abbrev Stocked (config : LinkConfig) (geometry : Mac.SlotGeometry) (Safe : Consumer → Prop) :
    Link SimulatedMac Consumer → Prop :=
  OnGoodRing config geometry (SimulatedMac.Stocked geometry) Safe

def Handled (frame : Bytes) (link : Link SimulatedMac Consumer) (frameClass : Ethernet.FrameClass)
    (next : Link SimulatedMac Consumer) : Prop :=
  ∃ dispatched, Handles frame frameClass link dispatched next

omit [Udp.Handler Consumer] in
theorem poll_dropped (stocked : Stocked config geometry Safe link)
    (refuses : link.ring.device.Refuses) :
    link.ring.pollReceive = .ok (none,
      { link.ring with device := link.ring.device.withoutReport },
      [.slotReportRefused link.ring.device.writerSlot.toNat
        link.ring.device.writerLength.toNat]) := by
  have settled := stocked.ring.good.settled
  have pending := settled.event.resolve_left refuses.1
  have event : ¬ (1 : UInt32) &&& Mac.eventBit = 0 := by decide
  have outside := refuses.2
  rw [settled.divided, ← stocked.ring.divided] at outside
  unfold SlotRing.pollReceive
  refine bind_known (SimulatedMac.polls_reported pending) ((if_neg event).trans ?_)
  refine bind_known rfl (bind_known rfl ((if_neg outside).trans ?_))
  rw [SimulatedMac.withoutReport, ← settled.cleared]
  rfl

section Deeds

variable (named : geometry.txSlots ≤ 4294967296) (handler : SafeConsumer config geometry Safe)
  (stocked : Stocked config geometry Safe link)

include stocked

theorem service_dropped (refuses : link.ring.device.Refuses) :
    Returns link.service fun answer => answer.1 = none ∧
      answer.2.1 = SimulatedLink.mapDevice SimulatedMac.withoutReport link :=
  Returns.bind_ok (poll_dropped stocked refuses) (Returns.ok ⟨rfl, rfl⟩)

theorem service_silent (accepted : ¬ link.ring.device.Refuses)
    (empty : link.ring.device.waiting = []) : link.service = .ok (none, link, []) := by
  unfold SimulatedMac.waiting SimulatedMac.reported at empty
  rw [if_neg accepted] at empty
  have settled := stocked.ring.good.settled
  rcases settled.event with idle | pending
  · rw [if_pos idle] at empty
    exact bind_known (SimulatedMac.poll_nothing idle empty) rfl
  · rw [if_neg (by rw [pending]; decide)] at empty
    cases empty

include named handler in
/-- The frame in front is handled, and those behind it wait. -/
theorem Stocked.service_handles (numbered : geometry.rxSlots ≤ 4294967296)
    (narrow : geometry.slotSize < 4294967296) (accepted : ¬ link.ring.device.Refuses)
    (front : link.ring.device.waiting = frame :: rest) :
    Returns link.service fun answer => ∃ frameClass, answer.1 = some frameClass ∧
      Handled frame link frameClass answer.2.1 ∧
      OnGoodRing config geometry (Supplied geometry 0 rest) Safe answer.2.1 := by
  obtain ⟨short, reports⟩ := stocked.ring.good.reports accepted numbered narrow front
  have transmitter : Mac.Transmitter geometry (Supplied geometry 1 rest) SimulatedMac.side :=
    Supplied.transmitter named
  obtain ⟨⟨_, ring, log⟩, polled, sound, -, received, found, held⟩ :=
    (stocked.ring.of_device reports).polls transmitter.large short
  cases found
  have safe : SafePort (SlotRing.Transmitting geometry (Supplied geometry 1 rest)
      config.interface.softwareFraming) := (SlotRing.faithful_port transmitter _).safe
  have ready : OnGoodRing config geometry (Supplied geometry 1 rest) Safe
      { link with ring, stats.rxFrames := link.stats.rxFrames + 1 } :=
    ⟨stocked.configured, sound, stocked.registered⟩
  have carried : frame.length ≤ Udp.frameHeaders + longestDatagram geometry := by
    unfold longestDatagram
    omega
  obtain ⟨⟨frameClass, dispatched, handling⟩, dispatching, sound⟩ :=
    ready.dispatch_returns safe handler frame carried
  obtain ⟨released, releasing, ring, -⟩ := sound.ring.releases SimulatedMac.supplied_releases
  obtain ⟨serviced, handles⟩ := service_steps polled held dispatching releasing
  exact ⟨_, serviced, frameClass, rfl, ⟨dispatched, handles⟩, sound.configured, ring,
    sound.registered⟩

omit stocked [Udp.Handler Consumer] in
theorem stocked_of_supplied {pending : UInt32}
    (supplied : OnGoodRing config geometry (Supplied geometry pending known) Safe link) :
    Stocked config geometry Safe link :=
  ⟨supplied.configured, supplied.ring.of_device supplied.ring.good.waits.stocked,
    supplied.registered⟩

omit [Udp.Handler Consumer] in
theorem Stocked.without_report :
    Stocked config geometry Safe (SimulatedLink.mapDevice SimulatedMac.withoutReport link) := by
  obtain ⟨configured, ⟨divided, framing, slot, settled, wire, peer⟩, registered⟩ := stocked
  exact ⟨configured, ⟨divided, framing, slot, ⟨settled.divided, settled.whole, settled.next,
    .inl rfl⟩, wire, peer⟩, registered⟩

include named handler

theorem Stocked.service_returns (numbered : geometry.rxSlots ≤ 4294967296)
    (narrow : geometry.slotSize < 4294967296) :
    Returns link.service fun answer => Stocked config geometry Safe answer.2.1 := by
  by_cases refuses : link.ring.device.Refuses
  · apply (service_dropped stocked refuses).mono
    intro answer dropped
    rw [dropped.2]
    exact stocked.without_report
  · cases front : link.ring.device.waiting with
    | nil => exact ⟨_, service_silent stocked refuses front, stocked⟩
    | cons frame rest =>
        apply (stocked.service_handles named handler numbered narrow refuses front).mono
        intro answer kept
        obtain ⟨frameClass, -, -, supplied⟩ := kept
        exact stocked_of_supplied supplied

omit handler [Udp.Handler Consumer] in
theorem Stocked.fill_yields (offset : Nat) (patch : Bytes) :
    Yields (link.storePayload offset patch) (Stocked config geometry Safe) := by
  have transmitter : Mac.Transmitter geometry (SimulatedMac.Stocked geometry) SimulatedMac.side :=
    SimulatedMac.Stocked.transmitter named
  have safe : SafePort (SlotRing.Transmitting geometry (SimulatedMac.Stocked geometry)
      config.interface.softwareFraming) := (SlotRing.faithful_port transmitter _).safe
  by_cases inside : offset + patch.length ≤ Udp.payloadRoom config.interface
  · exact (stocked.store_payload_returns safe offset patch inside).yields
  · obtain ⟨area, found, length⟩ :=
      Udp.payload_area_returns safe stocked.placed link.ring stocked.ring
    have outside : ¬ offset + patch.length ≤ area.length := by
      rw [length, interface, stocked.configured]
      exact inside
    have refused : Udp.storePayload link.interface offset patch link.ring =
        .error .outsideBuffer := bind_known found (if_neg outside)
    unfold storePayload
    rw [refused]
    trivial

theorem Stocked.perform_yields (numbered : geometry.rxSlots ≤ 4294967296)
    (narrow : geometry.slotSize < 4294967296) (deed : Deed Consumer)
    (fair : deed.Fair geometry Safe) :
    Yields (deed.perform link) (Stocked config geometry Safe) := by
  have transmitter : Mac.Transmitter geometry (SimulatedMac.Stocked geometry) SimulatedMac.side :=
    SimulatedMac.Stocked.transmitter named
  have safe : SafePort (SlotRing.Transmitting geometry (SimulatedMac.Stocked geometry)
      config.interface.softwareFraming) := (SlotRing.faithful_port transmitter _).safe
  cases deed with
  | start =>
      have settled := stocked.ring.good.settled
      have starts := settled.starts stocked.ring.divided stocked.ring.framing
        stocked.ring.good.wire stocked.ring.good.peer
      have started := stocked.start_returns handler (starts.mono fun ring kept =>
        kept.1.of_device kept.1.good.stocked)
      exact (started.bind fun answer kept => Returns.ok kept).yields
  | service =>
      exact ((stocked.service_returns named handler numbered narrow).bind fun answer kept =>
        Returns.ok kept).yields
  | resolve ip =>
      have services : ∀ link : Link SimulatedMac Consumer, Stocked config geometry Safe link →
          Returns link.service fun answer => Stocked config geometry Safe answer.2.1 :=
        fun link stocked => stocked.service_returns named handler numbered narrow
      exact ((stocked.resolve_returns safe services ip).bind fun answer kept =>
        Returns.ok kept).yields
  | send sourcePort destinationPort length =>
      exact ((stocked.send_returns safe sourcePort destinationPort length).bind fun answer kept =>
        Returns.ok kept).yields
  | sendTo ip sourcePort destinationPort length =>
      exact ((stocked.send_to_returns safe ip sourcePort destinationPort length).bind
        fun answer kept => Returns.ok kept).yields
  | fill offset patch => exact stocked.fill_yields named offset patch
  | register port consumer =>
      refine Returns.yields (Returns.ok ⟨stocked.configured, stocked.ring, ?_⟩)
      rintro registered ⟨⟩
      exact fair
  | unregister =>
      refine Returns.yields (Returns.ok ⟨stocked.configured, stocked.ring, ?_⟩)
      rintro registered ⟨⟩
  | outside happening =>
      obtain ⟨configured, ⟨divided, framing, slot, good⟩, registered⟩ := stocked
      apply (good.changes happening fair).bind
      exact fun mac good => ⟨configured, ⟨divided, framing, slot, good⟩, registered⟩
  | report slot length =>
      obtain ⟨configured, ⟨divided, framing, free, settled, wire, peer⟩, registered⟩ := stocked
      exact ⟨configured, ⟨divided, framing, free, ⟨settled.divided, settled.whole, settled.next,
        .inr rfl⟩, wire, peer⟩, registered⟩

theorem Stocked.perform_all_yields (numbered : geometry.rxSlots ≤ 4294967296)
    (narrow : geometry.slotSize < 4294967296) (history : List (Deed Consumer))
    (fair : ∀ deed ∈ history, deed.Fair geometry Safe) :
    Yields (history.foldlM Deed.perform link) (Stocked config geometry Safe) := by
  induction history generalizing link with
  | nil => exact stocked
  | cons deed history induction =>
      obtain ⟨first, later⟩ := List.forall_mem_cons.mp fair
      rw [List.foldlM_cons]
      exact (stocked.perform_yields named handler numbered narrow deed first).bind
        fun next kept => induction kept later

end Deeds

variable (named : geometry.txSlots ≤ 4294967296) (handler : SafeConsumer config geometry Safe)
  (numbered : geometry.rxSlots ≤ 4294967296) (narrow : geometry.slotSize < 4294967296)

include named handler numbered narrow

theorem Lived.stocked {history : List (Deed Consumer)} (lived : Lived config geometry history link)
    (fair : ∀ deed ∈ history, deed.Fair geometry Safe) : Stocked config geometry Safe link := by
  obtain ⟨created, fresh, performed⟩ := lived
  have settled := Settled.of_create fresh
  have start : Stocked config geometry Safe created := by
    obtain ⟨-, rfl⟩ := Link.of_create fresh
    exact ⟨rfl, settled.up.of_device ⟨settled.up.good, List.forall_mem_nil _, trivial⟩,
      fun registered none => nomatch none⟩
  exact (start.perform_all_yields named handler numbered narrow history fair).of_ok performed

end Link

end InstrumentLink
