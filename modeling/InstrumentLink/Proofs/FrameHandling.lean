import InstrumentLink.Proofs.BuiltFrames
import InstrumentLink.Proofs.LinkSafety

/-!
What a link makes of the frames of another link.

A question for its address is answered, the answer to its own question is learned, and a datagram
for the registered port reaches the consumer with the payload that was sent. A device that has such
a frame to report is polled, the frame is taken out of its slot and handled, and the slot is given
back.
-/

set_option autoImplicit false

namespace InstrumentLink

namespace Arp

variable {Port : Type} [TransmitPort Port] {Sound : Port → Prop} {view : Port → PortView}
  {interface : Interface}

theorem length_padded (frame : Bytes) :
    ¬(Bytes.padTo Ethernet.minimumLength frame).length < Ethernet.minimumLength := by
  have long := Bytes.length_pad_to Ethernet.minimumLength frame
  omega

theorem pad_frame (interface : Interface) (operation : Operation) (destination : MacAddress)
    (target : Station) :
    ∃ count, Bytes.padTo Ethernet.minimumLength (frame interface operation destination target) =
      Ethernet.header destination interface.mac Ethernet.typeArp ++
        (body operation interface.station target ++ Bytes.zeros count) :=
  ⟨_, List.append_assoc _ _ _⟩

theorem classify_frame (interface : Interface) (operation : Operation) (destination : MacAddress)
    (target : Station) :
    Ethernet.classify (Bytes.padTo Ethernet.minimumLength
      (frame interface operation destination target)) = .arp := by
  obtain ⟨count, same⟩ := pad_frame interface operation destination target
  simp [same, Ethernet.classify]

theorem handle_request (faithful : FramingPort interface Sound view) (placed : interface.Placed)
    (prompt : PromptPort Sound interface) (cache : PeerCache) (asker : Interface) (port : Port)
    (sound : Sound port) :
    Returns (handleFrame interface cache
        (Bytes.padTo Ethernet.minimumLength (requestFrame asker interface.ip)) port) fun answer =>
      answer.2.1 = cache ∧ Sound answer.2.2.1 ∧ (view answer.2.2.1).sent = (view port).sent ++
        [interface.onWire (replyFrame interface asker.station)] := by
  have long := length_padded (requestFrame asker interface.ip)
  obtain ⟨count, same⟩ := pad_frame asker .request .broadcast ⟨.zero, interface.ip⟩
  unfold handleFrame
  rw [if_neg long, requestFrame, same, Ethernet.payload_header]
  obtain ⟨answer, sending, sound, sent⟩ :=
    emit_puts_on_wire faithful prompt placed .reply asker.mac asker.station sound
  refine ⟨(.answered asker.ip, cache, answer.2.1, answer.2.2), ?_, rfl, sound, sent⟩
  simp [sender_mac_body, sender_ip_body, target_ip_body, bind, Except.bind, pure, Except.pure,
    Operation.code]
  exact bind_known sending rfl

theorem handle_reply (cache : PeerCache) (answerer : Interface) (asker : Station) (port : Port)
    (asked : answerer.ip = cache.ip) :
    handleFrame interface cache
        (Bytes.padTo Ethernet.minimumLength (replyFrame answerer asker)) port =
      .ok (.learned answerer.mac, { cache with mac := answerer.mac }, port,
        [.arpLearned answerer.ip answerer.mac]) := by
  have long := length_padded (replyFrame answerer asker)
  obtain ⟨count, same⟩ := pad_frame answerer .reply asker.mac asker
  unfold handleFrame
  rw [if_neg long, replyFrame, same]
  simp [sender_mac_body, sender_ip_body, target_ip_body, bind, Except.bind, pure, Except.pure,
    Interface.station, asked]

end Arp

namespace Udp

theorem classify_frame (interface : Interface) (peer : Arp.Station)
    (sourcePort destinationPort : UInt16) (payload : Bytes) :
    Ethernet.classify (Bytes.padTo Ethernet.minimumLength
      (frame interface peer sourcePort destinationPort payload)) = .ipv4 := by
  have other : Ethernet.typeIpv4 ≠ Ethernet.typeArp := by decide
  simp [Bytes.padTo, frame_append, Ethernet.classify, other]

structure Watched (Consumer : Type) where
  consumer : Consumer
  datagrams : List Datagram := []

variable {Consumer : Type} [Handler Consumer]

instance : Handler (Watched Consumer) where
  onDatagram datagram watched :=
    (fun consumer => { consumer, datagrams := watched.datagrams ++ [datagram] }) <$>
      Handler.onDatagram datagram watched.consumer
  reset watched := { watched with consumer := Handler.reset watched.consumer }

theorem Copes.watched {room : Nat} {watched : Watched Consumer} {datagram : Datagram}
    (copes : Copes room watched.consumer datagram) :
    (Handler.onDatagram datagram watched).Ends room fun result => Returns result fun after =>
      after.datagrams = watched.datagrams ++ [datagram] := by
  apply Reaction.Ends.and_then _ copes
  · rintro consumer -
    exact Returns.ok rfl
  · rintro fault ⟨after, same, -⟩
    cases same

end Udp

namespace Ipv4

variable {Port Consumer : Type} [TransmitPort Port] [Udp.Handler Consumer] {Sound : Port → Prop}

theorem handle_datagram (safe : SafePort Sound) (binding : Udp.Binding)
    (placed : binding.interface.Placed) (destinationPort : UInt16)
    (watched : Udp.Watched Consumer) (sender : Interface) (receiver : Arp.Station)
    (addressed : receiver.ip = binding.interface.ip) (sourcePort : UInt16) (payload : Bytes)
    (copes : Udp.Copes (Udp.payloadRoom binding.interface) watched.consumer
      ⟨sender.ip, sourcePort, destinationPort, payload⟩)
    (small : Udp.frameHeaders + payload.length < 65536) (port : Port) (sound : Sound port) :
    Returns (handleFrame binding (some ⟨destinationPort, watched⟩)
        (Bytes.padTo Ethernet.minimumLength
          (Udp.frame sender receiver sourcePort destinationPort payload)) port) fun answer =>
      answer.1 = .delivered ∧ Sound answer.2.2.1 ∧
        ∃ after, answer.2.1 = some ⟨destinationPort, after⟩ ∧
          after.datagrams = watched.datagrams ++
            [⟨sender.ip, sourcePort, destinationPort, payload⟩] := by
  have long := Bytes.length_pad_to Ethernet.minimumLength
    (Udp.frame sender receiver sourcePort destinationPort payload)
  have headers : Udp.frameHeaders = 42 := rfl
  have minimum : Ethernet.minimumLength = 60 := rfl
  simp only [Udp.frameHeaders] at small
  unfold handleFrame
  rw [if_neg (by omega), Bytes.padTo, Udp.frame_append]
  apply Returns.bind_ok (Ethernet.payload_header _ _ _ _)
  rw [check_header]
  apply Returns.bind_ok (protocol_header _ _ .udp _ _)
  change Returns (deliver binding (some ⟨destinationPort, watched⟩) _ port) _
  unfold deliver
  apply Returns.bind_ok (datagram_for_packet sender binding.interface receiver sourcePort
    destinationPort payload _ addressed.symm (by omega))
  apply (Udp.Reaction.run_ended safe placed _ port sound copes.watched).returns.bind
  rintro ⟨after, port, log⟩ ⟨noted, sound⟩
  exact Returns.ok ⟨rfl, sound, after, rfl, noted⟩

end Ipv4

namespace Mac

variable {Hardware : Type} [Device Hardware]

/-- A device that reports a frame when it is polled, holds it in a slot, and leaves its transmit
side as it is. -/
def Reports (geometry : SlotGeometry) (Holding : Hardware → Prop) (side : Hardware → TransmitSide)
    (frame : Bytes) (device : Hardware) : Prop :=
  Returns (readRegister .writerEvent device) fun reported => reported.1 &&& eventBit ≠ 0 ∧
    Returns (readRegister .writerSlot reported.2) fun named => named.1.toNat < geometry.rxSlots ∧
      Returns (readRegister .writerLength named.2) fun measured =>
        measured.1.toNat = frame.length ∧ Holding measured.2 ∧
          (side measured.2).sent = (side device).sent ∧
          ((memory measured.2).drop (geometry.rxStart named.1.toNat)).take frame.length = frame

def Silent (Idle : Hardware → Prop) (side : Hardware → TransmitSide) (device : Hardware) : Prop :=
  Returns (readRegister .writerEvent device) fun asked =>
    asked.1 &&& eventBit = 0 ∧ Idle asked.2 ∧ (side asked.2).sent = (side device).sent

/-- A device that is ready for the next frame once its report is taken. -/
def Releases (Holding Idle : Hardware → Prop) (side : Hardware → TransmitSide) : Prop :=
  ∀ device, Holding device → Returns (writeRegister .writerEvent eventBit device) fun after =>
    Idle after ∧ (side after).sent = (side device).sent

class Medium (Hardware : Type) [Device Hardware] where
  sent : Hardware → List Bytes
  deliver : Bytes → Hardware → Hardware

/-- A MAC that transmits what it is asked to, and reports a frame that arrives while nothing is
pending. -/
structure Conveys [Medium Hardware] (geometry : SlotGeometry) (Idle Holding : Hardware → Prop)
    (side : Hardware → TransmitSide) : Prop where
  idle : Transmitter geometry Idle side
  holding : Transmitter geometry Holding side
  clears : Clears Idle side
  releases : Releases Holding Idle side
  sent : ∀ device, (side device).sent = Medium.sent device
  delivered : ∀ frame (device : Hardware),
    Medium.sent (Medium.deliver frame device) = Medium.sent device
  reports : ∀ frame device, Idle device → frame.length ≤ Ethernet.maximumLength →
    Reports geometry Holding side frame (Medium.deliver frame device)

end Mac

namespace SlotRing

variable {Hardware : Type} [Mac.Device Hardware] {geometry : Mac.SlotGeometry}
  {Holding Idle : Hardware → Prop} {side : Hardware → Mac.TransmitSide} {framing : Bool}
  {ring : SlotRing Hardware}

theorem Transmitting.polls
    (whole : ∀ device, Holding device → (Mac.memory device).length = geometry.length)
    {frame : Bytes}
    (sound : Transmitting geometry (Mac.Reports geometry Holding side frame) framing ring)
    (fits : frame.length ≤ geometry.slotSize) :
    Returns ring.pollReceive fun answer => Transmitting geometry Holding framing answer.2.1 ∧
      (view side answer.2.1).sent = (view side ring).sent ∧
      ∃ received, answer.1 = some received ∧ answer.2.1.receivedFrame received = .ok frame := by
  obtain ⟨⟨event, asked⟩, reading, pending, ⟨slot, named⟩, naming, inside, ⟨length, measured⟩,
    measuring, octets, good, same, held⟩ := sound.good
  unfold pollReceive
  apply Returns.bind_ok reading
  dsimp only at pending ⊢
  rw [if_neg pending]
  apply Returns.bind_ok naming
  apply Returns.bind_ok measuring
  dsimp only at inside octets held same ⊢
  rw [octets, sound.divided, if_pos ⟨inside, fits⟩]
  refine Returns.ok ⟨⟨rfl, sound.framing, sound.slot, good⟩, same, _, rfl, ?_⟩
  have room := geometry.rx_slot_inside slot.toNat inside
  rw [← whole measured good] at room
  unfold receivedFrame
  dsimp only
  rw [if_pos ⟨inside, fits⟩, Bytes.slice_inside _ _ _ (Nat.le_add_right _ _) (by omega),
    Nat.add_sub_cancel_left, held]

theorem Transmitting.polls_silence
    (sound : Transmitting geometry (Mac.Silent Idle side) framing ring) :
    Returns ring.pollReceive fun answer => Transmitting geometry Idle framing answer.2.1 ∧
      (view side answer.2.1).sent = (view side ring).sent ∧ answer.1 = none := by
  obtain ⟨⟨event, asked⟩, reading, clear, idle, same⟩ := sound.good
  unfold pollReceive
  apply Returns.bind_ok reading
  dsimp only at clear ⊢
  rw [if_pos clear]
  exact Returns.ok ⟨⟨sound.divided, sound.framing, sound.slot, idle⟩, same, rfl⟩

theorem Transmitting.releases (releases : Mac.Releases Holding Idle side)
    (sound : Transmitting geometry Holding framing ring) :
    Returns ring.acknowledge fun after => Transmitting geometry Idle framing after ∧
      (view side after).sent = (view side ring).sent := by
  unfold acknowledge
  apply (releases ring.device sound.good).bind
  rintro after ⟨good, same⟩
  exact Returns.ok ⟨⟨sound.divided, sound.framing, sound.slot, good⟩, same⟩

end SlotRing

namespace Link

variable {Hardware Consumer : Type}

structure Outline (Consumer : Type) where
  config : LinkConfig
  cache : Arp.PeerCache
  registration : Option (Udp.Registration Consumer)
  /-- The frames sent, in order. -/
  sent : List Bytes

def outline (side : Hardware → Mac.TransmitSide) (link : Link Hardware Consumer) :
    Outline Consumer :=
  ⟨link.config, link.cache, link.registration, (side link.ring.device).sent⟩

variable [Mac.Device Hardware] [Udp.Handler Consumer] {geometry : Mac.SlotGeometry}
  {Holding Idle : Hardware → Prop} {side : Hardware → Mac.TransmitSide}
  {link : Link Hardware Consumer}

abbrev Up (geometry : Mac.SlotGeometry) (Good : Hardware → Prop) (link : Link Hardware Consumer) :
    Prop :=
  SlotRing.Transmitting geometry Good link.config.interface.softwareFraming link.ring

def sendPayload (sourcePort destinationPort : UInt16) (payload : Bytes)
    (link : Link Hardware Consumer) : Except Fault (Bool × Link Hardware Consumer × Log) := do
  (← link.storePayload 0 payload).send sourcePort destinationPort payload.length

def sendPayloadTo (ip : Ipv4Address) (sourcePort destinationPort : UInt16) (payload : Bytes)
    (link : Link Hardware Consumer) : Except Fault (Bool × Link Hardware Consumer × Log) := do
  (← link.storePayload 0 payload).sendTo ip sourcePort destinationPort payload.length

/-- A link was created on a device, with a consumer or without one, and started. -/
def Started (device : Hardware) (geometry : Mac.SlotGeometry) (config : LinkConfig)
    (registration : Option (Udp.Registration Consumer)) (link : Link Hardware Consumer) : Prop :=
  ∃ (created : Link Hardware Consumer) (log : Log),
    Link.create device geometry config = .ok created ∧
      { created with registration }.start = .ok (link, log)

theorem Started.up {Good : Hardware → Prop} (transmitter : Mac.Transmitter geometry Good side)
    (clears : Mac.Clears Good side) {device : Hardware} (good : Good device) {config : LinkConfig}
    {registration : Option (Udp.Registration Consumer)}
    (started : Started device geometry config registration link) :
    Up geometry Good link ∧ config.validate = .ok () ∧ link.outline side =
      ⟨config, {}, registration.map fun registered =>
        { registered with consumer := Udp.Handler.reset registered.consumer },
        (side device).sent⟩ := by
  obtain ⟨created, log, creating, starting⟩ := started
  obtain ⟨accepted, rfl⟩ := of_create creating
  have sound : SlotRing.Transmitting geometry Good config.interface.softwareFraming
      { device, geometry, softwareFrameCheck := !config.hardwareFraming } :=
    ⟨rfl, config.software_framing_eq.symm, geometry.has_tx_slot, good⟩
  obtain ⟨ring, ringStarts, sound, sent⟩ := sound.starts transmitter.toSender clears
  unfold start at starting
  dsimp only at starting
  rw [ringStarts] at starting
  cases starting
  exact ⟨sound, accepted, congrArg (Outline.mk _ _ _) sent⟩

/-- A frame that the device reports is handled, and its slot given back. -/
theorem service_handles (transmitter : Mac.Transmitter geometry Holding side)
    (releases : Mac.Releases Holding Idle side) {frame : Bytes}
    (up : Up geometry (Mac.Reports geometry Holding side frame) link)
    (short : frame.length ≤ Ethernet.maximumLength)
    (good : Ethernet.FrameClass → Outline Consumer → Prop)
    (dispatches : ∀ polled : Link Hardware Consumer, Up geometry Holding polled →
      polled.outline side = link.outline side → Returns (polled.dispatch frame) fun answer =>
        Up geometry Holding answer.2.1 ∧ good answer.1 (answer.2.1.outline side)) :
    Returns link.service fun answer => Up geometry Idle answer.2.1 ∧
      ∃ frameClass, answer.1 = some frameClass ∧ good frameClass (answer.2.1.outline side) := by
  unfold service
  apply (up.polls transmitter.large (Nat.le_trans short geometry.holds_frame)).bind
  rintro ⟨received, ring, log⟩ ⟨sound, sent, received, rfl, taken⟩
  apply Returns.bind_ok taken
  have same : outline side { link with ring, stats.rxFrames := link.stats.rxFrames + 1 } =
      link.outline side :=
    congrArg (Outline.mk _ _ _) sent
  apply (dispatches { link with ring, stats.rxFrames := link.stats.rxFrames + 1 } sound same).bind
  rintro ⟨frameClass, handled, log⟩ ⟨up, holds⟩
  apply (up.releases releases).bind
  rintro ring ⟨sound, sent⟩
  have same : outline side { handled with ring } = handled.outline side :=
    congrArg (Outline.mk _ _ _) sent
  refine Returns.ok ⟨sound, frameClass, rfl, ?_⟩
  rw [same]
  exact holds

theorem unframe_from (receiver sender : Interface) (frame : Bytes)
    (framing : sender.softwareFraming = receiver.softwareFraming) :
    unframe receiver (sender.onWire frame) =
      .ok (.ok (Bytes.padTo Ethernet.minimumLength frame)) := by
  rw [← sender.unframe_on_wire frame]
  unfold unframe
  rw [framing]

theorem dispatch_reply (up : Up geometry Holding link) (answerer : Interface) (asker : Arp.Station)
    (framing : answerer.softwareFraming = link.interface.softwareFraming)
    (asked : answerer.ip = link.cache.ip) :
    Returns (link.dispatch (answerer.onWire (Arp.replyFrame answerer asker))) fun answer =>
      Up geometry Holding answer.2.1 ∧ answer.1 = .arp ∧ answer.2.1.outline side =
        { link.outline side with cache := ⟨answerer.ip, answerer.mac⟩ } := by
  unfold dispatch
  apply Returns.bind_ok (unframe_from _ answerer _ framing)
  dsimp only
  rw [Arp.replyFrame, Arp.classify_frame]
  apply Returns.bind_ok (Arp.handle_reply link.cache answerer asker link.ring asked)
  refine Returns.ok ⟨up, rfl, ?_⟩
  rw [asked]
  rfl

variable (transmitter : Mac.Transmitter geometry Holding side)

include transmitter

theorem dispatch_request (up : Up geometry Holding link) (asker : Interface)
    (framing : asker.softwareFraming = link.interface.softwareFraming) :
    Returns (link.dispatch (asker.onWire (Arp.requestFrame asker link.config.ip))) fun answer =>
      Up geometry Holding answer.2.1 ∧ answer.1 = .arp ∧
        answer.2.1.outline side = { link.outline side with
          sent := (link.outline side).sent ++
            [link.interface.onWire (Arp.replyFrame link.interface asker.station)] } := by
  have prompt : PromptPort (SlotRing.Transmitting geometry Holding
      link.interface.softwareFraming) link.interface :=
    SlotRing.prompt_port transmitter link.interface
  unfold dispatch
  apply Returns.bind_ok (unframe_from _ asker _ framing)
  dsimp only
  rw [Arp.requestFrame, Arp.classify_frame]
  apply (Arp.handle_request (SlotRing.faithful_port transmitter _) (placed_interface _) prompt
    link.cache asker link.ring up).bind
  rintro ⟨outcome, cache, ring, log⟩ ⟨rfl, sound, sent⟩
  exact Returns.ok ⟨sound, rfl, congrArg (Outline.mk _ _ _) sent⟩

theorem dispatch_datagram {link : Link Hardware (Udp.Watched Consumer)}
    (up : Up geometry Holding link) {port : UInt16} {watched : Udp.Watched Consumer}
    (registered : link.registration = some ⟨port, watched⟩) (sender : Interface)
    (framing : sender.softwareFraming = link.interface.softwareFraming)
    (receiver : Arp.Station) (addressed : receiver.ip = link.config.ip) (sourcePort : UInt16)
    (payload : Bytes) (fits : Udp.frameHeaders + payload.length ≤ Ethernet.maximumLength)
    (copes : Udp.Copes (Udp.payloadRoom link.interface) watched.consumer
      ⟨sender.ip, sourcePort, port, payload⟩) :
    Returns (link.dispatch (sender.onWire
        (Udp.frame sender receiver sourcePort port payload))) fun answer =>
      Up geometry Holding answer.2.1 ∧ answer.1 = .ipv4 ∧
        ∃ after, answer.2.1.registration = some ⟨port, after⟩ ∧
          after.datagrams = watched.datagrams ++ [⟨sender.ip, sourcePort, port, payload⟩] := by
  have longest : Ethernet.maximumLength = 1532 := rfl
  unfold dispatch
  apply Returns.bind_ok (unframe_from _ sender _ framing)
  dsimp only
  rw [Udp.classify_frame, registered]
  apply (Ipv4.handle_datagram (SlotRing.faithful_port transmitter _).safe link.binding
    (placed_interface _) port watched sender receiver addressed sourcePort payload copes (by omega)
    link.ring up).bind
  rintro ⟨dispatch, registration, ring, log⟩ ⟨rfl, sound, after, rfl, noted⟩
  exact Returns.ok ⟨sound, rfl, after, rfl, noted⟩

omit [Udp.Handler Consumer] in
theorem ask_sends (up : Up geometry Holding link) (ip : Ipv4Address) :
    Returns (link.ask ip) fun answer => Up geometry Holding answer.1 ∧
      answer.1.outline side = { link.outline side with
        sent := (link.outline side).sent ++
          [link.interface.onWire (Arp.requestFrame link.interface ip)] } := by
  have faithful := SlotRing.faithful_port transmitter link.interface.softwareFraming
  have prompt := SlotRing.prompt_port transmitter link.interface
  have placed : link.interface.Placed := placed_interface link.config
  unfold ask Arp.sendRequest
  apply (Arp.emit_puts_on_wire faithful prompt placed _ _ _ up).bind
  rintro ⟨asked, ring, log⟩ ⟨sound, sent⟩
  exact Returns.ok ⟨sound, congrArg (Outline.mk _ _ _) sent⟩

omit [Udp.Handler Consumer] in
theorem send_payload_sends (up : Up geometry Holding link) (resolved : link.cache.isResolved)
    (sourcePort destinationPort : UInt16) (payload : Bytes)
    (fits : payload.length ≤ Udp.payloadRoom link.interface) :
    Returns (link.sendPayload sourcePort destinationPort payload) fun answer => answer.1 = true ∧
      Up geometry Holding answer.2.1 ∧ answer.2.1.outline side = { link.outline side with
        sent := (link.outline side).sent ++ [link.interface.onWire
          (Udp.frame link.interface link.cache.station sourcePort destinationPort payload)] } := by
  have faithful := SlotRing.faithful_port transmitter link.interface.softwareFraming
  have prompt := SlotRing.prompt_port transmitter link.interface
  have placed : link.interface.Placed := placed_interface link.config
  obtain ⟨ring, stores, sound, sent, handed⟩ :=
    Udp.handed_in_stored faithful placed payload link.ring up fits
  obtain ⟨⟨sending, after, log⟩, sends, sound, frames, yes⟩ := link.binding.send_sends faithful
    placed sourcePort destinationPort payload.length ring sound none
  have yes : sending = true := yes prompt resolved fits
  subst yes
  have onWire : (SlotRing.view side after).sent = (SlotRing.view side link.ring).sent ++
      [link.interface.onWire
        (Udp.frame link.interface link.cache.station sourcePort destinationPort payload)] := by
    rw [frames, sent]
    change _ ++ Udp.Attempt.frames _ _ ⟨_, _, _, Udp.handedIn link.interface _ _, _⟩ = _
    rw [handed, ← Interface.finish_laid]
    rfl
  refine ⟨(true, { link with ring := after }, log), ?_, rfl, sound,
    congrArg (Outline.mk _ _ _) onWire⟩
  unfold sendPayload Link.storePayload
  rw [stores]
  change (link.binding.send sourcePort destinationPort payload.length ring >>= _) = _
  rw [sends]
  rfl

end Link

end InstrumentLink
