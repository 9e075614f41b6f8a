import InstrumentLink.Proofs.FrameHandling

/-!
What a link sends.

Whatever its device reports, a link only adds frames that are built here to what was sent. The
datagrams among them go to the peer that the link knows right afterwards: an operation that learns a
hardware address sends none.
-/

set_option autoImplicit false

namespace InstrumentLink

namespace Mac

/-- Accesses that are not about transmitting leave the transmit side of good devices as it is. -/
structure QuietReceiver {Hardware : Type} [Device Hardware] (Good : Hardware → Prop)
    (side : Hardware → TransmitSide) : Prop where
  read : ∀ register device, Good device →
    Yields (readRegister register device) fun answer =>
      Good answer.2 ∧ (side answer.2).sent = (side device).sent
  clears : Clears Good side

end Mac

namespace SlotRing

variable {Hardware : Type} [Mac.Device Hardware] {geometry : Mac.SlotGeometry}
  {Good : Hardware → Prop} {side : Hardware → Mac.TransmitSide} {framing : Bool}
  {ring : SlotRing Hardware}

def Keeps (geometry : Mac.SlotGeometry) (Good : Hardware → Prop)
    (side : Hardware → Mac.TransmitSide) (framing : Bool) (ring after : SlotRing Hardware) : Prop :=
  Transmitting geometry Good framing after ∧ (view side after).sent = (view side ring).sent

theorem Transmitting.acknowledge_keeps (quiet : Mac.QuietReceiver Good side)
    (sound : Transmitting geometry Good framing ring) :
    Yields ring.acknowledge (Keeps geometry Good side framing ring) := by
  unfold acknowledge
  apply (quiet.clears .writerEvent _ (.inl rfl) sound.good).yields.bind
  rintro after ⟨good, same⟩
  exact ⟨⟨sound.divided, sound.framing, sound.slot, good⟩, same⟩

theorem Transmitting.poll_receive_keeps (quiet : Mac.QuietReceiver Good side)
    (sound : Transmitting geometry Good framing ring) :
    Yields ring.pollReceive fun answer => Keeps geometry Good side framing ring answer.2.1 := by
  unfold pollReceive
  apply (quiet.read .writerEvent _ sound.good).bind
  rintro ⟨event, asked⟩ ⟨good, askedSame⟩
  dsimp only
  split
  · exact ⟨⟨sound.divided, sound.framing, sound.slot, good⟩, askedSame⟩
  · apply (quiet.read .writerSlot _ good).bind
    rintro ⟨slot, named⟩ ⟨good, namedSame⟩
    apply (quiet.read .writerLength _ good).bind
    rintro ⟨length, measured⟩ ⟨good, measuredSame⟩
    have polled : Transmitting geometry Good framing { ring with device := measured } :=
      ⟨sound.divided, sound.framing, sound.slot, good⟩
    have same : (side measured).sent = (side ring.device).sent :=
      measuredSame.trans (namedSame.trans askedSame)
    dsimp only
    split
    · exact ⟨polled, same⟩
    · apply (polled.acknowledge_keeps quiet).bind
      rintro after ⟨sound, keeps⟩
      exact ⟨sound, keeps.trans same⟩

end SlotRing

namespace Link

variable {Hardware Consumer : Type} {geometry : Mac.SlotGeometry} {Good : Hardware → Prop}
  {side : Hardware → Mac.TransmitSide} {link : Link Hardware Consumer}

/-- What a link became by sending nothing but frames that are built here, to the peer that it knows
now. -/
structure Transmits (geometry : Mac.SlotGeometry) (Good : Hardware → Prop)
    (side : Hardware → Mac.TransmitSide) (before after : Link Hardware Consumer) : Prop where
  configured : after.config = before.config
  adds : Adds before.config.interface after.cache
    (SlotRing.Transmitting geometry Good before.config.interface.softwareFraming)
    (SlotRing.view side) before.ring after.ring

theorem Transmits.of_keeps {after : Link Hardware Consumer}
    (configured : after.config = link.config)
    (keeps : SlotRing.Keeps geometry Good side link.config.interface.softwareFraming link.ring
      after.ring) :
    Transmits geometry Good side link after :=
  ⟨configured, .nothing keeps.1 keeps.2⟩

theorem Transmits.up {after : Link Hardware Consumer}
    (transmits : Transmits geometry Good side link after) : Up geometry Good after := by
  unfold Up
  rw [transmits.configured]
  exact transmits.adds.1

variable [Mac.Device Hardware] (transmitter : Mac.Transmitter geometry Good side)

include transmitter

theorem store_payload_transmits (up : Up geometry Good link) (offset : Nat) (patch : Bytes) :
    Yields (link.storePayload offset patch) (Transmits geometry Good side link) := by
  unfold storePayload
  apply (Udp.store_payload_keeps (SlotRing.faithful_port transmitter _) (placed_interface _) offset
    patch link.ring up).bind
  intro ring keeps
  exact .of_keeps rfl keeps

theorem send_transmits (up : Up geometry Good link) (sourcePort destinationPort : UInt16)
    (length : Nat) :
    Yields (link.send sourcePort destinationPort length) fun answer =>
      Transmits geometry Good side link answer.2.1 := by
  unfold send
  apply (Udp.Binding.send_adds (SlotRing.faithful_port transmitter _) (placed_interface _)
    sourcePort destinationPort length up).bind
  intro answer adds
  exact ⟨rfl, adds⟩

theorem send_to_transmits (up : Up geometry Good link) (ip : Ipv4Address)
    (sourcePort destinationPort : UInt16) (length : Nat) :
    Yields (link.sendTo ip sourcePort destinationPort length) fun answer =>
      Transmits geometry Good side link answer.2.1 := by
  unfold sendTo
  apply (Udp.Binding.send_to_adds (SlotRing.faithful_port transmitter _) (placed_interface _) ip
    sourcePort destinationPort length up).bind
  intro answer adds
  exact ⟨rfl, adds⟩

theorem ask_transmits (up : Up geometry Good link) (ip : Ipv4Address) :
    Yields (link.ask ip) fun answer => Transmits geometry Good side link answer.1 := by
  unfold ask Arp.sendRequest
  apply (Arp.emit_adds (SlotRing.faithful_port transmitter _) (placed_interface _) .request
    .broadcast ⟨.zero, ip⟩ up).yields.bind
  intro answer adds
  exact ⟨rfl, adds _⟩

variable [Udp.Handler Consumer]

theorem dispatch_transmits (up : Up geometry Good link) (slot : Bytes) :
    Yields (link.dispatch slot) fun answer => Transmits geometry Good side link answer.2.1 := by
  have faithful := SlotRing.faithful_port transmitter link.config.interface.softwareFraming
  have placed : link.binding.interface.Placed := placed_interface link.config
  have sound : SlotRing.Transmitting geometry Good link.config.interface.softwareFraming
      link.ring := up
  have dropped : Transmits geometry Good side link
      { link with stats := countDropped link.stats } := .of_keeps rfl ⟨up, rfl⟩
  apply dispatch_cases .yields
  case dropped => exact fun _ _ _ => dropped
  case arp =>
    intro frame _ _
    apply (Arp.handle_frame_adds faithful placed link.cache frame sound).mono
    exact fun _ adds => ⟨rfl, adds _⟩
  case ipv4 =>
    intro frame _ _
    apply (Ipv4.handle_frame_adds faithful placed link.registration frame sound).mono
    exact fun _ adds => ⟨rfl, adds⟩

variable (quiet : Mac.QuietReceiver Good side)

include quiet

theorem start_transmits (up : Up geometry Good link) :
    Yields link.start fun answer => Transmits geometry Good side link answer.1 := by
  unfold start
  apply (up.starts transmitter.toSender quiet.clears).yields.bind
  intro ring keeps
  exact .of_keeps rfl keeps

theorem service_transmits (up : Up geometry Good link) :
    Yields link.service fun answer => Transmits geometry Good side link answer.2.1 := by
  unfold service
  apply (up.poll_receive_keeps quiet).bind
  rintro ⟨received, ring, log⟩ ⟨sound, same⟩
  cases received with
  | none => exact .of_keeps rfl ⟨sound, same⟩
  | some received =>
      apply (Yields.intro _).bind
      intro slot _
      have polled : Up geometry Good
          { link with ring, stats.rxFrames := link.stats.rxFrames + 1 } := sound
      apply (dispatch_transmits transmitter polled slot).bind
      rintro ⟨frameClass, handled, log⟩ transmits
      apply (transmits.up.acknowledge_keeps quiet).bind
      rintro released ⟨released_sound, released_same⟩
      obtain ⟨configured, sound, frames, sent, built⟩ := transmits
      dsimp only at configured
      rw [configured] at released_sound
      refine ⟨configured, released_sound, frames, ?_, built⟩
      rw [released_same, sent]
      exact congrArg (· ++ frames) same

end Link

end InstrumentLink
