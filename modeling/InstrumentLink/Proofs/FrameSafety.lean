import InstrumentLink.Link
import InstrumentLink.Proofs.FrameWays
import InstrumentLink.Proofs.SafePort

/-!
Received frames are handled without a fault.

Whatever the octets of a frame are, what they say about themselves is only followed as far as there
are octets: a header is read where it is complete, a stated length is cut to what is present, and a
reply is built only if it fits a frame. That leaves the consumer of datagrams, which is asked to
keep to the payload area and not to stop the link by itself.
-/

set_option autoImplicit false

namespace InstrumentLink

variable {Port : Type} [TransmitPort Port] {Sound : Port → Prop}

theorem Arp.send_returns (safe : SafePort Sound) {interface : Interface}
    (placed : interface.Placed) (operation : Operation) (destination : MacAddress)
    (target : Station) (port : Port) (sound : Sound port) :
    Returns (emit interface operation destination target port)
      fun answer => Sound answer.2.1 := by
  have shortest := placed.minimum_length_le
  have longest := interface.frame_end_le
  obtain ⟨slot, contents, room⟩ := safe.contents port sound
  rw [emit_eq interface operation destination target contents (by omega)]
  apply Interface.send_frame_returns safe placed _ port sound
  have offset := placed.offset_le
  rw [length_frame]
  simp only [Ethernet.preambleLength, Ethernet.headerLength, bodyLength, Ethernet.maximumLength]
    at offset ⊢
  omega

theorem Arp.handle_frame_returns (safe : SafePort Sound) {interface : Interface}
    (placed : interface.Placed) (cache : PeerCache) (frame : Bytes) (port : Port)
    (sound : Sound port) :
    Returns (handleFrame interface cache frame port) fun answer => Sound answer.2.2.1 := by
  apply handle_frame_cases .returns
  case malformed => exact fun _ _ => sound
  case ignored => exact fun _ _ _ => sound
  case learned => exact fun _ _ _ _ => sound
  case answered => exact fun _ _ _ => send_returns safe placed _ _ _ port sound

theorem Icmp.Answerable.emit_returns (safe : SafePort Sound) {interface : Interface}
    (placed : interface.Placed) {frame : Bytes} (answerable : Answerable interface frame)
    (port : Port) (sound : Sound port) :
    Returns (interface.emit (frameHeaders + (replyIn frame).payload.length)
      ((replyIn frame).buildFrame interface) port) fun answer => Sound answer.2.1 := by
  have fits := answerable.reply_fits
  have longest := interface.frame_end_le
  obtain ⟨slot, contents, room⟩ := safe.contents port sound
  rw [(replyIn frame).emit_eq interface contents (by omega)]
  exact Interface.send_frame_returns safe placed _ port sound (by omega)

/-- The consumers that fulfil `Safe` do not stop the link: on a datagram of so many octets at most
they keep to a payload area of so many octets, and come to a state that fulfils it too. -/
structure Udp.SafeHandler {Consumer : Type} [Handler Consumer] (room longest : Nat)
    (Safe : Consumer → Prop) : Prop where
  on_datagram : ∀ (datagram : Datagram) (consumer : Consumer), Safe consumer →
    datagram.payload.length ≤ longest →
      (Handler.onDatagram datagram consumer).Ends room fun result => Returns result Safe
  reset : ∀ consumer : Consumer, Safe consumer → Safe (Handler.reset consumer)

variable {Consumer : Type} [Udp.Handler Consumer] {Safe : Consumer → Prop}

def Udp.SafelyRegistered (Safe : Consumer → Prop) (registration : Option (Registration Consumer)) :
    Prop :=
  ∀ registered ∈ registration, Safe registered.consumer

theorem Ipv4.handle_frame_returns (safe : SafePort Sound) (binding : Udp.Binding)
    (placed : binding.interface.Placed) {longest : Nat}
    (handler : Udp.SafeHandler (Udp.payloadRoom binding.interface) longest Safe)
    (registration : Option (Udp.Registration Consumer))
    (registered : Udp.SafelyRegistered Safe registration) (frame : Bytes) (port : Port)
    (sound : Sound port) (short : frame.length ≤ Udp.frameHeaders + longest) :
    Returns (handleFrame binding registration frame port) fun answer =>
      Udp.SafelyRegistered Safe answer.2.1 ∧ Sound answer.2.2.1 := by
  apply handle_frame_cases .returns
  case other => exact fun _ _ _ => ⟨registered, sound⟩
  case ignored => exact fun _ _ _ _ => ⟨registered, sound⟩
  case echoed =>
    intro answerable
    exact (answerable.emit_returns safe placed port sound).mono fun _ sound => ⟨registered, sound⟩
  case delivered =>
    rintro held rfl reaches
    have length := Udp.length_payload_le reaches.plain.long
    have ends := handler.on_datagram (Udp.datagramIn frame) held.consumer (registered held rfl)
      (by omega)
    apply (Udp.Reaction.run_ended safe placed _ port sound ends).returns.mono
    rintro answer ⟨kept, sound⟩
    refine ⟨?_, sound⟩
    rintro later ⟨⟩
    exact kept

end InstrumentLink
