import InstrumentLink.Proofs.FrameHandling
import InstrumentLink.Simulation.Wire

/-!
Which frames reach the consumer of datagrams.

A datagram is looked at in four layers with three lengths that may contradict each other: that of
the frame, the total length of the packet and the length of the segment. Together they come to one
condition on the octets of the frame. A frame that fulfils it makes its consumer react once, to what
stands at fixed places of the frame, and any other frame leaves consumer and port as they are,
unless it is answered as an ICMP message, which does not ask the consumer.
-/

set_option autoImplicit false

namespace InstrumentLink

namespace Udp

variable {Consumer : Type}

def givenTo (registration : Option (Registration (Watched Consumer))) : List Datagram :=
  registration.elim [] fun registered => registered.consumer.datagrams

theorem Watched.run_given {Port : Type} [TransmitPort Port] [Handler Consumer] (binding : Binding)
    (datagram : Datagram) (watched : Watched Consumer) (port : Port) :
    Yields ((Handler.onDatagram datagram watched).run binding port) fun answer =>
      answer.1.datagrams = watched.datagrams ++ [datagram] := by
  change Yields (Reaction.run binding (Reaction.andThen _ _) port) _
  rw [Reaction.run_and_then]
  apply (Yields.intro _).bind
  intro first _
  exact Yields.ok rfl

end Udp

namespace Ipv4

variable {Port Consumer : Type} [TransmitPort Port] [Udp.Handler Consumer] (binding : Udp.Binding)
  (port : Port)

/-- Whatever a frame comes to, it was delivered if it is for the consumer, which was then given the
datagram in it and nothing else. -/
theorem handle_frame_gives (frame : Bytes)
    (registration : Option (Udp.Registration (Udp.Watched Consumer))) :
    Yields (handleFrame binding registration frame port) fun answer =>
      (answer.1 = .delivered ↔ Udp.ForConsumer binding.interface.ip registration frame) ∧
      (Udp.ForConsumer binding.interface.ip registration frame →
        Udp.givenTo answer.2.1 = Udp.givenTo registration ++ [Udp.datagramIn frame]) ∧
      (¬Udp.ForConsumer binding.interface.ip registration frame → answer.2.1 = registration) := by
  have left (missed : ¬Udp.ForConsumer binding.interface.ip registration frame)
      {dispatch : Dispatch} (other : dispatch ≠ .delivered) :
      (dispatch = .delivered ↔ Udp.ForConsumer binding.interface.ip registration frame) ∧
      (Udp.ForConsumer binding.interface.ip registration frame →
        Udp.givenTo registration = Udp.givenTo registration ++ [Udp.datagramIn frame]) ∧
      (¬Udp.ForConsumer binding.interface.ip registration frame → registration = registration) :=
    ⟨iff_of_false other missed, fun meant => (missed meant).elim, fun _ => rfl⟩
  apply handle_frame_cases .yields
  case other => exact fun _ _ missed => left missed (by simp)
  case ignored => exact fun _ _ carries _ => left (Udp.icmp_not_for_consumer carries) (by simp)
  case echoed =>
    intro answerable
    exact (Yields.intro _).mono fun _ _ =>
      left (Udp.icmp_not_for_consumer answerable.carries) (by simp)
  case delivered =>
    rintro registered rfl reaches
    have meant : Udp.ForConsumer binding.interface.ip (some registered) frame :=
      ⟨registered, rfl, reaches⟩
    apply (registered.consumer.run_given binding (Udp.datagramIn frame) port).mono
    intro answer given
    exact ⟨iff_of_true rfl meant, fun _ => given, fun missed => (missed meant).elim⟩

/-- For every binding, frame and port: a frame for the consumer makes it react once, to the datagram
that stands in the frame; the consumer hears of no other frame; and a frame that is neither for the
consumer nor an ICMP message changes nothing and sends nothing. -/
theorem delivery_is_exact (frame : Bytes) :
    (∀ registered : Udp.Registration Consumer,
      Udp.Reaches binding.interface.ip registered.port frame →
        handleFrame binding (some registered) frame port = do
          let (consumer, port, log) ←
            (Udp.Handler.onDatagram (Udp.datagramIn frame) registered.consumer).run binding port
          return (.delivered, some { registered with consumer }, port, log)) ∧
    (∀ registration : Option (Udp.Registration (Udp.Watched Consumer)),
      Yields (handleFrame binding registration frame port) fun answer =>
        (answer.1 = .delivered ↔ Udp.ForConsumer binding.interface.ip registration frame) ∧
        (Udp.ForConsumer binding.interface.ip registration frame →
          Udp.givenTo answer.2.1 = Udp.givenTo registration ++ [Udp.datagramIn frame]) ∧
        (¬Udp.ForConsumer binding.interface.ip registration frame →
          answer.2.1 = registration)) ∧
    ∀ registration : Option (Udp.Registration Consumer),
      ¬Udp.ForConsumer binding.interface.ip registration frame →
        ¬(Plain frame ∧ frame.getD 23 0 = 0x01) →
          ∃ log, handleFrame binding registration frame port =
            .ok (.notMine, registration, port, log) :=
  ⟨fun _ => handle_frame_reaching binding port, handle_frame_gives binding port frame,
    fun _ => handle_frame_not_mine binding port⟩

/-- The packet says that it ends before the payload, the segment that it goes on behind the frame;
the consumer gets what is there. On another port nobody listens. -/
theorem contradictory_datagram_delivered :
    let host : Udp.Socket := ⟨Simulation.Wire.hostIp, 40000⟩
    let binding : Udp.Binding := ⟨({} : LinkConfig).interface, {}⟩
    let frame : Bytes :=
      Ethernet.header Simulation.Wire.deviceMac Simulation.Wire.hostMac Ethernet.typeIpv4 ++
        Ipv4.header host.ip Simulation.Wire.deviceIp .udp 28 ++
        Udp.headerWith 0 host.port 1234 900 ++ [1, 2, 3]
    let listener (port : UInt16) : Udp.Registration (Udp.Watched Simulation.Consumer) :=
      ⟨port, { consumer := .listener { manner := .note } }⟩
    (Returns (handleFrame binding (some (listener 1234)) frame ({} : Simulation.Sink))
      fun answer => answer.1 = .delivered ∧
        Udp.givenTo answer.2.1 = [⟨host.ip, host.port, 1234, [1, 2, 3]⟩]) ∧
    ∃ log, handleFrame binding (some (listener 4321)) frame ({} : Simulation.Sink) =
      .ok (.notMine, some (listener 4321), {}, log) := by
  intro host binding frame listener
  have reached : Udp.Reaches binding.interface.ip 1234 frame := by decide +kernel
  have missed : ¬Udp.ForConsumer binding.interface.ip (some (listener 4321)) frame := by
    decide +kernel
  have other : ¬(Plain frame ∧ frame.getD 23 0 = 0x01) := by decide +kernel
  have stands : Udp.datagramIn frame = ⟨host.ip, host.port, 1234, [1, 2, 3]⟩ := by decide +kernel
  obtain ⟨reacts, -, alone⟩ := @delivery_is_exact Simulation.Sink
    (Udp.Watched Simulation.Consumer) _ _ binding {} frame
  refine ⟨?_, alone (some (listener 4321)) missed other⟩
  rw [reacts (listener 1234) reached, stands]
  exact Returns.ok ⟨rfl, rfl⟩

end Ipv4

end InstrumentLink
