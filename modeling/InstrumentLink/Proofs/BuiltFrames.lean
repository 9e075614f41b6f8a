import InstrumentLink.Proofs.FrameSafety
import InstrumentLink.Proofs.Observation
import InstrumentLink.Proofs.WireFormat

/-!
Whatever is received, only frames that are built here are sent.

There are three kinds of them: questions and answers of address resolution, replies to echoes, and
datagrams, which go to the one peer and to nobody while its hardware address is unknown. Each
protocol adds such frames to what a port has sent, and nothing else; a consumer may store and send
what it likes.
-/

set_option autoImplicit false

namespace InstrumentLink

/-- The frames of an interface, as they are on the wire, while the peer is what a cache says. -/
inductive Interface.Built (interface : Interface) (cache : Arp.PeerCache) : Bytes → Prop where
  | arp (operation : Arp.Operation) (destination : MacAddress) (target : Arp.Station) :
      Built interface cache (interface.onWire (Arp.frame interface operation destination target))
  | icmp (reply : Icmp.Reply)
      (fits : interface.frameOffset + (reply.frame interface).length ≤ interface.frameEnd) :
      Built interface cache (interface.onWire (reply.frame interface))
  | udp (resolved : cache.isResolved = true) (sourcePort destinationPort : UInt16)
      (payload : Bytes) (room : payload.length ≤ Udp.payloadRoom interface) :
      Built interface cache
        (interface.onWire (Udp.frame interface cache.station sourcePort destinationPort payload))

variable {Port : Type} {Sound : Port → Prop} {view : Port → PortView} {interface : Interface}
  {cache : Arp.PeerCache}

theorem Udp.fits_of_room (placed : interface.Placed) {payload : Bytes}
    (room : payload.length ≤ payloadRoom interface) :
    interface.frameOffset + (frameHeaders + payload.length) ≤ interface.frameEnd := by
  have order := payload_start_le placed
  simp only [payloadRoom, payloadStart] at room order
  omega

theorem Udp.frame_well_formed (placed : interface.Placed) (peer : Arp.Station)
    (sourcePort destinationPort : UInt16) {payload : Bytes}
    (room : payload.length ≤ payloadRoom interface) :
    interface.WellFormed
      (interface.onWire (frame interface peer sourcePort destinationPort payload)) := by
  have fits := fits_of_room placed room
  have bound := interface.frame_end_le
  have longest : Ethernet.maximumLength = 1532 := rfl
  apply Interface.WellFormed.of_sent placed _ (Interface.sent_by_udp _ _ _ (by omega))
  rw [length_frame]
  exact fits

/-- A frame that is built here is well-formed. -/
theorem Interface.Built.well_formed (placed : interface.Placed) {octets : Bytes}
    (built : interface.Built cache octets) : interface.WellFormed octets := by
  have bound := interface.frame_end_le
  have longest : Ethernet.maximumLength = 1532 := rfl
  cases built with
  | arp operation destination target =>
      exact .of_sent placed (Arp.frame_fits placed _ _ _) (sent_by_arp _ _ _)
  | icmp reply fits =>
      have length := reply.length_frame interface
      exact .of_sent placed fits (sent_by_icmp _ _ _ _ (by omega))
  | udp resolved sourcePort destinationPort payload room =>
      exact Udp.frame_well_formed placed _ _ _ room

def Adds (interface : Interface) (cache : Arp.PeerCache) (Sound : Port → Prop)
    (view : Port → PortView) (port after : Port) : Prop :=
  Sound after ∧ ∃ frames, (view after).sent = (view port).sent ++ frames ∧
    ∀ octets ∈ frames, interface.Built cache octets

namespace Adds

theorem nothing {port after : Port} (sound : Sound after)
    (same : (view after).sent = (view port).sent) :
    Adds interface cache Sound view port after :=
  ⟨sound, [], by rw [same, List.append_nil], by simp⟩

theorem trans {port between after : Port} (first : Adds interface cache Sound view port between)
    (second : Adds interface cache Sound view between after) :
    Adds interface cache Sound view port after := by
  obtain ⟨-, frames, sent, built⟩ := first
  obtain ⟨sound, later, laterSent, laterBuilt⟩ := second
  refine ⟨sound, frames ++ later, ?_, List.forall_mem_append.mpr ⟨built, laterBuilt⟩⟩
  rw [laterSent, sent, List.append_assoc]

theorem sent {frame : Bytes} (built : interface.Built cache (interface.onWire frame))
    {port after : Port} {yes : Bool} (sound : Sound after)
    (frames : (view after).sent = (view port).sent ++ if yes then
      [SlotRing.finish interface.softwareFraming (interface.laid frame)] else []) :
    Adds interface cache Sound view port after := by
  refine ⟨sound, _, frames, ?_⟩
  cases yes with
  | false => simp
  | true => simpa [Interface.finish_laid] using built

end Adds

variable [TransmitPort Port]

abbrev FramingPort (interface : Interface) (Sound : Port → Prop) (view : Port → PortView) : Prop :=
  FaithfulPort Sound view (SlotRing.finish interface.softwareFraming)

theorem Arp.emit_puts_on_wire (faithful : FramingPort interface Sound view)
    (prompt : PromptPort Sound interface) (placed : interface.Placed) (operation : Operation)
    (destination : MacAddress) (target : Station) {port : Port} (sound : Sound port) :
    Returns (emit interface operation destination target port) fun answer =>
      Sound answer.2.1 ∧ (view answer.2.1).sent = (view port).sent ++
        [interface.onWire (frame interface operation destination target)] := by
  apply (emit_sends faithful placed operation destination target port sound).mono
  intro answer sent
  rw [sent.2.2 prompt, if_pos rfl, interface.finish_laid] at sent
  exact ⟨sent.1, sent.2.1⟩

theorem Icmp.Answerable.emit_puts_on_wire (faithful : FramingPort interface Sound view)
    (prompt : PromptPort Sound interface) (placed : interface.Placed) {frame : Bytes}
    (answerable : Answerable interface frame) {port : Port} (sound : Sound port) :
    Returns (interface.emit (frameHeaders + (replyIn frame).payload.length)
      ((replyIn frame).buildFrame interface) port) fun answer =>
        Sound answer.2.1 ∧ (view answer.2.1).sent = (view port).sent ++
          [interface.onWire ((replyIn frame).frame interface)] := by
  apply ((replyIn frame).emit_sends faithful placed port sound answerable.reply_fits).mono
  intro answer sent
  rw [sent.2.2 prompt, if_pos rfl, interface.finish_laid] at sent
  exact ⟨sent.1, sent.2.1⟩

theorem Arp.emit_adds (faithful : FramingPort interface Sound view) (placed : interface.Placed)
    (operation : Operation) (destination : MacAddress) (target : Station) {port : Port}
    (sound : Sound port) :
    Returns (emit interface operation destination target port) fun answer =>
      ∀ cache, Adds interface cache Sound view port answer.2.1 := by
  apply (emit_sends faithful placed operation destination target port sound).mono
  rintro answer ⟨sound, frames, -⟩ cache
  exact .sent (.arp operation destination target) sound frames

theorem Arp.handle_frame_adds (faithful : FramingPort interface Sound view)
    (placed : interface.Placed) (known : PeerCache) (frame : Bytes) {port : Port}
    (sound : Sound port) :
    Yields (handleFrame interface known frame port) fun answer =>
      ∀ cache, Adds interface cache Sound view port answer.2.2.1 := by
  have nothing : ∀ cache, Adds interface cache Sound view port port :=
    fun cache => .nothing sound rfl
  apply handle_frame_cases .yields
  case malformed => exact fun _ _ => nothing
  case ignored => exact fun _ _ _ => nothing
  case learned => exact fun _ _ _ _ => nothing
  case answered => exact fun _ _ _ => (emit_adds faithful placed _ _ _ sound).yields

namespace Udp

theorem handed_in_short (faithful : FramingPort interface Sound view) (placed : interface.Placed)
    (length : Nat) (port : Port) (sound : Sound port) :
    ∀ payload ∈ handedIn interface length port, payload.length ≤ payloadRoom interface := by
  obtain ⟨area, looked, room⟩ := payload_area_returns faithful.safe placed port sound
  unfold handedIn Bytes.slice
  simp only [looked, bind, Except.bind]
  split
  · rintro payload ⟨⟩
    rw [List.length_take]
    omega
  · rintro payload ⟨⟩

variable {binding : Binding}

theorem Attempt.frames_built (attempt : Attempt)
    (known : attempt.sent = true → binding.cache.isResolved = true)
    (short : ∀ payload ∈ attempt.payload, payload.length ≤ payloadRoom binding.interface) :
    ∀ octets ∈ attempt.frames binding (SlotRing.finish binding.interface.softwareFraming),
      binding.interface.Built binding.cache octets := by
  intro octets member
  unfold frames at member
  split at member
  · next sent =>
      obtain ⟨payload, held, rfl⟩ := List.mem_map.mp member
      rw [Interface.finish_laid]
      exact .udp (known sent) _ _ payload (short payload (Option.mem_toList.mp held))
  · cases member

theorem Binding.send_resolved (binding : Binding) (sourcePort destinationPort : UInt16)
    (length : Nat) (port : Port) :
    Yields (binding.send sourcePort destinationPort length port) fun answer =>
      answer.1 = true → binding.cache.isResolved = true := by
  unfold send
  split
  · next resolved => exact (Yields.intro _).mono fun _ _ _ => resolved
  · exact Yields.ok (by simp)

theorem Binding.send_to_resolved (binding : Binding) (ip : Ipv4Address)
    (sourcePort destinationPort : UInt16) (length : Nat) (port : Port) :
    Yields (binding.sendTo ip sourcePort destinationPort length port) fun answer =>
      answer.1 = true → binding.cache.resolves ip = true := by
  unfold sendTo
  split
  · next resolves => exact (Yields.intro _).mono fun _ _ _ => resolves
  · exact Yields.ok (by simp)

theorem Binding.send_adds (faithful : FramingPort binding.interface Sound view)
    (placed : binding.interface.Placed) (sourcePort destinationPort : UInt16) (length : Nat)
    {port : Port} (sound : Sound port) :
    Yields (binding.send sourcePort destinationPort length port) fun answer =>
      Adds binding.interface binding.cache Sound view port answer.2.1 := by
  apply ((binding.send_sends faithful placed sourcePort destinationPort length port sound
    none).yields.and (binding.send_resolved sourcePort destinationPort length port)).mono
  rintro answer ⟨⟨after, frames, -⟩, known⟩
  exact ⟨after, _, frames, Attempt.frames_built _ known
    (handed_in_short faithful placed length port sound)⟩

theorem Binding.send_to_adds (faithful : FramingPort binding.interface Sound view)
    (placed : binding.interface.Placed) (ip : Ipv4Address) (sourcePort destinationPort : UInt16)
    (length : Nat) {port : Port} (sound : Sound port) :
    Yields (binding.sendTo ip sourcePort destinationPort length port) fun answer =>
      Adds binding.interface binding.cache Sound view port answer.2.1 := by
  unfold sendTo
  split
  · exact send_adds faithful placed sourcePort destinationPort length sound
  · exact .nothing sound rfl

theorem Reaction.run_adds {Result : Type} (faithful : FramingPort binding.interface Sound view)
    (placed : binding.interface.Placed) (reaction : Reaction Result) {port : Port}
    (sound : Sound port) :
    Yields (reaction.run binding port) fun answer =>
      Adds binding.interface binding.cache Sound view port answer.2.1 := by
  induction reaction generalizing port with
  | done result => exact .nothing sound rfl
  | fail fault => trivial
  | report event next induction => exact (induction sound).bind fun answer adds => adds
  | look next induction => exact (Yields.intro _).bind fun area _ => induction area sound
  | store offset patch next induction =>
      apply (store_payload_keeps faithful placed offset patch port sound).bind
      rintro stored ⟨sound, same⟩
      exact (induction sound).mono fun answer adds => (Adds.nothing sound same).trans adds
  | send sourcePort destinationPort length next induction =>
      apply (Binding.send_adds faithful placed sourcePort destinationPort length sound).bind
      rintro ⟨sent, after, log⟩ first
      exact (induction sent first.1).bind fun answer second => first.trans second
  | sendTo ip sourcePort destinationPort length next induction =>
      apply (Binding.send_to_adds faithful placed ip sourcePort destinationPort length sound).bind
      rintro ⟨sent, after, log⟩ first
      exact (induction sent first.1).bind fun answer second => first.trans second

end Udp

namespace Ipv4

variable {Consumer : Type} [Udp.Handler Consumer] {binding : Udp.Binding}

theorem handle_frame_adds (faithful : FramingPort binding.interface Sound view)
    (placed : binding.interface.Placed) (registration : Option (Udp.Registration Consumer))
    (frame : Bytes) {port : Port} (sound : Sound port) :
    Yields (handleFrame binding registration frame port) fun answer =>
      Adds binding.interface binding.cache Sound view port answer.2.2.1 := by
  have nothing : Adds binding.interface binding.cache Sound view port port := .nothing sound rfl
  apply handle_frame_cases .yields
  case other => exact fun _ _ _ => nothing
  case ignored => exact fun _ _ _ _ => nothing
  case echoed =>
    intro answerable
    have fits := answerable.reply_fits
    apply ((Icmp.replyIn frame).emit_sends faithful placed port sound fits).yields.mono
    rintro answer ⟨sound, frames, -⟩
    exact .sent (.icmp _ fits) sound frames
  case delivered => exact fun _ _ _ => Udp.Reaction.run_adds faithful placed _ sound

end Ipv4

end InstrumentLink
