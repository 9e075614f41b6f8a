import InstrumentLink.Proofs.SafePort

/-!
What is sent is what was stored.

Two things can be seen of a port: the octets of its current slot, and the frames sent from it. A
port is faithful if storing changes the slot as it says and sends nothing, and sending a frame sends
the front of the slot, finished in the way of the port. Then a frame that is built here is on the
wire octet for octet, and a datagram carries what was put into the payload area.
-/

set_option autoImplicit false

namespace InstrumentLink

namespace Bytes

theorem overwrite_ok {data patch : Bytes} {start : Nat}
    (inside : start + patch.length ≤ data.length) :
    overwrite data start patch =
      .ok (data.take start ++ patch ++ data.drop (start + patch.length)) :=
  if_pos inside

theorem slice_overwritten {data patch result : Bytes} {start : Nat}
    (written : overwrite data start patch = .ok result) :
    (result.drop start).take patch.length = patch := by
  unfold overwrite at written
  split at written
  · next inside =>
      cases written
      have front : (data.take start).length = start := by
        rw [List.length_take]
        omega
      rw [List.append_assoc, List.drop_left' front, List.take_left]
  · cases written

end Bytes

structure PortView where
  slot : Bytes
  sent : List Bytes

/-- The ports that fulfil `Sound` keep what is stored in them and send it as it is; `finish` adds
what a port puts behind a frame. -/
structure FaithfulPort {Port : Type} [TransmitPort Port] (Sound : Port → Prop)
    (view : Port → PortView) (finish : Bytes → Bytes) : Prop where
  room : ∀ port, Sound port → Ethernet.maximumLength ≤ (view port).slot.length
  contents : ∀ port, Sound port → TransmitPort.contents port = .ok (view port).slot
  store : ∀ port offset patch, Sound port → offset + patch.length ≤ Ethernet.maximumLength →
    Returns (TransmitPort.store offset patch port) fun after => Sound after ∧
      Bytes.overwrite (view port).slot offset patch = .ok (view after).slot ∧
      (view after).sent = (view port).sent
  transmit : ∀ port length, Sound port →
    Returns (TransmitPort.transmit length port) fun answer => Sound answer.2.1 ∧
      (length ≤ Ethernet.maximumLength → (view answer.2.1).sent = (view port).sent ++
        if answer.1 then [finish ((view port).slot.take length)] else [])

def PromptPort {Port : Type} [TransmitPort Port] (Sound : Port → Prop) (interface : Interface) :
    Prop :=
  ∀ port length answer, Sound port → interface.minimumLength ≤ length →
    length ≤ interface.frameEnd → TransmitPort.transmit length port = .ok answer → answer.1 = true

variable {Port : Type} [TransmitPort Port] {Sound : Port → Prop} {view : Port → PortView}
  {finish : Bytes → Bytes}

theorem FaithfulPort.safe (faithful : FaithfulPort Sound view finish) : SafePort Sound where
  contents := fun port sound => ⟨_, faithful.contents port sound, faithful.room port sound⟩
  store := fun port offset patch sound inside =>
    (faithful.store port offset patch sound inside).mono fun _ stored => stored.1
  transmit := fun port length sound =>
    (faithful.transmit port length sound).mono fun _ transmitted => transmitted.1

theorem Simulation.Sink.faithful_port :
    FaithfulPort (fun sink : Sink => Ethernet.maximumLength ≤ sink.slot.length)
      (fun sink => ⟨sink.slot, sink.sent⟩) id where
  room := fun sink large => large
  contents := fun sink large => rfl
  store := fun sink offset patch large inside => by
    have written := Bytes.overwrite_ok (Nat.le_trans inside large)
    have same := Bytes.length_overwrite written
    apply Returns.bind_ok written
    exact Returns.ok ⟨Nat.le_trans large (Nat.le_of_eq same.symm), written, rfl⟩
  transmit := fun sink length large => by
    change Returns (Sink.transmit length sink) _
    unfold Sink.transmit
    split
    · exact Returns.ok ⟨large, fun _ => rfl⟩
    · exact Returns.ok ⟨large, fun _ => (List.append_nil _).symm⟩

theorem Simulation.Sink.prompt_port (interface : Interface) :
    PromptPort (fun sink : Sink => Ethernet.maximumLength ≤ sink.slot.length) interface := by
  intro sink length answer large _ short same
  have bound := interface.frame_end_le
  change Sink.transmit length sink = _ at same
  rw [Sink.transmit, if_pos (by omega)] at same
  cases same
  rfl

namespace Interface

def lead (interface : Interface) : Bytes :=
  if interface.softwareFraming then Ethernet.preamble else []

def laid (interface : Interface) (frame : Bytes) : Bytes :=
  interface.lead ++ Bytes.padTo Ethernet.minimumLength frame

theorem Placed.lead_in_eq {interface : Interface} (placed : interface.Placed) :
    interface.leadIn = .ok interface.lead := by
  unfold leadIn lead softwareFraming
  by_cases none : interface.frameOffset = 0
  · simp [none]
  · have preamble := placed.resolve_left none
    simp [preamble, Ethernet.preambleLength]

theorem Placed.length_lead {interface : Interface} (placed : interface.Placed) :
    interface.lead.length = interface.frameOffset := by
  obtain ⟨octets, same, length⟩ := placed.lead_in
  rw [placed.lead_in_eq] at same
  cases same
  exact length

theorem Placed.length_laid {interface : Interface} (placed : interface.Placed) (frame : Bytes) :
    (interface.laid frame).length =
      interface.frameOffset + max frame.length Ethernet.minimumLength := by
  rw [laid, List.length_append, placed.length_lead, Bytes.length_pad_to]

theorem Placed.drop_laid {interface : Interface} (placed : interface.Placed) (frame : Bytes) :
    (interface.laid frame).drop interface.frameOffset =
      Bytes.padTo Ethernet.minimumLength frame :=
  List.drop_left' placed.length_lead

/-- A frame that fits is sent as it was laid into the slot, or not at all; by a prompt port it is
sent. -/
theorem send_frame_sends (faithful : FaithfulPort Sound view finish) {interface : Interface}
    (placed : interface.Placed) (frame : Bytes) (port : Port) (sound : Sound port)
    (fits : interface.frameOffset + frame.length ≤ interface.frameEnd) :
    Returns (interface.sendFrame frame port) fun answer => Sound answer.2.1 ∧
      (view answer.2.1).sent = (view port).sent ++
        (if answer.1 then [finish (interface.laid frame)] else []) ∧
      (PromptPort Sound interface → answer.1 = true) := by
  unfold sendFrame
  apply Returns.bind_ok placed.lead_in_eq
  change Returns (TransmitPort.store 0 (interface.laid frame) port >>= fun stored =>
    TransmitPort.transmit (interface.laid frame).length stored) _
  have shortest := placed.minimum_length_le
  have longest := interface.frame_end_le
  have length := placed.length_laid frame
  simp only [minimumLength] at shortest
  apply (faithful.store port 0 _ sound (by omega)).bind
  rintro stored ⟨sound, written, same⟩
  obtain ⟨answer, transmitted, soundAfter, sent⟩ := faithful.transmit stored _ sound
  have front := Bytes.slice_overwritten written
  rw [List.drop_zero] at front
  rw [same, front] at sent
  refine ⟨answer, transmitted, soundAfter, sent (by omega), fun prompt => ?_⟩
  exact prompt stored _ answer sound (by simp only [minimumLength]; omega) (by omega) transmitted

end Interface

theorem Arp.frame_fits {interface : Interface} (placed : interface.Placed)
    (operation : Operation) (destination : MacAddress) (target : Station) :
    interface.frameOffset + (frame interface operation destination target).length ≤
      interface.frameEnd := by
  have room := placed.minimum_length_le
  simp only [Interface.minimumLength, Ethernet.minimumLength] at room
  rw [length_frame]
  simp only [Ethernet.headerLength, bodyLength]
  omega

theorem Arp.emit_sends (faithful : FaithfulPort Sound view finish) {interface : Interface}
    (placed : interface.Placed) (operation : Operation) (destination : MacAddress)
    (target : Station) (port : Port) (sound : Sound port) :
    Returns (emit interface operation destination target port) fun answer => Sound answer.2.1 ∧
      (view answer.2.1).sent = (view port).sent ++ (if answer.1 then
        [finish (interface.laid (frame interface operation destination target))] else []) ∧
      (PromptPort Sound interface → answer.1 = true) := by
  have room := faithful.room port sound
  have shortest := placed.minimum_length_le
  have longest := interface.frame_end_le
  rw [emit_eq interface operation destination target (faithful.contents port sound) (by omega)]
  exact Interface.send_frame_sends faithful placed _ port sound (frame_fits placed _ _ _)

theorem Icmp.Reply.emit_sends (faithful : FaithfulPort Sound view finish) {interface : Interface}
    (placed : interface.Placed) (reply : Reply) (port : Port) (sound : Sound port)
    (fits : interface.frameOffset + (reply.frame interface).length ≤ interface.frameEnd) :
    Returns (interface.emit (frameHeaders + reply.payload.length) (reply.buildFrame interface) port)
      fun answer => Sound answer.2.1 ∧
      (view answer.2.1).sent = (view port).sent ++
        (if answer.1 then [finish (interface.laid (reply.frame interface))] else []) ∧
      (PromptPort Sound interface → answer.1 = true) := by
  have room := faithful.room port sound
  have longest := interface.frame_end_le
  rw [reply.emit_eq interface (faithful.contents port sound) (by omega)]
  exact Interface.send_frame_sends faithful placed _ port sound fits

end InstrumentLink
