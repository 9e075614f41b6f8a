import InstrumentLink.Proofs.FrameBuilding
import InstrumentLink.Simulation.Sink

/-!
Sending without a fault.

What is asked of a port: its slot holds the longest frame, octets can be stored in that space, and
any length can be handed to it, which it may refuse. Then every frame that is built here stays
inside the slot, lead-in and padding included, and a datagram of any length is sent or refused.
-/

set_option autoImplicit false

namespace InstrumentLink

/-- The ports that fulfil `Sound` have room for the longest frame, and using them in that room leads
to ports that fulfil it too. -/
structure SafePort {Port : Type} [TransmitPort Port] (Sound : Port → Prop) : Prop where
  contents : ∀ port, Sound port →
    Returns (TransmitPort.contents port) fun slot => Ethernet.maximumLength ≤ slot.length
  store : ∀ port offset patch, Sound port → offset + patch.length ≤ Ethernet.maximumLength →
    Returns (TransmitPort.store offset patch port) Sound
  transmit : ∀ port length, Sound port →
    Returns (TransmitPort.transmit length port) fun answer => Sound answer.2.1

theorem Simulation.Sink.safe_port :
    SafePort fun sink : Sink => Ethernet.maximumLength ≤ sink.slot.length where
  contents := fun sink large => Returns.ok large
  store := fun sink offset patch large inside =>
    (Bytes.overwrite_inside sink.slot offset patch (Nat.le_trans inside large)).bind
      fun slot same => Returns.ok (Nat.le_trans large (Nat.le_of_eq same.symm))
  transmit := fun sink length large => by
    change Returns (Sink.transmit length sink) _
    unfold Sink.transmit
    split <;> exact Returns.ok large

namespace Interface

def Placed (interface : Interface) : Prop :=
  interface.frameOffset = 0 ∨ interface.frameOffset = Ethernet.preambleLength

theorem Placed.offset_le {interface : Interface} (placed : interface.Placed) :
    interface.frameOffset ≤ Ethernet.preambleLength := by
  rcases placed with none | preamble
  · rw [none]
    exact Nat.zero_le _
  · exact Nat.le_of_eq preamble

theorem frame_end_le (interface : Interface) : interface.frameEnd ≤ Ethernet.maximumLength :=
  Nat.sub_le _ _

theorem Placed.minimum_length_le {interface : Interface} (placed : interface.Placed) :
    interface.minimumLength ≤ interface.frameEnd := by
  have offset := placed.offset_le
  simp only [minimumLength, frameEnd, Ethernet.preambleLength, Ethernet.minimumLength,
    Ethernet.maximumLength, Ethernet.frameCheckLength] at offset ⊢
  split <;> omega

theorem Placed.lead_in {interface : Interface} (placed : interface.Placed) :
    Returns interface.leadIn fun octets => octets.length = interface.frameOffset := by
  unfold leadIn
  by_cases none : interface.frameOffset = 0
  · rw [if_pos none, none]
    exact Returns.ok rfl
  · have preamble : interface.frameOffset = Ethernet.preambleLength := placed.resolve_left none
    rw [if_neg none, if_pos preamble, preamble]
    exact Returns.ok rfl

variable {Port : Type} [TransmitPort Port] {Sound : Port → Prop}

theorem send_frame_returns (safe : SafePort Sound) {interface : Interface}
    (placed : interface.Placed) (frame : Bytes) (port : Port) (sound : Sound port)
    (fits : interface.frameOffset + frame.length ≤ Ethernet.maximumLength) :
    Returns (interface.sendFrame frame port) fun answer => Sound answer.2.1 := by
  unfold sendFrame
  apply placed.lead_in.bind
  intro leadIn length
  have room : 0 + (leadIn ++ Bytes.padTo Ethernet.minimumLength frame).length ≤
      Ethernet.maximumLength := by
    have offset := placed.offset_le
    rw [List.length_append, length, Bytes.length_pad_to]
    simp only [Ethernet.preambleLength, Ethernet.minimumLength, Ethernet.maximumLength]
      at offset fits ⊢
    omega
  apply (safe.store port 0 _ sound room).bind
  intro stored sound
  exact safe.transmit stored _ sound

end Interface

namespace Udp

def payloadRoom (interface : Interface) : Nat := interface.frameEnd - payloadStart interface

theorem payload_start_le {interface : Interface} (placed : interface.Placed) :
    payloadStart interface ≤ interface.frameEnd := by
  have offset := placed.offset_le
  simp only [payloadStart, frameHeaders, Interface.frameEnd, Ethernet.preambleLength,
    Ethernet.headerLength, Ipv4.headerLength, headerLength, Ethernet.maximumLength,
    Ethernet.frameCheckLength] at offset ⊢
  split <;> omega

variable {Port : Type} [TransmitPort Port] {Sound : Port → Prop}

theorem payload_area_known {interface : Interface} (placed : interface.Placed) {port : Port}
    {slot : Bytes} (contents : TransmitPort.contents port = .ok slot)
    (room : interface.frameEnd ≤ slot.length) :
    Returns (payloadArea interface port) fun area => area.length = payloadRoom interface := by
  unfold payloadArea
  apply Returns.bind_ok contents
  rw [Bytes.slice_inside slot _ _ (payload_start_le placed) room]
  apply Returns.ok
  rw [List.length_take, List.length_drop]
  exact Nat.min_eq_left (Nat.sub_le_sub_right room _)

theorem payload_area_returns (safe : SafePort Sound) {interface : Interface}
    (placed : interface.Placed) (port : Port) (sound : Sound port) :
    Returns (payloadArea interface port) fun area => area.length = payloadRoom interface := by
  obtain ⟨slot, contents, room⟩ := safe.contents port sound
  exact payload_area_known placed contents (Nat.le_trans interface.frame_end_le room)

theorem store_payload_returns (safe : SafePort Sound) {interface : Interface}
    (placed : interface.Placed) (offset : Nat) (patch : Bytes) (port : Port) (sound : Sound port)
    (inside : offset + patch.length ≤ payloadRoom interface) :
    Returns (storePayload interface offset patch port) Sound := by
  apply (payload_area_returns safe placed port sound).bind
  intro area length
  rw [if_pos (by rw [length]; exact inside)]
  apply safe.store port _ _ sound
  have order := payload_start_le placed
  have bound := interface.frame_end_le
  simp only [payloadRoom] at inside
  omega

namespace Binding

theorem send_returns (safe : SafePort Sound) (binding : Binding)
    (placed : binding.interface.Placed) (sourcePort destinationPort : UInt16) (length : Nat)
    (port : Port) (sound : Sound port) :
    Returns (binding.send sourcePort destinationPort length port) fun answer =>
      Sound answer.2.1 := by
  unfold send
  split
  · split
    · next fits =>
        have bound := binding.interface.frame_end_le
        obtain ⟨slot, contents, room⟩ := safe.contents port sound
        rw [emit_eq _ _ _ _ contents (by omega)]
        refine Interface.send_frame_returns safe placed _ port sound ?_
        rw [length_frame, List.length_take, List.length_drop]
        simp only [payloadStart] at fits ⊢
        omega
    · exact Returns.ok sound
  · exact Returns.ok sound

theorem send_to_returns (safe : SafePort Sound) (binding : Binding)
    (placed : binding.interface.Placed) (ip : Ipv4Address) (sourcePort destinationPort : UInt16)
    (length : Nat) (port : Port) (sound : Sound port) :
    Returns (binding.sendTo ip sourcePort destinationPort length port) fun answer =>
      Sound answer.2.1 := by
  unfold sendTo
  split
  · exact send_returns safe binding placed sourcePort destinationPort length port sound
  · exact Returns.ok sound

end Binding

namespace Reaction

variable {First Second : Type}

/-- A reaction stores inside a payload area of so many octets and ends well, whatever it sees there
and whatever becomes of what it sends. -/
def Ends (room : Nat) (good : Except Fault First → Prop) : Reaction First → Prop
  | .done result => good (.ok result)
  | .fail fault => good (.error fault)
  | .report _ next => next.Ends room good
  | .look next => ∀ area : Bytes, area.length = room → (next area).Ends room good
  | .store offset patch next => offset + patch.length ≤ room ∧ next.Ends room good
  | .send _ _ _ next => ∀ sent, (next sent).Ends room good
  | .sendTo _ _ _ _ next => ∀ sent, (next sent).Ends room good

theorem Ends.mono {room : Nat} {good better : Except Fault First → Prop} (reaction : Reaction First)
    (ends : reaction.Ends room good) (weaker : ∀ result, good result → better result) :
    reaction.Ends room better := by
  induction reaction with
  | done result => exact weaker _ ends
  | fail fault => exact weaker _ ends
  | report event next induction => exact induction ends
  | look next induction => exact fun area length => induction area (ends area length)
  | store offset patch next induction => exact ⟨ends.1, induction ends.2⟩
  | send sourcePort destinationPort length next induction =>
      exact fun sent => induction sent (ends sent)
  | sendTo ip sourcePort destinationPort length next induction =>
      exact fun sent => induction sent (ends sent)

theorem Ends.and_then {room : Nat} {good : Except Fault First → Prop}
    {better : Except Fault Second → Prop} {continuation : First → Reaction Second}
    (reaction : Reaction First) (first : reaction.Ends room good)
    (second : ∀ result, good (.ok result) → (continuation result).Ends room better)
    (failed : ∀ fault, good (.error fault) → better (.error fault)) :
    (reaction.andThen continuation).Ends room better := by
  induction reaction with
  | done result => exact second result first
  | fail fault => exact failed fault first
  | report event next induction => exact induction first
  | look next induction => exact fun area length => induction area (first area length)
  | store offset patch next induction => exact ⟨first.1, induction first.2⟩
  | send sourcePort destinationPort length next induction =>
      exact fun sent => induction sent (first sent)
  | sendTo ip sourcePort destinationPort length next induction =>
      exact fun sent => induction sent (first sent)

theorem ends_report_all {room : Nat} {good : Except Fault Second → Prop}
    {continuation : Unit → Reaction Second} (log : Log)
    (ends : (continuation ()).Ends room good) :
    (reportAll log >>= continuation).Ends room good := by
  induction log with
  | nil => exact ends
  | cons event log induction => exact induction

/-- How carrying out a reaction ended: it stopped or it came to a result, as is good, and it left
the port sound. -/
def Ended (good : Except Fault First → Prop) (Sound : Port → Prop) :
    Except Fault (First × Port × Log) → Prop
  | .ok (result, port, _) => good (.ok result) ∧ Sound port
  | .error fault => good (.error fault)

omit [TransmitPort Port] in
theorem Ended.relog {good : Except Fault First → Prop}
    {computation : Except Fault (First × Port × Log)} (ended : Ended good Sound computation)
    (change : Log → Log) :
    Ended good Sound (do
      let (result, port, log) ← computation
      return (result, port, change log)) := by
  cases computation with
  | error fault => exact ended
  | ok answer => exact ended

omit [TransmitPort Port] in
theorem Ended.returns {Safe : First → Prop} {computation : Except Fault (First × Port × Log)}
    (ended : Ended (fun result => Returns result Safe) Sound computation) :
    Returns computation fun answer => Safe answer.1 ∧ Sound answer.2.1 := by
  cases computation with
  | error fault =>
      obtain ⟨result, stopped, -⟩ := ended
      cases stopped
  | ok answer =>
      obtain ⟨⟨result, same, holds⟩, sound⟩ := ended
      cases same
      exact Returns.ok ⟨holds, sound⟩

/-- Carried out on a safe port, a reaction ends as it was found to end. -/
theorem run_ended (safe : SafePort Sound) {binding : Binding}
    (placed : binding.interface.Placed) {good : Except Fault First → Prop}
    (reaction : Reaction First) (port : Port) (sound : Sound port)
    (ends : reaction.Ends (payloadRoom binding.interface) good) :
    Ended good Sound (reaction.run binding port) := by
  induction reaction generalizing port with
  | done result => exact ⟨ends, sound⟩
  | fail fault => exact ends
  | report event next induction => exact (induction port sound ends).relog _
  | look next induction =>
      -- The reaction ends well for every area of this length, so for the one that is there.
      obtain ⟨area, looked, length⟩ := payload_area_returns safe placed port sound
      rw [run, looked]
      exact induction area port sound (ends area length)
  | store offset patch next induction =>
      obtain ⟨stored, same, sound⟩ :=
        store_payload_returns safe placed offset patch port sound ends.1
      rw [run, same]
      exact induction stored sound ends.2
  | send sourcePort destinationPort length next induction =>
      obtain ⟨⟨sent, after, before⟩, same, sound⟩ :=
        Binding.send_returns safe binding placed sourcePort destinationPort length port sound
      rw [run, same]
      exact (induction sent after sound (ends sent)).relog _
  | sendTo ip sourcePort destinationPort length next induction =>
      obtain ⟨⟨sent, after, before⟩, same, sound⟩ :=
        Binding.send_to_returns safe binding placed ip sourcePort destinationPort length port sound
      rw [run, same]
      exact (induction sent after sound (ends sent)).relog _

end Reaction

/-- A datagram does not stop a consumer that has a payload area of so many octets. -/
def Copes {Consumer : Type} [Handler Consumer] (room : Nat) (consumer : Consumer)
    (datagram : Datagram) : Prop :=
  (Handler.onDatagram datagram consumer).Ends room fun result => Returns result fun _ => True

end Udp

end InstrumentLink
