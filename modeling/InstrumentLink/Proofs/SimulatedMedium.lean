import InstrumentLink.Proofs.SimulatedTraffic

/-!
The simulated MAC conveys frames.

With a silent peer and nothing on its wire, it transmits what it is started on and reports the frame
that arrives next. How often it was busy before, and what its memory held, makes no difference.
-/

set_option autoImplicit false

namespace InstrumentLink.Simulation.SimulatedMac

open Mac (Conveys Medium Transmitter TransmitSide)

instance : Medium SimulatedMac where
  sent mac := mac.sent.map SentFrame.octets
  deliver frame mac := { mac with wire := mac.wire ++ [frame] }

/-- Nothing is on the wire, and the event register reads as given. -/
structure Calm (geometry : Mac.SlotGeometry) (pending : UInt32) (mac : SimulatedMac) : Prop where
  divided : mac.geometry = geometry
  whole : mac.memory.length = geometry.length
  silent : mac.peer = .silent
  wire : mac.wire = []
  next : mac.nextRxSlot < geometry.rxSlots
  pending : mac.writerPending = pending

variable {geometry : Mac.SlotGeometry} {pending : UInt32}

theorem Calm.leaves {mac after : SimulatedMac} (calm : Calm geometry pending mac)
    (leaves : LeavesReceiver mac after) : Calm geometry pending after := by
  have divided := leaves.divided.trans calm.divided
  have whole := leaves.length.trans calm.whole
  have next : after.nextRxSlot < geometry.rxSlots := leaves.next ▸ calm.next
  have same := leaves.pending.trans calm.pending
  cases leaves.traffic with
  | silence sent wire peer =>
      exact ⟨divided, whole, peer.trans calm.silent, wire.trans calm.wire, next, same⟩
  | exchange frame sent wire peer =>
      rw [calm.silent] at wire peer
      rw [calm.wire] at wire
      exact ⟨divided, whole, peer, wire, next, same⟩

theorem transmitter (named : geometry.txSlots ≤ 4294967296) :
    Transmitter geometry (Calm geometry pending) side :=
  transmitter_of_leaves named (fun _ calm => calm.divided) (fun _ calm => calm.whole)
    fun _ _ calm leaves => calm.leaves leaves

theorem Calm.reads_nothing {mac : SimulatedMac} (calm : Calm geometry 0 mac) :
    Mac.readRegister .writerEvent mac = .ok (0, mac) :=
  polls_nothing calm.pending calm.wire

/-- A poll takes the frame that arrived from the wire into the next receive slot. -/
theorem Calm.reports {mac : SimulatedMac} (calm : Calm geometry 0 mac)
    (numbered : geometry.rxSlots ≤ 4294967296) {frame : Bytes}
    (fits : frame.length ≤ geometry.slotSize) (narrow : frame.length < 4294967296) :
    Mac.Reports geometry (Calm geometry 1) side frame (Medium.deliver frame mac) := by
  have arrived : (Medium.deliver frame mac).wire = [frame] := by
    change mac.wire ++ [frame] = [frame]
    rw [calm.wire, List.nil_append]
  have sane : Sane geometry (Medium.deliver frame mac) := by
    refine ⟨calm.divided, calm.whole, calm.next, ?_, ?_, .inl calm.pending,
      fun pending => (pending calm.pending).elim⟩
    · rw [arrived]
      exact List.forall_mem_singleton.mpr fits
    · change mac.peer.Fits _
      rw [calm.silent]
      trivial
  obtain ⟨⟨event, polled⟩, polling, rfl, takes⟩ := sane.polls numbered narrow calm.pending arrived
  exact takes.reports polling ⟨takes.sane.divided, takes.sane.whole,
    takes.peer.trans calm.silent, takes.wire, takes.sane.next, takes.pending⟩

theorem conveys (geometry : Mac.SlotGeometry) (named : geometry.txSlots ≤ 4294967296)
    (numbered : geometry.rxSlots ≤ 4294967296) :
    Conveys geometry (Calm geometry 0) (Calm geometry 1) side where
  idle := transmitter named
  holding := transmitter named
  clears := by
    rintro register mac (rfl | rfl) calm
    · refine Returns.ok ⟨⟨calm.divided, calm.whole, calm.silent, calm.wire, calm.next, ?_⟩, rfl⟩
      change mac.writerPending &&& _ = 0
      rw [calm.pending, UInt32.zero_and]
    · exact Returns.ok ⟨⟨calm.divided, calm.whole, calm.silent, calm.wire, calm.next,
        calm.pending⟩, rfl⟩
  releases := fun mac calm => by
    refine Returns.ok ⟨⟨calm.divided, calm.whole, calm.silent, calm.wire, calm.next, ?_⟩, rfl⟩
    change mac.writerPending &&& _ = 0
    rw [calm.pending]
    rfl
  sent := fun mac => rfl
  delivered := fun frame mac => rfl
  reports := fun frame mac calm short =>
    calm.reports numbered (Nat.le_trans short geometry.holds_frame)
      (Nat.lt_of_le_of_lt short (by decide))

end InstrumentLink.Simulation.SimulatedMac
