import InstrumentLink.Proofs.RingHistory

/-!
Slots do not run into each other.

A frame that the driver holds stays as it was received, whatever is written to the transmit slots,
sent out of them, or arrives meanwhile; the device takes no other frame before the one reported is
given back, and what the driver writes lies behind the receive slots. A frame that is received
changes its own slot and no other.
-/

set_option autoImplicit false

namespace InstrumentLink

namespace Mac.SlotGeometry

def rxWindow (geometry : SlotGeometry) (slot : Nat) (memory : Bytes) : Bytes :=
  (memory.drop (geometry.rxStart slot)).take geometry.slotSize

def txWindow (geometry : SlotGeometry) (slot : Nat) (memory : Bytes) : Bytes :=
  (memory.drop (geometry.txStart slot)).take geometry.slotSize

theorem received_apart (geometry : SlotGeometry) {slot : Nat} {memory after frame : Bytes}
    (exist : slot < geometry.rxSlots) (short : frame.length ≤ geometry.slotSize)
    (written : Bytes.overwrite memory (geometry.rxStart slot) frame = .ok after) :
    (∀ other, other ≠ slot → geometry.rxWindow other after = geometry.rxWindow other memory) ∧
      ∀ other, geometry.txWindow other after = geometry.txWindow other memory := by
  refine ⟨fun other distinct => ?_, fun other => ?_⟩
  · apply Bytes.window_overwritten written
    rcases Nat.lt_or_gt_of_ne distinct with before | behind
    · exact .inl (geometry.rx_start_apart before)
    · have order := geometry.rx_start_apart behind
      exact .inr (by omega)
  · apply Bytes.window_overwritten written
    have order := geometry.rx_before_tx exist other
    exact .inr (by omega)

end Mac.SlotGeometry

namespace SlotRing

open Mac (Access)
open Simulation (SimulatedMac)

variable {geometry : Mac.SlotGeometry} {framing : Bool} {received : Received} {frame : Bytes}
  {ring after : SimulatedRing}

/-- What a driver does, and what may happen to it, while it holds a frame. -/
def Deed.Gentle (geometry : Mac.SlotGeometry) : Deed → Prop
  | .transmit _ | .poll | .read _ => True
  | .fill offset patch => offset + patch.length ≤ geometry.slotSize
  | .outside happening => happening.Short geometry.slotSize
  | .start | .release _ | .report .. | .write .. => False

/-- The driver holds a frame: the device reports it, and its octets stand in its slot. -/
structure Holding (geometry : Mac.SlotGeometry) (framing : Bool) (received : Received)
    (frame : Bytes) (ring : SimulatedRing) : Prop where
  proper : Proper geometry framing ring
  pending : ring.mac.writerPending = 1
  slot : ring.mac.writerSlot.toNat = received.slot
  length : ring.mac.writerLength.toNat = received.length
  inside : received.Inside geometry
  held : (ring.mac.memory.drop (geometry.rxStart received.slot)).take received.length = frame

structure Undisturbed (geometry : Mac.SlotGeometry) (ring after : SimulatedRing) : Prop where
  front : after.mac.memory.take (geometry.txStart 0) = ring.mac.memory.take (geometry.txStart 0)
  pending : after.mac.writerPending = ring.mac.writerPending
  slot : after.mac.writerSlot = ring.mac.writerSlot
  length : after.mac.writerLength = ring.mac.writerLength

theorem Holding.undisturbed (holding : Holding geometry framing received frame ring)
    (proper : Proper geometry framing after) (same : Undisturbed geometry ring after) :
    Holding geometry framing received frame after := by
  have order := geometry.rx_before_tx holding.inside.1 0
  have short := holding.inside.2
  refine ⟨proper, same.pending.trans holding.pending, ?_, ?_, holding.inside, ?_⟩
  · rw [same.slot, holding.slot]
  · rw [same.length, holding.length]
  · rw [Bytes.window_of_take same.front (by omega), holding.held]

theorem Holding.received_frame (holding : Holding geometry framing received frame ring) :
    ring.receivedFrame received = .ok frame := by
  obtain ⟨exist, short⟩ := holding.inside
  have room := geometry.rx_slot_inside _ exist
  have whole : ring.mac.memory.length = geometry.length := holding.proper.good.whole
  unfold receivedFrame
  rw [holding.proper.divided, if_pos ⟨exist, short⟩]
  change Bytes.slice ring.mac.memory _ _ = _
  rw [Bytes.slice_inside _ _ _ (Nat.le_add_right _ _) (by omega), Nat.add_sub_cancel_left,
    holding.held]

theorem Holding.length_frame (holding : Holding geometry framing received frame ring) :
    frame.length = received.length := by
  obtain ⟨exist, short⟩ := holding.inside
  have room := geometry.rx_slot_inside _ exist
  have whole : ring.mac.memory.length = geometry.length := holding.proper.good.whole
  rw [← holding.held, List.length_take, List.length_drop]
  omega

theorem Proper.holds (proper : Proper geometry framing ring) {held : SimulatedRing} {log : Log}
    (polled : ring.pollReceive = .ok (some received, held, log)) :
    ∃ frame, Holding geometry framing received frame held := by
  cases taken : ring.mac.receiveNext with
  | error fault => cases polled.symm.trans (ring.poll_receive_of_fault taken)
  | ok mac =>
      have settled := (proper.good.receives.of_ok taken).1
      rcases ring.poll_receive_cases taken with
        ⟨-, made, same⟩ | ⟨event, inside, made, same⟩ | ⟨-, made, log, same⟩
      · cases polled.symm.trans same
      · cases polled.symm.trans same
        rw [proper.divided] at inside
        have pending : mac.writerPending = 1 := settled.event.resolve_left fun idle =>
          event (by rw [idle, UInt32.zero_and])
        exact ⟨_, proper.seen settled made, pending, rfl, rfl, inside, rfl⟩
      · cases polled.symm.trans same

theorem Holding.receives_nothing (holding : Holding geometry framing received frame ring) :
    ring.mac.receiveNext = .ok ring.mac := by
  refine if_pos ?_
  rw [holding.pending]
  decide

theorem Holding.polls (holding : Holding geometry framing received frame ring) :
    Returns ring.pollReceive fun answer => answer.1 = some received ∧
      Holding geometry framing received frame answer.2.1 := by
  have report : (⟨ring.mac.writerSlot.toNat, ring.mac.writerLength.toNat⟩ : Received) =
      received := by
    rw [holding.slot, holding.length]
  rcases ring.poll_receive_cases holding.receives_nothing with
    ⟨idle, -⟩ | ⟨-, -, made, same⟩ | ⟨outside, -⟩
  · rw [holding.pending] at idle
    cases idle
  · rw [report] at same
    exact ⟨_, same, rfl, holding.undisturbed (holding.proper.seen holding.proper.good made)
      ⟨rfl, rfl, rfl, rfl⟩⟩
  · rw [report, holding.proper.divided] at outside
    exact (outside holding.inside).elim

theorem Holding.performs (holding : Holding geometry framing received frame ring) (deed : Deed)
    (gentle : deed.Gentle geometry) :
    Returns (deed.perform ring) fun answer => Holding geometry framing received frame answer.2 := by
  have proper := holding.proper
  cases deed with
  | fill offset patch =>
      obtain ⟨memory, written, stored, kept, -⟩ := proper.stores offset patch gentle
      have front : geometry.txStart 0 ≤ ring.txOffset + offset := by
        rw [txOffset, proper.divided]
        exact Nat.le_trans (geometry.tx_start_le _) (Nat.le_add_right _ _)
      exact Returns.bind_ok stored (Returns.ok (holding.undisturbed kept
        ⟨Bytes.take_overwritten written front, rfl, rfl, rfl⟩))
  | transmit length =>
      by_cases sendable : Sendable framing geometry.slotSize length
      · obtain ⟨prepared, ready, sends⟩ := proper.transmits sendable
        have same : Undisturbed geometry ring prepared := by
          refine ⟨ready.front, ?_, ?_, ?_⟩ <;> rw [ready.device]
        have launched := (ready.proper.launches ready.fits).2
        exact Returns.bind_ok sends (Returns.ok (holding.undisturbed launched
          ⟨same.front, same.pending, same.slot, same.length⟩))
      · obtain ⟨log, same⟩ := proper.refuses sendable
        exact Returns.bind_ok same (Returns.ok holding)
  | poll => exact holding.polls.bind fun answer kept => Returns.ok kept.2
  | outside happening =>
      have short : happening.Short ring.mac.geometry.slotSize := by
        rw [proper.mac_divided]
        exact gentle
      have changes := (SimulatedMac.change_returns short).and
        (SimulatedMac.changed happening ring.mac)
      apply (changes.and (proper.good.changes happening)).bind
      rintro mac ⟨⟨-, same⟩, settled, -⟩
      refine Returns.ok (holding.undisturbed (proper.seen settled _) ?_)
      rw [same]
      exact ⟨rfl, rfl, rfl, rfl⟩
  | read register =>
      have reads : Returns (Mac.readRegister register ring.mac) fun answer =>
          Holding geometry framing received frame (ring.withMac answer.2) := by
        have same : Holding geometry framing received frame (ring.withMac ring.mac) := holding
        cases register with
        | writerEvent => exact ⟨_, bind_known holding.receives_nothing rfl, same⟩
        | readerReady =>
            have good := proper.good
            have settled : SimulatedMac.Settled geometry ring.mac.answerReady.2 :=
              ⟨good.divided, good.whole, good.next, good.event⟩
            exact Returns.ok (holding.undisturbed (proper.seen settled _) ⟨rfl, rfl, rfl, rfl⟩)
        | writerSlot | writerLength | readerSlot | readerLength | readerEvent | readerStart =>
            exact Returns.ok same
      exact reads.bind fun answer kept => Returns.ok kept
  | start | release received | report slot length | write register value => exact gentle.elim

theorem Holding.performs_all (holding : Holding geometry framing received frame ring)
    (deeds : List Deed) (gentle : ∀ deed ∈ deeds, deed.Gentle geometry) :
    Returns (performAll deeds ring) fun last =>
      Holding geometry framing received frame last.2 := by
  induction deeds generalizing ring with
  | nil => exact Returns.ok holding
  | cons deed deeds induction =>
      obtain ⟨first, later⟩ := List.forall_mem_cons.mp gentle
      apply (holding.performs deed first).bind
      intro answer holding
      exact (induction holding later).bind fun last holding => Returns.ok holding

/-- A poll that takes a frame off the wire puts it into one receive slot and touches no other. -/
theorem Proper.receives_apart (proper : Proper geometry framing ring) {rest : List Bytes}
    (idle : ring.mac.writerPending = 0) (arrived : ring.mac.wire = frame :: rest)
    (short : frame.length ≤ geometry.slotSize) :
    Returns ring.pollReceive fun answer => ∃ slot < geometry.rxSlots,
      (geometry.rxSlots ≤ 4294967296 → geometry.slotSize < 4294967296 →
        answer.1 = some ⟨slot, frame.length⟩) ∧
      (geometry.rxWindow slot answer.2.1.mac.memory).take frame.length = frame ∧
      (∀ other, other ≠ slot → geometry.rxWindow other answer.2.1.mac.memory =
        geometry.rxWindow other ring.mac.memory) ∧
      ∀ other, geometry.txWindow other answer.2.1.mac.memory =
        geometry.txWindow other ring.mac.memory := by
  have next : ring.mac.nextRxSlot < geometry.rxSlots := proper.good.next
  have room := geometry.rx_slot_inside _ next
  have whole : ring.mac.memory.length = geometry.length := proper.good.whole
  obtain ⟨memory, written, length⟩ := Bytes.overwrite_inside ring.mac.memory
    (geometry.rxStart ring.mac.nextRxSlot) frame (by omega)
  let mac : SimulatedMac := { ring.mac with
    wire := rest
    memory := memory
    writerSlot := UInt32.ofNat ring.mac.nextRxSlot
    writerLength := UInt32.ofNat frame.length
    writerPending := 1
    nextRxSlot := (ring.mac.nextRxSlot + 1) % ring.mac.geometry.rxSlots }
  have taken : ring.mac.receiveNext = .ok mac := by
    unfold SimulatedMac.receiveNext
    rw [if_neg (not_not.mpr idle), arrived]
    exact bind_known (proper.mac_divided ▸ written) rfl
  obtain ⟨apart, sent⟩ := geometry.received_apart next short written
  have own : (geometry.rxWindow ring.mac.nextRxSlot memory).take frame.length = frame := by
    rw [Mac.SlotGeometry.rxWindow, List.take_take, Nat.min_eq_left short]
    exact Bytes.slice_overwritten written
  -- The registers cut a number down at most, so what they report lies inside the slots.
  have cut (number : Nat) : (UInt32.ofNat number).toNat ≤ number := by
    rw [UInt32.toNat_ofNat']
    exact Nat.mod_le _ _
  rcases ring.poll_receive_cases taken with
    ⟨nothing, -⟩ | ⟨-, -, made, same⟩ | ⟨outside, -⟩
  · exact absurd nothing (show ¬(1 : UInt32) &&& Mac.eventBit = 0 by decide)
  · refine ⟨_, same, _, next, fun numbered narrow => ?_, own, apart, sent⟩
    change some (Received.mk (UInt32.ofNat ring.mac.nextRxSlot).toNat
      (UInt32.ofNat frame.length).toNat) = _
    rw [UInt32.toNat_ofNat', UInt32.toNat_ofNat', Nat.mod_eq_of_lt (by omega),
      Nat.mod_eq_of_lt (by omega)]
  · rw [proper.divided] at outside
    exact (outside ⟨Nat.lt_of_le_of_lt (cut _) next, Nat.le_trans (cut _) short⟩).elim

/-- For every division of the memory, both framing modes, and every history that did not stop: the
memory is as large as its slots. The octets of a frame that a poll reports are there, and they stay
what they are for as long as it is held, whatever is written to transmit slots, sent, polled for or
queued meanwhile. A frame that is received changes no transmit slot and no receive slot but its
own. -/
theorem slots_do_not_overlap (geometry : Mac.SlotGeometry) (framing : Bool) (history : List Deed)
    (outcomes : List Outcome) (ring : SimulatedRing)
    (reached : performAll history (created geometry framing) = .ok (outcomes, ring)) :
    ring.mac.memory.length = geometry.slotSize * (geometry.rxSlots + geometry.txSlots) ∧
    (∀ received held log, ring.pollReceive = .ok (some received, held, log) →
      Returns (held.receivedFrame received) fun frame => frame.length = received.length ∧
        ∀ deeds, (∀ deed ∈ deeds, deed.Gentle geometry) →
          Returns (performAll deeds held) fun last => last.2.receivedFrame received = .ok frame) ∧
    ∀ frame rest, ring.mac.writerPending = 0 → ring.mac.wire = frame :: rest →
      frame.length ≤ geometry.slotSize →
        Returns ring.pollReceive fun answer => ∃ slot < geometry.rxSlots,
          (geometry.rxSlots ≤ 4294967296 → geometry.slotSize < 4294967296 →
            answer.1 = some ⟨slot, frame.length⟩) ∧
          (geometry.rxWindow slot answer.2.1.mac.memory).take frame.length = frame ∧
          (∀ other, other ≠ slot → geometry.rxWindow other answer.2.1.mac.memory =
            geometry.rxWindow other ring.mac.memory) ∧
          ∀ other, geometry.txWindow other answer.2.1.mac.memory =
            geometry.txWindow other ring.mac.memory := by
  have proper : Proper geometry framing ring :=
    ((Proper.of_created geometry framing).performs_all history).of_ok reached
  refine ⟨proper.good.whole, ?_, fun frame rest idle arrived short =>
    proper.receives_apart idle arrived short⟩
  intro received held log polled
  obtain ⟨frame, holding⟩ := proper.holds polled
  refine ⟨frame, holding.received_frame, holding.length_frame, fun deeds gentle => ?_⟩
  exact (holding.performs_all deeds gentle).mono fun last kept => kept.received_frame

/-- With one receive slot, two frames on the wire and the first of them held, writing, sending and
polling leave it alone. -/
theorem only_slot_held :
    let geometry : Mac.SlotGeometry := ⟨1532, 1, 1, by decide, by decide, by decide⟩
    Returns (performAll [.outside (.arrival [1, 2, 3]), .outside (.arrival [4, 5])]
      (created geometry false)) fun last =>
      Returns last.2.pollReceive fun answer => answer.1 = some ⟨0, 3⟩ ∧
        Returns (performAll [.fill 0 [9], .transmit 60, .poll] answer.2.1) fun later =>
          later.2.receivedFrame ⟨0, 3⟩ = .ok [1, 2, 3] := by
  intro geometry
  have seen : (performAll [.outside (.arrival [1, 2, 3]), .outside (.arrival [4, 5])]
      (created geometry false)).toOption.map (fun last =>
        last.2.pollReceive.toOption.map fun answer =>
          (answer.1, (answer.2.1.receivedFrame ⟨0, 3⟩).toOption)) =
        some (some (some ⟨0, 3⟩, some [1, 2, 3])) := by decide +kernel
  obtain ⟨⟨outcomes, ring⟩, reached, reports⟩ := Returns.of_seen seen
  obtain ⟨⟨received, held, log⟩, polled, shown⟩ := Returns.of_seen reports
  obtain ⟨rfl, octets⟩ := Prod.mk.inj shown
  have taken : held.receivedFrame ⟨0, 3⟩ = .ok [1, 2, 3] := ok_of_to_option octets
  obtain ⟨-, holds, -⟩ := slots_do_not_overlap geometry false _ outcomes ring reached
  obtain ⟨frame, stands, -, stays⟩ := holds _ held log polled
  cases stands.symm.trans taken
  refine ⟨_, reached, _, polled, rfl, stays _ ?_⟩
  simp [Deed.Gentle, geometry]

end SlotRing

end InstrumentLink
