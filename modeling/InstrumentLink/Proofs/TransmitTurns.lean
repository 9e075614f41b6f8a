import InstrumentLink.Proofs.RingHistory

/-!
The transmit slots take turns.

Between two starts, the frames that are sent come out of one slot after the other, round and round,
beginning with the first. An attempt that is refused takes no turn and leaves no trace; one that is
not waits until the device is ready and starts it once, on the slot that the driver has been filling.
-/

set_option autoImplicit false

namespace InstrumentLink.SlotRing

open Simulation (SimulatedMac)
open Simulation.SimulatedMac (ThroughRegisters)

/-- What a driver that transmits does, and what may happen to it. Octets are written inside the slot,
and frames that arrive fit one. -/
def Deed.Transmits (geometry : Mac.SlotGeometry) : Deed → Prop
  | .start | .transmit _ => True
  | .fill offset patch => offset + patch.length ≤ geometry.slotSize
  | .outside happening => happening.Short geometry.slotSize
  | .poll | .release _ | .report .. | .read _ | .write .. => False

def Outcome.turn (turns : Nat) : Outcome → Nat
  | .started => 0
  | .sent => turns + 1
  | .other => turns

def turns (outcomes : List Outcome) : Nat := outcomes.foldl Outcome.turn 0

/-- A ring after so many frames since the last start, and so many at all. -/
structure AtTurn (geometry : Mac.SlotGeometry) (framing : Bool) (turns total : Nat)
    (ring : SimulatedRing) : Prop where
  proper : Proper geometry framing ring
  slot : ring.txSlot = turns % geometry.txSlots
  counted : ring.transmitted = UInt32.ofNat total

/-- One frame left the ring, out of a slot: the device was asked until it said that it is ready, and
was then started, once; nothing else was done to it. -/
structure SendsFrom (slot : Nat) (frame : Bytes) (ring after : SimulatedRing) : Prop where
  polled : after.mac.readyPolls = ring.mac.readyPolls + (ring.mac.busyPolls + 1)
  ready : after.mac.busyPolls = 0
  recorded : after.accesses = ring.accesses ++
    (if ring.softwareFrameCheck then [.store] else []) ++
    List.replicate (ring.mac.busyPolls.toNat + 1) (.read .readerReady) ++
    [.write .readerSlot (UInt32.ofNat slot), .write .readerLength (UInt32.ofNat frame.length),
      .write .readerStart 1]
  counted : after.transmitted = ring.transmitted + 1
  delivered : ∃ octets, ThroughRegisters slot frame octets ∧
    after.mac.sent = ring.mac.sent ++ [⟨slot % 4294967296, octets⟩]

theorem SendsFrom.exact {slot : Nat} {frame : Bytes} {ring after : SimulatedRing}
    (sends : SendsFrom slot frame ring after) (named : slot < 4294967296)
    (narrow : frame.length < 4294967296) : after.mac.sent = ring.mac.sent ++ [⟨slot, frame⟩] := by
  obtain ⟨octets, through, sent⟩ := sends.delivered
  rw [sent, Nat.mod_eq_of_lt named, through.exact named narrow]

variable {geometry : Mac.SlotGeometry} {framing : Bool} {turns total : Nat} {ring : SimulatedRing}

theorem Prepared.delivers {frame : Bytes} {prepared : SimulatedRing}
    (ready : Prepared geometry framing ring frame prepared) :
    ∃ octets, ThroughRegisters ring.txSlot frame octets ∧
      (prepared.launched frame.length).mac.sent =
        ring.mac.sent ++ [⟨ring.txSlot % 4294967296, octets⟩] := by
  have slot : prepared.txSlot = ring.txSlot := by rw [ready.driver]
  have sent : prepared.mac.sent = ring.mac.sent := by rw [ready.device]
  have whole : prepared.mac.memory.length = geometry.length := ready.proper.good.whole
  have cut := Nat.mod_le frame.length 4294967296
  have fits := ready.fits
  let octets := (prepared.mac.memory.drop (geometry.txStart (ring.txSlot % 4294967296))).take
    (frame.length % 4294967296)
  refine ⟨octets, ⟨?_, fun named => ?_⟩, ?_⟩
  · have exist := slot ▸ ready.proper.slot
    have named := Nat.lt_of_le_of_lt (Nat.mod_le ring.txSlot 4294967296) exist
    have room := geometry.tx_slot_inside _ named
    rw [List.length_take, List.length_drop]
    omega
  · have standing := ready.standing
    rw [slotOctets, ready.proper.divided, List.take_take, Nat.min_eq_left fits, txOffset, slot,
      ready.proper.divided] at standing
    have front : octets = frame.take (frame.length % 4294967296) := by
      rw [← standing, List.take_take, standing, Nat.min_eq_left cut]
      simp only [octets, Nat.mod_eq_of_lt named]
    rw [front]
    exact List.take_prefix _ _
  · change prepared.mac.sent ++ [⟨(UInt32.ofNat prepared.txSlot).toNat,
      (prepared.mac.memory.drop (prepared.geometry.txStart
        (UInt32.ofNat prepared.txSlot).toNat)).take (UInt32.ofNat frame.length).toNat⟩] = _
    rw [UInt32.toNat_ofNat', UInt32.toNat_ofNat', sent, slot, ready.proper.divided]

theorem Prepared.sends {frame : Bytes} {prepared : SimulatedRing}
    (ready : Prepared geometry framing ring frame prepared)
    (software : ring.softwareFrameCheck = framing) :
    SendsFrom ring.txSlot frame ring (prepared.launched frame.length) := by
  have slot : prepared.txSlot = ring.txSlot := by rw [ready.driver]
  have count : prepared.transmitted = ring.transmitted := by rw [ready.driver]
  have busy : prepared.mac.busyPolls = ring.mac.busyPolls := by rw [ready.device]
  have polls : prepared.mac.readyPolls = ring.mac.readyPolls := by rw [ready.device]
  refine ⟨?_, rfl, ?_, ?_, ready.delivers⟩
  · change prepared.mac.readyPolls + (prepared.mac.busyPolls + 1) = _
    rw [polls, busy]
  · change prepared.accesses ++ List.replicate (prepared.mac.busyPolls.toNat + 1) _ ++ _ = _
    rw [ready.recorded, busy, slot, software]
  · change prepared.transmitted + 1 = _
    rw [count]

theorem Proper.sends (proper : Proper geometry framing ring) {length : Nat}
    (sendable : Sendable framing geometry.slotSize length) :
    Returns (ring.transmit length) fun answer => answer.1 = true ∧
      SendsFrom ring.txSlot (finish framing (ring.slotOctets.take length)) ring answer.2.1 ∧
      Proper geometry framing answer.2.1 ∧
      answer.2.1.txSlot = (ring.txSlot + 1) % geometry.txSlots := by
  obtain ⟨prepared, ready, sends⟩ := proper.transmits sendable
  refine ⟨_, sends, rfl, ready.sends proper.framing, (ready.proper.launches ready.fits).2, ?_⟩
  change (prepared.txSlot + 1) % prepared.geometry.txSlots = _
  rw [ready.driver, ← proper.divided]

theorem AtTurn.performs (turn : AtTurn geometry framing turns total ring) (deed : Deed)
    (transmits : deed.Transmits geometry) :
    Returns (deed.perform ring) fun answer => AtTurn geometry framing (answer.1.turn turns)
      (total + [answer.1].count .sent) answer.2 := by
  obtain ⟨proper, slot, counted⟩ := turn
  cases deed with
  | start =>
      apply proper.starts.bind
      rintro after ⟨proper, first, same⟩
      refine Returns.ok ⟨proper, ?_, same.trans counted⟩
      rw [first]
      exact (Nat.zero_mod _).symm
  | fill offset patch =>
      obtain ⟨memory, -, stored, proper, -⟩ := proper.stores offset patch transmits
      exact Returns.bind_ok stored (Returns.ok ⟨proper, slot, counted⟩)
  | transmit length =>
      by_cases sendable : Sendable framing geometry.slotSize length
      · apply (proper.sends sendable).bind
        rintro ⟨sent, after, log⟩ ⟨rfl, sends, proper, next⟩
        refine Returns.ok ⟨proper, ?_, ?_⟩
        · rw [next, slot, Nat.mod_add_mod]
          rfl
        · rw [sends.counted, counted]
          exact (UInt32.ofNat_add total 1).symm
      · obtain ⟨log, same⟩ := proper.refuses sendable
        exact Returns.bind_ok same (Returns.ok ⟨proper, slot, counted⟩)
  | outside happening =>
      have short : happening.Short ring.mac.geometry.slotSize := by
        rw [proper.mac_divided]
        exact transmits
      apply ((SimulatedMac.change_returns short).and (proper.good.changes happening)).bind
      rintro mac ⟨-, settled, -⟩
      exact Returns.ok ⟨proper.seen settled _, slot, counted⟩
  | poll | release received | report slot length | read register | write register value =>
      exact transmits.elim

theorem AtTurn.performs_all (turn : AtTurn geometry framing turns total ring)
    (history : List Deed) (transmit : ∀ deed ∈ history, deed.Transmits geometry) :
    Returns (performAll history ring) fun answer =>
      AtTurn geometry framing (answer.1.foldl Outcome.turn turns)
        (total + answer.1.count .sent) answer.2 := by
  induction history generalizing ring turns total with
  | nil => exact Returns.ok turn
  | cons deed deeds induction =>
      obtain ⟨transmits, later⟩ := List.forall_mem_cons.mp transmit
      apply (turn.performs deed transmits).bind
      rintro ⟨outcome, next⟩ turn
      apply (induction turn later).bind
      rintro ⟨outcomes, last⟩ turn
      refine Returns.ok ?_
      have sum : total + [outcome].count .sent + outcomes.count .sent =
          total + (outcome :: outcomes).count .sent := by
        rw [Nat.add_assoc, ← List.count_append]
        rfl
      rw [← sum]
      exact turn

end InstrumentLink.SlotRing
