import InstrumentLink.Proofs.FrameCounts
import InstrumentLink.Proofs.SimulatedTraffic
import InstrumentLink.Proofs.StaleOctets
import InstrumentLink.Proofs.TwinLinks

/-!
Two simulated MACs side by side.

What shows of a simulated MAC is what it sent, what is on its wire, and its peer. Two drivers that
are about to use the same transmit slot, on devices with the same wire and the same peer, send the
same frames from the same slots and receive the same. Which receive slot is next, what the slots
hold and how busy the devices are makes no difference.
-/

set_option autoImplicit false

namespace InstrumentLink.Simulation.SimulatedMac

open Mac (Transmitter)
open SlotRing (Paced Paces Transmitting)

structure Talk where
  sent : List SentFrame
  wire : List Bytes
  peer : Peer

def talk (mac : SimulatedMac) : Talk := ⟨mac.sent, mac.wire, mac.peer⟩

/-- A frame is sent from a slot, and the peer may answer. -/
def Talk.said (slot : Nat) (octets : Bytes) (talk : Talk) : Talk where
  sent := talk.sent ++ [⟨slot, octets⟩]
  wire := talk.wire ++ (talk.peer.respond octets).1.toList
  peer := (talk.peer.respond octets).2

/-- What shows of a simulated MAC and its driver. -/
structure Turn where
  slots : Nat
  slot : Nat
  talk : Talk

def turn (ring : SlotRing SimulatedMac) : Turn :=
  ⟨ring.geometry.txSlots, ring.txSlot, ring.device.talk⟩

/-- A frame is sent from the slot whose turn it is, as the slot register names it. -/
def Turn.passed (octets : Bytes) (turn : Turn) : Turn where
  slots := turn.slots
  slot := (turn.slot + 1) % turn.slots
  talk := turn.talk.said (UInt32.ofNat turn.slot).toNat octets

theorem await_ready_talk (attempts : Nat) (mac : SimulatedMac) :
    Yields (Mac.awaitReady attempts mac) fun after => after.talk = mac.talk := by
  induction attempts generalizing mac with
  | zero => trivial
  | succ attempts induction =>
      unfold Mac.awaitReady
      apply Yields.bind_ok (show Mac.isReady mac = .ok _ from rfl)
      dsimp only
      split
      · exact rfl
      · exact induction _

theorem start_talk (mac : SimulatedMac) : Yields mac.startReader fun after =>
    ∃ octets, after.talk = mac.talk.said mac.readerSlot.toNat octets := by
  unfold startReader
  dsimp only
  split
  · exact (Yields.intro _).bind fun octets _ => ⟨octets, rfl⟩
  · trivial

theorem paced_turn : Paced turn fun before after => ∃ octets, after = before.passed octets where
  store := fun ring offset patch => by
    unfold SlotRing.store
    split
    · exact (Yields.intro _).bind fun memory _ => rfl
    · trivial
  launch := fun ring length => by
    unfold SlotRing.launch
    apply (await_ready_talk _ ring.device).bind
    intro ready same
    apply Yields.bind_ok rfl
    apply Yields.bind_ok rfl
    apply (start_talk _).bind
    rintro started ⟨octets, said⟩
    refine ⟨octets, congrArg (Turn.mk _ _) (said.trans ?_)⟩
    exact congrArg (Talk.said _ octets) same

/-- It is the turn of the same slot, and the same shows since two moments. -/
structure Turn.Beside (start otherStart : List SentFrame) (turn other : Turn) : Prop where
  slots : turn.slots = other.slots
  slot : turn.slot = other.slot
  sent : SameSince start otherStart turn.talk.sent other.talk.sent
  wire : turn.talk.wire = other.talk.wire
  peer : turn.talk.peer = other.talk.peer

namespace Turn.Beside

variable {start otherStart : List SentFrame} {turn other : Turn}

theorem passed (beside : Turn.Beside start otherStart turn other) (octets : Bytes) :
    Turn.Beside start otherStart (turn.passed octets) (other.passed octets) := by
  obtain ⟨slots, slot, talk⟩ := turn
  obtain ⟨otherSlots, otherSlot, otherTalk⟩ := other
  obtain ⟨rfl, rfl, sent, wire, peer⟩ := beside
  dsimp only at sent wire peer
  refine ⟨rfl, rfl, sent.append _, ?_, ?_⟩
  · simp only [Turn.passed, Talk.said, wire, peer]
  · simp only [Turn.passed, Talk.said, peer]

theorem octets (beside : Turn.Beside start otherStart turn other) :
    SameSince (start.map SentFrame.octets) (otherStart.map SentFrame.octets)
      (turn.talk.sent.map SentFrame.octets) (other.talk.sent.map SentFrame.octets) := by
  obtain ⟨frames, same, otherSame⟩ := beside.sent
  rw [same, otherSame]
  exact ⟨frames.map SentFrame.octets, List.map_append, List.map_append⟩

theorem passed_eq (beside : Turn.Beside start otherStart turn other) {octets otherOctets : Bytes}
    (after : SameSince (start.map SentFrame.octets) (otherStart.map SentFrame.octets)
      ((turn.passed octets).talk.sent.map SentFrame.octets)
      ((other.passed otherOctets).talk.sent.map SentFrame.octets)) :
    octets = otherOctets := by
  obtain ⟨frames, same, otherSame⟩ := beside.octets
  obtain ⟨later, sent, otherSent⟩ := after
  simp only [Turn.passed, Talk.said, List.map_append, same, otherSame, List.append_assoc,
    List.append_cancel_left_eq] at sent otherSent
  simpa using sent.trans otherSent.symm

end Turn.Beside

structure Waiting (geometry : Mac.SlotGeometry) (pending : UInt32) (mac : SimulatedMac) : Prop where
  sane : Sane geometry mac
  pending : mac.writerPending = pending

structure Settled (geometry : Mac.SlotGeometry) (mac : SimulatedMac) : Prop where
  divided : mac.geometry = geometry
  whole : mac.memory.length = geometry.length
  next : mac.nextRxSlot < geometry.rxSlots
  event : mac.writerPending = 0 ∨ mac.writerPending = 1

theorem Sane.settled {geometry : Mac.SlotGeometry} {mac : SimulatedMac}
    (sane : Sane geometry mac) : Settled geometry mac :=
  ⟨sane.divided, sane.whole, sane.next, sane.event⟩

theorem Settled.cleared {geometry : Mac.SlotGeometry} {mac : SimulatedMac}
    (settled : Settled geometry mac) : mac.writerPending &&& ~~~Mac.eventBit = 0 := by
  rcases settled.event with idle | pending
  · rw [idle, UInt32.zero_and]
  · rw [pending]
    decide

section Device

variable {geometry : Mac.SlotGeometry} {pending : UInt32} {framing : Bool} {frame : Bytes}
  {rest : List Bytes} {ring other : SlotRing SimulatedMac}

theorem Waiting.queued {mac : SimulatedMac} (waiting : Waiting geometry pending mac)
    (short : frame.length ≤ geometry.slotSize) :
    Waiting geometry pending { mac with wire := mac.wire ++ [frame] } :=
  have sane := waiting.sane
  ⟨⟨sane.divided, sane.whole, sane.next,
    List.forall_mem_append.mpr ⟨sane.wire, List.forall_mem_singleton.mpr short⟩, sane.peer,
    sane.event, sane.report⟩, waiting.pending⟩

theorem Waiting.transmitter (named : geometry.txSlots ≤ 4294967296) :
    Transmitter geometry (Waiting geometry pending) side :=
  transmitter_of_leaves named (fun _ waiting => waiting.sane.divided)
    (fun _ waiting => waiting.sane.whole) fun _ _ waiting leaves =>
      ⟨waiting.sane.leaves leaves, leaves.pending.trans waiting.pending⟩

theorem Settled.starts (settled : Settled geometry ring.device)
    (divided : ring.geometry = geometry) (software : ring.softwareFrameCheck = framing)
    (wire : ∀ frame ∈ ring.device.wire, frame.length ≤ geometry.slotSize)
    (peer : ring.device.peer.Fits geometry.slotSize) :
    Returns ring.start fun after => Transmitting geometry (Waiting geometry 0) framing after ∧
      turn after = { turn ring with slot := 0 } := by
  have clear := settled.cleared
  refine Returns.ok ⟨⟨divided, software, geometry.has_tx_slot, ⟨settled.divided, settled.whole,
    settled.next, wire, peer, .inl clear, fun pending => (pending clear).elim⟩, clear⟩, rfl⟩

theorem releases (sound : Transmitting geometry (Waiting geometry 1) framing ring) :
    Returns ring.acknowledge fun after =>
      Transmitting geometry (Waiting geometry 0) framing after ∧ turn after = turn ring := by
  have sane := sound.good.sane
  have clear : ring.device.writerPending &&& ~~~Mac.eventBit = 0 := by
    rw [sound.good.pending]
    decide
  exact Returns.ok ⟨⟨sound.divided, sound.framing, sound.slot, ⟨sane.divided, sane.whole, sane.next,
    sane.wire, sane.peer, .inl clear, fun pending => (pending clear).elim⟩, clear⟩, rfl⟩

theorem poll_nothing (idle : ring.device.writerPending = 0) (empty : ring.device.wire = []) :
    ring.pollReceive = .ok (none, ring, []) := by
  unfold SlotRing.pollReceive
  exact bind_known (polls_nothing idle empty) (if_pos UInt32.zero_and)

theorem Takes.talk {mac polled : SimulatedMac} (takes : Takes geometry frame rest mac polled) :
    polled.talk = { mac.talk with wire := rest } := by
  simp only [SimulatedMac.talk, takes.sent, takes.wire, takes.peer]

theorem poll_frame (numbered : geometry.rxSlots ≤ 4294967296)
    (narrow : geometry.slotSize < 4294967296)
    (sound : Transmitting geometry (Waiting geometry 0) framing ring)
    (arrived : ring.device.wire = frame :: rest) :
    Returns ring.pollReceive fun answer =>
      Transmitting geometry (Waiting geometry 1) framing answer.2.1 ∧
      turn answer.2.1 = { turn ring with talk.wire := rest } ∧
      ∃ received, answer.1 = some received ∧ answer.2.1.receivedFrame received = .ok frame := by
  obtain ⟨sane, idle⟩ := sound.good
  have short : frame.length ≤ geometry.slotSize :=
    sane.wire frame (by rw [arrived]; exact List.mem_cons_self)
  obtain ⟨⟨event, polled⟩, polling, rfl, takes⟩ :=
    sane.polls numbered (Nat.lt_of_le_of_lt short narrow) idle arrived
  let Taken : SimulatedMac → Prop := fun mac => Waiting geometry 1 mac ∧
    mac.talk = { ring.device.talk with wire := rest }
  have taken : Taken polled := ⟨⟨takes.sane, takes.pending⟩, takes.talk⟩
  have reporting := takes.reports polling taken
  have polls := (sound.of_device reporting).polls (fun mac good => good.1.sane.whole) short
  apply (polls.and ring.poll_receive_changes_device).mono
  rintro ⟨found, after, log⟩ ⟨⟨sound, -, held⟩, device, rfl⟩
  refine ⟨sound.of_device sound.good.1, ?_, held⟩
  exact congrArg (Turn.mk _ _) sound.good.2

end Device

section Twins

variable {geometry : Mac.SlotGeometry} {framing : Bool} {start otherStart : List SentFrame}
  {pending : UInt32} {ring other : SlotRing SimulatedMac}

def Rings (geometry : Mac.SlotGeometry) (framing : Bool) (start otherStart : List SentFrame)
    (pending : UInt32) (ring other : SlotRing SimulatedMac) : Prop :=
  (Transmitting geometry (Waiting geometry pending) framing ring ∧
    Transmitting geometry (Waiting geometry pending) framing other ∧
    SentSame (start.map SentFrame.octets) (otherStart.map SentFrame.octets)
      (ring.view side).sent (other.view side).sent) ∧
  Turn.Beside start otherStart (turn ring) (turn other)

theorem Rings.of_turns (sound : Transmitting geometry (Waiting geometry pending) framing ring)
    (otherSound : Transmitting geometry (Waiting geometry pending) framing other)
    (turns : Turn.Beside start otherStart (turn ring) (turn other)) :
    Rings geometry framing start otherStart pending ring other :=
  ⟨⟨sound, otherSound, turns.octets⟩, turns⟩

theorem twin_ports (named : geometry.txSlots ≤ 4294967296) {interface : Interface}
    (placed : interface.Placed) (start otherStart : List SentFrame) (pending : UInt32) :
    TwinPorts interface interface
      (Rings geometry interface.softwareFraming start otherStart pending) := by
  have transmitter : Transmitter geometry (Waiting geometry pending) side :=
    Waiting.transmitter named
  apply (SlotRing.twin_rings transmitter placed (start.map SentFrame.octets)
    (otherStart.map SentFrame.octets)).along
  · intro frame ring other answer otherAnswer _ beside sent otherSent yes shown
    have passed := (paced_turn.send_frame interface frame ring).of_ok sent
    have otherPassed := (paced_turn.send_frame interface frame other).of_ok otherSent
    have same : SameSince (start.map SentFrame.octets) (otherStart.map SentFrame.octets)
        ((turn answer.2.1).talk.sent.map SentFrame.octets)
        ((turn otherAnswer.2.1).talk.sent.map SentFrame.octets) := shown.2.2
    rw [← yes] at otherPassed
    cases answered : answer.1 with
    | true =>
        rw [answered] at passed otherPassed
        obtain ⟨octets, passed⟩ := passed
        obtain ⟨otherOctets, otherPassed⟩ := otherPassed
        rw [passed, otherPassed] at same
        rw [passed, otherPassed, beside.passed_eq same]
        exact beside.passed _
    | false =>
        rw [answered] at passed otherPassed
        rw [show turn answer.2.1 = _ from passed, show turn otherAnswer.2.1 = _ from otherPassed]
        exact beside
  · intro patch ring other stored otherStored beside kept otherKept
    rw [(paced_turn.store_payload interface 0 patch ring).of_ok kept,
      (paced_turn.store_payload interface 0 patch other).of_ok otherKept]
    exact beside

theorem Rings.inject_alike (rings : Rings geometry framing start otherStart pending ring other)
    (frame : Bytes) :
    Alike (fun device otherDevice => Rings geometry framing start otherStart pending
        { ring with device } { other with device := otherDevice })
      (ring.device.inject frame) (other.device.inject frame) := by
  obtain ⟨⟨sound, otherSound, -⟩, turns⟩ := rings
  unfold inject
  rw [congrArg Mac.SlotGeometry.slotSize sound.good.sane.divided,
    congrArg Mac.SlotGeometry.slotSize otherSound.good.sane.divided]
  by_cases short : frame.length ≤ geometry.slotSize
  · rw [if_pos short, if_pos short]
    have arrives {ring : SlotRing SimulatedMac}
        (sound : Transmitting geometry (Waiting geometry pending) framing ring) :
        Transmitting geometry (Waiting geometry pending) framing
          { ring with device := { ring.device with wire := ring.device.wire ++ [frame] } } :=
      ⟨sound.divided, sound.framing, sound.slot, sound.good.queued short⟩
    exact Alike.ok (.of_turns (arrives sound) (arrives otherSound)
      ⟨turns.slots, turns.slot, turns.sent, congrArg (· ++ [frame]) turns.wire, turns.peer⟩)
  · rw [if_neg short, if_neg short]
    exact rfl

theorem Rings.poll_alike (numbered : geometry.rxSlots ≤ 4294967296)
    (narrow : geometry.slotSize < 4294967296) (interface : Interface)
    (rings : Rings geometry framing start otherStart 0 ring other) :
    Alike (PolledAlike interface interface (Rings geometry framing start otherStart 0)
      (Rings geometry framing start otherStart 1)) ring.pollReceive other.pollReceive := by
  have turns := rings.2
  have wire : ring.device.wire = other.device.wire := turns.wire
  cases arrived : ring.device.wire with
  | nil =>
      rw [poll_nothing rings.1.1.good.pending arrived,
        poll_nothing rings.1.2.1.good.pending (wire.symm.trans arrived)]
      exact Alike.ok (.nothing rings)
  | cons frame rest =>
      apply Alike.of_returns (poll_frame numbered narrow rings.1.1 arrived)
        (poll_frame numbered narrow rings.1.2.1 (wire.symm.trans arrived))
      rintro ⟨_, after, log⟩ ⟨_, otherAfter, otherLog⟩ ⟨sound, polled, received, rfl, held⟩
        ⟨otherSound, otherPolled, otherReceived, rfl, otherHeld⟩
      have beside : Turn.Beside start otherStart (turn after) (turn otherAfter) := by
        rw [polled, otherPolled]
        exact ⟨turns.slots, turns.slot, turns.sent, rfl, turns.peer⟩
      exact .frame (.of_turns sound otherSound beside) held otherHeld
        ⟨rfl, fun _ _ _ _ _ => Iff.rfl⟩

theorem twin_rings (named : geometry.txSlots ≤ 4294967296)
    (numbered : geometry.rxSlots ≤ 4294967296) (narrow : geometry.slotSize < 4294967296)
    {interface : Interface} (placed : interface.Placed) (start otherStart : List SentFrame) :
    TwinRings interface interface
      (Rings geometry interface.softwareFraming start otherStart 0)
      (Rings geometry interface.softwareFraming start otherStart 1) where
  idle := twin_ports named placed start otherStart 0
  holding := twin_ports named placed start otherStart 1
  starts := fun ring other rings => by
    have sane := rings.1.1.good.sane
    have otherSane := rings.1.2.1.good.sane
    apply Alike.of_returns
      (sane.settled.starts rings.1.1.divided rings.1.1.framing sane.wire sane.peer)
      (otherSane.settled.starts rings.1.2.1.divided rings.1.2.1.framing otherSane.wire
        otherSane.peer)
    rintro after otherAfter ⟨sound, same⟩ ⟨otherSound, otherSame⟩
    apply Rings.of_turns sound otherSound
    rw [same, otherSame]
    exact ⟨rings.2.slots, rfl, rings.2.sent, rings.2.wire, rings.2.peer⟩
  polls := fun ring other rings => rings.poll_alike numbered narrow interface
  releases := fun ring other rings => by
    apply Alike.of_returns (releases rings.1.1) (releases rings.1.2.1)
    rintro after otherAfter ⟨sound, same⟩ ⟨otherSound, otherSame⟩
    apply Rings.of_turns sound otherSound
    rw [same, otherSame]
    exact rings.2

end Twins

end InstrumentLink.Simulation.SimulatedMac
