import InstrumentLink.Proofs.FrameHandling
import InstrumentLink.Simulation.Mac

/-!
The traffic of the simulated MAC.

What a driver does to send leaves the receive side of the device as it is, but for the answers that
the peer puts on the wire. A poll takes the frame at the front of the wire into a receive slot, and
that frame stays in its slot until the report is taken back.
-/

set_option autoImplicit false

namespace InstrumentLink.Simulation

open Mac (Reports Sender Silent Transmitter TransmitSide)

def Peer.Fits (room : Nat) : Peer → Prop
  | .silent => True
  | .script answers => ∀ answer ∈ answers, ∀ frame ∈ answer, frame.length ≤ room
  | .rule answer => ∀ sent, ∀ frame ∈ answer sent, frame.length ≤ room

theorem Peer.Fits.respond {room : Nat} {peer : Peer} (fits : peer.Fits room) (sent : Bytes) :
    (∀ frame ∈ (peer.respond sent).1, frame.length ≤ room) ∧ (peer.respond sent).2.Fits room := by
  cases peer with
  | silent => exact ⟨by simp [Peer.respond], trivial⟩
  | script answers =>
      cases answers with
      | nil => exact ⟨by simp [Peer.respond], fits⟩
      | cons answer answers => exact List.forall_mem_cons.mp fits
  | rule answer => exact ⟨fits sent, fits⟩

namespace SimulatedMac

def side (mac : SimulatedMac) : TransmitSide where
  slots := mac.memory.drop (mac.geometry.txStart 0)
  slot := mac.readerSlot
  length := mac.readerLength
  sent := mac.sent.map SentFrame.octets

/-- What was sent between two moments, and what the peer made of it. -/
inductive Traffic (mac after : SimulatedMac) : Prop where
  | silence (sent : after.sent = mac.sent) (wire : after.wire = mac.wire)
      (peer : after.peer = mac.peer)
  | exchange (frame : SentFrame) (sent : after.sent = mac.sent ++ [frame])
      (wire : after.wire = mac.wire ++ (mac.peer.respond frame.octets).1.toList)
      (peer : after.peer = (mac.peer.respond frame.octets).2)

/-- Receive slots and reports stay as they are; on the wire, answers may have arrived. -/
structure LeavesReceiver (mac after : SimulatedMac) : Prop where
  divided : after.geometry = mac.geometry
  length : after.memory.length = mac.memory.length
  slots : after.memory.take (mac.geometry.txStart 0) = mac.memory.take (mac.geometry.txStart 0)
  next : after.nextRxSlot = mac.nextRxSlot
  writerSlot : after.writerSlot = mac.writerSlot
  writerLength : after.writerLength = mac.writerLength
  pending : after.writerPending = mac.writerPending
  traffic : Traffic mac after

variable {geometry : Mac.SlotGeometry} {mac after : SimulatedMac} {frame : Bytes}
  {rest : List Bytes}

theorem LeavesReceiver.refl (mac : SimulatedMac) : LeavesReceiver mac mac :=
  ⟨rfl, rfl, rfl, rfl, rfl, rfl, rfl, .silence rfl rfl rfl⟩

theorem answer_ready_of_busy (busy : mac.busyPolls ≠ 0) :
    mac.answerReady.1 = 0 ∧ mac.answerReady.2.busyPolls = mac.busyPolls - 1 ∧
      (mac.busyPolls - 1).toNat + 1 = mac.busyPolls.toNat := by
  unfold answerReady
  rw [if_neg busy]
  refine ⟨rfl, if_neg busy, ?_⟩
  have one : (1 : UInt32).toNat = 1 := rfl
  have polls : mac.busyPolls.toNat ≠ 0 := fun zero => busy (UInt32.toNat_inj.mp zero)
  rw [UInt32.toNat_sub_of_le _ _ (UInt32.le_iff_toNat_le.mpr (by omega))]
  omega

theorem answer_ready_patience (waits : mac.answerReady.1 = 0) :
    mac.answerReady.2.busyPolls.toNat < mac.busyPolls.toNat := by
  have busy : mac.busyPolls ≠ 0 := by
    intro idle
    rw [answerReady, if_pos idle] at waits
    cases waits
  obtain ⟨-, less, count⟩ := answer_ready_of_busy busy
  rw [less]
  omega

theorem read_leaves (register : Mac.Register) (mac : SimulatedMac)
    (other : register ≠ .writerEvent) :
    Yields (Mac.readRegister register mac) fun answer => LeavesReceiver mac answer.2 := by
  cases register with
  | writerEvent => exact (other rfl).elim
  | writerSlot | writerLength | readerReady | readerSlot | readerLength | readerEvent
  | readerStart => exact ⟨rfl, rfl, rfl, rfl, rfl, rfl, rfl, .silence rfl rfl rfl⟩

theorem start_leaves (mac : SimulatedMac) : Yields mac.startReader (LeavesReceiver mac) := by
  unfold startReader
  dsimp only
  split
  · apply (Yields.intro _).bind
    intro octets _
    exact ⟨rfl, rfl, rfl, rfl, rfl, rfl, rfl, .exchange ⟨_, octets⟩ rfl rfl rfl⟩
  · trivial

theorem write_leaves (register : Mac.Register) (value : UInt32) (mac : SimulatedMac)
    (other : register ≠ .writerEvent) :
    Yields (Mac.writeRegister register value mac) (LeavesReceiver mac) := by
  cases register with
  | writerEvent => exact (other rfl).elim
  | readerStart =>
      change Yields (if value = 0 then .ok mac else mac.startReader) _
      split
      · exact .refl mac
      · exact start_leaves mac
  | writerSlot | writerLength | readerReady | readerSlot | readerLength | readerEvent =>
      exact ⟨rfl, rfl, rfl, rfl, rfl, rfl, rfl, .silence rfl rfl rfl⟩

theorem set_memory_leaves (octets : Bytes) (mac : SimulatedMac)
    (length : octets.length = mac.memory.length)
    (front : octets.take (mac.geometry.txStart 0) = mac.memory.take (mac.geometry.txStart 0)) :
    LeavesReceiver mac (Mac.setMemory octets mac) :=
  ⟨rfl, length, front, rfl, rfl, rfl, rfl, .silence rfl rfl rfl⟩

theorem sender_of_leaves {Good : SimulatedMac → Prop}
    (divided : ∀ mac, Good mac → mac.geometry = geometry)
    (whole : ∀ mac, Good mac → mac.memory.length = geometry.length)
    (leaves : ∀ mac after, Good mac → LeavesReceiver mac after → Good after) :
    Sender geometry Good side where
  large := whole
  slots := fun mac good => by
    rw [← divided mac good]
    rfl
  ready := fun mac good => Returns.ok
    ⟨leaves mac _ good (read_leaves .readerReady mac (by decide)), rfl, answer_ready_patience⟩
  choose := fun mac value good => Returns.ok
    ⟨leaves mac _ good (write_leaves .readerSlot value mac (by decide)), rfl⟩
  measure := fun mac value good => Returns.ok
    ⟨leaves mac _ good (write_leaves .readerLength value mac (by decide)), rfl⟩
  start := fun mac good slot length => by
    change Returns (mac.startReader) _
    change mac.readerSlot.toNat < _ at slot
    change mac.readerLength.toNat ≤ _ at length
    have room := geometry.tx_slot_inside mac.readerSlot.toNat slot
    have size := whole mac good
    have same := divided mac good
    have sends : Returns mac.startReader fun after => after.side =
        { mac.side with sent := mac.side.sent ++ [mac.side.chosen geometry] } := by
      unfold startReader
      dsimp only
      rw [same, if_pos ⟨slot, length⟩, Bytes.slice_inside _ _ _ (Nat.le_add_right _ _) (by omega),
        Nat.add_sub_cancel_left]
      apply Returns.ok
      simp [side, TransmitSide.chosen, geometry.drop_tx_start, same]
    exact (sends.and (start_leaves mac)).mono fun after kept =>
      ⟨leaves mac after good kept.2, kept.1⟩
  set_memory := fun mac octets good length front => by
    rw [← divided mac good] at front ⊢
    exact ⟨leaves mac _ good (set_memory_leaves octets mac length front), rfl⟩

theorem transmitter_of_leaves {Good : SimulatedMac → Prop} (named : geometry.txSlots ≤ 4294967296)
    (divided : ∀ mac, Good mac → mac.geometry = geometry)
    (whole : ∀ mac, Good mac → mac.memory.length = geometry.length)
    (leaves : ∀ mac after, Good mac → LeavesReceiver mac after → Good after) :
    Transmitter geometry Good side :=
  ⟨sender_of_leaves divided whole leaves, named⟩

/-- The octets that a driver finds where the registers point. -/
def named (mac : SimulatedMac) : Bytes :=
  (mac.memory.drop (mac.geometry.rxStart mac.writerSlot.toNat)).take mac.writerLength.toNat

def reported (mac : SimulatedMac) : Option Bytes :=
  if mac.writerPending = 0 then none else some mac.named

/-- The invariant of a device on which only frames arrive that fit a slot. -/
structure Sane (geometry : Mac.SlotGeometry) (mac : SimulatedMac) : Prop where
  divided : mac.geometry = geometry
  whole : mac.memory.length = geometry.length
  next : mac.nextRxSlot < geometry.rxSlots
  wire : ∀ frame ∈ mac.wire, frame.length ≤ geometry.slotSize
  peer : mac.peer.Fits geometry.slotSize
  event : mac.writerPending = 0 ∨ mac.writerPending = 1
  /-- A report names octets of the receive slots. -/
  report : mac.writerPending ≠ 0 →
    geometry.rxStart mac.writerSlot.toNat + mac.writerLength.toNat ≤ geometry.txStart 0

theorem Traffic.fits (traffic : Traffic mac after) {room : Nat}
    (wire : ∀ frame ∈ mac.wire, frame.length ≤ room) (peer : mac.peer.Fits room) :
    (∀ frame ∈ after.wire, frame.length ≤ room) ∧ after.peer.Fits room := by
  cases traffic with
  | silence sent same kept =>
      rw [same, kept]
      exact ⟨wire, peer⟩
  | exchange frame sent same kept =>
      obtain ⟨answers, later⟩ := peer.respond frame.octets
      rw [same, kept]
      refine ⟨List.forall_mem_append.mpr ⟨wire, fun answer member => ?_⟩, later⟩
      exact answers answer (Option.mem_toList.mp member)

theorem Traffic.arrives (traffic : Traffic mac after) :
    ∃ arrived, after.wire = mac.wire ++ arrived := by
  cases traffic with
  | silence sent same kept => exact ⟨[], same.trans (List.append_nil _).symm⟩
  | exchange frame sent same kept => exact ⟨_, same⟩

theorem Sane.leaves (sane : Sane geometry mac) (leaves : LeavesReceiver mac after) :
    Sane geometry after := by
  obtain ⟨wire, peer⟩ := leaves.traffic.fits sane.wire sane.peer
  refine ⟨leaves.divided.trans sane.divided, leaves.length.trans sane.whole, ?_, wire, peer, ?_, ?_⟩
  · rw [leaves.next]
    exact sane.next
  · rw [leaves.pending]
    exact sane.event
  · rw [leaves.pending, leaves.writerSlot, leaves.writerLength]
    exact sane.report

theorem Sane.leaves_reported (sane : Sane geometry mac) (leaves : LeavesReceiver mac after) :
    after.reported = mac.reported := by
  have front := leaves.slots
  unfold reported named
  rw [leaves.pending, leaves.writerSlot, leaves.writerLength, leaves.divided, sane.divided]
  rw [sane.divided] at front
  split
  · rfl
  · next pending => exact congrArg some (Bytes.window_of_take front (sane.report pending))

theorem Sane.sender : Sender geometry (Sane geometry) side :=
  sender_of_leaves (fun _ sane => sane.divided) (fun _ sane => sane.whole)
    fun _ _ sane leaves => sane.leaves leaves

/-- The device copied the frame at the front of its wire into the next receive slot. Its registers
name that slot and the length of the frame as far as they are wide. -/
structure Fetches (geometry : Mac.SlotGeometry) (frame : Bytes) (rest : List Bytes)
    (mac polled : SimulatedMac) : Prop where
  sane : Sane geometry polled
  pending : polled.writerPending = 1
  slot : polled.writerSlot.toNat = mac.nextRxSlot % 4294967296
  length : polled.writerLength.toNat = frame.length % 4294967296
  written : Bytes.overwrite mac.memory (geometry.rxStart mac.nextRxSlot) frame = .ok polled.memory
  next : polled.nextRxSlot = (mac.nextRxSlot + 1) % geometry.rxSlots
  wire : polled.wire = rest
  peer : polled.peer = mac.peer
  sent : polled.sent = mac.sent

/-- The device took a frame from the front of its wire and reports it. -/
structure Takes (geometry : Mac.SlotGeometry) (frame : Bytes) (rest : List Bytes)
    (mac polled : SimulatedMac) : Prop where
  sane : Sane geometry polled
  pending : polled.writerPending = 1
  slot : polled.writerSlot.toNat < geometry.rxSlots
  length : polled.writerLength.toNat = frame.length
  held : (polled.memory.drop (geometry.rxStart polled.writerSlot.toNat)).take frame.length = frame
  wire : polled.wire = rest
  peer : polled.peer = mac.peer
  sent : polled.sent = mac.sent

theorem polls_nothing (idle : mac.writerPending = 0) (empty : mac.wire = []) :
    Mac.readRegister .writerEvent mac = .ok (0, mac) := by
  have received : mac.receiveNext = .ok mac := by
    unfold receiveNext
    rw [if_neg (not_not.mpr idle), empty]
    rfl
  exact (bind_known received rfl).trans (congrArg (fun event => Except.ok (event, mac)) idle)

theorem Sane.fetches (sane : Sane geometry mac) (idle : mac.writerPending = 0)
    (arrived : mac.wire = frame :: rest) :
    Returns mac.receiveNext (Fetches geometry frame rest mac) := by
  have room := geometry.rx_slot_inside mac.nextRxSlot sane.next
  have whole := sane.whole
  have wire := sane.wire
  rw [arrived] at wire
  obtain ⟨short, fits⟩ := List.forall_mem_cons.mp wire
  obtain ⟨memory, written, length⟩ := Bytes.overwrite_inside mac.memory
    (geometry.rxStart mac.nextRxSlot) frame (by omega)
  have slot : (UInt32.ofNat mac.nextRxSlot).toNat = mac.nextRxSlot % 4294967296 :=
    UInt32.toNat_ofNat'
  have octets : (UInt32.ofNat frame.length).toNat = frame.length % 4294967296 :=
    UInt32.toNat_ofNat'
  have named := Nat.lt_of_le_of_lt (Nat.mod_le mac.nextRxSlot 4294967296) sane.next
  have inside := geometry.rx_before_tx named 0
  have measured := Nat.mod_le frame.length 4294967296
  unfold receiveNext
  rw [if_neg (not_not.mpr idle), arrived, sane.divided]
  dsimp only
  apply Returns.bind_ok written
  refine Returns.ok ⟨⟨rfl, length.trans whole, ?_, fits, sane.peer, .inr rfl, fun _ => ?_⟩, rfl,
    slot, octets, written, rfl, rfl, rfl, rfl⟩
  · exact Nat.mod_lt _ geometry.has_rx_slot
  · rw [slot, octets]
    omega

/-- The registers name the slot and the length exactly where they are wide enough. -/
theorem Fetches.takes (fetches : Fetches geometry frame rest mac after)
    (next : mac.nextRxSlot < geometry.rxSlots) (numbered : geometry.rxSlots ≤ 4294967296)
    (narrow : frame.length < 4294967296) : Takes geometry frame rest mac after := by
  have slot : after.writerSlot.toNat = mac.nextRxSlot := by
    rw [fetches.slot, Nat.mod_eq_of_lt (by omega)]
  have length := fetches.length
  rw [Nat.mod_eq_of_lt narrow] at length
  have held := Bytes.slice_overwritten fetches.written
  exact ⟨fetches.sane, fetches.pending, slot ▸ next, length, slot ▸ held, fetches.wire,
    fetches.peer, fetches.sent⟩

theorem Sane.receives (sane : Sane geometry mac) (numbered : geometry.rxSlots ≤ 4294967296)
    (narrow : frame.length < 4294967296) (idle : mac.writerPending = 0)
    (arrived : mac.wire = frame :: rest) :
    Returns mac.receiveNext (Takes geometry frame rest mac) :=
  (sane.fetches idle arrived).mono fun _ fetches => fetches.takes sane.next numbered narrow

theorem Takes.reports {Good : SimulatedMac → Prop} (takes : Takes geometry frame rest mac after)
    (polled : Mac.readRegister .writerEvent mac = .ok (1, after)) (good : Good after) :
    Reports geometry Good side frame mac := by
  have event : (1 : UInt32) &&& Mac.eventBit ≠ 0 := by decide
  have sent : after.side.sent = mac.side.sent := congrArg (List.map SentFrame.octets) takes.sent
  exact ⟨_, polled, event, _, rfl, takes.slot, _, rfl, takes.length, good, sent, takes.held⟩

/-- What passes of a frame in a slot when registers of 32 bits name the slot and the length. Its
length is cut to their width; the octets are those of the frame where the number of the slot is not
cut. -/
def ThroughRegisters (slot : Nat) (frame octets : Bytes) : Prop :=
  octets.length = frame.length % 4294967296 ∧ (slot < 4294967296 → octets <+: frame)

theorem ThroughRegisters.exact {slot : Nat} {octets : Bytes}
    (read : ThroughRegisters slot frame octets) (numbered : slot < 4294967296)
    (narrow : frame.length < 4294967296) : octets = frame :=
  (read.2 numbered).eq_of_length (by rw [read.1, Nat.mod_eq_of_lt narrow])

theorem Fetches.reported (fetches : Fetches geometry frame rest mac after) :
    after.reported = some after.named := by
  unfold SimulatedMac.reported
  rw [if_neg (by rw [fetches.pending]; decide)]

theorem Fetches.length_named (fetches : Fetches geometry frame rest mac after) :
    after.named.length = after.writerLength.toNat := by
  have inside := fetches.sane.report (by rw [fetches.pending]; decide)
  have whole := fetches.sane.whole
  have front := geometry.tx_slot_inside 0 geometry.has_tx_slot
  rw [named, fetches.sane.divided, List.length_take, List.length_drop]
  omega

theorem Fetches.through_registers (fetches : Fetches geometry frame rest mac after) :
    ThroughRegisters mac.nextRxSlot frame after.named := by
  refine ⟨fetches.length_named.trans fetches.length, fun numbered => ?_⟩
  have slot := fetches.slot
  rw [Nat.mod_eq_of_lt numbered] at slot
  have cut : after.writerLength.toNat ≤ frame.length := by
    rw [fetches.length]
    exact Nat.mod_le _ _
  have held := Bytes.slice_overwritten fetches.written
  have taken : after.named = frame.take after.writerLength.toNat := by
    rw [← held, List.take_take, Nat.min_eq_left cut, ← slot, named, fetches.sane.divided]
  rw [taken]
  exact List.take_prefix _ _

theorem Fetches.polls (fetches : Fetches geometry frame rest mac after)
    (received : mac.receiveNext = .ok after) :
    Mac.readRegister .writerEvent mac = .ok (1, after) :=
  (bind_known received rfl).trans
    (congrArg (fun event => Except.ok (event, after)) fetches.pending)

theorem Fetches.inside (fetches : Fetches geometry frame rest mac after)
    (sane : Sane geometry mac) (short : frame.length ≤ geometry.slotSize) :
    after.writerSlot.toNat < geometry.rxSlots ∧ after.named.length ≤ geometry.slotSize := by
  rw [fetches.slot, fetches.length_named, fetches.length]
  exact ⟨Nat.lt_of_le_of_lt (Nat.mod_le _ _) sane.next, Nat.le_trans (Nat.mod_le _ _) short⟩

/-- The next poll takes the frame at the front of the wire. -/
theorem Sane.polls (sane : Sane geometry mac) (numbered : geometry.rxSlots ≤ 4294967296)
    (narrow : frame.length < 4294967296) (idle : mac.writerPending = 0)
    (arrived : mac.wire = frame :: rest) :
    Returns (Mac.readRegister .writerEvent mac) fun polled =>
      polled.1 = 1 ∧ Takes geometry frame rest mac polled.2 :=
  (sane.receives numbered narrow idle arrived).bind fun _ takes =>
    Returns.ok ⟨takes.pending, takes⟩

end SimulatedMac

end InstrumentLink.Simulation
