import InstrumentLink.Proofs.AtomicSending
import InstrumentLink.Proofs.FramingInverse
import InstrumentLink.Proofs.SimulatedHistory

/-!
A slot ring on a simulated MAC, and what may happen to it.

The driver starts the ring, fills slots, sends and receives; frames arrive, the device gets busy, and
an experiment may reach past the driver to the registers. Whatever happens, the ring's next transmit
slot and the device's next receive slot exist, and the memory is as large as its slots. What an
operation of the driver makes of such a ring is written out once, as the ring that comes of it.
-/

set_option autoImplicit false

namespace InstrumentLink

/-- A frame that arrives has room in so many octets. -/
def Simulation.Happening.Short (room : Nat) : Simulation.Happening → Prop
  | .arrival frame => frame.length ≤ room
  | .delay _ | .listener _ | .collection => True

namespace Simulation.SimulatedMac

variable {geometry : Mac.SlotGeometry} {mac : SimulatedMac}

theorem Settled.writes (settled : Settled geometry mac) (register : Mac.Register) (value : UInt32) :
    Yields (Mac.writeRegister register value mac) (Settled geometry) := by
  by_cases event : register = .writerEvent
  · subst event
    refine ⟨settled.divided, settled.whole, settled.next, ?_⟩
    change mac.writerPending &&& ~~~value = 0 ∨ mac.writerPending &&& ~~~value = 1
    rcases settled.event with idle | pending
    · exact .inl (by rw [idle, UInt32.zero_and])
    · rw [pending, ← UInt32.toNat_inj, ← UInt32.toNat_inj, UInt32.toNat_and, UInt32.toNat_one,
        Nat.one_and_eq_mod_two]
      exact Nat.mod_two_eq_zero_or_one _
  · exact (write_leaves register value mac event).mono fun after leaves => settled.leaves leaves

theorem changed (happening : Happening) (mac : SimulatedMac) :
    Yields (happening.change mac) fun after => after = { mac with
      wire := after.wire, busyPolls := after.busyPolls, peer := after.peer, sent := after.sent } := by
  cases happening with
  | arrival frame =>
      change Yields (mac.inject frame) _
      unfold inject
      split
      · rfl
      · trivial
  | delay polls => rfl
  | listener peer => rfl
  | collection => rfl

theorem change_returns {happening : Happening} {mac : SimulatedMac}
    (short : happening.Short mac.geometry.slotSize) :
    Returns (happening.change mac) fun _ => True := by
  cases happening with
  | arrival frame => exact ⟨_, if_pos short, trivial⟩
  | delay polls => exact ⟨_, rfl, trivial⟩
  | listener peer => exact ⟨_, rfl, trivial⟩
  | collection => exact ⟨_, rfl, trivial⟩

end Simulation.SimulatedMac

namespace SlotRing

open Mac (Access Traced)
open Simulation (Happening SentFrame SimulatedMac)

abbrev SimulatedRing := SlotRing (Traced SimulatedMac)

def mac (ring : SimulatedRing) : SimulatedMac := ring.device.device

def accesses (ring : SimulatedRing) : List Access := ring.device.accesses

def seen (mac : SimulatedMac) (made : List Access) (ring : SimulatedRing) : SimulatedRing :=
  { ring with device := ⟨mac, made⟩ }

def withMac (mac : SimulatedMac) (ring : SimulatedRing) : SimulatedRing :=
  ring.seen mac ring.accesses

def created (geometry : Mac.SlotGeometry) (framing : Bool) : SimulatedRing :=
  { device := ⟨.ofGeometry geometry, []⟩, geometry, softwareFrameCheck := framing }

def slotOctets (ring : SimulatedRing) : Bytes :=
  (ring.mac.memory.drop ring.txOffset).take ring.geometry.slotSize

/-- The invariant of a ring on a simulated MAC. -/
abbrev Proper (geometry : Mac.SlotGeometry) (framing : Bool) : SimulatedRing → Prop :=
  Transmitting geometry (fun traced => SimulatedMac.Settled geometry traced.device) framing

variable {geometry : Mac.SlotGeometry} {framing : Bool} {ring : SimulatedRing}

theorem Proper.of_created (geometry : Mac.SlotGeometry) (framing : Bool) :
    Proper geometry framing (created geometry framing) :=
  ⟨rfl, rfl, geometry.has_tx_slot, rfl, Bytes.length_zeros _, geometry.has_rx_slot, .inl rfl⟩

theorem Proper.seen (proper : Proper geometry framing ring) {mac : SimulatedMac}
    (settled : SimulatedMac.Settled geometry mac) (made : List Access) :
    Proper geometry framing (ring.seen mac made) :=
  ⟨proper.divided, proper.framing, proper.slot, settled⟩

theorem Proper.mac_divided (proper : Proper geometry framing ring) :
    ring.mac.geometry = geometry :=
  proper.good.divided

theorem Proper.slot_inside (proper : Proper geometry framing ring) :
    ring.txOffset + geometry.slotSize ≤ ring.mac.memory.length := by
  have whole : ring.mac.memory.length = geometry.length := proper.good.whole
  rw [txOffset, proper.divided, whole]
  exact geometry.tx_slot_inside _ proper.slot

theorem Proper.length_slot (proper : Proper geometry framing ring) :
    ring.slotOctets.length = geometry.slotSize := by
  have inside := proper.slot_inside
  rw [slotOctets, proper.divided, List.length_take, List.length_drop]
  omega

theorem Proper.contents_eq (proper : Proper geometry framing ring) :
    ring.contents = .ok ring.slotOctets := by
  have inside := proper.slot_inside
  rw [← proper.divided] at inside
  change Bytes.slice ring.mac.memory _ _ = _
  rw [Bytes.slice_inside _ _ _ (Nat.le_add_right _ _) inside, Nat.add_sub_cancel_left]
  rfl

def refilled (memory : Bytes) (ring : SimulatedRing) : SimulatedRing :=
  ring.seen { ring.mac with memory } (ring.accesses ++ [.store])

theorem Proper.stores (proper : Proper geometry framing ring) (offset : Nat) (patch : Bytes)
    (inside : offset + patch.length ≤ geometry.slotSize) :
    ∃ memory, Bytes.overwrite ring.mac.memory (ring.txOffset + offset) patch = .ok memory ∧
      ring.store offset patch = .ok (ring.refilled memory) ∧
      Proper geometry framing (ring.refilled memory) ∧
      Bytes.overwrite ring.slotOctets offset patch = .ok (ring.refilled memory).slotOctets := by
  have room := proper.slot_inside
  obtain ⟨memory, written, length⟩ :=
    Bytes.overwrite_inside ring.mac.memory (ring.txOffset + offset) patch (by omega)
  have stored : ring.store offset patch = .ok (ring.refilled memory) := by
    unfold store
    rw [if_pos (by rw [proper.divided]; exact inside)]
    exact bind_known written rfl
  have good := proper.good
  have settled : SimulatedMac.Settled geometry { ring.mac with memory } :=
    ⟨good.divided, length.trans good.whole, good.next, good.event⟩
  refine ⟨memory, written, stored, proper.seen settled _, ?_⟩
  exact Bytes.overwrite_window written (by rw [proper.divided]; exact inside)
    (by rw [proper.divided]; exact room)

def asked (traced : Traced SimulatedMac) : Traced SimulatedMac where
  device := { traced.device with
    readyPolls := traced.device.readyPolls + (traced.device.busyPolls + 1)
    busyPolls := 0 }
  accesses := traced.accesses ++
    List.replicate (traced.device.busyPolls.toNat + 1) (.read .readerReady)

theorem await_ready_eq (attempts : Nat) (traced : Traced SimulatedMac)
    (patient : traced.device.busyPolls.toNat < attempts) :
    Mac.awaitReady attempts traced = .ok (asked traced) := by
  induction attempts generalizing traced with
  | zero => exact (Nat.not_lt_zero _ patient).elim
  | succ attempts induction =>
      obtain ⟨mac, accesses⟩ := traced
      change mac.busyPolls.toNat < attempts + 1 at patient
      have answer : Mac.readRegister .readerReady (⟨mac, accesses⟩ : Traced SimulatedMac) =
          .ok (mac.answerReady.1, ⟨mac.answerReady.2, accesses ++ [.read .readerReady]⟩) := rfl
      unfold Mac.awaitReady Mac.isReady
      rw [answer, bind_assoc]
      by_cases idle : mac.busyPolls = 0
      · have ready : mac.answerReady = (1, { mac with
            readyPolls := mac.readyPolls + (mac.busyPolls + 1), busyPolls := 0 }) := by
          simp [SimulatedMac.answerReady, idle]
        rw [ready, asked, idle]
        rfl
      · obtain ⟨busy, polls, less⟩ := SimulatedMac.answer_ready_of_busy idle
        have next := induction ⟨mac.answerReady.2, accesses ++ [.read .readerReady]⟩
          (by change mac.answerReady.2.busyPolls.toNat < attempts; rw [polls]; omega)
        rw [busy]
        refine next.trans ?_
        have sum : mac.readyPolls + 1 + (mac.busyPolls - 1 + 1) =
            mac.readyPolls + (mac.busyPolls + 1) := by
          rw [UInt32.sub_add_cancel]
          ac_rfl
        simp only [asked, polls, less, List.append_assoc, List.singleton_append,
          ← List.replicate_succ]
        simp only [SimulatedMac.answerReady, sum]

theorem start_reader_eq {mac : SimulatedMac} (settled : SimulatedMac.Settled geometry mac)
    (slot : mac.readerSlot.toNat < geometry.txSlots)
    (short : mac.readerLength.toNat ≤ geometry.slotSize) :
    let octets := (mac.memory.drop (geometry.txStart mac.readerSlot.toNat)).take
      mac.readerLength.toNat
    mac.startReader = .ok { mac with
      readerPending := 1
      wire := mac.wire ++ (mac.peer.respond octets).1.toList
      peer := (mac.peer.respond octets).2
      sent := mac.sent ++ [⟨mac.readerSlot.toNat, octets⟩] } := by
  have room := geometry.tx_slot_inside _ slot
  have whole := settled.whole
  unfold SimulatedMac.startReader
  dsimp only
  rw [settled.divided, if_pos ⟨slot, short⟩, Bytes.slice_inside _ _ _ (Nat.le_add_right _ _)
    (by omega), Nat.add_sub_cancel_left]
  rfl

def launched (length : Nat) (ring : SimulatedRing) : SimulatedRing :=
  let slot := UInt32.ofNat ring.txSlot
  let octets := (ring.mac.memory.drop (ring.geometry.txStart slot.toNat)).take
    (UInt32.ofNat length).toNat
  { ring with
    device := {
      device := { (asked ring.device).device with
        readerSlot := slot
        readerLength := UInt32.ofNat length
        readerPending := 1
        wire := ring.mac.wire ++ (ring.mac.peer.respond octets).1.toList
        peer := (ring.mac.peer.respond octets).2
        sent := ring.mac.sent ++ [⟨slot.toNat, octets⟩] }
      accesses := (asked ring.device).accesses ++ [.write .readerSlot slot,
        .write .readerLength (UInt32.ofNat length), .write .readerStart 1] }
    txSlot := (ring.txSlot + 1) % ring.geometry.txSlots
    transmitted := ring.transmitted + 1 }

theorem Proper.launches (proper : Proper geometry framing ring) {length : Nat}
    (fits : length ≤ geometry.slotSize) :
    ring.launch length = .ok (ring.launched length) ∧
      Proper geometry framing (ring.launched length) := by
  have good := proper.good
  have slot : (UInt32.ofNat ring.txSlot).toNat < geometry.txSlots := by
    rw [UInt32.toNat_ofNat']
    exact Nat.lt_of_le_of_lt (Nat.mod_le _ _) proper.slot
  have short : (UInt32.ofNat length).toNat ≤ geometry.slotSize := by
    rw [UInt32.toNat_ofNat']
    exact Nat.le_trans (Nat.mod_le _ _) fits
  constructor
  · let measured : SimulatedMac := { (asked ring.device).device with
      readerSlot := UInt32.ofNat ring.txSlot
      readerLength := UInt32.ofNat length }
    have settled : SimulatedMac.Settled geometry measured :=
      ⟨good.divided, good.whole, good.next, good.event⟩
    have starts := start_reader_eq settled slot short
    unfold launch
    apply bind_known (await_ready_eq _ ring.device (Nat.lt_succ_self _))
    refine bind_known rfl (bind_known rfl (bind_known (bind_known starts rfl) ?_))
    simp only [launched, proper.divided, List.append_assoc]
    rfl
  · refine ⟨proper.divided, proper.framing, ?_, good.divided, good.whole, good.next, good.event⟩
    change (ring.txSlot + 1) % ring.geometry.txSlots < _
    rw [proper.divided]
    exact Nat.mod_lt _ geometry.has_tx_slot

/-- Whether so many octets can be sent from a slot with so much room. -/
def Sendable (framing : Bool) (room length : Nat) : Prop :=
  if framing then 8 ≤ length ∧ length + 4 ≤ room else length ≤ room

/-- A ring that is about to be started on a frame. The frame stands in its slot, with its check
sequence if that is done in software; nothing else is other than before. -/
structure Prepared (geometry : Mac.SlotGeometry) (framing : Bool) (ring : SimulatedRing)
    (frame : Bytes) (prepared : SimulatedRing) : Prop where
  proper : Proper geometry framing prepared
  driver : prepared = { ring with device := prepared.device }
  device : prepared.mac = { ring.mac with memory := prepared.mac.memory }
  front : prepared.mac.memory.take (geometry.txStart 0) = ring.mac.memory.take (geometry.txStart 0)
  recorded : prepared.accesses = ring.accesses ++ if framing then [.store] else []
  standing : prepared.slotOctets.take frame.length = frame
  fits : frame.length ≤ geometry.slotSize

/-- A length that cannot be sent changes nothing: not the slots, not the device, not the record of
accesses to it. -/
theorem Proper.refuses (proper : Proper geometry framing ring) {length : Nat}
    (refused : ¬Sendable framing geometry.slotSize length) :
    ∃ log, ring.transmit length = .ok (false, ring, log) := by
  unfold transmit
  rw [proper.framing]
  cases framing with
  | false =>
      have long : ¬length ≤ ring.geometry.slotSize := proper.divided ▸ refused
      rw [if_neg Bool.false_ne_true, if_neg long]
      exact ⟨_, rfl⟩
  | true =>
      rw [if_pos rfl, proper.contents_eq]
      cases appended : Ethernet.appendFrameCheck ring.slotOctets length with
      | error cause => exact ⟨_, bind_known rfl (by rw [appended]; rfl)⟩
      | ok framed =>
          have fits := (Ethernet.append_returns_iff _ _).mp ⟨_, appended⟩
          rw [proper.length_slot] at fits
          exact (refused fits).elim

theorem Proper.transmits (proper : Proper geometry framing ring) {length : Nat}
    (sendable : Sendable framing geometry.slotSize length) :
    let frame := finish framing (ring.slotOctets.take length)
    ∃ prepared, Prepared geometry framing ring frame prepared ∧
      ring.transmit length = .ok (true, prepared.launched frame.length, []) := by
  have slot := proper.length_slot
  cases framing with
  | false =>
      have fits : length ≤ geometry.slotSize := sendable
      have body : (ring.slotOctets.take length).length = length := by
        rw [List.length_take]
        omega
      refine ⟨ring, ⟨proper, rfl, rfl, rfl, (List.append_nil _).symm, ?_, ?_⟩, ?_⟩
      · change ring.slotOctets.take (ring.slotOctets.take length).length = _
        rw [body]
        rfl
      · change (ring.slotOctets.take length).length ≤ _
        omega
      · unfold transmit
        rw [proper.framing, if_neg Bool.false_ne_true, if_pos (by rw [proper.divided]; exact fits)]
        refine bind_known (proper.launches fits).1 ?_
        change _ = Except.ok (true, ring.launched (ring.slotOctets.take length).length, [])
        rw [body]
        rfl
  | true =>
      obtain ⟨front, room⟩ : 8 ≤ length ∧ length + 4 ≤ geometry.slotSize := sendable
      obtain ⟨⟨framedLength, framed⟩, appended⟩ :=
        (Ethernet.append_returns_iff ring.slotOctets length).mpr ⟨front, by rw [slot]; exact room⟩
      obtain ⟨-, whole⟩ := Ethernet.append_frame_check_fits appended
      obtain ⟨rfl, standing⟩ := finish_of_append appended
      obtain ⟨memory, written, stored, refilled, replaced⟩ := proper.stores 0 framed (by omega)
      have body : (ring.slotOctets.take length).length = length := by
        rw [List.length_take]
        omega
      have count : (finish true (ring.slotOctets.take length)).length =
          length + Ethernet.frameCheckLength := by
        rw [finish, if_pos rfl, List.length_append, body, Ethernet.length_frame_check]
      have filled : (ring.refilled memory).slotOctets = framed := by
        rw [Bytes.overwrite_ok (by omega), Nat.zero_add, List.drop_of_length_le (by omega)]
          at replaced
        simpa using (Except.ok.inj replaced).symm
      have fits : (finish true (ring.slotOctets.take length)).length ≤ geometry.slotSize := by
        rw [count]
        exact room
      have front : geometry.txStart 0 ≤ ring.txOffset + 0 := by
        rw [txOffset, proper.divided]
        exact geometry.tx_start_le _
      refine ⟨ring.refilled memory, ⟨refilled, rfl, rfl, Bytes.take_overwritten written front, rfl,
        ?_, fits⟩, ?_⟩
      · rw [filled, count, standing]
      · unfold transmit
        rw [proper.framing, if_pos rfl]
        refine bind_known proper.contents_eq ?_
        rw [appended]
        refine bind_known stored (bind_known (refilled.launches (count ▸ fits)).1 ?_)
        rw [count]
        rfl

theorem Proper.tries (proper : Proper geometry framing ring) (length : Nat) :
    Returns (ring.transmit length) fun answer => Proper geometry framing answer.2.1 := by
  by_cases sendable : Sendable framing geometry.slotSize length
  · obtain ⟨prepared, ready, sends⟩ := proper.transmits sendable
    exact ⟨_, sends, (ready.proper.launches ready.fits).2⟩
  · obtain ⟨log, same⟩ := proper.refuses sendable
    exact ⟨_, same, proper⟩

theorem Proper.starts (proper : Proper geometry framing ring) :
    Returns ring.start fun after => Proper geometry framing after ∧ after.txSlot = 0 ∧
      after.transmitted = ring.transmitted := by
  have good := proper.good
  exact Returns.ok ⟨⟨proper.divided, proper.framing, geometry.has_tx_slot, good.divided, good.whole,
    good.next, .inl good.cleared⟩, rfl, rfl⟩

/-- What a poll comes to, once the device has looked at its wire: the device reports nothing, a frame
inside a receive slot, or something else, which is taken back at once. -/
theorem poll_receive_cases (ring : SimulatedRing) {mac : SimulatedMac}
    (taken : ring.mac.receiveNext = .ok mac) :
    (mac.writerPending &&& Mac.eventBit = 0 ∧
      ∃ made, ring.pollReceive = .ok (none, ring.seen mac made, [])) ∨
    (¬mac.writerPending &&& Mac.eventBit = 0 ∧
      Received.Inside ring.geometry ⟨mac.writerSlot.toNat, mac.writerLength.toNat⟩ ∧
      ∃ made, ring.pollReceive =
        .ok (some ⟨mac.writerSlot.toNat, mac.writerLength.toNat⟩, ring.seen mac made, [])) ∨
    (¬Received.Inside ring.geometry ⟨mac.writerSlot.toNat, mac.writerLength.toNat⟩ ∧
      ∃ made log, ring.pollReceive = .ok (none, ring.seen { mac with
        writerPending := mac.writerPending &&& ~~~Mac.eventBit } made, log)) := by
  have event : Mac.readRegister .writerEvent ring.device =
      .ok (mac.writerPending, ⟨mac, ring.accesses ++ [.read .writerEvent]⟩) :=
    bind_known (bind_known taken rfl) rfl
  have polled : ring.pollReceive = _ := bind_known event rfl
  rw [polled]
  by_cases idle : mac.writerPending &&& Mac.eventBit = 0
  · exact .inl ⟨idle, _, if_pos idle⟩
  · by_cases inside : Received.Inside ring.geometry
        ⟨mac.writerSlot.toNat, mac.writerLength.toNat⟩
    · exact .inr (.inl ⟨idle, inside, _, (if_neg idle).trans (if_pos inside)⟩)
    · exact .inr (.inr ⟨inside, _, _, (if_neg idle).trans (if_neg inside)⟩)

theorem poll_receive_of_fault (ring : SimulatedRing) {fault : Fault}
    (stopped : ring.mac.receiveNext = .error fault) : ring.pollReceive = .error fault := by
  unfold pollReceive
  change ((ring.mac.receiveNext >>= _) >>= _) >>= _ = _
  rw [stopped]
  rfl

theorem Proper.polls (proper : Proper geometry framing ring) :
    Yields ring.pollReceive fun answer => Proper geometry framing answer.2.1 := by
  cases taken : ring.mac.receiveNext with
  | error fault =>
      rw [poll_receive_of_fault ring taken]
      trivial
  | ok mac =>
      have good := (proper.good.receives.of_ok taken).1
      have back : SimulatedMac.Settled geometry { mac with
          writerPending := mac.writerPending &&& ~~~Mac.eventBit } :=
        ⟨good.divided, good.whole, good.next, .inl good.cleared⟩
      rcases ring.poll_receive_cases taken with
        ⟨-, made, same⟩ | ⟨-, -, made, same⟩ | ⟨-, made, log, same⟩ <;> rw [same]
      · exact proper.seen good made
      · exact proper.seen good made
      · exact proper.seen back made

theorem Proper.releases (proper : Proper geometry framing ring) (received : Received) :
    Returns (ring.release received) (Proper geometry framing) := by
  have good := proper.good
  exact Returns.ok ⟨proper.divided, proper.framing, proper.slot, good.divided, good.whole, good.next,
    .inl good.cleared⟩

inductive Deed where
  | start
  | fill (offset : Nat) (patch : Bytes)
  | transmit (length : Nat)
  | poll
  | release (received : Received)
  | outside (happening : Happening)
  /-- The device reports whatever it likes. -/
  | report (slot length : UInt32)
  | read (register : Mac.Register)
  | write (register : Mac.Register) (value : UInt32)

inductive Outcome where
  | started
  | sent
  | other
  deriving DecidableEq

def Deed.perform (ring : SimulatedRing) : Deed → Except Fault (Outcome × SimulatedRing)
  | .start => do return (.started, ← ring.start)
  | .fill offset patch => do return (.other, ← ring.store offset patch)
  | .transmit length => do
      let (sent, ring, _) ← ring.transmit length
      return (if sent then .sent else .other, ring)
  | .poll => do return (.other, (← ring.pollReceive).2.1)
  | .release received => do return (.other, ← ring.release received)
  | .outside happening => do return (.other, ring.withMac (← happening.change ring.mac))
  | .report slot length => return (.other, ring.withMac (ring.mac.injectReport slot length))
  | .read register => do return (.other, ring.withMac (← Mac.readRegister register ring.mac).2)
  | .write register value => do
      return (.other, ring.withMac (← Mac.writeRegister register value ring.mac))

def performAll : List Deed → SimulatedRing → Except Fault (List Outcome × SimulatedRing)
  | [], ring => return ([], ring)
  | deed :: deeds, ring => do
      let (outcome, ring) ← deed.perform ring
      let (outcomes, ring) ← performAll deeds ring
      return (outcome :: outcomes, ring)

theorem Proper.performs (proper : Proper geometry framing ring) (deed : Deed) :
    Yields (deed.perform ring) fun answer => Proper geometry framing answer.2 := by
  have good := proper.good
  cases deed with
  | start => exact proper.starts.yields.bind fun after kept => kept.1
  | fill offset patch =>
      apply (Yields.self _).bind
      intro after stored
      by_cases inside : offset + patch.length ≤ geometry.slotSize
      · obtain ⟨memory, -, same, kept, -⟩ := proper.stores offset patch inside
        cases stored.symm.trans same
        exact kept
      · rw [store, proper.divided, if_neg inside] at stored
        cases stored
  | transmit length => exact (proper.tries length).yields.bind fun answer kept => kept
  | poll => exact proper.polls.bind fun answer kept => kept
  | release received => exact (proper.releases received).yields.bind fun after kept => kept
  | outside happening =>
      apply (good.changes happening).bind
      exact fun mac kept => proper.seen kept.1 _
  | report slot length =>
      have settled : SimulatedMac.Settled geometry (ring.mac.injectReport slot length) :=
        ⟨good.divided, good.whole, good.next, .inr rfl⟩
      exact proper.seen settled _
  | read register =>
      apply (SimulatedMac.Settled.quiet.read register ring.mac good).bind
      exact fun answer kept => proper.seen kept.1 _
  | write register value =>
      apply (good.writes register value).bind
      exact fun mac kept => proper.seen kept _

theorem Proper.performs_all (proper : Proper geometry framing ring) (history : List Deed) :
    Yields (performAll history ring) fun answer => Proper geometry framing answer.2 := by
  induction history generalizing ring with
  | nil => exact proper
  | cons deed deeds induction =>
      apply (proper.performs deed).bind
      intro answer kept
      exact (induction kept).bind fun later holds => holds

end SlotRing

end InstrumentLink
