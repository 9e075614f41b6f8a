import InstrumentLink.Proofs.PacketStream
import Mathlib.Tactic.SplitIfs

/-!
Reassembly is reading the stream.

A reassembler loses octets in two ways only: it is reset, or a datagram does not fit behind the
octets held. Between two losses the datagrams may be cut in any way: the packets handed out and the
octets held are those of one reading of all that came in.
-/

set_option autoImplicit false

namespace InstrumentLink.Etherbone

namespace Reassembler

/-- The octets a push reads: those held, unless they are given up, and those that arrive, unless
they could never be held. -/
def pending (data : Bytes) (reassembler : Reassembler) : Bytes :=
  if streamCapacity < data.length then []
  else if streamCapacity < reassembler.buffered.length + data.length then data
  else reassembler.buffered ++ data

theorem length_pending_le (data : Bytes) (reassembler : Reassembler) :
    (reassembler.pending data).length ≤ streamCapacity := by
  unfold pending
  split_ifs with large overflow
  · exact Nat.zero_le _
  · omega
  · rw [List.length_append]
    omega

theorem accept_reads (data : Bytes) (reassembler : Reassembler) :
    packetsOf (reassembler.accept data).found = (parse (reassembler.pending data)).1 ∧
      (reassembler.accept data).reassembler.buffered = (parse (reassembler.pending data)).2 ∧
      (reassembler.accept data).packets = (parse (reassembler.pending data)).1.length := by
  unfold accept makeRoom pending
  by_cases large : streamCapacity < data.length
  · have overflow : streamCapacity < reassembler.buffered.length + data.length := by omega
    simp only [if_pos large, if_pos overflow, parse, packetsOf, List.filterMap_nil,
      List.length_nil, and_self]
  · by_cases overflow : streamCapacity < reassembler.buffered.length + data.length
    · have reads := drain_reads data 0 0
      simp only [if_neg large, if_pos overflow, List.nil_append]
      simpa only [List.drop_zero, Nat.zero_add] using reads
    · have reads := drain_reads (reassembler.buffered ++ data) 0 0
      simp only [if_neg large, if_neg overflow]
      simpa only [List.drop_zero, Nat.zero_add] using reads

theorem accept_overflows (data : Bytes) (reassembler : Reassembler) :
    (reassembler.accept data).reassembler.overflows = reassembler.overflows +
      if streamCapacity < reassembler.buffered.length + data.length then 1 else 0 := by
  unfold accept makeRoom
  split_ifs <;> first | rfl | exact (UInt32.add_zero _).symm

theorem length_accept_le (data : Bytes) (reassembler : Reassembler) :
    (reassembler.accept data).reassembler.buffered.length ≤ streamCapacity := by
  rw [(accept_reads data reassembler).2.1]
  exact Nat.le_trans (parse_left_suffix _).length_le (length_pending_le data reassembler)

theorem accept_of_fits (data : Bytes) (reassembler : Reassembler)
    (fits : reassembler.buffered.length + data.length ≤ streamCapacity) :
    packetsOf (reassembler.accept data).found = (parse (reassembler.buffered ++ data)).1 ∧
      (reassembler.accept data).reassembler =
        ⟨(parse (reassembler.buffered ++ data)).2, reassembler.overflows⟩ := by
  have reads := accept_reads data reassembler
  have overflows := accept_overflows data reassembler
  have small : ¬streamCapacity < data.length := by omega
  have room : ¬streamCapacity < reassembler.buffered.length + data.length := by omega
  simp only [pending, if_neg small, if_neg room] at reads
  rw [if_neg room] at overflows
  refine ⟨reads.1, ?_⟩
  rw [← reads.2.1, ← UInt32.add_zero reassembler.overflows, ← overflows]

def pushAll : List Bytes → Reassembler → List Bytes × Reassembler
  | [], reassembler => ([], reassembler)
  | data :: chunks, reassembler =>
      let intake := reassembler.accept data
      let (packets, last) := pushAll chunks intake.reassembler
      (packetsOf intake.found ++ packets, last)

/-- Whether each of the datagrams fits behind the octets held when it arrives. -/
def Fits : List Bytes → Reassembler → Prop
  | [], _ => True
  | data :: chunks, reassembler =>
      reassembler.buffered.length + data.length ≤ streamCapacity ∧
        Fits chunks (reassembler.accept data).reassembler

instance decidableFits : (chunks : List Bytes) → (reassembler : Reassembler) →
    Decidable (Fits chunks reassembler)
  | [], _ => inferInstanceAs (Decidable True)
  | data :: chunks, reassembler =>
      have := decidableFits chunks (reassembler.accept data).reassembler
      inferInstanceAs (Decidable (reassembler.buffered.length + data.length ≤ streamCapacity ∧
        Fits chunks (reassembler.accept data).reassembler))

theorem fits_of_left_short (chunks : List Bytes) (longest : Nat) (read : Bytes)
    (overflows : UInt32)
    (short : ∀ before, before <+: read ++ chunks.flatten →
      (parse before).2.length + longest ≤ streamCapacity)
    (small : ∀ chunk ∈ chunks, chunk.length ≤ longest) :
    Fits chunks ⟨(parse read).2, overflows⟩ := by
  induction chunks generalizing read with
  | nil => trivial
  | cons data chunks induction =>
      obtain ⟨smallData, smallLater⟩ := List.forall_mem_cons.mp small
      have kept := short read (List.prefix_append _ _)
      have room : (parse read).2.length + data.length ≤ streamCapacity := by omega
      refine ⟨room, ?_⟩
      rw [(accept_of_fits data ⟨(parse read).2, overflows⟩ room).2]
      have next := congrArg Prod.snd (parse_append read data)
      dsimp only at next
      rw [← next]
      refine induction (read ++ data) ?_ smallLater
      intro before start
      apply short before
      rwa [List.flatten_cons, ← List.append_assoc]

theorem push_all_of_fits (chunks : List Bytes) (reassembler : Reassembler)
    (settled : parse reassembler.buffered = ([], reassembler.buffered))
    (fits : Fits chunks reassembler) :
    pushAll chunks reassembler =
      ((parse (reassembler.buffered ++ chunks.flatten)).1,
        ⟨(parse (reassembler.buffered ++ chunks.flatten)).2, reassembler.overflows⟩) := by
  induction chunks generalizing reassembler with
  | nil =>
      rw [List.flatten_nil, List.append_nil, settled]
      rfl
  | cons data chunks induction =>
      obtain ⟨room, later⟩ := fits
      obtain ⟨packets, next⟩ := accept_of_fits data reassembler room
      rw [next] at later
      have rest := induction _ (parse_left _) later
      rw [List.flatten_cons, ← List.append_assoc, parse_append]
      simp only [pushAll, packets, next, rest]

end Reassembler

inductive Input where
  | push (data : Bytes)
  | reset

def Input.apply (reassembler : Reassembler) : Input → Reassembler
  | .push data => (reassembler.accept data).reassembler
  | .reset => reassembler.reset

/-- A stretch of the stream between two losses. -/
structure Segment where
  octets : Bytes
  packets : List Bytes
  left : Bytes
  deriving DecidableEq, Repr

/-- Cuts a run into segments: a reset ends one, and so does a push that does not fit behind the
octets held. The datagram of such a push starts the next segment, unless it could never be held.
`octets` and `packets` are what the present segment has seen so far. -/
def segments (octets : Bytes) (packets : List Bytes) (reassembler : Reassembler) :
    List Input → List Segment
  | [] => [⟨octets, packets, reassembler.buffered⟩]
  | .reset :: inputs =>
      ⟨octets, packets, reassembler.buffered⟩ :: segments [] [] reassembler.reset inputs
  | .push data :: inputs =>
      let intake := reassembler.accept data
      if streamCapacity < reassembler.buffered.length + data.length then
        ⟨octets, packets, reassembler.buffered⟩ ::
          segments (if streamCapacity < data.length then [] else data) (packetsOf intake.found)
            intake.reassembler inputs
      else
        segments (octets ++ data) (packets ++ packetsOf intake.found) intake.reassembler inputs

/-- The invariant of a run: at every moment the present segment has been read. -/
theorem segments_read (octets : Bytes) (packets : List Bytes) (reassembler : Reassembler)
    (inputs : List Input) (read : parse octets = (packets, reassembler.buffered)) :
    ∀ segment ∈ segments octets packets reassembler inputs,
      parse segment.octets = (segment.packets, segment.left) := by
  induction inputs generalizing octets packets reassembler with
  | nil =>
      intro segment member
      cases List.mem_singleton.mp member
      exact read
  | cons input inputs induction =>
      intro segment member
      cases input with
      | reset =>
          rcases List.mem_cons.mp member with rfl | later
          · exact read
          · exact induction [] [] reassembler.reset (by rw [parse]; rfl) segment later
      | push data =>
          have reads := Reassembler.accept_reads data reassembler
          simp only [segments] at member
          split_ifs at member with overflow large
          · rcases List.mem_cons.mp member with rfl | later
            · exact read
            · refine induction _ _ _ ?_ segment later
              rw [Reassembler.pending, if_pos large] at reads
              exact Prod.ext reads.1.symm reads.2.1.symm
          · rcases List.mem_cons.mp member with rfl | later
            · exact read
            · refine induction _ _ _ ?_ segment later
              rw [Reassembler.pending, if_neg large, if_pos overflow] at reads
              exact Prod.ext reads.1.symm reads.2.1.symm
          · refine induction _ _ _ ?_ segment member
            obtain ⟨found, next⟩ := Reassembler.accept_of_fits data reassembler
              (Nat.not_lt.mp overflow)
            rw [parse_append, read, found, next]

theorem length_buffered_le (inputs : List Input) (reassembler : Reassembler)
    (short : reassembler.buffered.length ≤ streamCapacity) :
    (inputs.foldl Input.apply reassembler).buffered.length ≤ streamCapacity := by
  induction inputs generalizing reassembler with
  | nil => exact short
  | cons input inputs induction =>
      apply induction
      cases input with
      | push data => exact Reassembler.length_accept_le data reassembler
      | reset => exact Nat.zero_le _

/-- Between two losses, reassembly is one reading of the stream, however it is cut; a push counts
the packets it hands out, and no more octets are held than there is room for. -/
theorem reassembly_is_parsing :
    (∀ inputs : List Input, ∀ segment ∈ segments [] [] {} inputs,
      parse segment.octets = (segment.packets, segment.left)) ∧
    (∀ inputs : List Input, ∀ data : Bytes,
      let reassembler : Reassembler := inputs.foldl Input.apply {}
      (reassembler.accept data).packets = (packetsOf (reassembler.accept data).found).length ∧
        reassembler.buffered.length ≤ streamCapacity) ∧
    ∀ chunks others : List Bytes, chunks.flatten = others.flatten →
      Reassembler.Fits chunks {} → Reassembler.Fits others {} →
        Reassembler.pushAll chunks {} = Reassembler.pushAll others {} := by
  refine ⟨fun inputs => segments_read [] [] {} inputs (by rw [parse]), ?_, ?_⟩
  · intro inputs data reassembler
    have reads := Reassembler.accept_reads data reassembler
    refine ⟨by rw [reads.1, reads.2.2], length_buffered_le inputs {} (Nat.zero_le _)⟩
  · intro chunks others same fits othersFit
    have settled : parse ({} : Reassembler).buffered = ([], ({} : Reassembler).buffered) := by
      rw [parse]
    rw [Reassembler.push_all_of_fits chunks {} settled fits,
      Reassembler.push_all_of_fits others {} settled othersFit, same]

/-- The first octets of a packet wait, and a packet in two datagrams is the same packet. -/
theorem reassembly_of_cut_packet :
    let packet := writeRequest 0x1000 [5]
    parse (packet.take 6) = ([], packet.take 6) ∧
      Reassembler.pushAll [packet.take 6, packet.drop 6] {} = Reassembler.pushAll [packet] {} := by
  intro packet
  constructor
  · exact reassembly_is_parsing.1 [.push (packet.take 6), .reset]
      ⟨packet.take 6, [], packet.take 6⟩ (by decide +kernel)
  · exact reassembly_is_parsing.2.2 _ _ (List.take_append_drop 6 packet) (by decide +kernel)
      (by decide +kernel)

end InstrumentLink.Etherbone
