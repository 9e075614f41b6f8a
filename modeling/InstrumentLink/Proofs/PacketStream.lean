import InstrumentLink.Etherbone.Reassembler
import Mathlib.Data.List.GetD

/-!
The stream of packets, read as a whole.

`parse` says which packets a string of octets contains and which octets may still become one,
without any buffer. A pass over the octets held is a reading of them, and reading may be interrupted
anywhere: what was left over, with the octets behind it, reads as the rest of the whole.
-/

set_option autoImplicit false

namespace InstrumentLink.Etherbone

/-- The packets of a string of octets, and the octets left over. -/
def parse : Bytes → List Bytes × Bytes
  | [] => ([], [])
  | [octet] => if octet = magicFirst then ([], [octet]) else ([], [])
  | first :: second :: more =>
      let stream := first :: second :: more
      if first = magicFirst ∧ second = magicSecond then
        let length := announced stream
        if stream.length ≤ headerLength then ([], stream)
        else if streamCapacity < length then parse (second :: more)
        else if stream.length < length then ([], stream)
        else
          let (packets, left) := parse (stream.drop length)
          (stream.take length :: packets, left)
      else parse (second :: more)
termination_by stream => stream.length
decreasing_by
  · simp
  · have long : headerLength ≤ announced (first :: second :: more) :=
      header_length_le_packet_length _ _
    simp only [headerLength] at long
    simp only [List.length_drop, List.length_cons]
    omega
  · simp

def magicOctets : Bytes := [magicFirst, magicSecond]

theorem header_length_le_announced (stream : Bytes) : headerLength ≤ announced stream :=
  header_length_le_packet_length _ _

theorem announced_append (stream more : Bytes) (complete : headerLength ≤ stream.length) :
    announced (stream ++ more) = announced stream := by
  simp only [headerLength] at complete
  unfold announced
  rw [List.getD_append _ _ _ _ (by omega), List.getD_append _ _ _ _ (by omega)]

theorem parse_of_not_magic (first second : UInt8) (more : Bytes)
    (other : ¬(first = magicFirst ∧ second = magicSecond)) :
    parse (first :: second :: more) = parse (second :: more) := by
  rw [parse, if_neg other]

theorem parse_of_header {stream : Bytes} (magic : magicOctets <+: stream)
    (short : stream.length ≤ headerLength) : parse stream = ([], stream) := by
  obtain ⟨more, rfl⟩ := magic
  change (magicFirst :: magicSecond :: more).length ≤ headerLength at short
  change parse (magicFirst :: magicSecond :: more) = _
  rw [parse, if_pos ⟨rfl, rfl⟩, if_pos short]
  rfl

theorem parse_of_incomplete {stream : Bytes} (magic : magicOctets <+: stream)
    (fits : announced stream ≤ streamCapacity) (short : stream.length < announced stream) :
    parse stream = ([], stream) := by
  by_cases header : stream.length ≤ headerLength
  · exact parse_of_header magic header
  · obtain ⟨more, rfl⟩ := magic
    change ¬(magicFirst :: magicSecond :: more).length ≤ headerLength at header
    change announced (magicFirst :: magicSecond :: more) ≤ streamCapacity at fits
    change (magicFirst :: magicSecond :: more).length <
      announced (magicFirst :: magicSecond :: more) at short
    change parse (magicFirst :: magicSecond :: more) = _
    rw [parse, if_pos ⟨rfl, rfl⟩, if_neg header, if_neg (Nat.not_lt.mpr fits), if_pos short]
    rfl

theorem parse_of_oversized {stream : Bytes} (magic : magicOctets <+: stream)
    (header : headerLength < stream.length) (large : streamCapacity < announced stream) :
    parse stream = parse (stream.drop 1) := by
  obtain ⟨more, rfl⟩ := magic
  change headerLength < (magicFirst :: magicSecond :: more).length at header
  change streamCapacity < announced (magicFirst :: magicSecond :: more) at large
  change parse (magicFirst :: magicSecond :: more) = _
  rw [parse, if_pos ⟨rfl, rfl⟩, if_neg (Nat.not_le.mpr header), if_pos large]
  rfl

theorem parse_of_complete {stream : Bytes} (magic : magicOctets <+: stream)
    (header : headerLength < stream.length) (fits : announced stream ≤ streamCapacity)
    (complete : announced stream ≤ stream.length) :
    parse stream = (stream.take (announced stream) :: (parse (stream.drop (announced stream))).1,
      (parse (stream.drop (announced stream))).2) := by
  obtain ⟨more, rfl⟩ := magic
  change headerLength < (magicFirst :: magicSecond :: more).length at header
  change announced (magicFirst :: magicSecond :: more) ≤ streamCapacity at fits
  change announced (magicFirst :: magicSecond :: more) ≤
    (magicFirst :: magicSecond :: more).length at complete
  change parse (magicFirst :: magicSecond :: more) = _
  rw [parse, if_pos ⟨rfl, rfl⟩, if_neg (Nat.not_le.mpr header), if_neg (Nat.not_lt.mpr fits),
    if_neg (Nat.not_lt.mpr complete)]
  rfl

/-- Reading goes on from what was left over. -/
theorem parse_append (stream more : Bytes) :
    parse (stream ++ more) =
      ((parse stream).1 ++ (parse ((parse stream).2 ++ more)).1,
        (parse ((parse stream).2 ++ more)).2) := by
  fun_induction parse stream with
  | case1 => rfl
  | case2 => rfl
  | case3 octet other =>
      -- A last octet that cannot start a magic is given up at once, whatever follows it.
      cases more with
      | nil => simp [parse, other]
      | cons next more =>
          rw [List.singleton_append, parse_of_not_magic _ _ _ (fun magic => other magic.1)]
          rfl
  | case4 => rfl
  | case5 first second rest stream magic length header large induction =>
      obtain ⟨rfl, rfl⟩ := magic
      have starts : magicOctets <+: stream ++ more := ⟨rest ++ more, rfl⟩
      have same : announced (stream ++ more) = length := announced_append stream more (by omega)
      have longer : stream.length ≤ (stream ++ more).length := by simp
      have whole := parse_of_oversized starts (by omega) (by omega)
      rw [← induction]
      exact whole
  | case6 => rfl
  | case7 first second rest stream magic length header fits complete packets left read induction =>
      obtain ⟨rfl, rfl⟩ := magic
      have starts : magicOctets <+: stream ++ more := ⟨rest ++ more, rfl⟩
      have same : announced (stream ++ more) = length := announced_append stream more (by omega)
      have longer : stream.length ≤ (stream ++ more).length := by simp
      have whole := parse_of_complete starts (by omega) (by omega) (by omega)
      rw [same, List.take_append_of_le_length (by omega), List.drop_append_of_le_length (by omega),
        induction, read] at whole
      exact whole
  | case8 first second rest other induction =>
      rw [← induction]
      exact parse_of_not_magic first second (rest ++ more) other

theorem parse_left_suffix (stream : Bytes) : (parse stream).2 <:+ stream := by
  fun_induction parse stream with
  | case1 | case2 | case4 | case6 => exact List.suffix_refl _
  | case3 => exact List.nil_suffix
  | case5 first second rest stream magic length header large induction =>
      exact induction.trans (List.suffix_cons first (second :: rest))
  | case7 first second rest stream magic length header fits complete packets left read induction =>
      rw [read] at induction
      exact induction.trans (List.drop_suffix length stream)
  | case8 first second rest other induction =>
      exact induction.trans (List.suffix_cons first (second :: rest))

theorem parse_left (stream : Bytes) : parse (parse stream).2 = ([], (parse stream).2) := by
  have whole := parse_append stream []
  rw [List.append_nil, List.append_nil] at whole
  have packets := congrArg Prod.fst whole
  have left := congrArg Prod.snd whole
  exact Prod.ext (List.self_eq_append_right.mp packets) left.symm

/-- What a reading hands out: the magic in front, as many octets as the counts announce, and no more
than can be held. Whether there is a word in it is not asked. -/
structure Framed (packet : Bytes) : Prop where
  magic : magicOctets <+: packet
  length : packet.length = announced packet
  fits : packet.length ≤ streamCapacity

theorem framed_take {stream : Bytes} (magic : magicOctets <+: stream)
    (fits : announced stream ≤ streamCapacity) (complete : announced stream ≤ stream.length) :
    Framed (stream.take (announced stream)) := by
  have header := header_length_le_announced stream
  have length : (stream.take (announced stream)).length = announced stream := by
    rw [List.length_take, Nat.min_eq_left complete]
  have same := announced_append (stream.take (announced stream)) (stream.drop (announced stream))
    (by omega)
  rw [List.take_append_drop] at same
  refine ⟨?_, by omega, by omega⟩
  apply List.prefix_of_prefix_length_le magic (List.take_prefix _ _)
  rw [length]
  exact Nat.le_trans (by decide) header

theorem framed_of_mem_parse (stream : Bytes) : ∀ packet ∈ (parse stream).1, Framed packet := by
  fun_induction parse stream with
  | case1 | case2 | case3 | case4 | case6 =>
      intro packet member
      cases member
  | case5 first second rest stream magic length header large induction => exact induction
  | case7 first second rest stream magic length header fits complete packets left read induction =>
      intro packet member
      rw [read] at induction
      obtain ⟨rfl, rfl⟩ := magic
      rcases List.mem_cons.mp member with rfl | later
      · exact framed_take ⟨rest, rfl⟩ (Nat.not_lt.mp fits) (Nat.not_lt.mp complete)
      · exact induction packet later
  | case8 first second rest other induction => exact induction

def packetsOf (found : List Found) : List Bytes := found.filterMap Found.packet?

/-- A pass from an index on reads the octets from there, keeps what reading leaves over, and counts
what it hands out. -/
theorem drain_reads (held : Bytes) (start packets : Nat) :
    packetsOf (drain held start packets).found = (parse (held.drop start)).1 ∧
      held.drop (drain held start packets).consumed = (parse (held.drop start)).2 ∧
      (drain held start packets).packets = packets + (parse (held.drop start)).1.length := by
  fun_induction drain held start packets with
  | case1 start packets follows =>
      rw [follows, parse]
      exact ⟨rfl, rfl, rfl⟩
  | case2 start packets octet follows =>
      have beyond : held.drop (start + 1) = [] := by
        rw [← List.drop_drop, follows]
        rfl
      rw [follows, parse]
      by_cases kept : octet = magicFirst
      · rw [if_pos kept, if_pos kept]
        exact ⟨rfl, follows, rfl⟩
      · rw [if_neg kept, if_neg kept]
        exact ⟨rfl, beyond, rfl⟩
  | case3 start packets first second more follows rest magic short =>
      obtain ⟨rfl, rfl⟩ := magic
      have starts : magicOctets <+: rest := ⟨more, rfl⟩
      rw [follows, parse_of_header starts short]
      exact ⟨rfl, rfl, rfl⟩
  | case4 start packets first second more follows rest magic length header large induction =>
      obtain ⟨rfl, rfl⟩ := magic
      have starts : magicOctets <+: rest := ⟨more, rfl⟩
      rw [← List.drop_drop, follows] at induction
      rw [follows, parse_of_oversized starts (by omega) large]
      exact induction
  | case5 start packets first second more follows rest magic length header fits short =>
      obtain ⟨rfl, rfl⟩ := magic
      have starts : magicOctets <+: rest := ⟨more, rfl⟩
      rw [follows, parse_of_incomplete starts (Nat.not_lt.mp fits) short]
      exact ⟨rfl, rfl, rfl⟩
  | case6 start packets first second more follows rest magic length header fits complete
      induction =>
      obtain ⟨rfl, rfl⟩ := magic
      have starts : magicOctets <+: rest := ⟨more, rfl⟩
      rw [← List.drop_drop, follows] at induction
      rw [follows, parse_of_complete starts (by omega) (Nat.not_lt.mp fits)
        (Nat.not_lt.mp complete)]
      obtain ⟨found, consumed, count⟩ := induction
      refine ⟨congrArg (rest.take length :: ·) found, consumed, ?_⟩
      change (drain held (start + length) (packets + 1)).packets =
        packets + ((parse (rest.drop length)).1.length + 1)
      rw [count, Nat.add_assoc, Nat.add_comm 1]
  | case7 start packets first second more follows other induction =>
      rw [← List.drop_drop, follows] at induction
      rw [follows, parse_of_not_magic first second more other]
      exact induction

end InstrumentLink.Etherbone
