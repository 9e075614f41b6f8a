import InstrumentLink.Proofs.Reassembly

/-!
Packets between garbage arrive unharmed, if datagrams are small enough.

Garbage without the magic cannot make one together with what follows it, and the octets inside a
packet are never looked at as a header. So what is held between two datagrams is less than a packet,
or one octet of garbage, and a bound on packets and datagrams keeps the octets from being given up.
-/

set_option autoImplicit false

namespace InstrumentLink.Etherbone

def HasWords (packet : Bytes) : Prop :=
  0 < (packet.getD 10 0).toNat + (packet.getD 11 0).toNat

instance (packet : Bytes) : Decidable (HasWords packet) :=
  inferInstanceAs (Decidable (0 < (packet.getD 10 0).toNat + (packet.getD 11 0).toNat))

def NoMagic (garbage : Bytes) : Prop := ¬magicOctets <:+: garbage

instance (garbage : Bytes) : Decidable (NoMagic garbage) :=
  inferInstanceAs (Decidable (¬magicOctets <:+: garbage))

/-- Garbage, then packets with more garbage behind each of them. -/
def interleave (first : Bytes) (parts : List (Bytes × Bytes)) : Bytes :=
  first ++ parts.flatMap fun part => part.1 ++ part.2

theorem interleave_cons (first packet garbage : Bytes) (parts : List (Bytes × Bytes)) :
    interleave first ((packet, garbage) :: parts) =
      first ++ (packet ++ interleave garbage parts) := by
  simp only [interleave, List.flatMap_cons, List.append_assoc]

theorem NoMagic.of_infix {garbage part : Bytes} (clean : NoMagic garbage)
    (inside : part <:+: garbage) : NoMagic part :=
  fun magic => clean (magic.trans inside)

theorem NoMagic.head {first second : UInt8} {more : Bytes}
    (clean : NoMagic (first :: second :: more)) : ¬(first = magicFirst ∧ second = magicSecond) := by
  rintro ⟨rfl, rfl⟩
  exact clean (List.IsPrefix.isInfix ⟨more, rfl⟩)

theorem NoMagic.tail {first : UInt8} {more : Bytes} (clean : NoMagic (first :: more)) :
    NoMagic more :=
  clean.of_infix (List.suffix_cons first more).isInfix

/-- Garbage in front of a packet is passed over, even if its last octet looks like the start of a
magic. -/
theorem parse_of_garbage_before (garbage rest : Bytes) (clean : NoMagic garbage)
    (magic : magicOctets <+: rest) : parse (garbage ++ rest) = parse rest := by
  induction garbage with
  | nil => rfl
  | cons first garbage induction =>
      rw [← induction clean.tail]
      cases garbage with
      | nil =>
          obtain ⟨more, rfl⟩ := magic
          exact parse_of_not_magic first magicFirst _ (by rintro ⟨-, second⟩; cases second)
      | cons second garbage => exact parse_of_not_magic first second _ clean.head

theorem parse_of_garbage (garbage : Bytes) (clean : NoMagic garbage) :
    parse garbage = ([], []) ∨ parse garbage = ([], [magicFirst]) := by
  induction garbage with
  | nil => exact .inl (by rw [parse])
  | cons first garbage induction =>
      cases garbage with
      | nil =>
          rw [parse]
          by_cases kept : first = magicFirst
          · rw [if_pos kept, kept]
            exact .inr rfl
          · rw [if_neg kept]
            exact .inl rfl
      | cons second garbage =>
          rw [parse_of_not_magic first second garbage clean.head]
          exact induction clean.tail

theorem length_left_of_garbage (garbage : Bytes) (clean : NoMagic garbage) :
    (parse garbage).2.length ≤ 1 := by
  rcases parse_of_garbage garbage clean with read | read <;> simp [read]

theorem Framed.header_lt_length {packet : Bytes} (framed : Framed packet)
    (words : HasWords packet) : headerLength + 8 ≤ packet.length := by
  rw [framed.length]
  unfold HasWords at words
  unfold announced packetLength blockLength
  split_ifs <;> omega

theorem parse_of_packet_before (packet rest : Bytes) (framed : Framed packet)
    (words : HasWords packet) :
    parse (packet ++ rest) = (packet :: (parse rest).1, (parse rest).2) := by
  have header := framed.header_lt_length words
  have longer : (packet ++ rest).length = packet.length + rest.length := List.length_append
  have same : announced (packet ++ rest) = packet.length := by
    rw [announced_append packet rest (by omega), framed.length]
  have read := parse_of_complete (framed.magic.trans (List.prefix_append packet rest)) (by omega)
    (by rw [same]; exact framed.fits) (by omega)
  rwa [same, List.take_left, List.drop_left] at read

theorem parse_of_packet_part (packet part : Bytes) (framed : Framed packet)
    (start : part <+: packet) (short : part.length < packet.length) (two : 2 ≤ part.length) :
    parse part = ([], part) := by
  have magic : magicOctets <+: part := List.prefix_of_prefix_length_le framed.magic start two
  by_cases header : part.length ≤ headerLength
  · exact parse_of_header magic header
  · obtain ⟨more, rfl⟩ := start
    have same := announced_append part more (by omega)
    have fits := framed.fits
    rw [framed.length] at short fits
    exact parse_of_incomplete magic (by omega) (by omega)

section Interleaved

variable {limit : Nat} {first : Bytes} {parts : List (Bytes × Bytes)}

theorem parse_interleave (clean : NoMagic first) (garbage : ∀ part ∈ parts, NoMagic part.2)
    (packets : ∀ part ∈ parts, Framed part.1 ∧ HasWords part.1) :
    parse (interleave first parts) = (parts.map Prod.fst, []) ∨
      parse (interleave first parts) = (parts.map Prod.fst, [magicFirst]) := by
  induction parts generalizing first with
  | nil =>
      rw [interleave, List.flatMap_nil, List.append_nil]
      exact parse_of_garbage first clean
  | cons part parts induction =>
      obtain ⟨packet, behind⟩ := part
      obtain ⟨cleanBehind, garbage⟩ := List.forall_mem_cons.mp garbage
      obtain ⟨⟨framed, words⟩, packets⟩ := List.forall_mem_cons.mp packets
      have later := induction cleanBehind garbage packets
      rw [interleave_cons, parse_of_garbage_before first _ clean
        (framed.magic.trans (List.prefix_append packet _)),
        parse_of_packet_before packet _ framed words]
      rcases later with read | read <;> rw [read]
      · exact .inl rfl
      · exact .inr rfl

/-- Wherever the stream is cut, less than the longest packet is kept. -/
theorem length_left_lt_of_prefix (two : 2 ≤ limit) (clean : NoMagic first)
    (garbage : ∀ part ∈ parts, NoMagic part.2)
    (packets : ∀ part ∈ parts, Framed part.1 ∧ HasWords part.1)
    (bounded : ∀ part ∈ parts, part.1.length ≤ limit) (read : Bytes)
    (start : read <+: interleave first parts) : (parse read).2.length < limit := by
  induction parts generalizing first read with
  | nil =>
      rw [interleave, List.flatMap_nil, List.append_nil] at start
      have left := length_left_of_garbage read (clean.of_infix start.isInfix)
      omega
  | cons part parts induction =>
      obtain ⟨packet, behind⟩ := part
      obtain ⟨cleanBehind, garbage⟩ := List.forall_mem_cons.mp garbage
      obtain ⟨⟨framed, words⟩, packets⟩ := List.forall_mem_cons.mp packets
      obtain ⟨short, bounded⟩ := List.forall_mem_cons.mp bounded
      change packet.length ≤ limit at short
      have header := framed.header_lt_length words
      rw [interleave_cons] at start
      rcases List.prefix_or_prefix_of_prefix start (List.prefix_append first _) with inside | past
      · have left := length_left_of_garbage read (clean.of_infix inside.isInfix)
        omega
      · obtain ⟨more, rfl⟩ := past
        rw [List.prefix_append_right_inj] at start
        by_cases whole : packet.length ≤ more.length
        · obtain ⟨later, rfl⟩ :=
            List.prefix_of_prefix_length_le (List.prefix_append packet _) start whole
          rw [List.prefix_append_right_inj] at start
          rw [parse_of_garbage_before first _ clean
            (framed.magic.trans (List.prefix_append packet _)),
            parse_of_packet_before packet _ framed words]
          exact induction cleanBehind garbage packets bounded later start
        · have part : more <+: packet :=
            List.prefix_of_prefix_length_le start (List.prefix_append packet _) (by omega)
          by_cases long : 2 ≤ more.length
          · rw [parse_of_garbage_before first more clean
              (List.prefix_of_prefix_length_le framed.magic part long),
              parse_of_packet_part packet more framed part (by omega) long]
            change more.length < limit
            omega
          · -- Too little of the packet to show its magic: one octet of garbage may be kept too.
            have garbageLeft := length_left_of_garbage first clean
            have left := (parse_left_suffix ((parse first).2 ++ more)).length_le
            rw [List.length_append] at left
            rw [parse_append]
            change (parse ((parse first).2 ++ more)).2.length < limit
            simp only [headerLength] at header
            omega

end Interleaved

theorem announced_header_append (flags : PacketFlags) (record : RecordFlags)
    (byteEnable writes reads : UInt8) (blocks : Bytes) :
    announced (header flags record byteEnable writes reads ++ blocks) =
      packetLength writes.toNat reads.toNat := rfl

theorem framed_one_block (flags : PacketFlags) (record : RecordFlags)
    (byteEnable writes reads : UInt8) (base : UInt32) (words : List UInt32)
    (some : words.length ≠ 0) (few : words.length ≤ maximumWords)
    (counts : writes = UInt8.ofNat words.length ∧ reads = 0 ∨
      writes = 0 ∧ reads = UInt8.ofNat words.length) :
    let packet := header flags record byteEnable writes reads ++ block base words
    Framed packet ∧ HasWords packet ∧ packet.length = packetLength words.length 0 := by
  intro packet
  simp only [maximumWords] at few
  have count : (UInt8.ofNat words.length).toNat = words.length := by
    rw [UInt8.toNat_ofNat', Nat.mod_eq_of_lt (by omega)]
  have single : packetLength words.length 0 = headerLength + 4 * (1 + words.length) := by
    simp only [packetLength, blockLength, if_neg some, if_true, Nat.add_zero]
  have length : packet.length = packetLength words.length 0 := by
    rw [single, List.length_append, length_header, length_block]
  have announcement : announced packet = packetLength words.length 0 := by
    rw [announced_header_append]
    rcases counts with ⟨rfl, rfl⟩ | ⟨rfl, rfl⟩
    · rw [count]
      rfl
    · rw [count, single]
      simp only [packetLength, blockLength, if_neg some, UInt8.toNat_zero, if_true, Nat.add_zero]
  refine ⟨⟨⟨packet.drop 2, rfl⟩, by rw [length, announcement], ?_⟩, ?_, length⟩
  · rw [length, single]
    simp only [headerLength, streamCapacity]
    omega
  · change 0 < writes.toNat + reads.toNat
    rcases counts with ⟨rfl, rfl⟩ | ⟨rfl, rfl⟩ <;> omega

theorem place_ok {buffer packet filled : Bytes} {count length : Nat}
    (placed : place buffer count packet = .ok (length, filled)) :
    count ≠ 0 ∧ count ≤ maximumWords ∧ length = packetLength count 0 ∧
      filled = packet ++ buffer.drop (packetLength count 0) := by
  unfold place at placed
  split_ifs at placed with refused
  cases placed
  exact ⟨fun none => refused (.inl none), Nat.not_lt.mp fun many => refused (.inr many), rfl, rfl⟩

theorem framed_of_request {buffer filled : Bytes} {base : UInt32} {words : List UInt32}
    {length : Nat} (placed : fillWriteRequest buffer base words = .ok (length, filled) ∨
      fillReadRequest buffer base words = .ok (length, filled)) :
    Framed (filled.take length) ∧ HasWords (filled.take length) ∧
      (filled.take length).length ≤ 1036 := by
  have taken : ∃ packet, filled.take length = packet ∧ words.length ≤ maximumWords ∧
      Framed packet ∧ HasWords packet ∧ packet.length = packetLength words.length 0 := by
    rcases placed with placed | placed <;>
      obtain ⟨some, few, rfl, rfl⟩ := place_ok placed
    · have good := framed_one_block .request {} 0x0f _ _ base words some few (.inl ⟨rfl, rfl⟩)
      exact ⟨_, List.take_left' good.2.2, few, good⟩
    · have good := framed_one_block .request {} 0x0f _ _ base words some few (.inr ⟨rfl, rfl⟩)
      exact ⟨_, List.take_left' good.2.2, few, good⟩
  obtain ⟨packet, same, few, framed, hasWords, size⟩ := taken
  rw [same]
  refine ⟨framed, hasWords, ?_⟩
  rw [size]
  simp only [packetLength, blockLength, headerLength, maximumWords] at few ⊢
  split_ifs <;> omega

/-- Packets between garbage come out unharmed and in order, and nothing is ever given up, if a
datagram fits behind all of a packet but its last octet. Without any packet, there still has to be
room for the one octet of garbage that may be kept. Requests put into a buffer are such packets. -/
theorem packets_between_garbage_arrive (limit longest : Nat) (overflows : UInt32) (first : Bytes)
    (parts : List (Bytes × Bytes)) (chunks : List Bytes) (clean : NoMagic first)
    (garbage : ∀ part ∈ parts, NoMagic part.2)
    (packets : ∀ part ∈ parts, Framed part.1 ∧ HasWords part.1)
    (bounded : ∀ part ∈ parts, part.1.length ≤ limit) (two : parts = [] → 2 ≤ limit)
    (stream : chunks.flatten = interleave first parts)
    (small : ∀ chunk ∈ chunks, chunk.length ≤ longest)
    (room : limit - 1 + longest ≤ streamCapacity) :
    (Reassembler.Fits chunks ⟨[], overflows⟩ ∧
      ∃ left, (left = [] ∨ left = [magicFirst]) ∧
        Reassembler.pushAll chunks ⟨[], overflows⟩ = (parts.map Prod.fst, ⟨left, overflows⟩)) ∧
    ∀ (buffer filled : Bytes) (base : UInt32) (words : List UInt32) (length : Nat),
      fillWriteRequest buffer base words = .ok (length, filled) ∨
          fillReadRequest buffer base words = .ok (length, filled) →
        Framed (filled.take length) ∧ HasWords (filled.take length) ∧
          (filled.take length).length ≤ 1036 := by
  have atLeastTwo : 2 ≤ limit := by
    cases parts with
    | nil => exact two rfl
    | cons part parts =>
        have header := (packets part List.mem_cons_self).1.header_lt_length
          (packets part List.mem_cons_self).2
        have short := bounded part List.mem_cons_self
        omega
  have empty : parse [] = ([], []) := by rw [parse]
  have fits : Reassembler.Fits chunks ⟨(parse []).2, overflows⟩ := by
    refine Reassembler.fits_of_left_short chunks longest [] overflows ?_ small
    intro before start
    rw [List.nil_append, stream] at start
    have left := length_left_lt_of_prefix atLeastTwo clean garbage packets bounded before start
    omega
  rw [empty] at fits
  have reads := Reassembler.push_all_of_fits chunks ⟨[], overflows⟩ empty fits
  rw [List.nil_append, stream] at reads
  refine ⟨⟨fits, ?_⟩, fun buffer filled base words length => framed_of_request⟩
  rcases parse_interleave clean garbage packets with read | read
  · exact ⟨[], .inl rfl, by rw [reads, read]⟩
  · exact ⟨[magicFirst], .inr rfl, by rw [reads, read]⟩

/-- A packet whose word is a magic, cut inside its own magic and between garbage that ends like the
start of one. -/
theorem packet_with_magic_inside_arrives :
    let packet := writeRequest 0x40 [0x4e6f4e6f]
    let chunks := [[0x00, 0x4e], packet.take 1, packet.drop 1 ++ [0x6f, 0x4e]]
    (∀ chunk ∈ chunks, chunk.length ≤ 21) ∧
      ∃ left, (left = [] ∨ left = [magicFirst]) ∧
        Reassembler.pushAll chunks ⟨[], 0⟩ = ([packet], ⟨left, 0⟩) := by
  intro packet chunks
  have good := framed_one_block .request {} 0x0f _ _ 0x40 [0x4e6f4e6f] (by decide) (by decide)
    (.inl ⟨rfl, rfl⟩)
  have small : ∀ chunk ∈ chunks, chunk.length ≤ 21 := by decide
  refine ⟨small, (packets_between_garbage_arrive 20 21 0 [0x00, 0x4e] [(packet, [0x6f, 0x4e])]
    chunks (by decide) (by decide) ?_ (by decide) (by decide) (by decide) small (by decide)).1.2⟩
  intro part member
  cases List.mem_singleton.mp member
  exact ⟨good.1, good.2.1⟩

/-- Without any packet, a bound on packets alone does not keep the last octet of garbage: it is
given up for a datagram that fills the buffer. -/
theorem lone_octet_given_up :
    ¬∀ (limit longest : Nat) (first : Bytes) (parts : List (Bytes × Bytes)) (chunks : List Bytes),
      NoMagic first → (∀ part ∈ parts, NoMagic part.2) →
      (∀ part ∈ parts, Framed part.1 ∧ HasWords part.1) →
      (∀ part ∈ parts, part.1.length ≤ limit) → limit ≤ streamCapacity →
      chunks.flatten = interleave first parts → (∀ chunk ∈ chunks, chunk.length ≤ longest) →
      limit - 1 + longest ≤ streamCapacity →
        (Reassembler.pushAll chunks {}).2.overflows = 0 := by
  intro always
  have clean : NoMagic (magicFirst :: Bytes.zeros 1512) := by
    rintro magic
    have second : magicSecond ∈ magicFirst :: Bytes.zeros 1512 :=
      magic.subset (List.mem_cons_of_mem _ List.mem_cons_self)
    rcases List.mem_cons.mp second with first | zero
    · cases first
    · cases List.eq_of_mem_replicate zero
  have never := always 1 1512 (magicFirst :: Bytes.zeros 1512) [] [[magicFirst], Bytes.zeros 1512]
    clean (by simp) (by simp) (by simp) (by decide) (by simp [interleave]) (by simp) (by decide)
  have held : (Reassembler.accept [magicFirst] {}).reassembler = ⟨[magicFirst], 0⟩ := by
    decide +kernel
  simp only [Reassembler.pushAll] at never
  rw [held, Reassembler.accept_overflows, Bytes.length_zeros, if_pos (by decide)] at never
  cases never

end InstrumentLink.Etherbone
