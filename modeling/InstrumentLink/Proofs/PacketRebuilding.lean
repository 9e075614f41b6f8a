import InstrumentLink.Proofs.PacketFields

/-!
A packet that is taken apart and built again.

What the fields do not hold are the bits that no field has: four octets of the header, one bit next
to the flags of the packet, and two next to the flags of the record. A packet built from the fields
of another one has zeros there, and is the same packet exactly if the other one has zeros too.
-/

set_option autoImplicit false

namespace InstrumentLink

namespace Bytes

theorem take_eq_map {data : Bytes} {stop : Nat} (inside : stop ≤ data.length) :
    data.take stop = (List.range stop).map (data.getD · 0) := by
  apply List.ext_getElem (by simp [Nat.min_eq_left inside])
  intro index short _
  rw [List.length_take] at short
  simp only [List.getElem_take, List.getElem_map, List.getElem_range]
  exact (List.getD_eq_getElem data 0 (by omega)).symm

theorem word16_inj {high low one two : UInt8} (same : word16 high low = word16 one two) :
    high = one ∧ low = two := by
  have number := congrArg UInt16.toNat same
  simp only [word16, UInt16.toNat_ofNat'] at number
  have bounds := And.intro high.toNat_lt low.toNat_lt
  have otherBounds := And.intro one.toNat_lt two.toNat_lt
  simp only [← UInt8.toNat_inj]
  omega

end Bytes

namespace Etherbone

theorem PacketFlags.version_unpack_lt (octet : UInt8) : (unpack octet).version < 16 := by
  obtain ⟨⟨octet⟩⟩ := octet
  revert octet
  decide +kernel

theorem PacketFlags.pack_unpack_iff (octet : UInt8) :
    (unpack octet).pack = octet ↔ octet.toNat.testBit 3 = false := by
  obtain ⟨⟨octet⟩⟩ := octet
  revert octet
  decide +kernel

theorem RecordFlags.pack_unpack_iff (octet : UInt8) :
    (unpack octet).pack = octet ↔
      octet.toNat.testBit 3 = false ∧ octet.toNat.testBit 7 = false := by
  obtain ⟨⟨octet⟩⟩ := octet
  revert octet
  decide +kernel

theorem unpack_sizes_iff (octet : UInt8) :
    unpackSizes octet = (busWidth, busWidth) ↔ octet = packSizes busWidth busWidth := by
  obtain ⟨⟨octet⟩⟩ := octet
  revert octet
  decide +kernel

/-- The bits of a header that belong to no field are clear. -/
structure ReservedClear (data : Bytes) : Prop where
  octets : ∀ index < 8, 4 ≤ index → data.getD index 0 = 0
  packetBit : (data.getD 2 0).toNat.testBit 3 = false
  recordBits : (data.getD 8 0).toNat.testBit 3 = false ∧ (data.getD 8 0).toNat.testBit 7 = false

section Parsed

variable {data : Bytes} {writes reads : UInt8}

theorem check_holds_packet (accepted : check data = .ok ()) (counted : writeCount data = .ok writes)
    (countedToo : readCount data = .ok reads) :
    packetLength writes.toNat reads.toNat ≤ data.length := by
  by_cases short : data.length < headerLength
  · rw [check, peekLength, if_pos short] at accepted
    cases accepted
  · have announced : announcedLength data = .ok (packetLength writes.toNat reads.toNat) :=
      bind_known counted (bind_known countedToo rfl)
    rw [check, peekLength, if_neg short, announced] at accepted
    refine Nat.not_lt.mp fun outside => ?_
    cases accepted.symm.trans (if_pos outside)

theorem supported_octets (supported : isSupported data = .ok true)
    (long : headerLength ≤ data.length) :
    data.getD 0 0 = 0x4e ∧ data.getD 1 0 = 0x6f ∧ data.getD 3 0 = packSizes busWidth busWidth := by
  simp only [headerLength] at long
  have start := Bytes.word16_at_inside data 0 (by omega)
  have sizes := Bytes.octet_at_inside data 3 (by omega)
  simp only [isSupported, magicOf, addressSize, portSize, start, sizes, bind, Except.bind, pure,
    Except.pure] at supported
  split at supported
  · next magical =>
      split at supported
      · next wide =>
          have ported := of_decide_eq_true (Except.ok.inj supported)
          have begins : Bytes.word16 (data.getD 0 0) (data.getD 1 0) = Bytes.word16 0x4e 0x6f :=
            magical
          obtain ⟨first, second⟩ := Bytes.word16_inj begins
          exact ⟨first, second, (unpack_sizes_iff _).mp (Prod.ext wide ported)⟩
      · cases supported
  · cases supported

theorem announces_parsed (accepted : check data = .ok ()) (supported : isSupported data = .ok true)
    (counted : writeCount data = .ok writes) (countedToo : readCount data = .ok reads)
    (long : headerLength ≤ data.length) :
    Announces (PacketFlags.unpack (data.getD 2 0)) (RecordFlags.unpack (data.getD 8 0))
      (data.getD 9 0) writes reads data := by
  simp only [headerLength] at long
  exact {
    accepted := accepted
    supported := supported
    flags := bind_known (Bytes.octet_at_inside data 2 (by omega)) rfl
    record := bind_known (Bytes.octet_at_inside data 8 (by omega)) rfl
    byteEnable := Bytes.octet_at_inside data 9 (by omega)
    writes := counted
    reads := countedToo }

/-- The header that is made of the fields of another header is the same but for the bits that no
field has. -/
theorem header_eq_take_iff (supported : isSupported data = .ok true)
    (counted : writeCount data = .ok writes) (countedToo : readCount data = .ok reads)
    (long : headerLength ≤ data.length) :
    header (PacketFlags.unpack (data.getD 2 0)) (RecordFlags.unpack (data.getD 8 0))
        (data.getD 9 0) writes reads = data.take headerLength ↔
      ReservedClear data := by
  obtain ⟨first, second, sizes⟩ := supported_octets supported long
  rw [Bytes.take_eq_map long]
  simp only [headerLength] at long
  obtain rfl : writes = data.getD 10 0 :=
    Except.ok.inj (counted.symm.trans (Bytes.octet_at_inside data 10 (by omega)))
  obtain rfl : reads = data.getD 11 0 :=
    Except.ok.inj (countedToo.symm.trans (Bytes.octet_at_inside data 11 (by omega)))
  change ([0x4e, 0x6f, (PacketFlags.unpack (data.getD 2 0)).pack, packSizes busWidth busWidth,
    0, 0, 0, 0, (RecordFlags.unpack (data.getD 8 0)).pack, data.getD 9 0, data.getD 10 0,
    data.getD 11 0] : Bytes) = [data.getD 0 0, data.getD 1 0, data.getD 2 0, data.getD 3 0,
    data.getD 4 0, data.getD 5 0, data.getD 6 0, data.getD 7 0, data.getD 8 0, data.getD 9 0,
    data.getD 10 0, data.getD 11 0] ↔ _
  rw [first, second, sizes]
  simp only [List.cons.injEq, true_and, and_true, PacketFlags.pack_unpack_iff,
    RecordFlags.pack_unpack_iff]
  constructor
  · rintro ⟨packetBit, four, five, six, seven, recordBits⟩
    refine ⟨fun index stop start => ?_, packetBit, recordBits⟩
    obtain rfl | rfl | rfl | rfl : index = 4 ∨ index = 5 ∨ index = 6 ∨ index = 7 := by omega
    · exact four.symm
    · exact five.symm
    · exact six.symm
    · exact seven.symm
  · rintro ⟨octets, packetBit, recordBits⟩
    have octet (index : Nat) (stop : index < 8) (start : 4 ≤ index) :=
      (octets index stop start).symm
    exact ⟨packetBit, octet 4 (by decide) (by decide), octet 5 (by decide) (by decide),
      octet 6 (by decide) (by decide), octet 7 (by decide) (by decide), recordBits⟩

end Parsed

/-- Reads what a packet says, its words in a given order, and says it in another buffer. -/
def rebuild (data buffer : Bytes) (order : List BlockWord) : Except Fault Bytes := do
  let flags ← packetFlags data
  let record ← recordFlags data
  let enabled ← byteEnable data
  let writes ← writeCount data
  let reads ← readCount data
  let settings ← order.mapM fun word => do return (word, ← word.read data)
  compose buffer flags record enabled writes reads settings

/-- What is built of an accepted packet, its words in any order, says the same in every field. It is
the same packet exactly if the bits that no field has were clear. -/
theorem rebuilding_loses_reserved_bits_only {data buffer : Bytes} {writes reads : UInt8}
    {order : List BlockWord} (accepted : check data = .ok ())
    (supported : isSupported data = .ok true) (counted : writeCount data = .ok writes)
    (countedToo : readCount data = .ok reads)
    (room : packetLength writes.toNat reads.toNat ≤ buffer.length)
    (complete : ∀ word, word ∈ order ↔ word.Present writes.toNat reads.toNat) :
    Returns (rebuild data buffer order) fun rebuilt =>
      (rebuilt.take (packetLength writes.toNat reads.toNat) =
          data.take (packetLength writes.toNat reads.toNat) ↔ ReservedClear data) ∧
      Bytes.SameBut (· < packetLength writes.toNat reads.toNat) buffer rebuilt ∧
      (∃ flags record enabled, Announces flags record enabled writes reads data ∧
        Announces flags record enabled writes reads rebuilt) ∧
      ∀ word : BlockWord, word.Present writes.toNat reads.toNat →
        ∃ value, word.read data = .ok value ∧ word.read rebuilt = .ok value := by
  have large := check_holds_packet accepted counted countedToo
  have long := header_length_le_packet_length writes.toNat reads.toNat
  have header := header_eq_take_iff supported counted countedToo (by omega)
  have announces := announces_parsed accepted supported counted countedToo (by omega)
  have settings : (order.mapM fun word => do return (word, ← word.read data)) =
      .ok (order.map fun word => (word, word.standing writes.toNat data)) :=
    map_m_ok _ _ _ fun word member =>
      bind_known (BlockWord.read_standing ((complete word).mp member) counted large) rfl
  refine Returns.bind_ok announces.flags <| Returns.bind_ok announces.record <|
    Returns.bind_ok announces.byteEnable <| Returns.bind_ok counted <|
    Returns.bind_ok countedToo <| Returns.bind_ok settings ?_
  refine (compose_returns _ _ _ _ room ?_).mono ?_
  · intro setting member
    obtain ⟨word, listed, rfl⟩ := List.mem_map.mp member
    exact (complete word).mp listed
  · rintro rebuilt ⟨top, same, stands⟩
    have roomy : packetLength writes.toNat reads.toNat ≤ rebuilt.length := by rwa [same.1]
    have announcesToo := announces_header (PacketFlags.version_unpack_lt _) roomy top
    have agree : ∀ word : BlockWord, word.Present writes.toNat reads.toNat →
        word.standing writes.toNat rebuilt = word.standing writes.toNat data := by
      intro word given
      rw [stands word given]
      refine last_set_of_same ?_ ?_ _
      · exact ⟨_, List.mem_map_of_mem ((complete word).mpr given), rfl⟩
      · intro setting member equal
        obtain ⟨other, -, rfl⟩ := List.mem_map.mp member
        exact congrArg (BlockWord.standing writes.toNat data) equal
    refine ⟨⟨fun equal => header.mp ?_, fun clear => ?_⟩, same, ⟨_, _, _, announces, announcesToo⟩,
      fun word given => ⟨_, BlockWord.read_standing given counted large, ?_⟩⟩
    · have front := congrArg (List.take headerLength) equal
      rwa [List.take_take, List.take_take, Nat.min_eq_left long, top] at front
    · exact take_packet_eq (top.trans (header.mpr clear)) roomy large agree
    · rw [BlockWord.read_standing given announcesToo.writes roomy, agree word given]

/-- A write of one word, its reserved bit clear and then set. -/
theorem set_bit_is_lost :
    let rest : Bytes := [0x44, 0, 0, 0, 0, 0, 0x0f, 1, 0, 0, 0, 0, 16, 0, 0, 0, 5]
    let clear : Bytes := [0x4e, 0x6f, 0x10] ++ rest
    let set : Bytes := [0x4e, 0x6f, 0x18] ++ rest
    rebuild clear (Bytes.zeros 20) [.writeValue 0, .writeBase] = .ok clear ∧
      ∃ rebuilt, rebuild set (Bytes.zeros 20) [.writeValue 0, .writeBase] = .ok rebuilt ∧
        rebuilt.take 20 ≠ set ∧ writeValue rebuilt 0 = .ok 5 := by
  intro rest clear set
  have complete (word : BlockWord) :
      word ∈ [BlockWord.writeValue 0, .writeBase] ↔ word.Present 1 0 := by
    cases word <;> simp [BlockWord.Present]
  constructor
  · obtain ⟨rebuilt, built, equal, same, -⟩ := @rebuilding_loses_reserved_bits_only clear
      (Bytes.zeros 20) 1 0 _ rfl rfl rfl rfl (by decide) complete
    have whole : rebuilt.length = 20 := same.1
    have reproduced := equal.mpr ⟨by decide, by decide, by decide⟩
    have all := List.take_of_length_le (Nat.le_of_eq whole)
    rw [built, ← all]
    exact congrArg Except.ok reproduced
  · obtain ⟨rebuilt, built, equal, -, -, words⟩ := @rebuilding_loses_reserved_bits_only set
      (Bytes.zeros 20) 1 0 _ rfl rfl rfl rfl (by decide) complete
    obtain ⟨value, before, after⟩ := words (.writeValue 0) (by decide)
    cases before
    refine ⟨rebuilt, built, fun reproduced => ?_, after⟩
    exact absurd (equal.mp reproduced).packetBit (by decide)

end Etherbone

end InstrumentLink
