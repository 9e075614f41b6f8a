import InstrumentLink.Client.Session
import InstrumentLink.Etherbone.Endpoint
import InstrumentLink.Proofs.EndpointSafety

/-!
What was written is read back.

A word stands as octets in a string and is the same word again wherever it is found. So a record of
one block, taken apart, asks for what it was made of, and a reply gives the values that were put
into it.
-/

set_option autoImplicit false

namespace InstrumentLink

namespace Bytes

theorem word16_of_octets (word : UInt16) :
    word16 (UInt8.ofNat (word.toNat / 256)) (UInt8.ofNat word.toNat) = word := by
  have bound := word.toNat_lt
  apply UInt16.toNat_inj.mp
  simp only [word16, UInt16.toNat_ofNat', UInt8.toNat_ofNat']
  omega

theorem word32_of_octets (word : UInt32) :
    word32 (UInt8.ofNat (word.toNat / 16777216)) (UInt8.ofNat (word.toNat / 65536))
      (UInt8.ofNat (word.toNat / 256)) (UInt8.ofNat word.toNat) = word := by
  have bound := word.toNat_lt
  apply UInt32.toNat_inj.mp
  simp only [word32, UInt32.toNat_ofNat', UInt8.toNat_ofNat']
  omega

theorem word_at_append (front rest : Bytes) (index : Nat) :
    wordAt (front ++ rest) (front.length + index) = wordAt rest index := by
  simp only [wordAt, Nat.add_assoc, List.getD_eq_getElem?_getD,
    List.getElem?_append_right (Nat.le_add_right _ _), Nat.add_sub_cancel_left]

theorem word_at_start (word : UInt32) (rest : Bytes) : wordAt (ofWord32 word ++ rest) 0 = word :=
  word32_of_octets word

theorem words_at (words : List UInt32) (rest : Bytes) :
    ((List.range words.length).map fun index =>
      wordAt (words.flatMap ofWord32 ++ rest) (4 * index)) = words := by
  induction words with
  | nil => rfl
  | cons word words induction =>
      rw [List.flatMap_cons, List.append_assoc, List.length_cons, List.range_succ_eq_map,
        List.map_cons, List.map_map, Nat.mul_zero, word_at_start]
      refine congrArg (word :: ·) (Eq.trans (List.map_congr_left fun index _ => ?_) induction)
      rw [Function.comp_apply, Nat.succ_eq_add_one, Nat.mul_add, Nat.mul_one, Nat.add_comm]
      exact word_at_append (ofWord32 word) _ (4 * index)

end Bytes

def Bus.burst (base : UInt32) (values : List UInt32) : List (UInt32 × UInt32) :=
  values.mapIdx fun index value => (base + UInt32.ofNat (4 * index), value)

@[simp] theorem Bus.length_burst (base : UInt32) (values : List UInt32) :
    (burst base values).length = values.length :=
  List.length_mapIdx

namespace Etherbone

theorem word_count_toNat {count : Nat} (few : count ≤ maximumWords) :
    (UInt8.ofNat count).toNat = count := by
  simp only [maximumWords] at few
  rw [UInt8.toNat_ofNat', Nat.mod_eq_of_lt (by omega)]

section Block

variable (front : Bytes) (base : UInt32) (words : List UInt32)

theorem block_base : Bytes.wordAt (front ++ block base words) front.length = base :=
  (Bytes.word_at_append front _ 0).trans (Bytes.word_at_start base _)

theorem block_words :
    ((List.range words.length).map fun index =>
      Bytes.wordAt (front ++ block base words) (front.length + 4 + 4 * index)) = words := by
  have apart := Bytes.words_at words []
  rw [List.append_nil] at apart
  have moved (index : Nat) : Bytes.wordAt (front ++ block base words)
      (front.length + 4 + 4 * index) = Bytes.wordAt (words.flatMap Bytes.ofWord32) (4 * index) := by
    rw [block, ← List.append_assoc, Nat.add_assoc, ← Nat.add_assoc, ← Bytes.length_of_word32 base,
      ← List.length_append, Bytes.word_at_append]
  simpa only [moved] using apart

theorem block_word {index : Nat} (inside : index < words.length) :
    Bytes.wordAt (front ++ block base words) (front.length + 4 + 4 * index) = words[index] := by
  have read := List.getElem_of_eq (block_words front base words) (by simpa using inside)
  simpa using read

theorem block_burst :
    ((List.range words.length).map fun index =>
      (base + UInt32.ofNat (4 * index),
        Bytes.wordAt (front ++ block base words) (front.length + 4 + 4 * index))) =
      Bus.burst base words := by
  apply List.ext_getElem (by simp)
  intro index inside same
  rw [List.length_map, List.length_range] at inside
  simp [Bus.burst, block_word front base words inside]

end Block

theorem request_of_write {base : UInt32} {values : List UInt32}
    (few : values.length ≤ maximumWords) :
    requestOf (writeRequest base values) = ⟨0x0f, Bus.burst base values, [], 0⟩ := by
  have words := block_burst (header .request {} 0x0f (UInt8.ofNat values.length) 0) base values
  have start := block_base (header .request {} 0x0f (UInt8.ofNat values.length) 0) base values
  rw [length_header] at words start
  have count : (writeRequest base values).getD 10 0 = UInt8.ofNat values.length := rfl
  simp only [requestOf, count, word_count_toNat few]
  change (⟨0x0f, (List.range values.length).map fun index =>
    (Bytes.wordAt (writeRequest base values) headerLength + _, _), _, _⟩ : Request) = _
  rw [writeRequest, start, words]
  rfl

theorem request_of_read {tag : UInt32} {addresses : List UInt32} (some : addresses ≠ [])
    (few : addresses.length ≤ maximumWords) :
    requestOf (readRequest tag addresses) = ⟨0x0f, [], addresses, tag⟩ := by
  have words := block_words (header .request {} 0x0f 0 (UInt8.ofNat addresses.length)) tag addresses
  have start := block_base (header .request {} 0x0f 0 (UInt8.ofNat addresses.length)) tag addresses
  rw [length_header] at words start
  have writes : (readRequest tag addresses).getD 10 0 = 0 := rfl
  have count : (readRequest tag addresses).getD 11 0 = UInt8.ofNat addresses.length := rfl
  have counted : addresses.length ≠ 0 := fun none => some (List.length_eq_zero_iff.mp none)
  simp only [requestOf, writes, count, word_count_toNat few, if_neg counted]
  change (⟨0x0f, [], (List.range addresses.length).map fun index =>
    Bytes.wordAt (readRequest tag addresses) (headerLength + 4 + 4 * index),
    Bytes.wordAt (readRequest tag addresses) headerLength⟩ : Request) = _
  rw [readRequest, start, words]

theorem one_block_has_bus_widths (flags : PacketFlags) (record : RecordFlags)
    (byteEnable writes reads : UInt8) (blocks : Bytes) :
    HasBusWidths (header flags record byteEnable writes reads ++ blocks) := by
  change unpackSizes (packSizes busWidth busWidth) = (busWidth, busWidth)
  decide

theorem Framed.check {packet : Bytes} (framed : Framed packet) :
    Etherbone.check packet = .ok () := by
  have header := framed.header_le
  have whole := framed.length
  have writes : writeCount packet = .ok (packet.getD 10 0) :=
    Bytes.octet_at_inside packet 10 (by simp only [headerLength] at header; omega)
  have reads : readCount packet = .ok (packet.getD 11 0) :=
    Bytes.octet_at_inside packet 11 (by simp only [headerLength] at header; omega)
  have peeked : peekLength packet = some (announced packet) := by
    simp [peekLength, announcedLength, writes, reads, Nat.not_lt.mpr header, announced,
      Except.toOption, bind, Except.bind, pure, Except.pure]
  simp [Etherbone.check, peeked, whole]

end Etherbone

namespace Client

open Etherbone

theorem Reply.of_read_reply (byteEnable : UInt8) (base : UInt32) {values : List UInt32}
    (some : values ≠ []) (few : values.length ≤ Etherbone.maximumWords) :
    ofPacket (readReply byteEnable base values) = .ok (.some ⟨base, values⟩) := by
  have counted : values.length ≠ 0 := fun none => some (List.length_eq_zero_iff.mp none)
  have count := word_count_toNat few
  obtain ⟨framed, hasWords, -⟩ : Framed (readReply byteEnable base values) ∧
      HasWords (readReply byteEnable base values) ∧ _ :=
    framed_one_block .reply {} byteEnable _ _ base values counted few (.inl ⟨rfl, rfl⟩)
  have long := framed.header_lt_length hasWords
  have supported : isSupported (readReply byteEnable base values) = .ok true := by
    rw [framed.is_supported]
    exact congrArg _ (decide_eq_true (one_block_has_bus_widths _ _ _ _ _ _))
  have counts : writeCount (readReply byteEnable base values) =
      .ok (UInt8.ofNat values.length) := rfl
  have start : writeBase (readReply byteEnable base values) = .ok base := by
    refine (Bytes.word32_at_inside _ _ (by omega)).trans (congrArg _ ?_)
    exact block_base (header .reply {} byteEnable (UInt8.ofNat values.length) 0) base values
  have words : (List.range values.length).mapM (writeValue (readReply byteEnable base values)) =
      .ok values := by
    have read := block_words (header .reply {} byteEnable (UInt8.ofNat values.length) 0) base values
    refine (map_m_ok _ _ _ fun index member => ?_).trans (congrArg _ read)
    refine framed.write_value index ?_
    exact Nat.lt_of_lt_of_eq (List.mem_range.mp member) count.symm
  simp only [ofPacket, supported, counts, start, words, count, bind, Except.bind, pure, Except.pure,
    if_true, if_neg counted]

end Client

end InstrumentLink
