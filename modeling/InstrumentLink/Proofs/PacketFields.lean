import InstrumentLink.Proofs.FaithfulRing
import InstrumentLink.Proofs.ReadBack
import Mathlib.Data.List.GetD

/-!
What is set in a packet is read from it.

Behind the header stand words only, each at a multiple of four octets from the start, and every word
that the counts give room for has a place of its own. So the words of both blocks may be set in any
order, also again and again: the header stays, what stands behind the packet stays, and each word
reads as it was set last. A packet of one block, built whole, is the same packet.
-/

set_option autoImplicit false

namespace InstrumentLink

namespace Bytes

theorem word32_inj {first second third fourth one two three four : UInt8}
    (same : word32 first second third fourth = word32 one two three four) :
    first = one ∧ second = two ∧ third = three ∧ fourth = four := by
  have number := congrArg UInt32.toNat same
  simp only [word32, UInt32.toNat_ofNat'] at number
  have bounds := And.intro first.toNat_lt (And.intro second.toNat_lt
    (And.intro third.toNat_lt fourth.toNat_lt))
  have otherBounds := And.intro one.toNat_lt (And.intro two.toNat_lt
    (And.intro three.toNat_lt four.toNat_lt))
  simp only [← UInt8.toNat_inj]
  omega

theorem octet_of_word_at {one other : Bytes} {index : Nat}
    (same : wordAt one index = wordAt other index) {offset : Nat} (inside : offset < 4) :
    one.getD (index + offset) 0 = other.getD (index + offset) 0 := by
  obtain ⟨first, second, third, fourth⟩ := word32_inj same
  obtain _ | _ | _ | _ | offset := offset
  · exact first
  · exact second
  · exact third
  · exact fourth
  · omega

theorem word_at_overwritten {data result : Bytes} {start : Nat} {word : UInt32}
    (written : overwrite data start (ofWord32 word) = .ok result) : wordAt result start = word := by
  unfold overwrite at written
  split at written
  · next inside =>
      cases written
      have front : (data.take start).length = start := by
        rw [length_of_word32] at inside
        rw [List.length_take]
        omega
      have found := word_at_append (data.take start)
        (ofWord32 word ++ data.drop (start + (ofWord32 word).length)) 0
      rw [front, Nat.add_zero, ← List.append_assoc] at found
      exact found.trans (word_at_start word _)
  · cases written

theorem word_at_same_but {places : Nat → Prop} {data other : Bytes}
    (same : SameBut places data other) {index : Nat}
    (apart : ∀ offset, offset < 4 → ¬places (index + offset)) :
    wordAt other index = wordAt data index := by
  have octet (offset : Nat) (inside : offset < 4) :
      other.getD (index + offset) 0 = data.getD (index + offset) 0 := by
    rw [List.getD_eq_getElem?_getD, same.2 _ (apart offset inside), ← List.getD_eq_getElem?_getD]
  simp only [wordAt]
  rw [octet 1 (by decide), octet 2 (by decide), octet 3 (by decide)]
  exact congrArg (word32 · _ _ _) (octet 0 (by decide))

end Bytes

namespace Etherbone

theorem PacketFlags.unpack_pack (flags : PacketFlags) (small : flags.version < 16) :
    unpack flags.pack = flags := by
  obtain ⟨version, noReads, probeResponse, probe⟩ := flags
  obtain ⟨⟨version⟩⟩ := version
  revert version noReads probeResponse probe
  decide +kernel

theorem RecordFlags.unpack_pack (flags : RecordFlags) : unpack flags.pack = flags := by
  obtain ⟨bca, rca, rff, cyc, wca, wff⟩ := flags
  revert bca rca rff cyc wca wff
  decide

/-- The header of a packet of the executed widths whose octets are all there. -/
structure Announces (flags : PacketFlags) (record : RecordFlags) (byteEnable writes reads : UInt8)
    (data : Bytes) : Prop where
  accepted : check data = .ok ()
  supported : isSupported data = .ok true
  flags : packetFlags data = .ok flags
  record : recordFlags data = .ok record
  byteEnable : Etherbone.byteEnable data = .ok byteEnable
  writes : writeCount data = .ok writes
  reads : readCount data = .ok reads

section Header

variable {flags : PacketFlags} {record : RecordFlags} {byteEnable writes reads : UInt8}
  {data : Bytes}

theorem announces_header (small : flags.version < 16)
    (room : packetLength writes.toNat reads.toNat ≤ data.length)
    (top : data.take headerLength = header flags record byteEnable writes reads) :
    Announces flags record byteEnable writes reads data := by
  obtain ⟨rest, rfl⟩ : ∃ rest, data = header flags record byteEnable writes reads ++ rest :=
    ⟨data.drop headerLength, by rw [← top, List.take_append_drop]⟩
  have packetUnpacked := flags.unpack_pack small
  have recordUnpacked := record.unpack_pack
  have long := header_length_le_packet_length writes.toNat reads.toNat
  have peeked : peekLength (header flags record byteEnable writes reads ++ rest) =
      some (packetLength writes.toNat reads.toNat) :=
    if_neg (by omega)
  exact {
    accepted := by
      rw [check, peeked]
      exact if_neg (by omega)
    supported := rfl
    flags := congrArg Except.ok packetUnpacked
    record := congrArg Except.ok recordUnpacked
    byteEnable := rfl
    writes := rfl
    reads := rfl }

end Header

inductive BlockWord where
  | writeBase
  | writeValue (index : Nat)
  | returnBase
  | readAddress (index : Nat)
  deriving DecidableEq, Repr

namespace BlockWord

def read (data : Bytes) : BlockWord → Except Fault UInt32
  | writeBase => Etherbone.writeBase data
  | writeValue index => Etherbone.writeValue data index
  | returnBase => Etherbone.returnBase data
  | readAddress index => Etherbone.readAddress data index

def set (data : Bytes) (value : UInt32) : BlockWord → Except Fault Bytes
  | writeBase => setWriteBase data value
  | writeValue index => setWriteValue data index value
  | returnBase => setReturnBase data value
  | readAddress index => setReadAddress data index value

def Present (writes reads : Nat) : BlockWord → Prop
  | writeBase => 0 < writes
  | writeValue index => index < writes
  | returnBase => 0 < reads
  | readAddress index => index < reads

instance (writes reads : Nat) : DecidablePred (Present writes reads)
  | writeBase | returnBase => Nat.decLt 0 _
  | writeValue index | readAddress index => Nat.decLt index _

def offset (writes : Nat) : BlockWord → Nat
  | writeBase => headerLength
  | writeValue index => headerLength + 4 + 4 * index
  | returnBase => headerLength + blockLength writes
  | readAddress index => headerLength + blockLength writes + 4 + 4 * index

variable {writes reads : Nat} {word other : BlockWord}

theorem offset_bounds (present : word.Present writes reads) :
    headerLength ≤ word.offset writes ∧ word.offset writes + 4 ≤ packetLength writes reads := by
  cases word <;> simp only [Present, offset, packetLength, blockLength] at present ⊢ <;>
    split_ifs <;> omega

theorem offset_apart (present : word.Present writes reads) (presentToo : other.Present writes reads)
    (differ : other ≠ word) :
    word.offset writes + 4 ≤ other.offset writes ∨
      other.offset writes + 4 ≤ word.offset writes := by
  cases word <;> cases other <;>
    simp only [Present, offset, blockLength, ne_eq, reduceCtorEq, not_false_eq_true,
      not_true_eq_false, writeValue.injEq, readAddress.injEq] at present presentToo differ ⊢ <;>
    (try split_ifs) <;> omega

/-- The words leave no gap: every octet behind the header belongs to one. -/
theorem exists_covering {index : Nat} (behind : headerLength ≤ index)
    (inside : index < packetLength writes reads) :
    ∃ word : BlockWord, word.Present writes reads ∧ word.offset writes ≤ index ∧
      index < word.offset writes + 4 := by
  by_cases first : index < headerLength + blockLength writes
  · have some : writes ≠ 0 := by
      rintro rfl
      simp only [blockLength, if_true] at first
      omega
    simp only [blockLength, if_neg some] at first
    by_cases base : index < headerLength + 4
    · exact ⟨writeBase, Nat.pos_of_ne_zero some, behind, base⟩
    · refine ⟨writeValue ((index - headerLength - 4) / 4), ?_, ?_, ?_⟩ <;>
        simp only [Present, offset] <;> omega
  · have some : reads ≠ 0 := by
      rintro rfl
      simp only [packetLength, blockLength, if_true] at inside first
      omega
    have block : blockLength reads = 4 * (1 + reads) := if_neg some
    rw [packetLength, block] at inside
    by_cases base : index < headerLength + blockLength writes + 4
    · exact ⟨returnBase, Nat.pos_of_ne_zero some, Nat.not_lt.mp first, base⟩
    · refine ⟨readAddress ((index - (headerLength + blockLength writes) - 4) / 4), ?_, ?_, ?_⟩ <;>
        simp only [Present, offset] <;> omega

/-- The word as it stands in a string with zeros behind it. -/
def standing (writes : Nat) (data : Bytes) (word : BlockWord) : UInt32 :=
  Bytes.wordAt data (word.offset writes)

theorem read_standing {data : Bytes} {writeCount : UInt8} (present : word.Present
    writeCount.toNat reads) (counted : Etherbone.writeCount data = .ok writeCount)
    (room : packetLength writeCount.toNat reads ≤ data.length) :
    word.read data = .ok (word.standing writeCount.toNat data) := by
  have start : readBlockStart data = .ok (headerLength + blockLength writeCount.toNat) := by
    rw [readBlockStart, counted]
    rfl
  have inside := (offset_bounds present).2
  have found : Bytes.word32At data (word.offset writeCount.toNat) =
      .ok (word.standing writeCount.toNat data) :=
    Bytes.word32_at_inside data _ (by omega)
  cases word with
  | writeBase | writeValue index => exact found
  | returnBase | readAddress index => exact bind_known start found

theorem set_eq_overwrite {data : Bytes} {writeCount : UInt8}
    (counted : Etherbone.writeCount data = .ok writeCount) (value : UInt32) (word : BlockWord) :
    word.set data value =
      Bytes.overwrite data (word.offset writeCount.toNat) (Bytes.ofWord32 value) := by
  have start : readBlockStart data = .ok (headerLength + blockLength writeCount.toNat) := by
    rw [readBlockStart, counted]
    rfl
  cases word with
  | writeBase | writeValue index => rfl
  | returnBase | readAddress index => exact bind_known start rfl

end BlockWord

/-- Between two strings, only octets between the header and the end of the packet differ. -/
def SameFrame (writes reads : UInt8) : Bytes → Bytes → Prop :=
  Bytes.SameBut fun index =>
    headerLength ≤ index ∧ index < packetLength writes.toNat reads.toNat

section Setting

variable {writes reads : UInt8} {data : Bytes}

theorem SameFrame.header {before after : Bytes} (same : SameFrame writes reads before after) :
    after.take headerLength = before.take headerLength := by
  apply List.ext_getElem?
  intro index
  simp only [List.getElem?_take]
  split
  · exact same.2 index (by omega)
  · rfl

theorem SameFrame.write_count {before after : Bytes} (same : SameFrame writes reads before after) :
    writeCount after = writeCount before := by
  unfold writeCount Bytes.octetAt
  rw [same.2 10 (by simp only [headerLength]; omega)]

theorem BlockWord.set_returns {word : BlockWord} (value : UInt32)
    (present : word.Present writes.toNat reads.toNat) (counted : writeCount data = .ok writes)
    (room : packetLength writes.toNat reads.toNat ≤ data.length) :
    Returns (word.set data value) fun after => SameFrame writes reads data after ∧
      ∀ other : BlockWord, other.Present writes.toNat reads.toNat →
        other.standing writes.toNat after =
          if word = other then value else other.standing writes.toNat data := by
  obtain ⟨start, stop⟩ := offset_bounds present
  have inside : word.offset writes.toNat + (Bytes.ofWord32 value).length ≤ data.length := by
    rw [Bytes.length_of_word32]
    omega
  obtain ⟨after, written, -⟩ := Bytes.overwrite_inside data _ _ inside
  have same := Bytes.SameBut.of_overwrite written
  rw [Bytes.length_of_word32] at same
  refine ⟨after, (set_eq_overwrite counted value word).trans written,
    same.mono fun index inside => by omega, fun other presentToo => ?_⟩
  split
  · next equal =>
      subst equal
      exact Bytes.word_at_overwritten written
  · next differ =>
      have apart := offset_apart present presentToo (Ne.symm differ)
      exact Bytes.word_at_same_but same fun offset _ => by omega

theorem take_packet_eq {one other : Bytes}
    (top : one.take headerLength = other.take headerLength)
    (room : packetLength writes.toNat reads.toNat ≤ one.length)
    (roomToo : packetLength writes.toNat reads.toNat ≤ other.length)
    (same : ∀ word : BlockWord, word.Present writes.toNat reads.toNat →
      word.standing writes.toNat one = word.standing writes.toNat other) :
    one.take (packetLength writes.toNat reads.toNat) =
      other.take (packetLength writes.toNat reads.toNat) := by
  apply List.ext_getElem?
  intro index
  by_cases inside : index < packetLength writes.toNat reads.toNat
  · rw [List.getElem?_take_of_lt inside, List.getElem?_take_of_lt inside]
    by_cases before : index < headerLength
    · rw [← List.getElem?_take_of_lt before, top, List.getElem?_take_of_lt before]
    · obtain ⟨word, given, start, stop⟩ :=
        BlockWord.exists_covering (Nat.not_lt.mp before) inside
      have octet := Bytes.octet_of_word_at (same word given)
        (show index - word.offset writes.toNat < 4 by omega)
      rw [Nat.add_sub_cancel' start, List.getD_eq_getElem _ _ (by omega),
        List.getD_eq_getElem _ _ (by omega)] at octet
      rw [List.getElem?_eq_getElem (by omega), List.getElem?_eq_getElem (by omega), octet]
  · simp only [List.getElem?_take, if_neg inside]

def setAll (settings : List (BlockWord × UInt32)) (data : Bytes) : Except Fault Bytes :=
  settings.foldlM (fun data setting => setting.1.set data setting.2) data

def lastSet (settings : List (BlockWord × UInt32)) (word : BlockWord) (before : UInt32) : UInt32 :=
  settings.foldl (fun value setting => if setting.1 = word then setting.2 else value) before

theorem last_set_of_last {word : BlockWord} {value : UInt32}
    {earlier later : List (BlockWord × UInt32)} (last : ∀ setting ∈ later, setting.1 ≠ word)
    (before : UInt32) : lastSet (earlier ++ (word, value) :: later) word before = value := by
  rw [lastSet, List.foldl_append, List.foldl_cons, if_pos rfl]
  induction later with
  | nil => rfl
  | cons setting later induction =>
      obtain ⟨other, others⟩ := List.forall_mem_cons.mp last
      rw [List.foldl_cons, if_neg other]
      exact induction others

/-- What is set at least once, and always to one value, has that value. -/
theorem last_set_of_same {word : BlockWord} {value : UInt32} {settings : List (BlockWord × UInt32)}
    (some : ∃ setting ∈ settings, setting.1 = word)
    (same : ∀ setting ∈ settings, setting.1 = word → setting.2 = value) (before : UInt32) :
    lastSet settings word before = value := by
  induction settings generalizing before with
  | nil =>
      obtain ⟨setting, member, -⟩ := some
      cases member
  | cons setting settings induction =>
      obtain ⟨first, later⟩ := List.forall_mem_cons.mp same
      by_cases again : ∃ setting ∈ settings, setting.1 = word
      · exact induction again later _
      · have last : ∀ setting ∈ settings, setting.1 ≠ word := fun setting member equal =>
          again ⟨setting, member, equal⟩
        obtain ⟨found, member, equal⟩ := some
        obtain rfl | member := List.mem_cons.mp member
        · have alone := @last_set_of_last found.1 found.2 [] settings (by rwa [equal]) before
          rw [← equal]
          exact alone.trans (first equal)
        · exact absurd equal (last found member)

theorem set_all_returns (settings : List (BlockWord × UInt32))
    (present : ∀ setting ∈ settings, setting.1.Present writes.toNat reads.toNat)
    (counted : writeCount data = .ok writes)
    (room : packetLength writes.toNat reads.toNat ≤ data.length) :
    Returns (setAll settings data) fun after => SameFrame writes reads data after ∧
      ∀ word : BlockWord, word.Present writes.toNat reads.toNat →
        word.standing writes.toNat after =
          lastSet settings word (word.standing writes.toNat data) := by
  induction settings generalizing data with
  | nil => exact Returns.ok ⟨⟨rfl, fun _ _ => rfl⟩, fun _ _ => rfl⟩
  | cons setting settings induction =>
      obtain ⟨first, later⟩ := List.forall_mem_cons.mp present
      unfold setAll at induction ⊢
      rw [List.foldlM_cons]
      apply (BlockWord.set_returns setting.2 first counted room).bind
      rintro between ⟨same, stands⟩
      have roomy : packetLength writes.toNat reads.toNat ≤ between.length := by rwa [same.1]
      apply (induction later (same.write_count.trans counted) roomy).mono
      rintro after ⟨sameToo, standsToo⟩
      refine ⟨same.trans sameToo, fun word wordPresent => ?_⟩
      rw [standsToo word wordPresent, stands word wordPresent]
      rfl

end Setting

def compose (buffer : Bytes) (flags : PacketFlags) (record : RecordFlags)
    (byteEnable writes reads : UInt8) (settings : List (BlockWord × UInt32)) :
    Except Fault Bytes := do
  setAll settings (← fillHeader buffer flags record byteEnable writes reads)

section Composing

variable {writes reads : UInt8} {buffer : Bytes}

theorem compose_returns (flags : PacketFlags) (record : RecordFlags) (byteEnable : UInt8)
    (settings : List (BlockWord × UInt32))
    (room : packetLength writes.toNat reads.toNat ≤ buffer.length)
    (present : ∀ setting ∈ settings, setting.1.Present writes.toNat reads.toNat) :
    Returns (compose buffer flags record byteEnable writes reads settings) fun done =>
      done.take headerLength = header flags record byteEnable writes reads ∧
        Bytes.SameBut (· < packetLength writes.toNat reads.toNat) buffer done ∧
        ∀ word : BlockWord, word.Present writes.toNat reads.toNat →
          word.standing writes.toNat done =
            lastSet settings word (word.standing writes.toNat buffer) := by
  have long := header_length_le_packet_length writes.toNat reads.toNat
  obtain ⟨old, behind, rfl, width⟩ := Bytes.split_at buffer headerLength (by omega)
  refine Returns.bind_ok (fill_header_over flags record byteEnable writes reads width) ?_
  have length : (header flags record byteEnable writes reads ++ behind).length =
      (old ++ behind).length := by
    rw [List.length_append, List.length_append, length_header, width]
  have headed : Bytes.SameBut (· < headerLength) (old ++ behind)
      (header flags record byteEnable writes reads ++ behind) := by
    refine ⟨length, fun index elsewhere => ?_⟩
    rw [List.getElem?_append_right (Nat.not_lt.mp elsewhere), length_header,
      List.getElem?_append_right (by omega), width]
  apply (set_all_returns settings present rfl (by rwa [length])).mono
  rintro done ⟨same, stands⟩
  refine ⟨same.header, ?_, fun word given => ?_⟩
  · have front := headed.mono fun index before => Nat.lt_of_lt_of_le before long
    exact front.trans (same.mono fun _ inside => inside.2)
  · rw [stands word given]
    refine congrArg (lastSet settings word) (Bytes.word_at_same_but headed fun offset _ => ?_)
    have apart := (BlockWord.offset_bounds given).1
    omega

theorem compose_eq {flags : PacketFlags} {record : RecordFlags} {byteEnable : UInt8}
    {settings : List (BlockWord × UInt32)} {packet : Bytes}
    (top : packet.take headerLength = header flags record byteEnable writes reads)
    (whole : packet.length = packetLength writes.toNat reads.toNat)
    (room : packetLength writes.toNat reads.toNat ≤ buffer.length)
    (right : ∀ setting ∈ settings, setting.1.Present writes.toNat reads.toNat ∧
      setting.1.standing writes.toNat packet = setting.2)
    (complete : ∀ word : BlockWord, word.Present writes.toNat reads.toNat →
      ∃ setting ∈ settings, setting.1 = word) :
    compose buffer flags record byteEnable writes reads settings =
      .ok (packet ++ buffer.drop (packetLength writes.toNat reads.toNat)) := by
  obtain ⟨done, composed, headed, same, stands⟩ :=
    compose_returns flags record byteEnable settings room fun setting member =>
      (right setting member).1
  have large : packetLength writes.toNat reads.toNat ≤ done.length := by rwa [same.1]
  have front : done.take (packetLength writes.toNat reads.toNat) =
      packet.take (packetLength writes.toNat reads.toNat) := by
    refine take_packet_eq (headed.trans top.symm) large (Nat.le_of_eq whole.symm) ?_
    intro word given
    rw [stands word given]
    refine last_set_of_same (complete word given) (fun setting member equal => ?_) _
    rw [← equal, (right setting member).2]
  rw [composed, ← List.take_append_drop (packetLength writes.toNat reads.toNat) done, front,
    List.take_of_length_le (Nat.le_of_eq whole), same.drop]

end Composing

def oneBlock (baseWord : BlockWord) (word : Nat → BlockWord) (base : UInt32)
    (values : List UInt32) : List (BlockWord × UInt32) :=
  (baseWord, base) :: values.mapIdx fun index value => (word index, value)

/-- What stands in a buffer once a packet was to be put there. -/
def afterPlacing (buffer : Bytes) : Except Refusal (Nat × Bytes) → Bytes
  | .ok (_, filled) => filled
  | .error _ => buffer

/-- A builder puts so many words into a buffer, or refuses. What it puts there is what the header
and the words give that are set one after the other, and it is read back. -/
structure Places (buffer : Bytes) (count : Nat) (answer : Except Refusal (Nat × Bytes))
    (flags : PacketFlags) (byteEnable writes reads : UInt8)
    (settings : List (BlockWord × UInt32)) : Prop where
  refused : (∃ refusal, answer = .error refusal) ↔
    count = 0 ∨ 255 < count ∨ buffer.length < 16 + 4 * count
  unchanged : ∀ refusal, answer = .error refusal → afterPlacing buffer answer = buffer
  placed : ∀ length filled, answer = .ok (length, filled) →
    length = 16 + 4 * count ∧ Bytes.SameBut (· < length) buffer filled ∧
    compose buffer flags {} byteEnable writes reads settings = .ok filled ∧
    Announces flags {} byteEnable writes reads (filled.take length) ∧
    ∀ setting ∈ settings, setting.1.read (filled.take length) = .ok setting.2

section Placing

variable {buffer : Bytes} {flags : PacketFlags} {byteEnable writes reads : UInt8}

theorem packet_length_one_block {count : Nat} (some : count ≠ 0) :
    packetLength count 0 = 16 + 4 * count ∧ packetLength 0 count = 16 + 4 * count := by
  simp only [packetLength, blockLength, if_neg some, if_true, headerLength]
  omega

theorem place_of_fits {count : Nat} (packet : Bytes) (some : count ≠ 0) (few : count ≤ maximumWords)
    (room : 16 + 4 * count ≤ buffer.length) :
    place buffer count packet = .ok (16 + 4 * count, packet ++ buffer.drop (16 + 4 * count)) := by
  rw [place, (packet_length_one_block some).1,
    if_neg (not_or.mpr ⟨some, Nat.not_lt.mpr few⟩), if_neg (Nat.not_lt.mpr room)]

theorem place_refuses_iff {count : Nat} {packet : Bytes} :
    (∃ refusal, place buffer count packet = .error refusal) ↔
      count = 0 ∨ maximumWords < count ∨ buffer.length < 16 + 4 * count := by
  by_cases counted : count = 0 ∨ maximumWords < count
  · exact iff_of_true ⟨_, if_pos counted⟩ (counted.imp_right .inl)
  obtain ⟨some, few⟩ := not_or.mp counted
  by_cases narrow : buffer.length < 16 + 4 * count
  · rw [place, if_neg counted, (packet_length_one_block some).1]
    exact iff_of_true ⟨_, if_pos narrow⟩ (.inr (.inr narrow))
  · rw [place_of_fits packet some (Nat.not_lt.mp few) (Nat.not_lt.mp narrow)]
    exact iff_of_false (fun ⟨_, refused⟩ => nomatch refused) (by omega)

/-- The words of a packet that has one block, and where they stand. -/
structure SoleBlock (baseWord : BlockWord) (word : Nat → BlockWord) (writes reads : UInt8)
    (count : Nat) : Prop where
  present : ∀ other : BlockWord, other.Present writes.toNat reads.toNat ↔
    other = baseWord ∨ ∃ index, index < count ∧ other = word index
  length : packetLength writes.toNat reads.toNat = 16 + 4 * count
  base : baseWord.offset writes.toNat = headerLength
  words : ∀ index, (word index).offset writes.toNat = headerLength + 4 + 4 * index

theorem sole_write_block {count : Nat} (some : count ≠ 0) (few : count ≤ maximumWords) :
    SoleBlock .writeBase .writeValue (UInt8.ofNat count) 0 count where
  present := by
    rw [word_count_toNat few]
    rintro (_ | index | _ | index) <;> simp [BlockWord.Present, Nat.pos_of_ne_zero some]
  length := by
    rw [word_count_toNat few]
    exact (packet_length_one_block some).1
  base := rfl
  words _ := rfl

theorem sole_read_block {count : Nat} (some : count ≠ 0) (few : count ≤ maximumWords) :
    SoleBlock .returnBase .readAddress 0 (UInt8.ofNat count) count where
  present := by
    rw [word_count_toNat few]
    rintro (_ | index | _ | index) <;> simp [BlockWord.Present, Nat.pos_of_ne_zero some]
  length := by
    rw [word_count_toNat few]
    exact (packet_length_one_block some).2
  base := rfl
  words _ := rfl

namespace SoleBlock

variable {baseWord : BlockWord} {word : Nat → BlockWord} {values : List UInt32}

theorem right (sole : SoleBlock baseWord word writes reads values.length) {top : Bytes}
    (width : top.length = headerLength) (base : UInt32) :
    ∀ setting ∈ oneBlock baseWord word base values,
      setting.1.Present writes.toNat reads.toNat ∧
        setting.1.standing writes.toNat (top ++ block base values) = setting.2 := by
  intro setting member
  obtain rfl | member := List.mem_cons.mp member
  · refine ⟨(sole.present _).mpr (.inl rfl), ?_⟩
    rw [BlockWord.standing, sole.base, ← width]
    exact block_base top base values
  · obtain ⟨index, inside, rfl⟩ := List.mem_mapIdx.mp member
    refine ⟨(sole.present _).mpr (.inr ⟨index, inside, rfl⟩), ?_⟩
    rw [BlockWord.standing, sole.words, ← width]
    exact block_word top base values inside

theorem complete (sole : SoleBlock baseWord word writes reads values.length) (base : UInt32)
    (other : BlockWord) (given : other.Present writes.toNat reads.toNat) :
    ∃ setting ∈ oneBlock baseWord word base values, setting.1 = other := by
  obtain rfl | ⟨index, inside, rfl⟩ := (sole.present other).mp given
  · exact ⟨_, List.mem_cons_self, rfl⟩
  · exact ⟨_, List.mem_cons_of_mem _ (List.mem_mapIdx.mpr ⟨index, inside, rfl⟩), rfl⟩

end SoleBlock

theorem Places.of_place {baseWord : BlockWord} {word : Nat → BlockWord} (base : UInt32)
    (values : List UInt32) (small : flags.version < 16)
    (sole : values.length ≠ 0 → values.length ≤ maximumWords →
      SoleBlock baseWord word writes reads values.length) :
    Places buffer values.length
      (place buffer values.length (header flags {} byteEnable writes reads ++ block base values))
      flags byteEnable writes reads (oneBlock baseWord word base values) where
  refused := place_refuses_iff
  unchanged := fun refusal refused => by rw [refused, afterPlacing]
  placed := by
    intro placedLength filled placed
    have fits : ¬(values.length = 0 ∨ maximumWords < values.length ∨
        buffer.length < 16 + 4 * values.length) := by
      rw [← place_refuses_iff, placed]
      exact fun ⟨_, refused⟩ => nomatch refused
    obtain ⟨some, few, room⟩ : values.length ≠ 0 ∧ values.length ≤ maximumWords ∧
        16 + 4 * values.length ≤ buffer.length := by omega
    have block := sole some few
    have right := block.right (length_header flags {} byteEnable writes reads) base
    rw [place_of_fits _ some few room] at placed
    cases placed
    have whole : (header flags {} byteEnable writes reads ++ Etherbone.block base values).length =
        16 + 4 * values.length := by
      rw [List.length_append, length_header, length_block, headerLength]
      omega
    have large := Nat.le_of_eq (block.length.trans whole.symm)
    have written := compose_eq rfl (whole.trans block.length.symm) (by rwa [block.length]) right
      (block.complete base)
    rw [block.length] at written
    have announces := announces_header small large rfl
    rw [List.take_left' whole]
    refine ⟨rfl, ⟨?_, fun index behind => ?_⟩, written, announces, fun setting member => ?_⟩
    · rw [List.length_append, whole, List.length_drop, Nat.add_sub_cancel' room]
    · rw [List.getElem?_append_right (by omega), List.getElem?_drop, whole,
        Nat.add_sub_cancel' (Nat.not_lt.mp behind)]
    · obtain ⟨given, stands⟩ := right setting member
      rw [BlockWord.read_standing given announces.writes large, stands]

end Placing

/-- Each builder refuses exactly the lists that no packet holds and the buffers that are too short,
and else its packet is read as it was given. And whatever the counts are, words that are set in any
order are read as they were set last; nothing behind the packet is touched. -/
theorem built_packets_are_read_back :
    (∀ (buffer : Bytes) (base : UInt32) (values : List UInt32),
      Places buffer values.length (fillWriteRequest buffer base values) .request 0x0f
        (UInt8.ofNat values.length) 0 (oneBlock .writeBase .writeValue base values)) ∧
    (∀ (buffer : Bytes) (returnBase : UInt32) (addresses : List UInt32),
      Places buffer addresses.length (fillReadRequest buffer returnBase addresses) .request 0x0f
        0 (UInt8.ofNat addresses.length) (oneBlock .returnBase .readAddress returnBase addresses)) ∧
    (∀ (buffer : Bytes) (byteEnable : UInt8) (returnBase : UInt32) (values : List UInt32),
      Places buffer values.length (fillReadReply buffer byteEnable returnBase values) .reply
        byteEnable (UInt8.ofNat values.length) 0
        (oneBlock .writeBase .writeValue returnBase values)) ∧
    ∀ (buffer : Bytes) (flags : PacketFlags) (record : RecordFlags)
      (byteEnable writes reads : UInt8) (settings : List (BlockWord × UInt32)),
      flags.version < 16 → packetLength writes.toNat reads.toNat ≤ buffer.length →
      (∀ setting ∈ settings, setting.1.Present writes.toNat reads.toNat) →
      Returns (compose buffer flags record byteEnable writes reads settings) fun done =>
        Announces flags record byteEnable writes reads done ∧
        Bytes.SameBut (· < packetLength writes.toNat reads.toNat) buffer done ∧
        ∀ earlier word value later, settings = earlier ++ (word, value) :: later →
          (∀ setting ∈ later, setting.1 ≠ word) → word.read done = .ok value := by
  refine ⟨fun buffer base values => ?_, fun buffer returnBase addresses => ?_,
    fun buffer byteEnable returnBase values => ?_, ?_⟩
  · exact Places.of_place base values (by decide) sole_write_block
  · exact Places.of_place returnBase addresses (by decide) sole_read_block
  · exact Places.of_place returnBase values (by decide) sole_write_block
  · intro buffer flags record byteEnable writes reads settings small room present
    apply (compose_returns flags record byteEnable settings room present).mono
    rintro done ⟨top, same, stands⟩
    have large : packetLength writes.toNat reads.toNat ≤ done.length := by rwa [same.1]
    have announces := announces_header small large top
    refine ⟨announces, same, ?_⟩
    rintro earlier word value later rfl last
    have given : word.Present writes.toNat reads.toNat :=
      present (word, value) (List.mem_append_right _ List.mem_cons_self)
    rw [BlockWord.read_standing given announces.writes large, stands word given,
      last_set_of_last last]

/-- Both blocks of a packet, set from the back to the front and one word twice; and a packet that
leaves one octet behind it. -/
theorem words_set_backwards_are_read_back :
    (∃ done, compose (Bytes.zeros 30) .request {} 0x0f 1 1
        [(.readAddress 0, 7), (.writeValue 0, 1), (.returnBase, 9), (.writeValue 0, 2),
          (.writeBase, 16)] = .ok done ∧
      writeBase done = .ok 16 ∧ writeValue done 0 = .ok 2 ∧ returnBase done = .ok 9 ∧
      readAddress done 0 = .ok 7 ∧ done[29]? = some 0) ∧
    ∃ filled, fillWriteRequest (Bytes.zeros 21) 16 [5] = .ok (20, filled) ∧
      writeCount (filled.take 20) = .ok 1 ∧ writeValue (filled.take 20) 0 = .ok 5 := by
  obtain ⟨writing, -, -, setting⟩ := built_packets_are_read_back
  constructor
  · obtain ⟨done, composed, -, same, reads⟩ := setting (Bytes.zeros 30) .request {} 0x0f 1 1
      [(.readAddress 0, 7), (.writeValue 0, 1), (.returnBase, 9), (.writeValue 0, 2),
        (.writeBase, 16)] (by decide) (by decide) (by decide)
    refine ⟨done, composed, ?_, ?_, ?_, ?_, same.2 29 (by decide)⟩
    · exact reads [_, _, _, _] .writeBase 16 [] rfl (by decide)
    · exact reads [_, _, _] (.writeValue 0) 2 [_] rfl (by decide)
    · exact reads [_, _] .returnBase 9 [_, _] rfl (by decide)
    · exact reads [] (.readAddress 0) 7 [_, _, _, _] rfl (by decide)
  · have placed := writing (Bytes.zeros 21) 16 [5]
    obtain ⟨-, -, -, announces, reads⟩ := placed.placed 20 _ rfl
    exact ⟨_, rfl, announces.writes, reads (.writeValue 0, 5) (by decide)⟩

end Etherbone

end InstrumentLink
