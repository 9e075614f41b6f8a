import InstrumentLink.Proofs.WordMemory

/-!
Which datagram ends a wait.

A read waits for a datagram that writes to its return address. Everything else that arrives is
passed over, whatever it is, so only the first datagram addressed to the read decides how it ends.
-/

set_option autoImplicit false

namespace InstrumentLink

namespace Client

open Etherbone (magicOctets HasBusWidths headerLength announced readReply)

/-- A whole packet of the right widths that writes words to a return address. -/
structure AddressedTo (tag : UInt32) (datagram : Bytes) : Prop where
  magic : magicOctets <+: datagram
  widths : HasBusWidths datagram
  writes : datagram.getD 10 0 ≠ 0
  whole : announced datagram ≤ datagram.length
  base : Bytes.wordAt datagram headerLength = tag

instance (tag : UInt32) (datagram : Bytes) : Decidable (AddressedTo tag datagram) :=
  decidable_of_iff (magicOctets <+: datagram ∧ HasBusWidths datagram ∧ datagram.getD 10 0 ≠ 0 ∧
      announced datagram ≤ datagram.length ∧ Bytes.wordAt datagram headerLength = tag)
    ⟨fun ⟨magic, widths, writes, whole, base⟩ => ⟨magic, widths, writes, whole, base⟩,
      fun ⟨magic, widths, writes, whole, base⟩ => ⟨magic, widths, writes, whole, base⟩⟩

theorem lengths_of_check {datagram : Bytes} (accepted : Etherbone.check datagram = .ok ()) :
    headerLength ≤ datagram.length ∧ announced datagram ≤ datagram.length := by
  unfold Etherbone.check Etherbone.peekLength at accepted
  by_cases short : datagram.length < headerLength
  · rw [if_pos short] at accepted
    cases accepted
  · have header := Nat.not_lt.mp short
    have inside : 11 < datagram.length := by
      simp only [headerLength] at header
      omega
    have writes : Etherbone.writeCount datagram = .ok (datagram.getD 10 0) :=
      Bytes.octet_at_inside datagram 10 (by omega)
    have reads : Etherbone.readCount datagram = .ok (datagram.getD 11 0) :=
      Bytes.octet_at_inside datagram 11 inside
    have length : (Etherbone.announcedLength datagram).toOption = some (announced datagram) := by
      rw [Etherbone.announcedLength, writes, reads]
      rfl
    simp only [if_neg short, length] at accepted
    split at accepted
    · cases accepted
    · next whole => exact ⟨header, Nat.not_lt.mp whole⟩

theorem supported_of_true {datagram : Bytes} (long : headerLength ≤ datagram.length)
    (supported : Etherbone.isSupported datagram = .ok true) :
    magicOctets <+: datagram ∧ HasBusWidths datagram := by
  simp only [headerLength] at long
  have magicRead : Etherbone.magicOf datagram = .ok _ :=
    Bytes.word16_at_inside datagram 0 (by omega)
  have sizes := Bytes.octet_at_inside datagram 3 (by omega)
  have start := Bytes.drop_word16 magicRead
  unfold Etherbone.isSupported Etherbone.addressSize Etherbone.portSize at supported
  rw [magicRead, sizes] at supported
  simp only [bind, Except.bind, pure, Except.pure] at supported
  split_ifs at supported with magic address
  · refine ⟨⟨datagram.drop 2, ?_⟩, Prod.ext address ?_⟩
    · rw [magic] at start
      exact start.symm
    · simpa using supported
  all_goals cases supported

theorem Reply.parts_of_packet {datagram : Bytes} {reply : Reply}
    (taken : ofPacket datagram = .ok (some reply)) :
    Etherbone.isSupported datagram = .ok true ∧
      (∃ count, Etherbone.writeCount datagram = .ok count ∧ count.toNat ≠ 0) ∧
      Etherbone.writeBase datagram = .ok reply.base := by
  unfold ofPacket at taken
  cases supported : Etherbone.isSupported datagram with
  | error fault => rw [supported] at taken; cases taken
  | ok supports =>
      cases supports with
      | false => rw [supported] at taken; cases taken
      | true =>
          cases counted : Etherbone.writeCount datagram with
          | error fault => rw [supported, counted] at taken; cases taken
          | ok count =>
              simp only [supported, counted, bind, Except.bind, pure, Except.pure, if_true] at taken
              split_ifs at taken with none
              · cases taken
              · cases based : Etherbone.writeBase datagram with
                | error fault => rw [based] at taken; cases taken
                | ok base =>
                    rw [based] at taken
                    refine ⟨rfl, ⟨count, rfl, none⟩, ?_⟩
                    dsimp only at taken
                    split at taken <;> cases taken
                    rfl

theorem Reply.addressed {datagram : Bytes} {reply : Reply}
    (accepted : Etherbone.check datagram = .ok ())
    (taken : ofPacket datagram = .ok (some reply)) : AddressedTo reply.base datagram := by
  obtain ⟨header, whole⟩ := lengths_of_check accepted
  obtain ⟨supported, ⟨count, counted, words⟩, based⟩ := parts_of_packet taken
  obtain ⟨magic, widths⟩ := supported_of_true header supported
  simp only [headerLength] at header
  have octet : Etherbone.writeCount datagram = .ok (datagram.getD 10 0) :=
    Bytes.octet_at_inside datagram 10 (by omega)
  have writes : datagram.getD 10 0 = count := Except.ok.inj (octet.symm.trans counted)
  refine ⟨magic, widths, ?_, whole, ?_⟩
  · rw [writes]
    rintro rfl
    exact words rfl
  · have long : headerLength + 4 ≤ datagram.length := by
      have block : announced datagram = headerLength + Etherbone.blockLength count.toNat +
        Etherbone.blockLength (datagram.getD 11 0).toNat := by rw [← writes]; rfl
      rw [block, Etherbone.blockLength, if_neg words] at whole
      omega
    have word : Etherbone.writeBase datagram = .ok (Bytes.wordAt datagram headerLength) :=
      Bytes.word32_at_inside datagram headerLength long
    exact Except.ok.inj (word.symm.trans based)

theorem examine_ignores {tag : UInt32} {datagram : Bytes} (elsewhere : ¬AddressedTo tag datagram)
    (count : Nat) : ∃ event, examine tag count datagram = .ignored event := by
  unfold examine
  split
  · exact ⟨_, rfl⟩
  · next accepted =>
      split
      · next reply taken =>
          have other : reply.base ≠ tag := by
            rintro rfl
            exact elsewhere (Reply.addressed accepted taken)
          exact ⟨_, if_pos other⟩
      · exact ⟨_, rfl⟩
      · exact ⟨_, rfl⟩

/-- A reply is addressed to its base and to nothing else. -/
theorem base_of_addressed {byteEnable : UInt8} {base tag : UInt32} {values : List UInt32}
    (addressed : AddressedTo tag (readReply byteEnable base values)) : base = tag :=
  (Etherbone.block_base (Etherbone.header .reply {} byteEnable (UInt8.ofNat values.length) 0) base
    values).symm.trans addressed.base

theorem Dialogue.settle_append {Answer : Type} {examine : Bytes → Verdict Answer}
    {before : List Bytes} (after : List Bytes)
    (ignored : ∀ datagram ∈ before, ∃ event,
      examine (datagram.take datagramCapacity) = .ignored event) :
    (settle examine (before ++ after)).1 = (settle examine after).1 := by
  induction before with
  | nil => rfl
  | cons datagram before induction =>
      obtain ⟨⟨event, first⟩, ignored⟩ := List.forall_mem_cons.mp ignored
      rw [List.cons_append, settle, first]
      exact induction ignored

theorem Session.read_record_eq (session : Session) {addresses : List UInt32}
    (some : addresses ≠ []) (few : addresses.length ≤ Etherbone.maximumWords) :
    session.readRecord addresses =
      .send (Etherbone.readRequest session.nextTag addresses) (.report
        (.reading addresses.length session.nextTag) (.await
          (examine session.nextTag addresses.length) fun answer =>
            .done (answer.getD (.error (.timeout (addresses.headD 0))),
              { session with nextTag := session.nextTag + 4 }))) := by
  simp only [readRecord, datagram_read session.nextTag (by simpa using some) few]
  congr 3
  funext answer
  cases answer <;> rfl

end Client

end InstrumentLink
