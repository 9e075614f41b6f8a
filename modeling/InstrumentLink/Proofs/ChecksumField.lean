import InstrumentLink.Proofs.FrameContents

/-!
Checksums that are installed are valid.

Folding keeps a sum modulo 65535 and tells only zero from the other multiples. So data with the
complement of its sum in the field folds to all ones, and the field that stands for a computed sum
is never zero. That holds of the three headers that are built here.
-/

set_option autoImplicit false

namespace InstrumentLink

namespace Checksum

theorem fold_lt (sum : Nat) : fold sum < 65536 := by
  fun_induction fold sum with
  | case1 sum small => exact small
  | case2 sum large induction => exact induction

theorem fold_mod (sum : Nat) : fold sum % 65535 = sum % 65535 := by
  fun_induction fold sum with
  | case1 sum small => rfl
  | case2 sum large induction =>
      rw [induction]
      omega

theorem fold_pos {sum : Nat} (some : 0 < sum) : 0 < fold sum := by
  fun_induction fold sum with
  | case1 sum small => exact some
  | case2 sum large induction => exact induction (by omega)

theorem partial_sum_toNat (data : Bytes) (seed : UInt32) :
    (partialSum data seed).toNat = fold (seed.toNat + wordSum data) := by
  rw [partialSum, UInt16.toNat_ofNat', Nat.mod_eq_of_lt (fold_lt _)]

theorem field_toNat (data : Bytes) (seed : UInt32) :
    (field data seed).toNat =
      if fold (seed.toNat + wordSum data) = 65535 then 65535
      else 65535 - fold (seed.toNat + wordSum data) := by
  have bound := fold_lt (seed.toNat + wordSum data)
  have complement : (~~~ partialSum data seed).toNat =
      65535 - fold (seed.toNat + wordSum data) := by
    rw [← partial_sum_toNat, UInt16.toNat_not]
    rfl
  unfold field
  dsimp only
  split
  · next zero =>
      rw [zero] at complement
      rw [if_pos (by rw [UInt16.toNat_zero] at complement; omega)]
      rfl
  · next other =>
      have nonzero : (~~~ partialSum data seed).toNat ≠ 0 := fun none =>
        other (UInt16.toNat_inj.mp none)
      rw [if_neg (by omega), complement]

theorem field_ne_zero (data : Bytes) (seed : UInt32) : field data seed ≠ 0 := by
  intro zero
  have number := field_toNat data seed
  have bound := fold_lt (seed.toNat + wordSum data)
  rw [zero] at number
  split at number <;> simp at number
  omega

theorem word_sum_append (front rest : Bytes) (even : front.length % 2 = 0) :
    wordSum (front ++ rest) = wordSum front + wordSum rest := by
  fun_induction wordSum front with
  | case1 => simp
  | case2 last => simp at even
  | case3 high low front induction =>
      have evenFront : front.length % 2 = 0 := by
        simp only [List.length_cons] at even
        omega
      simp only [List.cons_append, wordSum, induction evenFront, Nat.add_assoc]

theorem word_sum_word (word : UInt16) (rest : Bytes) :
    wordSum (Bytes.ofWord16 word ++ rest) = word.toNat + wordSum rest := by
  have bound := word.toNat_lt
  simp only [Bytes.ofWord16, List.cons_append, List.nil_append, wordSum, UInt8.toNat_ofNat']
  omega

theorem is_valid_installed (front rest : Bytes) (even : front.length % 2 = 0) (seed : UInt32) :
    isValid (front ++ (Bytes.ofWord16 (field (front ++ (Bytes.ofWord16 0 ++ rest)) seed) ++ rest))
      seed = true := by
  have cleared : wordSum (front ++ (Bytes.ofWord16 0 ++ rest)) = wordSum front + wordSum rest := by
    rw [word_sum_append _ _ even, word_sum_word]
    simp
  have number := field_toNat (front ++ (Bytes.ofWord16 0 ++ rest)) seed
  rw [cleared] at number
  rw [isValid, decide_eq_true_eq, ← UInt16.toNat_inj, partial_sum_toNat, word_sum_append _ _ even,
    word_sum_word]
  generalize (field (front ++ (Bytes.ofWord16 0 ++ rest)) seed).toNat = complement at number ⊢
  change fold _ = 65535
  -- The sum with the field in place is a multiple of 65535, and none of its folds is zero.
  have base := fold_mod (seed.toNat + (wordSum front + wordSum rest))
  have bound := fold_lt (seed.toNat + (wordSum front + wordSum rest))
  have whole := fold_mod (seed.toNat + (wordSum front + (complement + wordSum rest)))
  have below := fold_lt (seed.toNat + (wordSum front + (complement + wordSum rest)))
  have positive : 0 < complement := by
    split at number <;> omega
  have above : 0 < fold (seed.toNat + (wordSum front + (complement + wordSum rest))) :=
    fold_pos (by omega)
  split at number <;> omega

end Checksum

namespace Ipv4

theorem header_with_append (checksum : UInt16) (sender receiver : Ipv4Address) (carried : Protocol)
    (length : UInt16) :
    headerWith checksum sender receiver carried length =
      ([versionAndLength, 0] ++ Bytes.ofWord16 length ++ [0, 0] ++ Bytes.ofWord16 dontFragment ++
        [timeToLive, carried.code]) ++
      (Bytes.ofWord16 checksum ++ (sender.toBytes ++ receiver.toBytes)) := by
  simp only [headerWith, List.append_assoc]

@[simp] theorem checksum_valid_header (sender receiver : Ipv4Address) (carried : Protocol)
    (length : UInt16) (rest : Bytes) :
    checksumValid (header sender receiver carried length ++ rest) = .ok true := by
  have inside : headerLength ≤ (header sender receiver carried length ++ rest).length := by simp
  unfold checksumValid
  rw [Bytes.slice_inside _ _ _ (Nat.zero_le _) inside, List.drop_zero, Nat.sub_zero,
    List.take_left' (length_header sender receiver carried length), header]
  simp only [header_with_append]
  exact congrArg Except.ok (Checksum.is_valid_installed _ _ (by simp) 0)

end Ipv4

namespace Udp

section Segment

variable (source destination : Socket) {content : Bytes}

theorem segment_eq (small : headerLength + content.length < 65536) :
    let length := UInt16.ofNat (headerLength + content.length)
    let ports := Bytes.ofWord16 source.port ++ Bytes.ofWord16 destination.port ++
      Bytes.ofWord16 length
    segment source destination content = ports ++ (Bytes.ofWord16 (Checksum.field
      (ports ++ (Bytes.ofWord16 0 ++ content)) (checksumSeed source.ip destination.ip length)) ++
        content) := by
  intro length ports
  have whole : (headerWith 0 source.port destination.port length ++ content).take length.toNat =
      headerWith 0 source.port destination.port length ++ content := by
    have carried : length.toNat = headerLength + content.length := Bytes.word16_of_nat small
    apply List.take_of_length_le
    exact Nat.le_of_eq (by rw [carried, List.length_append, length_header_with])
  change headerWith (Checksum.field ((headerWith 0 source.port destination.port length ++
    content).take length.toNat) _) source.port destination.port length ++ content = _
  rw [whole]
  simp only [headerWith, List.append_assoc, ports, length]

theorem checksum_segment (small : headerLength + content.length < 65536) (rest : Bytes) :
    Returns (checksum (segment source destination content ++ rest)) fun field => field ≠ 0 := by
  rw [segment_eq source destination small]
  exact ⟨_, congrArg Except.ok (Bytes.word16_of_octets _), Checksum.field_ne_zero _ _⟩

theorem checksum_valid_segment (small : headerLength + content.length < 65536) (rest : Bytes) :
    checksumValid (segment source destination content ++ rest) source.ip destination.ip = true := by
  have long : ¬(segment source destination content ++ rest).length < headerLength := by
    rw [List.length_append, length_segment]
    omega
  obtain ⟨field, read, -⟩ := checksum_segment source destination small rest
  have covered : (segment source destination content ++ rest).take
      (min (headerLength + content.length)
        (segment source destination content ++ rest).length) =
      segment source destination content := by
    have length := length_segment source destination content
    rw [List.length_append, length, Nat.min_eq_left (by omega), List.take_left' length]
  have valid : Checksum.isValid (segment source destination content)
      (checksumSeed source.ip destination.ip (UInt16.ofNat (headerLength + content.length))) =
        true := by
    rw [segment_eq source destination small]
    exact Checksum.is_valid_installed _ _ (by simp) _
  simp only [checksumValid, if_neg long, read, stated_length_segment, Bytes.word16_of_nat small,
    covered, valid, or_true, decide_true]

end Segment

end Udp

namespace Icmp

theorem checksum_valid_echo (kind : UInt8) (identifier sequence : UInt16) (content rest : Bytes) :
    checksumValid (echo kind identifier sequence content ++ rest) content.length = .ok true := by
  have length := length_echo kind identifier sequence content
  have inside : headerLength + content.length ≤
      (echo kind identifier sequence content ++ rest).length := by
    rw [List.length_append, length]
    omega
  unfold checksumValid
  rw [Bytes.slice_inside _ _ _ (Nat.zero_le _) inside, List.drop_zero, Nat.sub_zero,
    List.take_left' length]
  simp only [echo, echoWith, List.append_assoc]
  exact congrArg Except.ok (Checksum.is_valid_installed [kind, 0] _ (by simp) 0)

end Icmp

end InstrumentLink
