import InstrumentLink.Proofs.ChecksumField
import InstrumentLink.Proofs.FaithfulRing
import InstrumentLink.Proofs.FrameOctets

/-!
A checksum that was installed notices any one octet.

What a check accepts are data whose sum, the seed included, is a positive multiple of 65535. An octet
counts at most 255 times 256 in the sum, which is less than 65535, so with another octet in one place
the sum is no multiple any more. That holds of the field itself and of an address that enters through
the seed only; it does not matter how often the sum was folded on the way.
-/

set_option autoImplicit false

namespace InstrumentLink

/-- One octet, at one of the places, is another. -/
def Bytes.Damaged (places : Nat → Prop) (data damaged : Bytes) : Prop :=
  ∃ index octet, places index ∧ index < data.length ∧ octet ≠ data.getD index 0 ∧
    damaged = data.set index octet

namespace Bytes.Damaged

variable {places : Nat → Prop} {data damaged : Bytes}

theorem length (damage : Damaged places data damaged) : damaged.length = data.length := by
  obtain ⟨index, octet, -, -, -, rfl⟩ := damage
  exact List.length_set

theorem take (damage : Damaged places data damaged) {count : Nat}
    (front : ∀ index, places index → index < count) :
    Damaged places (data.take count) (damaged.take count) := by
  obtain ⟨index, octet, place, inside, other, rfl⟩ := damage
  have before := front index place
  refine ⟨index, octet, place, ?_, ?_, List.take_set⟩
  · rw [List.length_take]
    omega
  · rwa [List.getD_eq_getElem?_getD, List.getElem?_take, if_pos before,
      ← List.getD_eq_getElem?_getD]

theorem get_d_elsewhere (damage : Damaged places data damaged) {index : Nat}
    (elsewhere : ¬places index) : damaged.getD index 0 = data.getD index 0 := by
  obtain ⟨broken, octet, place, -, -, rfl⟩ := damage
  have apart : broken ≠ index := fun same => elsewhere (same ▸ place)
  simp only [List.getD_eq_getElem?_getD, List.getElem?_set_ne apart]

theorem append (damage : Damaged places data damaged) (behind : Bytes) :
    Damaged places (data ++ behind) (damaged ++ behind) := by
  obtain ⟨index, octet, place, inside, other, rfl⟩ := damage
  refine ⟨index, octet, place, ?_, ?_, (List.set_append_left index octet inside).symm⟩
  · rw [List.length_append]
    omega
  · rwa [List.getD_append _ _ _ _ inside]

end Bytes.Damaged

/-- A string that a check accepts, and refuses once one octet at one of the places is another. -/
structure Bytes.Guarded (check : Bytes → Except Fault Bool) (places : Nat → Prop) (data : Bytes) :
    Prop where
  accepted : check data = .ok true
  noticed : ∀ damaged, Damaged places data damaged → check damaged = .ok false

namespace Checksum

theorem is_valid_iff (data : Bytes) (seed : UInt32) :
    isValid data seed = true ↔
      0 < seed.toNat + wordSum data ∧ (seed.toNat + wordSum data) % 65535 = 0 := by
  have bound := fold_lt (seed.toNat + wordSum data)
  have residue := fold_mod (seed.toNat + wordSum data)
  rw [isValid, decide_eq_true_eq, ← UInt16.toNat_inj, partial_sum_toNat]
  change fold _ = 65535 ↔ _
  constructor
  · intro ones
    refine ⟨Nat.pos_of_ne_zero fun none => ?_, by omega⟩
    rw [none, fold] at ones
    exact absurd ones (by decide)
  · rintro ⟨some, multiple⟩
    have above := fold_pos some
    omega

/-- What an octet counts in the sum: at an even place it is the high half of a word. -/
def weight (index : Nat) : Nat := if index % 2 = 0 then 256 else 1

theorem weighted_lt (index : Nat) (octet : UInt8) : weight index * octet.toNat < 65535 := by
  have bound := octet.toNat_lt
  unfold weight
  split <;> omega

theorem weighted_inj {index : Nat} {one other : UInt8}
    (same : weight index * one.toNat = weight index * other.toNat) : one = other := by
  apply UInt8.toNat_inj.mp
  unfold weight at same
  split at same <;> omega

theorem word_sum_set (data : Bytes) (index : Nat) (octet : UInt8) (inside : index < data.length) :
    wordSum (data.set index octet) + weight index * (data.getD index 0).toNat =
      wordSum data + weight index * octet.toNat := by
  fun_induction wordSum data generalizing index with
  | case1 => cases inside
  | case2 last =>
      have front : index = 0 := by simpa using inside
      subst front
      simp [wordSum, weight]
      omega
  | case3 high low rest induction =>
      rcases index with _ | _ | index
      · simp [wordSum, weight]
        omega
      · simp [wordSum, weight]
        omega
      · simp only [List.length_cons, Nat.add_lt_add_iff_right] at inside
        have moved := induction index inside
        have parity : weight (index + 1 + 1) = weight index := by
          rw [weight, weight, Nat.add_assoc, Nat.add_mod_right]
        simp only [List.set_cons_succ, List.getD_cons_succ, wordSum, parity]
        omega

/-- A sum that moved by less than 65535 is no multiple of it any more. -/
theorem refused_of_moved {data other : Bytes} {seed otherSeed : UInt32} (less more : Nat)
    (valid : isValid data seed = true)
    (moved : (otherSeed.toNat + wordSum other + less) % 65535 =
      (seed.toNat + wordSum data + more) % 65535)
    (apart : less ≠ more) (few : less < 65535) (fewToo : more < 65535) :
    isValid other otherSeed = false := by
  obtain ⟨-, multiple⟩ := (is_valid_iff data seed).mp valid
  rw [← Bool.not_eq_true, is_valid_iff]
  rintro ⟨-, still⟩
  omega

theorem refused_of_damaged {data damaged : Bytes} {seed : UInt32} {places : Nat → Prop}
    (valid : isValid data seed = true) (damage : Bytes.Damaged places data damaged) :
    isValid damaged seed = false := by
  obtain ⟨index, octet, -, inside, other, rfl⟩ := damage
  have moved := word_sum_set data index octet inside
  refine refused_of_moved (weight index * (data.getD index 0).toNat) (weight index * octet.toNat)
    valid (by omega) ?_ (weighted_lt _ _) (weighted_lt _ _)
  exact fun same => other (weighted_inj same).symm

def pseudoWords (source destination : Ipv4Address) (protocol : UInt8) (length : UInt16) : Bytes :=
  source.toBytes ++ destination.toBytes ++ ([0, protocol] ++ Bytes.ofWord16 length)

theorem pseudo_header_toNat (source destination : Ipv4Address) (protocol : UInt8)
    (length : UInt16) :
    (pseudoHeader source destination protocol length).toNat =
      fold (wordSum (pseudoWords source destination protocol length)) := by
  rw [pseudoHeader, UInt16.toNat_toUInt32, partial_sum_toNat, UInt32.toNat_zero, Nat.zero_add,
    pseudoWords, List.append_assoc (source.toBytes ++ destination.toBytes)]

theorem refused_of_other_address {data : Bytes} {protocol : UInt8} {length : UInt16}
    {source destination otherSource otherDestination : Ipv4Address} {places : Nat → Prop}
    (valid : isValid data (pseudoHeader source destination protocol length) = true)
    (damage : Bytes.Damaged places (source.toBytes ++ destination.toBytes)
      (otherSource.toBytes ++ otherDestination.toBytes)) :
    isValid data (pseudoHeader otherSource otherDestination protocol length) = false := by
  obtain ⟨index, octet, -, inside, other, same⟩ :=
    damage.append ([0, protocol] ++ Bytes.ofWord16 length)
  change pseudoWords otherSource otherDestination protocol length = _ at same
  have moved := word_sum_set _ index octet inside
  rw [← same] at moved
  have folded := fold_mod (wordSum (pseudoWords source destination protocol length))
  have otherFolded := fold_mod (wordSum (pseudoWords otherSource otherDestination protocol length))
  rw [← pseudo_header_toNat] at folded otherFolded
  change _ = wordSum (pseudoWords source destination protocol length) + _ at moved
  refine refused_of_moved (weight index * _) (weight index * octet.toNat) valid ?_
    (fun equal => other (weighted_inj equal).symm) (weighted_lt _ _) (weighted_lt _ _)
  omega

def covers (stop : Nat) (data : Bytes) : Except Fault Bool := do
  return isValid (← Bytes.slice data 0 stop) 0

/-- Puts the checksum of the front of a string into its place, which counts as zeros. -/
def install (start stop : Nat) (data : Bytes) : Except Fault Bytes := do
  let cleared ← Bytes.overwrite data start [0, 0]
  let covered ← Bytes.slice cleared 0 stop
  Bytes.overwrite cleared start (Bytes.ofWord16 (field covered 0))

theorem covers_front {stop : Nat} {data : Bytes} (inside : stop ≤ data.length) :
    covers stop data = .ok (isValid (data.take stop) 0) := by
  rw [covers, Bytes.slice_inside _ _ _ (Nat.zero_le _) inside]
  rfl

theorem guarded_of_accepted {stop : Nat} {data : Bytes} (inside : stop ≤ data.length)
    (accepted : covers stop data = .ok true) : Bytes.Guarded (covers stop) (· < stop) data where
  accepted := accepted
  noticed := fun damaged damage => by
    rw [covers_front inside] at accepted
    rw [covers_front (by rw [damage.length]; exact inside)]
    exact congrArg Except.ok
      (refused_of_damaged (Except.ok.inj accepted) (damage.take fun _ front => front))

/-- What is installed guards everything it covers, its own place included, and nothing but that
place was touched. -/
theorem install_guards {start stop : Nat} {data : Bytes} (even : start % 2 = 0)
    (order : start + 2 ≤ stop) (inside : stop ≤ data.length) :
    Returns (install start stop data) fun done =>
      Bytes.Guarded (covers stop) (· < stop) done ∧
      Bytes.SameBut (fun index => start ≤ index ∧ index < start + 2) data done := by
  obtain ⟨front, rest, rfl, place⟩ := Bytes.split_at data start (by omega)
  rw [List.length_append] at inside
  obtain ⟨old, rest, rfl, width⟩ := Bytes.split_at rest 2 (by omega)
  rw [List.length_append] at inside
  obtain ⟨covered, behind, rfl, reach⟩ := Bytes.split_at rest (stop - start - 2) (by omega)
  have whole : (front ++ ([0, 0] ++ covered)).length = stop := by
    simp only [List.length_append, List.length_cons, List.length_nil]
    omega
  let checksum := field (front ++ ([0, 0] ++ covered)) 0
  have installed : install start stop (front ++ (old ++ (covered ++ behind))) =
      .ok (front ++ (Bytes.ofWord16 checksum ++ (covered ++ behind))) :=
    Bytes.install_checksum place width whole
  have parts : front ++ (Bytes.ofWord16 checksum ++ (covered ++ behind)) =
      front ++ (Bytes.ofWord16 checksum ++ covered) ++ behind := by
    simp only [List.append_assoc]
  have length : (front ++ (Bytes.ofWord16 checksum ++ covered)).length = stop := by
    simp only [List.length_append, Bytes.length_of_word16]
    omega
  have long : stop ≤ (front ++ (Bytes.ofWord16 checksum ++ covered) ++ behind).length := by
    rw [List.length_append]
    omega
  refine ⟨_, installed, ?_, ?_⟩
  · rw [parts]
    apply guarded_of_accepted long
    rw [covers_front long, List.take_left' length]
    exact congrArg Except.ok (is_valid_installed front covered (by omega) 0)
  · have written : Bytes.overwrite (front ++ (old ++ (covered ++ behind))) start
        (Bytes.ofWord16 checksum) = .ok _ := Bytes.overwrite_between place width.symm
    exact Bytes.SameBut.of_overwrite written

end Checksum

namespace Ipv4

theorem set_checksum_guards {buffer : Bytes} (inside : headerLength ≤ buffer.length) :
    Returns (setChecksum buffer) fun done =>
      Bytes.Guarded checksumValid (· < headerLength) done ∧
      Bytes.SameBut (fun index => 10 ≤ index ∧ index < 12) buffer done :=
  Checksum.install_guards (by decide) (by decide) inside

theorem fill_header_guards {buffer : Bytes} (source destination : Ipv4Address)
    (protocol : Protocol) (totalLength : UInt16) (inside : headerLength ≤ buffer.length) :
    Returns (fillHeader buffer source destination protocol totalLength) fun done =>
      Bytes.Guarded checksumValid (· < headerLength) done ∧
      done = header source destination protocol totalLength ++ buffer.drop headerLength := by
  obtain ⟨old, behind, rfl, width⟩ := Bytes.split_at buffer headerLength inside
  refine ⟨_, fill_header_over source destination protocol totalLength width, ?_, ?_⟩
  · apply Checksum.guarded_of_accepted
    · rw [List.length_append, length_header]
      exact Nat.le_add_right _ _
    · exact checksum_valid_header source destination protocol totalLength behind
  · rw [List.drop_left' width]

end Ipv4

namespace Icmp

theorem set_checksum_guards {buffer : Bytes} {payloadLength : Nat}
    (inside : headerLength + payloadLength ≤ buffer.length) :
    Returns (setChecksum buffer payloadLength) fun done =>
      Bytes.Guarded (checksumValid · payloadLength) (· < headerLength + payloadLength) done ∧
      Bytes.SameBut (fun index => 2 ≤ index ∧ index < 4) buffer done :=
  Checksum.install_guards (by decide) (by simp only [headerLength]; omega) inside

end Icmp

namespace Udp

theorem checksum_valid_of_computed {data : Bytes} (long : headerLength ≤ data.length)
    (computed : Bytes.pairAt data 6 ≠ 0) (source destination : Ipv4Address) :
    checksumValid data source destination = Checksum.isValid
      (data.take (min (Bytes.pairAt data 4).toNat data.length))
      (checksumSeed source destination (Bytes.pairAt data 4)) := by
  simp only [headerLength] at long
  have field : checksum data = .ok (Bytes.pairAt data 6) :=
    Bytes.word16_at_inside data 6 (by omega)
  have stated : statedLength data = .ok (Bytes.pairAt data 4) :=
    Bytes.word16_at_inside data 4 (by omega)
  simp only [checksumValid, if_neg (Nat.not_lt.mpr long), field, stated, computed, false_or,
    headerLength, Bool.decide_eq_true]

/-- Where the octets of a segment guard it: the two ports and the payload. -/
def guardedPlaces (payloadLength index : Nat) : Prop :=
  index < 4 ∨ headerLength ≤ index ∧ index < headerLength + payloadLength

theorem segment_guarded (source destination : Socket) {payload : Bytes}
    (small : headerLength + payload.length < 65536) (padding : Bytes) :
    let whole := segment source destination payload ++ padding
    Bytes.Guarded (fun data => .ok (checksumValid data source.ip destination.ip))
        (guardedPlaces payload.length) whole ∧
      ∀ places otherSource otherDestination,
        Bytes.Damaged places (source.ip.toBytes ++ destination.ip.toBytes)
          (otherSource.toBytes ++ otherDestination.toBytes) →
            checksumValid whole otherSource otherDestination = false := by
  intro whole
  have length := length_segment source destination payload
  have long : headerLength ≤ whole.length := by
    rw [List.length_append]
    omega
  have accepted := checksum_valid_segment source destination small padding
  obtain ⟨field, read, nonzero⟩ := checksum_segment source destination small padding
  have place : checksum whole = .ok (Bytes.pairAt whole 6) := Bytes.word16_at_inside whole 6 long
  have computed : Bytes.pairAt whole 6 ≠ 0 := by
    rw [place] at read
    cases read
    exact nonzero
  have summed := accepted
  rw [checksum_valid_of_computed long computed] at summed
  refine ⟨⟨congrArg Except.ok accepted, fun damaged damage => congrArg Except.ok ?_⟩, ?_⟩
  · -- Neither the field nor the stated length is damaged, so both are read as before.
    have field : Bytes.pairAt damaged 6 = Bytes.pairAt whole 6 := by
      simp only [Bytes.pairAt]
      rw [damage.get_d_elsewhere (by simp [guardedPlaces, headerLength]),
        damage.get_d_elsewhere (by simp [guardedPlaces, headerLength])]
    have stated : Bytes.pairAt damaged 4 = Bytes.pairAt whole 4 := by
      simp only [Bytes.pairAt]
      rw [damage.get_d_elsewhere (by simp [guardedPlaces, headerLength]),
        damage.get_d_elsewhere (by simp [guardedPlaces, headerLength])]
    rw [checksum_valid_of_computed (by rwa [damage.length]) (by rwa [field]), stated, damage.length]
    refine Checksum.refused_of_damaged summed (damage.take fun index guarded => ?_)
    have read : statedLength whole = .ok (Bytes.pairAt whole 4) :=
      Bytes.word16_at_inside whole 4 (by simp only [headerLength] at long; omega)
    have same := Except.ok.inj
      (read.symm.trans (stated_length_segment source destination payload padding))
    have reach := Bytes.word16_of_nat small
    rw [← same] at reach
    have present : whole.length = headerLength + payload.length + padding.length := by
      rw [List.length_append, length]
    simp only [guardedPlaces, headerLength] at guarded reach present
    omega
  · intro places otherSource otherDestination damage
    rw [checksum_valid_of_computed long computed]
    exact Checksum.refused_of_other_address summed damage

theorem fill_header_segment {buffer : Bytes} (source destination : Socket) {payloadLength : Nat}
    (small : headerLength + payloadLength < 65536)
    (inside : headerLength + payloadLength ≤ buffer.length) :
    let payload := (buffer.drop headerLength).take payloadLength
    fillHeader buffer source destination payloadLength = .ok (segment source destination payload ++
      buffer.drop (headerLength + payloadLength)) := by
  obtain ⟨old, rest, rfl, width⟩ := Bytes.split_at buffer headerLength (by omega)
  rw [List.length_append] at inside
  obtain ⟨payload, behind, rfl, reach⟩ := Bytes.split_at rest payloadLength (by omega)
  subst reach
  rw [← List.drop_drop, List.drop_left' width, List.drop_left, List.take_left]
  exact fill_header_before source destination width small behind

theorem fill_header_guards {buffer : Bytes} (source destination : Socket) {payloadLength : Nat}
    (small : headerLength + payloadLength < 65536)
    (inside : headerLength + payloadLength ≤ buffer.length) :
    Returns (fillHeader buffer source destination payloadLength) fun done =>
      done = segment source destination ((buffer.drop headerLength).take payloadLength) ++
        buffer.drop (headerLength + payloadLength) ∧
      (Returns (checksum done) fun field => field ≠ 0) ∧
      ∀ padding : Bytes,
        let whole := done.take (headerLength + payloadLength) ++ padding
        Bytes.Guarded (fun data => .ok (checksumValid data source.ip destination.ip))
            (guardedPlaces payloadLength) whole ∧
          ∀ otherSource otherDestination,
            Bytes.Damaged (· < 8) (source.ip.toBytes ++ destination.ip.toBytes)
              (otherSource.toBytes ++ otherDestination.toBytes) →
                checksumValid whole otherSource otherDestination = false := by
  have count : ((buffer.drop headerLength).take payloadLength).length = payloadLength := by
    rw [List.length_take, List.length_drop]
    omega
  refine ⟨_, fill_header_segment source destination small inside, rfl, ?_, fun padding => ?_⟩
  · exact checksum_segment source destination (by rwa [count]) _
  · have length := length_segment source destination ((buffer.drop headerLength).take payloadLength)
    obtain ⟨guarded, addressed⟩ := @segment_guarded source destination
      ((buffer.drop headerLength).take payloadLength) (by rwa [count]) padding
    rw [count] at length guarded
    dsimp only
    rw [List.take_left' length]
    exact ⟨guarded, addressed _⟩

end Udp

/-- For every buffer that has the room: a checksum that is installed in an IPv4 header, in an ICMP
message or in a UDP segment is accepted, and no longer is once any one octet of the header, of the
message, or of the ports or the payload is another. A segment's field is never zero; it is accepted
with anything behind it, and refused for addresses that differ in one octet. -/
theorem installed_checksums_notice_any_octet :
    (∀ buffer : Bytes, 20 ≤ buffer.length →
      Returns (Ipv4.setChecksum buffer) fun done =>
        Bytes.Guarded Ipv4.checksumValid (· < 20) done ∧
        Bytes.SameBut (fun index => 10 ≤ index ∧ index < 12) buffer done) ∧
    (∀ (buffer : Bytes) (source destination : Ipv4Address) (protocol : Ipv4.Protocol)
      (totalLength : UInt16), 20 ≤ buffer.length →
        Returns (Ipv4.fillHeader buffer source destination protocol totalLength) fun done =>
          Bytes.Guarded Ipv4.checksumValid (· < 20) done ∧
          done = Ipv4.header source destination protocol totalLength ++ buffer.drop 20) ∧
    (∀ (buffer : Bytes) (payloadLength : Nat), 8 + payloadLength ≤ buffer.length →
      Returns (Icmp.setChecksum buffer payloadLength) fun done =>
        Bytes.Guarded (Icmp.checksumValid · payloadLength) (· < 8 + payloadLength) done ∧
        Bytes.SameBut (fun index => 2 ≤ index ∧ index < 4) buffer done) ∧
    ∀ (buffer : Bytes) (source destination : Udp.Socket) (payloadLength : Nat),
      payloadLength ≤ 65527 → 8 + payloadLength ≤ buffer.length →
        Returns (Udp.fillHeader buffer source destination payloadLength) fun done =>
          done = Udp.segment source destination ((buffer.drop 8).take payloadLength) ++
            buffer.drop (8 + payloadLength) ∧
          (Returns (Udp.checksum done) fun field => field ≠ 0) ∧
          ∀ padding : Bytes,
            let whole := done.take (8 + payloadLength) ++ padding
            Bytes.Guarded (fun data => .ok (Udp.checksumValid data source.ip destination.ip))
                (fun index => index < 4 ∨ 8 ≤ index ∧ index < 8 + payloadLength) whole ∧
              ∀ otherSource otherDestination,
                Bytes.Damaged (· < 8) (source.ip.toBytes ++ destination.ip.toBytes)
                  (otherSource.toBytes ++ otherDestination.toBytes) →
                    Udp.checksumValid whole otherSource otherDestination = false := by
  refine ⟨?ipv4, ?header, ?icmp, ?udp⟩
  case ipv4 => exact fun buffer inside => Ipv4.set_checksum_guards inside
  case header =>
    exact fun buffer source destination protocol totalLength inside =>
      Ipv4.fill_header_guards source destination protocol totalLength inside
  case icmp => exact fun buffer payloadLength inside => Icmp.set_checksum_guards inside
  case udp =>
    intro buffer source destination payloadLength small inside
    have stated : 8 + payloadLength < 65536 := by omega
    exact Udp.fill_header_guards source destination stated inside

/-- A blank header, a message of odd length, and a segment whose sum would ask for a zero field. -/
theorem blank_octets_guarded :
    (Returns (Ipv4.setChecksum (Bytes.zeros 20)) fun done =>
      Ipv4.checksumValid done = .ok true ∧ Ipv4.checksumValid (done.set 19 1) = .ok false) ∧
    (Returns (Icmp.setChecksum (Bytes.zeros 9) 1) fun done =>
      Icmp.checksumValid done 1 = .ok true ∧ Icmp.checksumValid (done.set 8 1) 1 = .ok false) ∧
    let here : Udp.Socket := ⟨⟨10, 0, 11, 2⟩, 0xd5d7⟩
    let there : Udp.Socket := ⟨⟨10, 0, 11, 3⟩, 0⟩
    Returns (Udp.fillHeader (Bytes.zeros 12) here there 1) fun done =>
      (Returns (Udp.checksum done) fun field => field ≠ 0) ∧
      Udp.checksumValid (done.take 9 ++ [7]) here.ip there.ip = true ∧
      Udp.checksumValid ((done.take 9 ++ [7]).set 8 1) here.ip there.ip = false ∧
      Udp.checksumValid (done.take 9 ++ [7]) here.ip ⟨10, 0, 11, 4⟩ = false := by
  obtain ⟨ipv4, -, icmp, udp⟩ := installed_checksums_notice_any_octet
  refine ⟨?_, ?_, ?_⟩
  · apply (ipv4 (Bytes.zeros 20) (by decide)).mono
    rintro done ⟨guarded, same⟩
    refine ⟨guarded.accepted, guarded.noticed _ ⟨19, 1, by decide, ?_, ?_, rfl⟩⟩
    · rw [same.1]
      decide
    · rw [List.getD_eq_getElem?_getD, same.2 19 (by decide)]
      decide
  · apply (icmp (Bytes.zeros 9) 1 (by decide)).mono
    rintro done ⟨guarded, same⟩
    refine ⟨guarded.accepted, guarded.noticed _ ⟨8, 1, by decide, ?_, ?_, rfl⟩⟩
    · rw [same.1]
      decide
    · rw [List.getD_eq_getElem?_getD, same.2 8 (by decide)]
      decide
  · intro here there
    apply (udp (Bytes.zeros 12) here there 1 (by decide) (by decide)).mono
    rintro done ⟨rfl, computed, guards⟩
    obtain ⟨guarded, addressed⟩ := guards [7]
    refine ⟨computed, Except.ok.inj guarded.accepted, ?_, ?_⟩
    · exact Except.ok.inj (guarded.noticed _ ⟨8, 1, .inr (by decide), by decide, by decide, rfl⟩)
    · exact addressed _ _ ⟨7, 4, by decide, by decide, by decide, rfl⟩

end InstrumentLink
