import InstrumentLink.Proofs.ChecksumField
import InstrumentLink.Proofs.FrameOctets
import Mathlib.Algebra.BigOperators.Group.Finset.Basic

/-!
The checksum is a ones'-complement sum.

Folding leaves zero only of zero, and otherwise the residue modulo 65535 that is not zero. So a sum
has one folded value, however often its carries were added back in, and a sum that goes on from a
folded one comes to the same. In words of sixty-four bits nothing on the way is too large.
-/

set_option autoImplicit false

namespace InstrumentLink.Checksum

theorem fold_zero : fold 0 = 0 := by
  rw [fold, if_pos (by decide)]

theorem fold_eq (sum : Nat) : fold sum = if sum = 0 then 0 else 1 + (sum - 1) % 65535 := by
  have bound := fold_lt sum
  have residue := fold_mod sum
  by_cases none : sum = 0
  · rw [if_pos none, none, fold_zero]
  · have positive := fold_pos (Nat.pos_of_ne_zero none)
    rw [if_neg none]
    omega

theorem fold_add_fold (sum more : Nat) : fold (fold sum + more) = fold (sum + more) := by
  have residue := fold_mod sum
  by_cases none : sum = 0
  · rw [none, fold_zero]
  · have positive := fold_pos (Nat.pos_of_ne_zero none)
    rw [fold_eq, fold_eq (sum + more), if_neg (by omega), if_neg (by omega)]
    omega

theorem fold_pieces {front : Bytes} (even : front.length % 2 = 0) (rest : Bytes) (seed : UInt32) :
    fold ((partialSum front seed).toUInt32.toNat + wordSum rest) =
      fold (seed.toNat + wordSum (front ++ rest)) := by
  rw [UInt16.toNat_toUInt32, partial_sum_toNat, fold_add_fold, word_sum_append front rest even,
    Nat.add_assoc]

theorem partial_sum_pieces {front : Bytes} (even : front.length % 2 = 0) (rest : Bytes)
    (seed : UInt32) :
    partialSum rest (partialSum front seed).toUInt32 = partialSum (front ++ rest) seed := by
  apply UInt16.toNat_inj.mp
  rw [partial_sum_toNat, partial_sum_toNat, fold_pieces even]

theorem field_pieces {front : Bytes} (even : front.length % 2 = 0) (rest : Bytes) (seed : UInt32) :
    field rest (partialSum front seed).toUInt32 = field (front ++ rest) seed := by
  unfold field
  rw [partial_sum_pieces even]

theorem word_sum_eq_sum (data : Bytes) :
    wordSum data = ∑ place ∈ Finset.range ((data.length + 1) / 2),
      (Bytes.pairAt data (2 * place)).toNat := by
  fun_induction wordSum data with
  | case1 => rfl
  | case2 last =>
      have bound := last.toNat_lt
      simp [Bytes.pairAt, Bytes.word16]
      omega
  | case3 high low rest induction =>
      have places : ((high :: low :: rest).length + 1) / 2 = (rest.length + 1) / 2 + 1 := by
        simp only [List.length_cons]
        omega
      have first : (Bytes.pairAt (high :: low :: rest) 0).toNat = 256 * high.toNat + low.toNat := by
        have bound := high.toNat_lt
        have other := low.toNat_lt
        simp [Bytes.pairAt, Bytes.word16]
        omega
      rw [places, Finset.sum_range_succ', Nat.mul_zero, first, induction, Nat.add_comm]
      congr 1

theorem word_sum_le (data : Bytes) : wordSum data ≤ 65535 * ((data.length + 1) / 2) := by
  fun_induction wordSum data with
  | case1 => exact Nat.zero_le _
  | case2 last =>
      have bound := last.toNat_lt
      simp only [List.length_singleton]
      omega
  | case3 high low rest induction =>
      have bound := high.toNat_lt
      have other := low.toNat_lt
      simp only [List.length_cons]
      omega

/-- An addition that has no result where the sum does not fit. -/
@[irreducible] def addWithin (left right : UInt64) :
    Option { sum : UInt64 // sum.toNat = left.toNat + right.toNat } :=
  if fits : left.toNat + right.toNat < 2 ^ 64 then
    some ⟨left + right, by rw [UInt64.toNat_add, Nat.mod_eq_of_lt fits]⟩
  else none

theorem add_within {left right : UInt64} (fits : left.toNat + right.toNat < 2 ^ 64) :
    ∃ sum, addWithin left right = some sum := by
  unfold addWithin
  exact ⟨_, dif_pos fits⟩

def lowHalf (sum : UInt64) : UInt64 := sum &&& 0xffff

def carries (sum : UInt64) : UInt64 := sum >>> 16

theorem low_half_toNat (sum : UInt64) : (lowHalf sum).toNat = sum.toNat % 65536 := by
  rw [lowHalf, UInt64.toNat_and]
  exact Nat.and_two_pow_sub_one_eq_mod sum.toNat 16

theorem carries_toNat (sum : UInt64) : (carries sum).toNat = sum.toNat / 65536 := by
  rw [carries, UInt64.toNat_shiftRight]
  exact Nat.shiftRight_eq_div_pow sum.toNat 16

theorem carries_eq_zero (sum : UInt64) : carries sum = 0 ↔ sum.toNat < 65536 := by
  rw [← UInt64.toNat_inj, carries_toNat, UInt64.toNat_zero]
  omega

theorem lt_of_carries {sum folded : UInt64} (some : carries sum ≠ 0)
    (added : folded.toNat = (lowHalf sum).toNat + (carries sum).toNat) :
    folded.toNat < sum.toNat := by
  rw [low_half_toNat, carries_toNat] at added
  rw [Ne, carries_eq_zero] at some
  omega

def accumulate (sum : UInt64) : Bytes → Option UInt64
  | [] => some sum
  | [last] => do return (← addWithin sum (last.toUInt64 <<< 8)).val
  | high :: low :: rest => do
      let longer ← addWithin sum (Bytes.word16 high low).toUInt64
      accumulate longer.val rest

/-- The carries, added back in until none is left. -/
def foldWithin (sum : UInt64) : Option UInt64 :=
  if carries sum = 0 then some sum
  else do
    let folded ← addWithin (lowHalf sum) (carries sum)
    foldWithin folded.val
termination_by sum.toNat
decreasing_by
  next some => exact lt_of_carries some folded.property

def partialSumWithin (data : Bytes) (seed : UInt32) : Option UInt16 := do
  let sum ← accumulate seed.toUInt64 data
  let folded ← foldWithin sum
  return folded.toUInt16

theorem octet_word_toNat (last : UInt8) : (last.toUInt64 <<< 8).toNat = 256 * last.toNat := by
  have bound := last.toNat_lt
  rw [UInt64.toNat_shiftLeft, UInt8.toNat_toUInt64, Nat.shiftLeft_eq]
  change last.toNat * 2 ^ 8 % 2 ^ 64 = 256 * last.toNat
  omega

theorem word_toNat (high low : UInt8) :
    (Bytes.word16 high low).toUInt64.toNat = 256 * high.toNat + low.toNat := by
  have bound := high.toNat_lt
  have other := low.toNat_lt
  simp only [Bytes.word16, UInt16.toNat_toUInt64, UInt16.toNat_ofNat']
  omega

theorem accumulate_eq (sum : UInt64) (data : Bytes) (fits : sum.toNat + wordSum data < 2 ^ 64) :
    ∃ total, accumulate sum data = some total ∧ total.toNat = sum.toNat + wordSum data := by
  fun_induction accumulate sum data with
  | case1 sum => exact ⟨sum, rfl, rfl⟩
  | case2 sum last =>
      change sum.toNat + 256 * last.toNat < 2 ^ 64 at fits
      rw [← octet_word_toNat] at fits
      obtain ⟨total, added⟩ := add_within fits
      have number : total.val.toNat = sum.toNat + 256 * last.toNat := by
        rw [total.property, octet_word_toNat]
      exact ⟨total.val, by rw [added]; rfl, number⟩
  | case3 sum high low rest induction =>
      simp only [wordSum] at fits
      have first : sum.toNat + (Bytes.word16 high low).toUInt64.toNat < 2 ^ 64 := by
        rw [word_toNat]
        omega
      obtain ⟨longer, added⟩ := add_within first
      have number : longer.val.toNat = sum.toNat + (256 * high.toNat + low.toNat) := by
        rw [longer.property, word_toNat]
      obtain ⟨total, more, reached⟩ := induction longer (by omega)
      refine ⟨total, by rw [added]; exact more, ?_⟩
      simp only [wordSum]
      omega

theorem fold_within_eq (sum : UInt64) :
    ∃ folded, foldWithin sum = some folded ∧ folded.toNat = fold sum.toNat := by
  fun_induction foldWithin sum with
  | case1 sum none =>
      have small := (carries_eq_zero sum).mp none
      exact ⟨sum, rfl, by rw [fold, if_pos small]⟩
  | case2 sum some induction =>
      have large : ¬ sum.toNat < 65536 := by rwa [← carries_eq_zero]
      have bound := sum.toNat_lt
      have fits : (lowHalf sum).toNat + (carries sum).toNat < 2 ^ 64 := by
        rw [low_half_toNat, carries_toNat]
        omega
      obtain ⟨next, added⟩ := add_within fits
      obtain ⟨folded, finished, value⟩ := induction next
      refine ⟨folded, by rw [added]; exact finished, ?_⟩
      rw [value, next.property, low_half_toNat, carries_toNat]
      conv_rhs => rw [fold, if_neg large]

theorem partial_sum_within {data : Bytes} {seed : UInt32} (short : data.length < 2 ^ 48) :
    partialSumWithin data seed = some (partialSum data seed) := by
  have words := word_sum_le data
  have start := seed.toNat_lt
  have fits : seed.toUInt64.toNat + wordSum data < 2 ^ 64 := by
    rw [UInt32.toNat_toUInt64]
    omega
  obtain ⟨sum, added, total⟩ := accumulate_eq seed.toUInt64 data fits
  obtain ⟨folded, finished, value⟩ := fold_within_eq sum
  have same : folded.toUInt16 = partialSum data seed := by
    apply UInt16.toNat_inj.mp
    rw [partial_sum_toNat, UInt64.toNat_toUInt16, value, total, UInt32.toNat_toUInt64]
    exact Nat.mod_eq_of_lt (fold_lt _)
  unfold partialSumWithin
  rw [added]
  change (do let folded ← foldWithin sum; return folded.toUInt16) = _
  rw [finished, ← same]
  rfl

/-- The folded sum of the words, computed without overflow and in pieces. -/
theorem checksum_is_ones_complement_sum (data : Bytes) (short : data.length < 2 ^ 48)
    (seed : UInt32) :
    let sum := seed.toNat + ∑ place ∈ Finset.range ((data.length + 1) / 2),
      (Bytes.pairAt data (2 * place)).toNat
    let folded := if sum = 0 then 0 else 1 + (sum - 1) % 65535
    partialSumWithin data seed = some (partialSum data seed) ∧
      (partialSum data seed).toNat = folded ∧
      (field data seed).toNat = (if folded = 65535 then 65535 else 65535 - folded) ∧
      ∀ front rest, data = front ++ rest → front.length % 2 = 0 →
        partialSum rest (partialSum front seed).toUInt32 = partialSum data seed ∧
          field rest (partialSum front seed).toUInt32 = field data seed := by
  intro sum folded
  have same : fold (seed.toNat + wordSum data) = folded := by rw [fold_eq, word_sum_eq_sum]
  refine ⟨partial_sum_within short, by rw [partial_sum_toNat, same],
    by rw [field_toNat, same], ?_⟩
  intro front rest pieces even
  rw [pieces]
  exact ⟨partial_sum_pieces even rest seed, field_pieces even rest seed⟩

/-- Three octets after six, under the largest seed; the carries go round twice. -/
theorem sum_goes_on_after_six_octets :
    let data : Bytes := [0x00, 0x01, 0xf2, 0x03, 0xf4, 0xf5, 0xf6, 0xf7, 0xff]
    partialSumWithin data 0xffffffff = some 0xdcf3 ∧
      partialSum data 0xffffffff = 0xdcf3 ∧ field data 0xffffffff = 0x230c ∧
      partialSum [0xf6, 0xf7, 0xff] (partialSum (data.take 6) 0xffffffff).toUInt32 = 0xdcf3 ∧
      field [0xf6, 0xf7, 0xff] (partialSum (data.take 6) 0xffffffff).toUInt32 = 0x230c := by
  intro data
  obtain ⟨within, folded, complement, pieces⟩ :=
    checksum_is_ones_complement_sum data (by decide) 0xffffffff
  have sum : partialSum data 0xffffffff = 0xdcf3 := by
    apply UInt16.toNat_inj.mp
    rw [folded]
    decide
  have finished : field data 0xffffffff = 0x230c := by
    apply UInt16.toNat_inj.mp
    rw [complement]
    decide
  obtain ⟨continued, closed⟩ := pieces (data.take 6) [0xf6, 0xf7, 0xff] rfl (by decide)
  exact ⟨by rw [within, sum], sum, finished, by rw [continued, sum], by rw [closed, finished]⟩

end InstrumentLink.Checksum
