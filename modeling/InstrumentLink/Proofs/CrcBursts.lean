import InstrumentLink.Checksum.Crc32
import Mathlib.Data.Nat.Bitwise

/-!
What the CRC-32 tells apart.

The step of the register is linear in exclusive or, and it loses nothing, because the polynomial
brings back at the top the bit that fell out at the bottom. Four octets are as wide as the register,
so four of them taken together leave a register that is different for different octets, and
whatever follows keeps it different.
-/

set_option autoImplicit false

namespace InstrumentLink.Checksum.Crc32

def reduction (register : UInt32) : UInt32 :=
  if register.toNat % 2 = 1 then polynomial else 0

theorem shift_eq (register : UInt32) : shift register = (register >>> 1) ^^^ reduction register := by
  have low : register &&& 1 = 1 ↔ register.toNat % 2 = 1 := by
    rw [← UInt32.toNat_inj, UInt32.toNat_and]
    exact Iff.of_eq (congrArg (· = 1) (Nat.and_one_is_mod _))
  unfold shift reduction
  simp only [low]
  split
  · rfl
  · rw [UInt32.xor_zero]

theorem reduction_xor (register other : UInt32) :
    reduction (register ^^^ other) = reduction register ^^^ reduction other := by
  unfold reduction
  rw [UInt32.toNat_xor, Nat.xor_mod_two_eq, Nat.add_mod]
  rcases Nat.mod_two_eq_zero_or_one register.toNat with even | odd <;>
    rcases Nat.mod_two_eq_zero_or_one other.toNat with otherEven | otherOdd <;>
    simp [*]

theorem shift_xor (register other : UInt32) :
    shift (register ^^^ other) = shift register ^^^ shift other := by
  simp only [shift_eq, UInt32.shiftRight_xor, reduction_xor]
  ac_rfl

theorem eq_zero_of_shift {register : UInt32} (empty : shift register = 0) : register = 0 := by
  rw [shift_eq, UInt32.xor_eq_zero_iff, ← UInt32.toNat_inj, UInt32.toNat_shiftRight] at empty
  have half : register.toNat / 2 = (reduction register).toNat := empty
  have wide := register.toNat_lt
  rw [← UInt32.toNat_inj]
  change register.toNat = 0
  unfold reduction at half
  split at half
  · have top : polynomial.toNat = 3988292384 := rfl
    omega
  · have none : (0 : UInt32).toNat = 0 := rfl
    omega

theorem shift_double {half : Nat} (room : 2 * half < 4294967296) :
    shift (UInt32.ofNat (2 * half)) = UInt32.ofNat half := by
  have value : (UInt32.ofNat (2 * half)).toNat = 2 * half := UInt32.toNat_ofNat_of_lt' room
  rw [shift_eq, reduction, if_neg (by omega), UInt32.xor_zero, ← UInt32.toNat_inj,
    UInt32.toNat_shiftRight, value, UInt32.toNat_ofNat_of_lt' (by change _ < 4294967296; omega)]
  change 2 * half / 2 = half
  omega

theorem shifts_xor (count : Nat) (register other : UInt32) :
    shifts count (register ^^^ other) = shifts count register ^^^ shifts count other := by
  induction count generalizing register other with
  | zero => rfl
  | succ count induction =>
      simp only [shifts, shift_xor]
      exact induction _ _

theorem eq_zero_of_shifts {count : Nat} {register : UInt32} (empty : shifts count register = 0) :
    register = 0 := by
  induction count generalizing register with
  | zero => exact empty
  | succ count induction => exact eq_zero_of_shift (induction empty)

theorem shifts_injective (count : Nat) : Function.Injective (shifts count) := by
  intro register other same
  rw [← UInt32.xor_eq_zero_iff] at same ⊢
  rw [← shifts_xor] at same
  exact eq_zero_of_shifts same

theorem shifts_add (first second : Nat) (register : UInt32) :
    shifts (first + second) register = shifts second (shifts first register) := by
  induction first generalizing register with
  | zero => rw [Nat.zero_add]; rfl
  | succ first induction =>
      rw [Nat.succ_add]
      exact induction _

theorem shifts_scaled (count : Nat) {number : Nat} (room : 2 ^ count * number < 4294967296) :
    shifts count (UInt32.ofNat (2 ^ count * number)) = UInt32.ofNat number := by
  induction count with
  | zero => simp [shifts]
  | succ count induction =>
      have twice : 2 ^ (count + 1) * number = 2 * (2 ^ count * number) := by
        rw [Nat.pow_succ', Nat.mul_assoc]
      rw [twice] at room ⊢
      rw [shifts, shift_double room]
      exact induction (by omega)

/-- A string of octets as a number, the first octet lowest. -/
def packed : Bytes → Nat
  | [] => 0
  | octet :: rest => octet.toNat + 256 * packed rest

theorem packed_lt (data : Bytes) : packed data < 256 ^ data.length := by
  induction data with
  | nil => decide
  | cons octet rest induction =>
      have small := octet.toNat_lt
      rw [packed, List.length_cons, Nat.pow_succ']
      omega

theorem packed_injective {data other : Bytes} (length : data.length = other.length)
    (same : packed data = packed other) : data = other := by
  induction data generalizing other with
  | nil => exact (List.length_eq_zero_iff.mp length.symm).symm
  | cons octet rest induction =>
      cases other with
      | nil => cases length
      | cons otherOctet otherRest =>
          have small := octet.toNat_lt
          have otherSmall := otherOctet.toNat_lt
          simp only [packed] at same
          have first : octet = otherOctet := UInt8.toNat_inj.mp (by omega)
          have behind : rest = otherRest := induction (Nat.succ.inj length) (by omega)
          rw [first, behind]

theorem add_eq_xor {low : Nat} (small : low < 256) (high : Nat) :
    low + 256 * high = low ^^^ 256 * high := by
  apply Nat.eq_of_testBit_eq
  intro place
  have scaled : 256 * high = 2 ^ 8 * high + 0 := rfl
  rw [Nat.testBit_xor, Nat.add_comm low, scaled, Nat.add_zero,
    Nat.testBit_two_pow_mul_add high small, Nat.testBit_two_pow_mul]
  by_cases inside : place < 8
  · simp [inside, Nat.not_le.mpr inside]
  · have above : low.testBit place = false := Nat.testBit_lt_two_pow
      (Nat.lt_of_lt_of_le small (Nat.pow_le_pow_right Nat.two_pos (Nat.not_lt.mp inside)))
    simp [inside, above, Nat.not_lt.mp inside]

theorem run_eq_shifts {data : Bytes} (short : data.length ≤ 4) (register : UInt32) :
    run register data = shifts (8 * data.length) (register ^^^ UInt32.ofNat (packed data)) := by
  induction data generalizing register with
  | nil => exact (UInt32.xor_zero (a := register)).symm
  | cons octet rest induction =>
      have small := octet.toNat_lt
      have bound := packed_lt rest
      have room : 256 * packed rest < 4294967296 := by
        rw [List.length_cons] at short
        have widest : 256 ^ rest.length ≤ 256 ^ 3 := Nat.pow_le_pow_right (by decide) (by omega)
        omega
      have down : shifts 8 (UInt32.ofNat (256 * packed rest)) = UInt32.ofNat (packed rest) :=
        shifts_scaled 8 room
      -- The octet and what follows it have no place in common.
      have apart : UInt32.ofNat (packed (octet :: rest)) =
          octet.toUInt32 ^^^ UInt32.ofNat (256 * packed rest) := by
        rw [← UInt32.toNat_inj, UInt32.toNat_xor, UInt32.toNat_ofNat_of_lt' room,
          UInt8.toNat_toUInt32, ← add_eq_xor small]
        exact UInt32.toNat_ofNat_of_lt' (by simp only [packed]; change _ < 4294967296; omega)
      calc run register (octet :: rest)
          = run (feed register octet) rest := rfl
        _ = shifts (8 * rest.length) (feed register octet ^^^ UInt32.ofNat (packed rest)) :=
            induction (by simp at short; omega) _
        _ = shifts (8 * rest.length) (shifts 8 (register ^^^ octet.toUInt32 ^^^
              UInt32.ofNat (256 * packed rest))) := by
            rw [shifts_xor 8, down]
            rfl
        _ = shifts (8 * (octet :: rest).length)
              (register ^^^ UInt32.ofNat (packed (octet :: rest))) := by
            rw [← shifts_add, apart, UInt32.xor_assoc, List.length_cons, Nat.mul_succ, Nat.add_comm]

theorem run_append (register : UInt32) (front behind : Bytes) :
    run register (front ++ behind) = run (run register front) behind :=
  List.foldl_append

theorem run_injective (data : Bytes) : Function.Injective fun register => run register data := by
  intro register other same
  induction data generalizing register other with
  | nil => exact same
  | cons octet rest induction =>
      have fed : feed register octet = feed other octet := induction same
      exact (UInt32.xor_left_inj octet.toUInt32).mp (shifts_injective 8 fed)

/-- Two strings that differ in four octets next to each other, or fewer, leave different
registers. -/
theorem eq_of_run_eq {register : UInt32} {front window other behind : Bytes}
    (short : window.length ≤ 4) (length : window.length = other.length)
    (same : run register (front ++ window ++ behind) = run register (front ++ other ++ behind)) :
    window = other := by
  simp only [run_append] at same
  have held : run (run register front) window = run (run register front) other :=
    run_injective behind same
  rw [run_eq_shifts short, run_eq_shifts (length.symm.trans_le short), length] at held
  have bound := packed_lt window
  have otherBound := packed_lt other
  have widest : 256 ^ window.length ≤ 256 ^ 4 := Nat.pow_le_pow_right (by decide) short
  have numbers := (UInt32.xor_right_inj (run register front)).mp (shifts_injective _ held)
  rw [← UInt32.toNat_inj, UInt32.toNat_ofNat_of_lt' (by change _ < 4294967296; omega),
    UInt32.toNat_ofNat_of_lt' (by change _ < 4294967296; rw [← length] at otherBound; omega)]
    at numbers
  exact packed_injective length numbers

theorem packed_of_word32_reversed (word : UInt32) :
    packed (Bytes.ofWord32Reversed word) = word.toNat := by
  have small := word.toNat_lt
  simp only [Bytes.ofWord32Reversed, Bytes.ofWord32, List.reverse_cons, List.reverse_nil,
    List.nil_append, List.cons_append, packed, UInt8.toNat_ofNat']
  omega

/-- What a string with its own check sequence behind it leaves in the register, whatever the string
is. -/
def residue : UInt32 := shifts 32 0xffffffff

example : residue = 0xdebb20e3 := by decide +kernel

theorem run_eq_residue_iff (data : Bytes) {check : Bytes} (length : check.length = 4) :
    run 0xffffffff (data ++ check) = residue ↔ Bytes.ofWord32Reversed (ofBytes data) = check := by
  have bound := packed_lt check
  rw [length] at bound
  have number : (UInt32.ofNat (packed check)).toNat = packed check :=
    UInt32.toNat_ofNat_of_lt' bound
  have steps : run 0xffffffff (data ++ check) =
      shifts 32 (run 0xffffffff data ^^^ UInt32.ofNat (packed check)) := by
    rw [run_append, run_eq_shifts (Nat.le_of_eq length), length]
  have ones : (0xffffffff : UInt32) = run 0xffffffff data ^^^ ofBytes data := by
    rw [ofBytes, UInt32.xor_not, UInt32.xor_self]
    rfl
  rw [steps, residue, (shifts_injective 32).eq_iff]
  nth_rewrite 2 [ones]
  rw [UInt32.xor_right_inj]
  constructor
  · intro same
    apply packed_injective (by rw [length]; rfl)
    rw [packed_of_word32_reversed, ← number, same]
  · rintro rfl
    rw [← UInt32.toNat_inj, number, packed_of_word32_reversed]

end InstrumentLink.Checksum.Crc32
