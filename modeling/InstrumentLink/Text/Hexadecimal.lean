/-!
Numbers and octet strings in hexadecimal.

Digits are written in lower case and read in either case. A width fills with zeros on the left and
never cuts a longer number. An octet string has two digits for each octet, so what is written reads
back (`read_octets`).
-/

set_option autoImplicit false

namespace InstrumentLink.Text.Hexadecimal

/-- The shortest spelling of a number; zero has one digit. -/
def digits (value : Nat) : List Char := Nat.toDigits 16 value

def padded (width value : Nat) : String := String.ofList ((digits value).leftpad width '0')

def octet (value : UInt8) : String := padded 2 value.toNat

def word (value : UInt32) : String := "0x" ++ padded 8 value.toNat

def tag (value : UInt32) : String := "0x" ++ padded 1 value.toNat

def octetDigits (value : UInt8) : List Char :=
  [Nat.digitChar (value.toNat / 16), Nat.digitChar (value.toNat % 16)]

def octets (values : List UInt8) : String := String.ofList (values.flatMap octetDigits)

def digitValue (character : Char) : Option Nat :=
  if '0' ≤ character ∧ character ≤ '9' then some (character.toNat - '0'.toNat)
  else if 'a' ≤ character ∧ character ≤ 'f' then some (character.toNat - 'a'.toNat + 10)
  else if 'A' ≤ character ∧ character ≤ 'F' then some (character.toNat - 'A'.toNat + 10)
  else none

def readDigits : List Char → Option (List UInt8)
  | [] => some []
  | [_] => none
  | high :: low :: rest => do
      let value := 16 * (← digitValue high) + (← digitValue low)
      return UInt8.ofNat value :: (← readDigits rest)

/-- Reads an octet string; anything but pairs of digits is refused. -/
def read (text : String) : Option (List UInt8) := readDigits text.toList

theorem digit_value_digit_char {value : Nat} (small : value < 16) :
    digitValue (Nat.digitChar value) = some value := by
  have all : ∀ digit : Fin 16, digitValue (Nat.digitChar digit.val) = some digit.val := by decide
  exact all ⟨value, small⟩

theorem read_octets (values : List UInt8) : read (octets values) = some values := by
  have general : readDigits (values.flatMap octetDigits) = some values := by
    induction values with
    | nil => rfl
    | cons value rest hypothesis =>
      have bound := value.toNat_lt
      have halves : 16 * (value.toNat / 16) + value.toNat % 16 = value.toNat := by omega
      simp only [List.flatMap_cons, octetDigits, List.cons_append, List.nil_append, readDigits,
        digit_value_digit_char (show value.toNat / 16 < 16 by omega),
        digit_value_digit_char (show value.toNat % 16 < 16 by omega), hypothesis,
        Option.bind_eq_bind, Option.bind_some, Option.pure_def, halves, UInt8.ofNat_toNat]
  simpa [read, octets] using general

end InstrumentLink.Text.Hexadecimal
