import InstrumentLink.Text.Blank
import InstrumentLink.Text.Hexadecimal

/-!
Numbers on a command line.

A word is decimal, or hexadecimal behind `0x` or `0X`; white space around it does not count, and
underscores among the digits do not either. A plus sign in front of the digits is accepted. A port
or a number of milliseconds is plain decimal.
-/

set_option autoImplicit false

namespace InstrumentLink.Client.Number

def digitValue (base : Nat) (character : Char) : Option Nat :=
  (Text.Hexadecimal.digitValue character).filter fun digit => digit < base

def ofDigits (base : Nat) (digits : List Char) : Option Nat :=
  if digits = [] then none
  else digits.foldlM (fun total digit => do return base * total + (← digitValue base digit)) 0

/-- The value of digits behind an optional plus sign, if it is below a limit. -/
def bounded (base limit : Nat) (text : List Char) : Option Nat :=
  let digits :=
    match text with
    | '+' :: digits => digits
    | _ => text
  (ofDigits base digits).filter fun value => value < limit

def withoutSeparators (text : List Char) : List Char := text.filter fun character => character ≠ '_'

/-- A 32-bit word, from text without white space around it. -/
def readTrimmed (text : List Char) : Option UInt32 :=
  let value :=
    match text with
    | '0' :: 'x' :: digits => bounded 16 4294967296 (withoutSeparators digits)
    | '0' :: 'X' :: digits => bounded 16 4294967296 (withoutSeparators digits)
    | _ => bounded 10 4294967296 (withoutSeparators text)
  value.map UInt32.ofNat

/-- A 32-bit word, or the text that is none, without white space around it. -/
def readWord (text : String) : Except String UInt32 :=
  let trimmed := Text.Blank.trim text.toList
  match readTrimmed trimmed with
  | some word => .ok word
  | none => .error (String.ofList trimmed)

def readPort (text : String) : Option UInt16 := (bounded 10 65536 text.toList).map UInt16.ofNat

def readMilliseconds (text : String) : Option Nat := bounded 10 18446744073709551616 text.toList

end InstrumentLink.Client.Number
