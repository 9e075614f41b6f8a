import InstrumentLink.Bytes
import InstrumentLink.Text.Hexadecimal

/-!
Hardware and network addresses: their octets, their written form, and the few addresses with a
meaning of their own.
-/

set_option autoImplicit false

namespace InstrumentLink

structure MacAddress where
  octet0 : UInt8
  octet1 : UInt8
  octet2 : UInt8
  octet3 : UInt8
  octet4 : UInt8
  octet5 : UInt8
  deriving DecidableEq, Repr

namespace MacAddress

def zero : MacAddress := ⟨0, 0, 0, 0, 0, 0⟩

def broadcast : MacAddress := ⟨0xff, 0xff, 0xff, 0xff, 0xff, 0xff⟩

def toBytes (address : MacAddress) : Bytes :=
  [address.octet0, address.octet1, address.octet2, address.octet3, address.octet4, address.octet5]

def readAt (data : Bytes) (index : Nat) : Except Fault MacAddress :=
  match data.drop index with
  | octet0 :: octet1 :: octet2 :: octet3 :: octet4 :: octet5 :: _ =>
      .ok ⟨octet0, octet1, octet2, octet3, octet4, octet5⟩
  | _ => .error .outsideBuffer

def isZero (address : MacAddress) : Bool := address = zero

def isBroadcast (address : MacAddress) : Bool := address = broadcast

def text (address : MacAddress) : String :=
  ":".intercalate (address.toBytes.map Text.Hexadecimal.octet)

/-- Reads six pairs of hexadecimal digits with colons between them; anything else is refused. -/
def ofText (text : String) : Option MacAddress :=
  match (text.toList.splitOn ':').mapM Text.Hexadecimal.readDigits with
  | some [[octet0], [octet1], [octet2], [octet3], [octet4], [octet5]] =>
      some ⟨octet0, octet1, octet2, octet3, octet4, octet5⟩
  | _ => none

@[simp] theorem length_to_bytes (address : MacAddress) : address.toBytes.length = 6 := rfl

end MacAddress

structure Ipv4Address where
  octet0 : UInt8
  octet1 : UInt8
  octet2 : UInt8
  octet3 : UInt8
  deriving DecidableEq, Repr

namespace Ipv4Address

def unspecified : Ipv4Address := ⟨0, 0, 0, 0⟩

def broadcast : Ipv4Address := ⟨255, 255, 255, 255⟩

def toBytes (address : Ipv4Address) : Bytes :=
  [address.octet0, address.octet1, address.octet2, address.octet3]

def readAt (data : Bytes) (index : Nat) : Except Fault Ipv4Address :=
  match data.drop index with
  | octet0 :: octet1 :: octet2 :: octet3 :: _ => .ok ⟨octet0, octet1, octet2, octet3⟩
  | _ => .error .outsideBuffer

/-- Whether the address lies in the multicast block, 224.0.0.0 to 239.255.255.255. -/
def isMulticast (address : Ipv4Address) : Bool := 224 ≤ address.octet0 ∧ address.octet0 ≤ 239

def isUnicast (address : Ipv4Address) : Bool :=
  address ≠ unspecified ∧ address ≠ broadcast ∧ !address.isMulticast

def text (address : Ipv4Address) : String :=
  ".".intercalate (address.toBytes.map fun octet => toString octet.toNat)

/-- One part of a dotted address: one to three decimal digits, at most 255, and no leading zero
unless zero itself is meant. -/
def readPart (digits : List Char) : Option UInt8 :=
  if digits ≠ [] ∧ digits.length ≤ 3 ∧ digits.all Char.isDigit ∧
      (digits.head? ≠ some '0' ∨ digits.length = 1) then
    let value := digits.foldl (fun total digit => 10 * total + (digit.toNat - '0'.toNat)) 0
    if value < 256 then some (UInt8.ofNat value) else none
  else none

/-- Reads a dotted address; anything else is refused. -/
def ofText (text : String) : Option Ipv4Address :=
  match (text.toList.splitOn '.').mapM readPart with
  | some [octet0, octet1, octet2, octet3] => some ⟨octet0, octet1, octet2, octet3⟩
  | _ => none

@[simp] theorem length_to_bytes (address : Ipv4Address) : address.toBytes.length = 4 := rfl

end Ipv4Address

end InstrumentLink
