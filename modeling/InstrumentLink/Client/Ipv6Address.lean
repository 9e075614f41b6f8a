import InstrumentLink.Client.Number
import InstrumentLink.Address

/-!
Addresses of the sixth version of the Internet protocol and their written form.

An address is eight groups of up to four hexadecimal digits with colons between them. One run of
zero groups may be left out, which leaves two colons behind, and the last two groups may be written
as an IPv4 address.
-/

set_option autoImplicit false

namespace InstrumentLink.Client

/-- A 128-bit address: eight groups of sixteen bits. -/
structure Ipv6Address where
  groups : Vector UInt16 8
  deriving DecidableEq, Repr

namespace Ipv6Address

def unspecified : Ipv6Address := ⟨Vector.replicate 8 0⟩

def isUnspecified (address : Ipv6Address) : Bool := address = unspecified

def isMulticast (address : Ipv6Address) : Bool := address.groups[0] >>> 8 = 0xff

/-- Whether the address means something on one interface or one link only, so that it is complete
only with the interface it is used on. -/
def isLinkScoped (address : Ipv6Address) : Bool :=
  address.groups[0] &&& 0xffc0 = 0xfe80 ∨
    address.isMulticast ∧ (address.groups[0] &&& 0xf = 1 ∨ address.groups[0] &&& 0xf = 2)

/-- What the first six groups are if the last two hold an IPv4 address. -/
def embedding : List UInt16 := [0, 0, 0, 0, 0, 0xffff]

def embedded (address : Ipv6Address) : Option Ipv4Address :=
  let groups := address.groups.toList
  if groups.take 6 = embedding then
    (Ipv4Address.readAt ((groups.drop 6).flatMap Bytes.ofWord16) 0).toOption
  else none

def leadingZeros (groups : List UInt16) : Nat := (groups.takeWhile fun group => group = 0).length

/-- Where the longest run of zero groups starts, and how long it is. Of equally long runs it is the
first. -/
def longestZeros (groups : List UInt16) : Nat × Nat :=
  (List.range groups.length).foldl
    (fun longest start =>
      let length := leadingZeros (groups.drop start)
      if longest.2 < length then (start, length) else longest)
    (0, 0)

def joined (groups : List UInt16) : String :=
  ":".intercalate (groups.map fun group => String.ofList (Text.Hexadecimal.digits group.toNat))

/-- The shortest form. A single zero group is not left out. -/
def text (address : Ipv6Address) : String :=
  match address.embedded with
  | some ip => "::ffff:" ++ ip.text
  | none =>
      let groups := address.groups.toList
      let (start, length) := longestZeros groups
      if 1 < length then
        joined (groups.take start) ++ "::" ++ joined (groups.drop (start + length))
      else joined groups

def readGroup (digits : List Char) : Option UInt16 :=
  if digits.length ≤ 4 then (Number.ofDigits 16 digits).map UInt16.ofNat else none

def groupsOfIpv4 (ip : Ipv4Address) : List UInt16 :=
  [Bytes.word16 ip.octet0 ip.octet1, Bytes.word16 ip.octet2 ip.octet3]

/-- The groups in texts that stood between colons; the last of them may be an IPv4 address where
that is allowed. -/
def readParts (ipv4Allowed : Bool) : List (List Char) → Option (List UInt16)
  | [] => some []
  | [last] =>
      if ipv4Allowed ∧ '.' ∈ last then
        (Ipv4Address.ofText (String.ofList last)).map groupsOfIpv4
      else (readGroup last).map fun group => [group]
  | part :: parts => do return (← readGroup part) :: (← readParts ipv4Allowed parts)

/-- The groups in a text without a gap. An empty text has none. -/
def readGroups (ipv4Allowed : Bool) (text : List Char) : Option (List UInt16) :=
  if text = [] then some [] else readParts ipv4Allowed (text.splitOn ':')

def splitGap : List Char → Option (List Char × List Char)
  | [] => none
  | ':' :: ':' :: rest => some ([], rest)
  | character :: rest => (splitGap rest).map fun (before, behind) => (character :: before, behind)

def ofGroups (groups : List UInt16) : Option Ipv6Address :=
  if complete : groups.length = 8 then some ⟨⟨groups.toArray, complete⟩⟩ else none

/-- Reads an address. A gap stands for at least one group, and an IPv4 address is the end of the
whole. -/
def ofText (text : String) : Option Ipv6Address := do
  match splitGap text.toList with
  | none => ofGroups (← readGroups true text.toList)
  | some (before, behind) =>
      let front ← readGroups false before
      let back ← readGroups true behind
      if front.length + back.length < 8 then
        ofGroups (front ++ List.replicate (8 - front.length - back.length) 0 ++ back)
      else none

end Ipv6Address

end InstrumentLink.Client
