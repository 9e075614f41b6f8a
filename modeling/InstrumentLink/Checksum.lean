import InstrumentLink.Address

/-!
The Internet checksum: the ones'-complement sum of big-endian 16-bit words.

A sum may be computed in pieces, the folded sum of one piece being the seed of the next; that is how
the pseudo-header of UDP enters its checksum.
-/

set_option autoImplicit false

namespace InstrumentLink.Checksum

/-- The sum of the big-endian words of the data; an odd last octet is the high half of a word. -/
def wordSum : Bytes → Nat
  | [] => 0
  | [last] => 256 * last.toNat
  | high :: low :: rest => 256 * high.toNat + low.toNat + wordSum rest

/-- Adds the carries above sixteen bits back in until none is left. -/
def fold (sum : Nat) : Nat :=
  if sum < 65536 then sum else fold (sum % 65536 + sum / 65536)
termination_by sum
decreasing_by omega

def partialSum (data : Bytes) (seed : UInt32) : UInt16 :=
  UInt16.ofNat (fold (seed.toNat + wordSum data))

/-- The value that goes into a checksum field: the complement of the sum, with all ones in place of
zero, because a zero field says that no checksum was computed. -/
def field (data : Bytes) (seed : UInt32) : UInt16 :=
  let complement := ~~~ partialSum data seed
  if complement = 0 then 0xffff else complement

def isValid (data : Bytes) (seed : UInt32) : Bool := partialSum data seed = 0xffff

def pseudoHeader (source destination : Ipv4Address) (protocol : UInt8) (length : UInt16) : UInt32 :=
  let words := source.toBytes ++ destination.toBytes ++ [0, protocol] ++ Bytes.ofWord16 length
  (partialSum words 0).toUInt32

end InstrumentLink.Checksum
