import InstrumentLink.Bytes

/-!
The CRC-32 of IEEE 802.3: reflected polynomial, all-ones register at the start, complement at the
end.

The register is fed bit by bit, least significant bit of each octet first. The step is linear in
exclusive or, which is what error detection rests on.
-/

set_option autoImplicit false

namespace InstrumentLink.Checksum.Crc32

def polynomial : UInt32 := 0xedb88320

/-- Moves the register down one place; a one that falls out subtracts the polynomial. -/
def shift (register : UInt32) : UInt32 :=
  if register &&& 1 = 1 then (register >>> 1) ^^^ polynomial else register >>> 1

def shifts : Nat → UInt32 → UInt32
  | 0, register => register
  | count + 1, register => shifts count (shift register)

def feed (register : UInt32) (octet : UInt8) : UInt32 := shifts 8 (register ^^^ octet.toUInt32)

def run (register : UInt32) (data : Bytes) : UInt32 := data.foldl feed register

def ofBytes (data : Bytes) : UInt32 := ~~~ run 0xffffffff data

end InstrumentLink.Checksum.Crc32
