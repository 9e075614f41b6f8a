import InstrumentLink.Checksum

/-!
IPv4 headers without options: twenty octets, sent with the don't-fragment bit and a fixed time to
live.

The payload of a received packet runs to the end of its octets; the total length field is for the
protocols above to respect.
-/

set_option autoImplicit false

namespace InstrumentLink.Ipv4

def headerLength : Nat := 20

def versionAndLength : UInt8 := 0x45

def dontFragment : UInt16 := 0x4000

def timeToLive : UInt8 := 64

inductive Protocol where
  | icmp
  | tcp
  | udp
  | unknown (code : UInt8)
  deriving DecidableEq, Repr

def Protocol.ofCode (code : UInt8) : Protocol :=
  if code = 0x01 then .icmp
  else if code = 0x06 then .tcp
  else if code = 0x11 then .udp
  else .unknown code

def Protocol.code : Protocol → UInt8
  | .icmp => 0x01
  | .tcp => 0x06
  | .udp => 0x11
  | .unknown code => code

def version (data : Bytes) : Except Fault UInt8 := Bytes.octetAt data 0

/-- The differentiated services code point: the upper six bits of its octet. -/
def serviceCode (data : Bytes) : Except Fault UInt8 := do
  return (← Bytes.octetAt data 1) >>> 2

/-- Octets of header and payload, as the sender states them. -/
def totalLength (data : Bytes) : Except Fault UInt16 := Bytes.word16At data 2

def identification (data : Bytes) : Except Fault UInt16 := Bytes.word16At data 4

def fragment (data : Bytes) : Except Fault UInt16 := Bytes.word16At data 6

def hops (data : Bytes) : Except Fault UInt8 := Bytes.octetAt data 8

def protocol (data : Bytes) : Except Fault Protocol := do
  return Protocol.ofCode (← Bytes.octetAt data 9)

def checksum (data : Bytes) : Except Fault UInt16 := Bytes.word16At data 10

def source (data : Bytes) : Except Fault Ipv4Address := Ipv4Address.readAt data 12

def destination (data : Bytes) : Except Fault Ipv4Address := Ipv4Address.readAt data 16

def payload (data : Bytes) : Except Fault Bytes := Bytes.suffix data headerLength

def checksumValid (data : Bytes) : Except Fault Bool := do
  return Checksum.isValid (← Bytes.slice data 0 headerLength) 0

inductive Refusal where
  | tooShort
  | notPlainHeader
  deriving DecidableEq, Repr

def Refusal.message : Refusal → String
  | .tooShort => "Packet too short to contain valid IP Header"
  | .notPlainHeader => "Not an option-less IPv4 header"

def check (data : Bytes) : Except Refusal Unit :=
  if data.length < headerLength then .error .tooShort
  else if (version data).toOption ≠ some versionAndLength then .error .notPlainHeader
  else .ok ()

def headerWith (checksum : UInt16) (source destination : Ipv4Address) (protocol : Protocol)
    (totalLength : UInt16) : Bytes :=
  [versionAndLength, 0] ++ Bytes.ofWord16 totalLength ++ [0, 0] ++ Bytes.ofWord16 dontFragment ++
    [timeToLive, protocol.code] ++ Bytes.ofWord16 checksum ++ source.toBytes ++ destination.toBytes

def header (source destination : Ipv4Address) (protocol : Protocol) (totalLength : UInt16) :
    Bytes :=
  headerWith (Checksum.field (headerWith 0 source destination protocol totalLength) 0)
    source destination protocol totalLength

def setChecksum (data : Bytes) : Except Fault Bytes := do
  let cleared ← Bytes.overwrite data 10 [0, 0]
  let covered ← Bytes.slice cleared 0 headerLength
  Bytes.overwrite cleared 10 (Bytes.ofWord16 (Checksum.field covered 0))

def fields (source destination : Ipv4Address) (protocol : Protocol) (totalLength : UInt16) :
    List (Nat × Bytes) :=
  [(0, [versionAndLength]), (1, [0]), (2, Bytes.ofWord16 totalLength), (4, [0, 0]),
    (6, Bytes.ofWord16 dontFragment), (8, [timeToLive]), (9, [protocol.code]),
    (12, source.toBytes), (16, destination.toBytes)]

def fillHeader (data : Bytes) (source destination : Ipv4Address) (protocol : Protocol)
    (totalLength : UInt16) : Except Fault Bytes := do
  setChecksum (← Bytes.writeFields data (fields source destination protocol totalLength))

@[simp] theorem length_header_with (checksum : UInt16) (source destination : Ipv4Address)
    (protocol : Protocol) (totalLength : UInt16) :
    (headerWith checksum source destination protocol totalLength).length = headerLength := rfl

@[simp] theorem length_header (source destination : Ipv4Address) (protocol : Protocol)
    (totalLength : UInt16) :
    (header source destination protocol totalLength).length = headerLength := rfl

end InstrumentLink.Ipv4
