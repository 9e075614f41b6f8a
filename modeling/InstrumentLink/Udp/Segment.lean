import InstrumentLink.Ipv4.Packet

/-!
UDP segments: ports, length and a checksum that also covers the addresses of the packet around it.

The length field is the sender's statement. A payload is what that statement and the octets actually
present have in common.
-/

set_option autoImplicit false

namespace InstrumentLink.Udp

def headerLength : Nat := 8

structure Socket where
  ip : Ipv4Address
  port : UInt16
  deriving DecidableEq, Repr

def sourcePort (data : Bytes) : Except Fault UInt16 := Bytes.word16At data 0

def destinationPort (data : Bytes) : Except Fault UInt16 := Bytes.word16At data 2

/-- Octets of header and payload, as the sender states them. -/
def statedLength (data : Bytes) : Except Fault UInt16 := Bytes.word16At data 4

def checksum (data : Bytes) : Except Fault UInt16 := Bytes.word16At data 6

def payload (data : Bytes) : Except Fault Bytes := do
  let stated := max (← statedLength data).toNat headerLength
  Bytes.slice data headerLength (min stated data.length)

inductive Refusal where
  | tooShort
  | lengthBelowHeader
  deriving DecidableEq, Repr

def Refusal.message : Refusal → String
  | .tooShort => "Segment too short to contain valid UDP Header"
  | .lengthBelowHeader => "UDP length field is smaller than the header"

def check (data : Bytes) : Except Refusal Unit :=
  if data.length < headerLength then .error .tooShort
  else
    match statedLength data with
    | .ok stated => if stated.toNat < headerLength then .error .lengthBelowHeader else .ok ()
    | .error _ => .error .tooShort

def headerWith (checksum sourcePort destinationPort length : UInt16) : Bytes :=
  Bytes.ofWord16 sourcePort ++ Bytes.ofWord16 destinationPort ++ Bytes.ofWord16 length ++
    Bytes.ofWord16 checksum

def checksumSeed (source destination : Ipv4Address) (length : UInt16) : UInt32 :=
  Checksum.pseudoHeader source destination Ipv4.Protocol.udp.code length

def fields (sourcePort destinationPort length : UInt16) : List (Nat × Bytes) :=
  [(0, Bytes.ofWord16 sourcePort), (2, Bytes.ofWord16 destinationPort), (4, Bytes.ofWord16 length),
    (6, Bytes.ofWord16 0)]

/-- Writes the header for a payload that already stands behind it. The length field has sixteen bits
and the checksum covers as many octets as it says. -/
def fillHeader (data : Bytes) (source destination : Socket) (payloadLength : Nat) :
    Except Fault Bytes := do
  let length := UInt16.ofNat (headerLength + payloadLength)
  let cleared ← Bytes.writeFields data (fields source.port destination.port length)
  let covered ← Bytes.slice cleared 0 length.toNat
  let checksum := Checksum.field covered (checksumSeed source.ip destination.ip length)
  Bytes.overwrite cleared 6 (Bytes.ofWord16 checksum)

/-- Whether a segment agrees with its checksum. A zero field says that the sender computed none. -/
def checksumValid (segment : Bytes) (source destination : Ipv4Address) : Bool :=
  if segment.length < headerLength then false
  else
    match checksum segment, statedLength segment with
    | .ok field, .ok length =>
        field = 0 ∨ Checksum.isValid (segment.take (min length.toNat segment.length))
          (checksumSeed source destination length)
    | _, _ => false

@[simp] theorem length_header_with (checksum sourcePort destinationPort length : UInt16) :
    (headerWith checksum sourcePort destinationPort length).length = headerLength := rfl

end InstrumentLink.Udp
