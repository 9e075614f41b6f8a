import InstrumentLink.Address

/-!
Ethernet II frames: destination, source, type, payload.

A frame starts at its destination address; preamble and frame check sequence are the business of
`InstrumentLink.Ethernet.Framing`.
-/

set_option autoImplicit false

namespace InstrumentLink.Ethernet

def headerLength : Nat := 14

def typeIpv4 : UInt16 := 0x0800

def typeArp : UInt16 := 0x0806

/-- The shortest frame on the wire, frame check sequence not counted. An ARP frame has this
length. -/
def minimumLength : Nat := 60

/-- The most octets a slot is asked to carry, preamble and frame check sequence included. -/
def maximumLength : Nat := 1532

def header (destination source : MacAddress) (etherType : UInt16) : Bytes :=
  destination.toBytes ++ source.toBytes ++ Bytes.ofWord16 etherType

inductive Refusal where
  | tooShort
  deriving DecidableEq, Repr

def Refusal.message : Refusal → String
  | .tooShort => "Frame is less than the minimum of 14 bytes"

def check (frame : Bytes) : Except Refusal Unit :=
  if frame.length < headerLength then .error .tooShort else .ok ()

def destination (frame : Bytes) : Except Fault MacAddress := MacAddress.readAt frame 0

def source (frame : Bytes) : Except Fault MacAddress := MacAddress.readAt frame 6

def etherType (frame : Bytes) : Except Fault UInt16 := Bytes.word16At frame 12

def payload (frame : Bytes) : Except Fault Bytes := Bytes.suffix frame headerLength

def setDestination (frame : Bytes) (address : MacAddress) : Except Fault Bytes :=
  Bytes.overwrite frame 0 address.toBytes

def setSource (frame : Bytes) (address : MacAddress) : Except Fault Bytes :=
  Bytes.overwrite frame 6 address.toBytes

def setEtherType (frame : Bytes) (etherType : UInt16) : Except Fault Bytes :=
  Bytes.overwrite frame 12 (Bytes.ofWord16 etherType)

def fillHeader (frame : Bytes) (destination source : MacAddress) (etherType : UInt16) :
    Except Fault Bytes :=
  Bytes.overwrite frame 0 (header destination source etherType)

@[simp] theorem length_header (destination source : MacAddress) (etherType : UInt16) :
    (header destination source etherType).length = headerLength := rfl

/-- What the engine does with a frame, decided by the frame's type alone. -/
inductive FrameClass where
  | arp
  | ipv4
  | other
  /-- Framing that software checks did not verify. -/
  | corrupt
  deriving DecidableEq, Repr

/-- The class of a frame whose framing is already off. A frame without a complete header has no
type, so it is of the class that is dropped. -/
def classify (frame : Bytes) : FrameClass :=
  match etherType frame with
  | .ok kind => if kind = typeArp then .arp else if kind = typeIpv4 then .ipv4 else .other
  | .error _ => .other

end InstrumentLink.Ethernet
