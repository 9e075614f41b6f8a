import InstrumentLink.Port

/-!
The local end of a link: its addresses and where a frame starts inside a slot.

A MAC that leaves the preamble to software has it in every slot, in front of the frame. A frame is
built in its slot, over whatever an earlier frame left there. All outgoing frames pass through
`sendFrame`, which adds the lead-in and the zeros up to the Ethernet minimum.
-/

set_option autoImplicit false

namespace InstrumentLink

/-- Local addresses and the place of a frame in its slot. -/
structure Interface where
  mac : MacAddress
  ip : Ipv4Address
  frameOffset : Nat
  deriving DecidableEq, Repr

namespace Interface

def softwareFraming (interface : Interface) : Bool := interface.frameOffset ≠ 0

/-- The shortest frame on the wire, counted from the start of the slot. -/
def minimumLength (interface : Interface) : Nat := interface.frameOffset + Ethernet.minimumLength

/-- Where a frame has to end so that it still fits, frame check sequence included. -/
def frameEnd (interface : Interface) : Nat :=
  Ethernet.maximumLength - if interface.softwareFraming then Ethernet.frameCheckLength else 0

/-- What stands in front of a frame: nothing, or a preamble in an area of exactly its length. -/
def leadIn (interface : Interface) : Except Fault Bytes :=
  if interface.frameOffset = 0 then .ok []
  else if interface.frameOffset = Ethernet.preambleLength then .ok Ethernet.preamble
  else .error .framingArea

variable {Port : Type} [TransmitPort Port]

def sendFrame (interface : Interface) (frame : Bytes) (port : Port) :
    Except Fault (Bool × Port × Log) := do
  let octets := (← interface.leadIn) ++ Bytes.padTo Ethernet.minimumLength frame
  let port ← TransmitPort.store 0 octets port
  TransmitPort.transmit octets.length port

/-- Builds a frame of so many octets over those that are in its place in the slot, and sends it. -/
def emit (interface : Interface) (length : Nat) (build : Bytes → Except Fault Bytes) (port : Port) :
    Except Fault (Bool × Port × Log) := do
  let slot ← TransmitPort.contents port
  let window ← Bytes.slice slot interface.frameOffset (interface.frameOffset + length)
  interface.sendFrame (← build window) port

end Interface

end InstrumentLink
