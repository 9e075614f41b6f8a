import InstrumentLink.Mac.Device
import InstrumentLink.Mac.SlotGeometry
import InstrumentLink.Port

/-!
The ring of slots between a driver and its MAC.

The hardware chooses receive slots and reports one at a time; the driver owns a reported slot until
it releases it. Transmit slots are used in turn, starting from the first. A MAC that does not add a
frame check sequence itself gets it appended here.
-/

set_option autoImplicit false

namespace InstrumentLink

/-- A driver's end of the slot memory, with the device behind it. -/
structure SlotRing (Hardware : Type) where
  device : Hardware
  geometry : Mac.SlotGeometry
  /-- Whether frames get their check sequence here. -/
  softwareFrameCheck : Bool
  /-- The transmit slot that is used next. -/
  txSlot : Nat := 0
  /-- Frames handed to the device, modulo the width of the counter. -/
  transmitted : UInt32 := 0

namespace SlotRing

structure Received where
  slot : Nat
  length : Nat
  deriving DecidableEq, Repr

def Received.isEmpty (received : Received) : Bool := received.length = 0

variable {Hardware : Type} [Mac.Device Hardware]

/-- Clears stale events of both directions and goes back to the first transmit slot. The count of
transmitted frames goes on. -/
def start (ring : SlotRing Hardware) : Except Fault (SlotRing Hardware) := do
  let device ← Mac.writeRegister .readerEvent Mac.eventBit ring.device
  let device ← Mac.writeRegister .writerEvent Mac.eventBit device
  let device ← Mac.writeRegister .readerSlot 0 device
  return { ring with device, txSlot := 0 }

def txOffset (ring : SlotRing Hardware) : Nat := ring.geometry.txStart ring.txSlot

def contents (ring : SlotRing Hardware) : Except Fault Bytes :=
  Bytes.slice (Mac.memory ring.device) ring.txOffset (ring.txOffset + ring.geometry.slotSize)

/-- Replaces octets of the current transmit slot; a patch may not leave the slot. -/
def store (offset : Nat) (patch : Bytes) (ring : SlotRing Hardware) :
    Except Fault (SlotRing Hardware) := do
  if offset + patch.length ≤ ring.geometry.slotSize then
    let memory ← Bytes.overwrite (Mac.memory ring.device) (ring.txOffset + offset) patch
    return { ring with device := Mac.setMemory memory ring.device }
  else .error .outsideBuffer

def launch (length : Nat) (ring : SlotRing Hardware) : Except Fault (SlotRing Hardware) := do
  let device ← Mac.awaitReady (Mac.patience ring.device + 1) ring.device
  let device ← Mac.writeRegister .readerSlot (UInt32.ofNat ring.txSlot) device
  let device ← Mac.writeRegister .readerLength (UInt32.ofNat length) device
  let device ← Mac.writeRegister .readerStart 1 device
  return { ring with
    device
    txSlot := (ring.txSlot + 1) % ring.geometry.txSlots
    transmitted := ring.transmitted + 1 }

/-- Sends the first octets of the current slot, with a frame check sequence behind them where that
is done in software. A frame that does not fit the slot is not sent and changes nothing. -/
def transmit (length : Nat) (ring : SlotRing Hardware) :
    Except Fault (Bool × SlotRing Hardware × Log) := do
  if ring.softwareFrameCheck then
    match Ethernet.appendFrameCheck (← ring.contents) length with
    | .error cause => return (false, ring, [.frameNotFramed length cause])
    | .ok (framedLength, slot) =>
        let ring ← ring.store 0 slot
        return (true, ← ring.launch framedLength, [])
  else if length ≤ ring.geometry.slotSize then
    return (true, ← ring.launch length, [])
  else return (false, ring, [.frameExceedsSlot length])

def sendOctets (octets : Bytes) (ring : SlotRing Hardware) :
    Except Fault (Bool × SlotRing Hardware × Log) := do
  (← ring.store 0 octets).transmit octets.length

instance : TransmitPort (SlotRing Hardware) where
  contents := contents
  store := store
  transmit := transmit

def acknowledge (ring : SlotRing Hardware) : Except Fault (SlotRing Hardware) := do
  return { ring with device := ← Mac.writeRegister .writerEvent Mac.eventBit ring.device }

/-- Asks for a received frame. A report that names no slot or exceeds the slot is dropped, and
counts as nothing received. -/
def pollReceive (ring : SlotRing Hardware) :
    Except Fault (Option Received × SlotRing Hardware × Log) := do
  let (event, device) ← Mac.readRegister .writerEvent ring.device
  if event &&& Mac.eventBit = 0 then
    return (none, { ring with device }, [])
  else
    let (slot, device) ← Mac.readRegister .writerSlot device
    let (length, device) ← Mac.readRegister .writerLength device
    let ring := { ring with device }
    if slot.toNat < ring.geometry.rxSlots ∧ length.toNat ≤ ring.geometry.slotSize then
      return (some ⟨slot.toNat, length.toNat⟩, ring, [])
    else
      return (none, ← ring.acknowledge, [.slotReportRefused slot.toNat length.toNat])

/-- The octets of a frame that the driver owns; a frame may not leave its slot. -/
def receivedFrame (ring : SlotRing Hardware) (received : Received) : Except Fault Bytes :=
  let start := ring.geometry.rxStart received.slot
  if received.slot < ring.geometry.rxSlots ∧ received.length ≤ ring.geometry.slotSize then
    Bytes.slice (Mac.memory ring.device) start (start + received.length)
  else .error .outsideBuffer

def release (ring : SlotRing Hardware) (_received : Received) : Except Fault (SlotRing Hardware) :=
  ring.acknowledge

end SlotRing

end InstrumentLink
