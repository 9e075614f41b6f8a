import InstrumentLink.Mac.Device
import InstrumentLink.Mac.SlotGeometry

/-!
A simulated MAC: registers, slot memory, a wire towards it and a peer that may answer.

Frames on the wire are copied into the next receive slot when the driver polls and no earlier report
is unacknowledged. Starting the reader copies the frame out, shows it to the peer, and queues the
peer's answer on the wire. Frames sent are kept until they are collected.
-/

set_option autoImplicit false

namespace InstrumentLink.Simulation

structure SentFrame where
  slot : Nat
  octets : Bytes
  deriving DecidableEq, Repr

inductive Peer where
  /-- Never. -/
  | silent
  /-- With the next entry of a script, and not at all after its end. -/
  | script (answers : List (Option Bytes))
  /-- By a fixed rule. -/
  | rule (answer : Bytes → Option Bytes)

def Peer.respond (frame : Bytes) : Peer → Option Bytes × Peer
  | .silent => (none, .silent)
  | .script [] => (none, .script [])
  | .script (answer :: answers) => (answer, .script answers)
  | .rule answer => (answer frame, .rule answer)

structure SimulatedMac where
  geometry : Mac.SlotGeometry
  memory : Bytes
  wire : List Bytes := []
  nextRxSlot : Nat := 0
  writerSlot : UInt32 := 0
  writerLength : UInt32 := 0
  writerPending : UInt32 := 0
  readerSlot : UInt32 := 0
  readerLength : UInt32 := 0
  readerPending : UInt32 := 0
  busyPolls : UInt32 := 0
  /-- How often readiness was asked for, modulo the width of the counter. -/
  readyPolls : UInt32 := 0
  peer : Peer := .silent
  sent : List SentFrame := []

namespace SimulatedMac

def ofGeometry (geometry : Mac.SlotGeometry) : SimulatedMac :=
  { geometry, memory := Bytes.zeros geometry.length }

/-- The most octets that a memory can have on a host with words of 64 bits. -/
def maximumMemory : Nat := 9223372036854775807

/-- Gives the device a memory for its slots. One that no host can have is a fault of the
experiment. -/
def build (geometry : Mac.SlotGeometry) : Except Fault SimulatedMac :=
  if geometry.length ≤ maximumMemory then .ok (ofGeometry geometry) else .error .memoryExceeded

/-- Puts a frame on the wire; a frame longer than a slot is a fault of the experiment. -/
def inject (frame : Bytes) (mac : SimulatedMac) : Except Fault SimulatedMac :=
  if frame.length ≤ mac.geometry.slotSize then .ok { mac with wire := mac.wire ++ [frame] }
  else .error .frameExceedsSlot

def injectReport (slot length : UInt32) (mac : SimulatedMac) : SimulatedMac :=
  { mac with writerSlot := slot, writerLength := length, writerPending := 1 }

def setBusy (polls : UInt32) (mac : SimulatedMac) : SimulatedMac := { mac with busyPolls := polls }

def setPeer (peer : Peer) (mac : SimulatedMac) : SimulatedMac := { mac with peer }

def collect (mac : SimulatedMac) : List SentFrame × SimulatedMac :=
  (mac.sent, { mac with sent := [] })

def pendingRx (mac : SimulatedMac) : Nat := mac.wire.length + mac.writerPending.toNat

/-- Copies the next frame from the wire into the next receive slot and reports it, unless a report
still waits. Queued answers are not limited to a slot: a longer one runs on into the slots behind,
and past the end of the memory it is a fault. -/
def receiveNext (mac : SimulatedMac) : Except Fault SimulatedMac := do
  if mac.writerPending ≠ 0 then return mac
  else
    match mac.wire with
    | [] => return mac
    | frame :: wire =>
        let memory ← Bytes.overwrite mac.memory (mac.geometry.rxStart mac.nextRxSlot) frame
        return { mac with
          wire
          memory
          writerSlot := UInt32.ofNat mac.nextRxSlot
          writerLength := UInt32.ofNat frame.length
          writerPending := 1
          nextRxSlot := (mac.nextRxSlot + 1) % mac.geometry.rxSlots }

/-- Copies the frame out of its transmit slot and lets the peer see it. -/
def startReader (mac : SimulatedMac) : Except Fault SimulatedMac := do
  let slot := mac.readerSlot.toNat
  let length := mac.readerLength.toNat
  if slot < mac.geometry.txSlots ∧ length ≤ mac.geometry.slotSize then
    let start := mac.geometry.txStart slot
    let octets ← Bytes.slice mac.memory start (start + length)
    let (answer, peer) := mac.peer.respond octets
    return { mac with
      readerPending := 1
      wire := mac.wire ++ answer.toList
      peer
      sent := mac.sent ++ [⟨slot, octets⟩] }
  else .error .readerStart

/-- Says whether the reader is ready. A busy one is asked once less before it is. -/
def answerReady (mac : SimulatedMac) : UInt32 × SimulatedMac :=
  (if mac.busyPolls = 0 then 1 else 0, { mac with
    readyPolls := mac.readyPolls + 1
    busyPolls := if mac.busyPolls = 0 then 0 else mac.busyPolls - 1 })

/-- Reads a register. Polling the receive event is what makes the device take the next frame. -/
def readRegister (register : Mac.Register) (mac : SimulatedMac) :
    Except Fault (UInt32 × SimulatedMac) := do
  match register with
  | .writerEvent =>
      let mac ← mac.receiveNext
      return (mac.writerPending, mac)
  | .writerSlot => return (mac.writerSlot, mac)
  | .writerLength => return (mac.writerLength, mac)
  | .readerReady => return mac.answerReady
  | .readerSlot => return (mac.readerSlot, mac)
  | .readerLength => return (mac.readerLength, mac)
  | .readerEvent => return (mac.readerPending, mac)
  | .readerStart => return (0, mac)

/-- Writes a register. Writing an event clears the bits written; the reports of the writer cannot be
changed. -/
def writeRegister (register : Mac.Register) (value : UInt32) (mac : SimulatedMac) :
    Except Fault SimulatedMac :=
  match register with
  | .writerEvent => .ok { mac with writerPending := mac.writerPending &&& ~~~ value }
  | .readerEvent => .ok { mac with readerPending := mac.readerPending &&& ~~~ value }
  | .readerSlot => .ok { mac with readerSlot := value }
  | .readerLength => .ok { mac with readerLength := value }
  | .readerStart => if value = 0 then .ok mac else mac.startReader
  | .writerSlot | .writerLength | .readerReady => .ok mac

instance : Mac.Device SimulatedMac where
  readRegister := readRegister
  writeRegister := writeRegister
  memory := memory
  setMemory memory mac := { mac with memory }
  patience mac := mac.busyPolls.toNat

end SimulatedMac

end InstrumentLink.Simulation
