/-!
The registers of the MAC and where they sit in its register bank.

The writer side receives: it writes frames into slots. The reader side transmits: it reads frames
out of slots. An event register holds one pending bit, and writing that bit clears it.
-/

set_option autoImplicit false

namespace InstrumentLink.Mac

inductive Register where
  /-- Slot of the frame received last. -/
  | writerSlot
  /-- Length of the frame received last. -/
  | writerLength
  /-- Whether a received frame waits. -/
  | writerEvent
  /-- Writing a non-zero value transmits. -/
  | readerStart
  /-- Whether another frame can be transmitted. -/
  | readerReady
  /-- Slot to transmit from. -/
  | readerSlot
  /-- Octets to transmit. -/
  | readerLength
  /-- Whether a transmission has ended. -/
  | readerEvent
  deriving DecidableEq, Repr

namespace Register

def all : List Register :=
  [writerSlot, writerLength, writerEvent, readerStart, readerReady, readerSlot, readerLength,
    readerEvent]

def name : Register → String
  | writerSlot => "WriterSlot"
  | writerLength => "WriterLength"
  | writerEvent => "WriterEvPending"
  | readerStart => "ReaderStart"
  | readerReady => "ReaderReady"
  | readerSlot => "ReaderSlot"
  | readerLength => "ReaderLength"
  | readerEvent => "ReaderEvPending"

end Register

def eventBit : UInt32 := 1

/-- Octet offsets of the registers in their bank. -/
structure RegisterMap where
  writerSlot : Nat := 0x00
  writerLength : Nat := 0x04
  writerEvent : Nat := 0x10
  readerStart : Nat := 0x18
  readerReady : Nat := 0x1c
  readerSlot : Nat := 0x24
  readerLength : Nat := 0x28
  readerEvent : Nat := 0x30
  deriving DecidableEq, Repr

def RegisterMap.offset (map : RegisterMap) : Register → Nat
  | .writerSlot => map.writerSlot
  | .writerLength => map.writerLength
  | .writerEvent => map.writerEvent
  | .readerStart => map.readerStart
  | .readerReady => map.readerReady
  | .readerSlot => map.readerSlot
  | .readerLength => map.readerLength
  | .readerEvent => map.readerEvent

end InstrumentLink.Mac
