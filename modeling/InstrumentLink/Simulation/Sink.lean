import InstrumentLink.Mac.SlotGeometry
import InstrumentLink.Port

/-!
A transmit slot without hardware, which keeps a copy of every frame sent out of it.

The slot keeps its octets from frame to frame, so what a frame leaves unwritten shows.
-/

set_option autoImplicit false

namespace InstrumentLink.Simulation

structure Sink where
  slot : Bytes := Bytes.zeros Mac.defaultSlotSize
  sent : List Bytes := []
  deriving DecidableEq, Repr

namespace Sink

def transmit (length : Nat) (sink : Sink) : Except Fault (Bool × Sink × Log) :=
  if length ≤ sink.slot.length then
    .ok (true, { sink with sent := sink.sent ++ [sink.slot.take length] }, [])
  else .ok (false, sink, [])

def store (offset : Nat) (patch : Bytes) (sink : Sink) : Except Fault Sink := do
  return { sink with slot := ← Bytes.overwrite sink.slot offset patch }

def collect (sink : Sink) : List Bytes × Sink := (sink.sent, { sink with sent := [] })

instance : TransmitPort Sink where
  contents sink := .ok sink.slot
  store := store
  transmit := transmit

end Sink

end InstrumentLink.Simulation
