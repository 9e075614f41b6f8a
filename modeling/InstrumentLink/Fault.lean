/-!
The faults an operation can stop with.

A fault is a broken promise of the caller or of the device, not an answer: a byte addressed outside
its buffer, a simulated device asked for something its hardware could not do. Refusals that are
part of a protocol (a malformed header, a configuration that is not accepted) have their own types
next to the protocol, and never appear here.
-/

set_option autoImplicit false

namespace InstrumentLink

/-- Why an operation stopped without an answer. -/
inductive Fault where
  /-- An index or a range reaches past the bytes it addresses. -/
  | outsideBuffer
  /-- A preamble area that is neither absent nor exactly one preamble long. -/
  | framingArea
  /-- The slot memory of a simulated device is larger than any memory. -/
  | memoryExceeded
  /-- A frame put on the simulated wire is longer than a receive slot. -/
  | frameExceedsSlot
  /-- The transmit side was started on a slot or a length the slot memory does not have. -/
  | readerStart
  /-- The transmit side never reported that it can take another frame. -/
  | readerStalled
  /-- A fixed set-up (geometry, harness configuration, request) was not accepted. -/
  | refusedSetup
  deriving DecidableEq, Repr

end InstrumentLink
