import InstrumentLink.Diagnostic

/-!
The 32-bit register space that remote accesses act on.

`MappedBus` is a memory with an optional window. Outside the window, and at addresses that are no
multiple of a word, a read gives zero and a write has no effect.
-/

set_option autoImplicit false

namespace InstrumentLink

/-- A register space with states `Space`. An access may change the space and be reported. -/
class Bus (Space : Type) where
  read : UInt32 → Space → UInt32 × Space × Log
  write : UInt32 → UInt32 → Space → Space × Log

namespace Bus

variable {Space : Type} [Bus Space]

def writeAll : List (UInt32 × UInt32) → Space → Space × Log
  | [], space => (space, [])
  | (address, value) :: accesses, space =>
      let (space, first) := write address value space
      let (space, rest) := writeAll accesses space
      (space, .recordWrite address value :: first ++ rest)

def readAll : List UInt32 → Space → List UInt32 × Space × Log
  | [], space => ([], space, [])
  | address :: addresses, space =>
      let (value, space, first) := read address space
      let (values, space, rest) := readAll addresses space
      (value :: values, space, first ++ .recordRead address value :: rest)

end Bus

structure Memory where
  octetAt : UInt32 → UInt8

namespace Memory

def zero : Memory := ⟨fun _ => 0⟩

def set (memory : Memory) (address : UInt32) (octet : UInt8) : Memory :=
  ⟨fun other => if other = address then octet else memory.octetAt other⟩

def load (memory : Memory) (address : UInt32) : UInt32 :=
  Bytes.word32 (memory.octetAt (address + 3)) (memory.octetAt (address + 2))
    (memory.octetAt (address + 1)) (memory.octetAt address)

def store (memory : Memory) (address value : UInt32) : Memory :=
  (((memory.set address (UInt8.ofNat value.toNat)).set (address + 1)
    (UInt8.ofNat (value.toNat / 256))).set (address + 2)
    (UInt8.ofNat (value.toNat / 65536))).set (address + 3) (UInt8.ofNat (value.toNat / 16777216))

end Memory

/-- The part of the address space that peers may access: from `start` up to, not including,
`stop`. -/
structure Window where
  start : UInt32
  stop : UInt32
  deriving DecidableEq, Repr

/-- Whether the word at an address lies in the window as a whole. The end of the word is not taken
modulo the address space, so the last word of the address space is in no window. -/
def Window.contains (window : Window) (address : UInt32) : Bool :=
  window.start ≤ address ∧ address.toNat + 4 < 4294967296 ∧ address.toNat + 4 ≤ window.stop.toNat

/-- A memory on the bus, open everywhere or in a window only. -/
structure MappedBus where
  window : Option Window := none
  memory : Memory := .zero

namespace MappedBus

def allows (bus : MappedBus) (address : UInt32) : Bool :=
  address.toNat % 4 = 0 ∧ bus.window.all fun window => window.contains address

def peek (address : UInt32) (bus : MappedBus) : UInt32 := bus.memory.load address

def poke (address value : UInt32) (bus : MappedBus) : MappedBus :=
  { bus with memory := bus.memory.store address value }

instance : Bus MappedBus where
  read address bus :=
    if bus.allows address then (bus.memory.load address, bus, [])
    else (0, bus, [.busReadRefused address])
  write address value bus :=
    if bus.allows address then ({ bus with memory := bus.memory.store address value }, [])
    else (bus, [.busWriteRefused address])

end MappedBus

end InstrumentLink
