import InstrumentLink.Bus

/-!
A register space for experiments: words at any address, and a record of every access.
-/

set_option autoImplicit false

namespace InstrumentLink.Simulation

inductive BusAccess where
  | read (address value : UInt32)
  | write (address value : UInt32)
  deriving DecidableEq, Repr

/-- Words, zero until written, and the accesses so far. -/
structure RecordingBus where
  wordAt : UInt32 → UInt32 := fun _ => 0
  accesses : List BusAccess := []

namespace RecordingBus

def poke (address value : UInt32) (bus : RecordingBus) : RecordingBus :=
  { bus with wordAt := fun other => if other = address then value else bus.wordAt other }

def peek (address : UInt32) (bus : RecordingBus) : UInt32 := bus.wordAt address

def writes (bus : RecordingBus) : List (UInt32 × UInt32) :=
  bus.accesses.filterMap fun
    | .write address value => some (address, value)
    | .read _ _ => none

instance : Bus RecordingBus where
  read address bus :=
    let value := bus.wordAt address
    (value, { bus with accesses := bus.accesses ++ [.read address value] }, [])
  write address value bus :=
    let bus := bus.poke address value
    ({ bus with accesses := bus.accesses ++ [.write address value] }, [])

end RecordingBus

end InstrumentLink.Simulation
