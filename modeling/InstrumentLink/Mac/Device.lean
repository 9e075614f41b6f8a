import InstrumentLink.Bytes
import InstrumentLink.Mac.Register

/-!
What a driver needs of a MAC: its registers and the slot memory it shares with the driver.

Reading a register may change the device, so both accesses give a new device state. `patience`
bounds how often the device says from here on that it is not ready to transmit; a driver that asks
once more than that has its answer, which makes waiting a finite loop.
-/

set_option autoImplicit false

namespace InstrumentLink.Mac

/-- A MAC with states `Hardware`. -/
class Device (Hardware : Type) where
  readRegister : Register → Hardware → Except Fault (UInt32 × Hardware)
  writeRegister : Register → UInt32 → Hardware → Except Fault Hardware
  /-- The octets of the slot memory. -/
  memory : Hardware → Bytes
  setMemory : Bytes → Hardware → Hardware
  /-- How many more times the device can report that it is not ready to transmit. -/
  patience : Hardware → Nat

export Device (readRegister writeRegister memory setMemory patience)

variable {Hardware : Type} [Device Hardware]

def isReady (device : Hardware) : Except Fault (Bool × Hardware) := do
  let (value, device) ← readRegister .readerReady device
  return (value ≠ 0, device)

def awaitReady : Nat → Hardware → Except Fault Hardware
  | 0, _ => .error .readerStalled
  | attempts + 1, device => do
      let (ready, device) ← isReady device
      if ready then return device else awaitReady attempts device

end InstrumentLink.Mac
