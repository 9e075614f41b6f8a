import InstrumentLink.Diagnostic

/-!
Somewhere to build one outgoing frame at a time and to send it from.
-/

set_option autoImplicit false

namespace InstrumentLink

/-- A transmit slot, or a row of them behind each other, with states `Port`. -/
class TransmitPort (Port : Type) where
  /-- The octets of the current slot. -/
  contents : Port → Except Fault Bytes
  /-- Replaces octets of the current slot from an offset on. -/
  store : Nat → Bytes → Port → Except Fault Port
  /-- Sends the first octets of the current slot and moves on to the next slot; says whether the
  frame was sent. -/
  transmit : Nat → Port → Except Fault (Bool × Port × Log)

end InstrumentLink
