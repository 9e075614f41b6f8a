import InstrumentLink.Phy.BringUp

/-!
A simulated PHY that keeps the order of reset edges and waits.
-/

set_option autoImplicit false

namespace InstrumentLink.Simulation

inductive PhyEvent where
  | reset (asserted : Bool)
  | wait (milliseconds : Nat)
  deriving DecidableEq, Repr

/-- A PHY with or without a reset line, reporting a fixed mode. -/
structure SimulatedPhy where
  resettable : Bool := true
  mode : Option Phy.Mode
  events : List PhyEvent := []
  deriving DecidableEq, Repr

instance : Phy.Device SimulatedPhy where
  setReset asserted phy :=
    if phy.resettable then (true, { phy with events := phy.events ++ [.reset asserted] })
    else (false, phy)
  wait milliseconds phy := { phy with events := phy.events ++ [.wait milliseconds] }
  mode phy := phy.mode

end InstrumentLink.Simulation
