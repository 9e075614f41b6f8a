import InstrumentLink.Diagnostic

/-!
Bringing up the PHY at boot: a reset pulse if there is a reset line, then the mode report.

Reset line and mode detector are both optional hardware; a missing one is skipped.
-/

set_option autoImplicit false

namespace InstrumentLink.Phy

/-- How long reset is held, and how long the PHY is left alone after it, in milliseconds. -/
def resetDelay : Nat := 200

/-- A PHY with states `Hardware`, and the clock its driver waits on. -/
class Device (Hardware : Type) where
  /-- Drives the reset line; says whether there is one. -/
  setReset : Bool → Hardware → Bool × Hardware
  /-- Lets so many milliseconds pass. -/
  wait : Nat → Hardware → Hardware
  /-- The detected mode, if there is a detector. -/
  mode : Hardware → Option Mode

variable {Hardware : Type} [Device Hardware]

/-- Pulses the reset line, waits after each edge, and reports the mode. -/
def bringUp (phy : Hardware) : Option Mode × Hardware × Log :=
  let (resettable, phy) := Device.setReset true phy
  let phy :=
    if resettable then
      let (_, phy) := Device.setReset false (Device.wait resetDelay phy)
      Device.wait resetDelay phy
    else phy
  let mode := Device.mode phy
  (mode, phy, [.phyMode mode])

/-- A PHY behind two optional memory-mapped words, with the waits made so far and the reset word
that each of them saw. -/
structure WordPair where
  reset : Option UInt32
  detector : Option UInt32
  waits : List (Nat × UInt32) := []

instance : Device WordPair where
  setReset asserted phy :=
    match phy.reset with
    | some _ => (true, { phy with reset := some (if asserted then 1 else 0) })
    | none => (false, phy)
  wait milliseconds phy :=
    { phy with waits := phy.waits ++ [(milliseconds, phy.reset.getD 0)] }
  mode phy := phy.detector.map fun word => if word = 0 then .gmii else .mii

end InstrumentLink.Phy
