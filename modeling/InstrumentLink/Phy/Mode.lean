/-!
The interface that a PHY negotiated with its MAC.
-/

set_option autoImplicit false

namespace InstrumentLink.Phy

/-- The negotiated interface. -/
inductive Mode where
  /-- Four data lines, 100 Mbit/s. -/
  | mii
  /-- Eight data lines, 1000 Mbit/s. -/
  | gmii
  deriving DecidableEq, Repr

def Mode.name : Mode → String
  | .mii => "Mii"
  | .gmii => "Gmii"

end InstrumentLink.Phy
