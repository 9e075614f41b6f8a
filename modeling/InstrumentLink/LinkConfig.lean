import InstrumentLink.Interface

/-!
The configuration of a link and the well-known numbers of the instrument network.
-/

set_option autoImplicit false

namespace InstrumentLink

/-- How long a resolution goes on: so many requests, each followed by up to so many service
steps. -/
structure ResolveBudget where
  attempts : Nat := 100
  pollsPerAttempt : Nat := 100000
  deriving DecidableEq, Repr

structure LinkConfig where
  mac : MacAddress := ⟨0x13, 0x37, 0x32, 0x0d, 0xba, 0xbe⟩
  ip : Ipv4Address := ⟨10, 0, 11, 2⟩
  /-- Whether the MAC adds and checks preamble and frame check sequence itself. -/
  hardwareFraming : Bool := true
  resolveBudget : ResolveBudget := {}
  deriving DecidableEq, Repr

namespace LinkConfig

/-- The host on the other end of an instrument link, unless configured otherwise. -/
def defaultHostIp : Ipv4Address := ⟨10, 0, 11, 3⟩

def fileTransferPort : UInt16 := 7642

def fileServerPort : UInt16 := 69

def etherbonePort : UInt16 := 1234

inductive Refusal where
  | zeroMac
  | notUnicast
  | emptyBudget
  deriving DecidableEq, Repr

def Refusal.message : Refusal → String
  | .zeroMac => "Local MAC must not be all zeroes"
  | .notUnicast => "Local IP must be a unicast address"
  | .emptyBudget => "Resolve budget must allow at least one poll"

/-- Accepts a configuration that a link can be built on. The hardware address is judged first, the
budget last. -/
def validate (config : LinkConfig) : Except Refusal Unit :=
  if config.mac.isZero then .error .zeroMac
  else if !config.ip.isUnicast then .error .notUnicast
  else if config.resolveBudget.attempts = 0 ∨ config.resolveBudget.pollsPerAttempt = 0 then
    .error .emptyBudget
  else .ok ()

theorem of_validate {config : LinkConfig} (valid : config.validate = .ok ()) :
    config.mac.isZero = false ∧ 0 < config.resolveBudget.attempts ∧
      0 < config.resolveBudget.pollsPerAttempt := by
  unfold validate at valid
  split at valid
  · cases valid
  · next some =>
      split at valid
      · cases valid
      · split at valid
        · cases valid
        · next budget =>
            exact ⟨by simpa using some, by omega, by omega⟩

def interface (config : LinkConfig) : Interface where
  mac := config.mac
  ip := config.ip
  frameOffset := if config.hardwareFraming then 0 else Ethernet.preambleLength

end LinkConfig

end InstrumentLink
