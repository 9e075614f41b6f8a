import InstrumentLink.Link
import InstrumentLink.Simulation.Mac

/-!
Experiments with a link on a simulated MAC: run it until the wire is quiet.
-/

set_option autoImplicit false

namespace InstrumentLink.Simulation

/-- The most frames handled in one run; a peer that keeps answering would otherwise never let the
wire go quiet. -/
def maximumServiceSteps : Nat := 10000

abbrev SimulatedLink (Consumer : Type) := Link SimulatedMac Consumer

namespace SimulatedLink

variable {Consumer : Type}

def mapDevice (change : SimulatedMac → SimulatedMac) (link : SimulatedLink Consumer) :
    SimulatedLink Consumer :=
  { link with ring := { link.ring with device := change link.ring.device } }

def inject (frame : Bytes) (link : SimulatedLink Consumer) :
    Except Fault (SimulatedLink Consumer) := do
  let device ← link.ring.device.inject frame
  return { link with ring := { link.ring with device } }

def injectAll (link : SimulatedLink Consumer) (frames : List Bytes) :
    Except Fault (SimulatedLink Consumer) :=
  frames.foldlM (fun link frame => inject frame link) link

def collect (link : SimulatedLink Consumer) : List SentFrame × SimulatedLink Consumer :=
  let (sent, device) := link.ring.device.collect
  (sent, { link with ring := { link.ring with device } })

variable [Udp.Handler Consumer]

def started (geometry : Mac.SlotGeometry) (config : LinkConfig) :
    Except Fault (SimulatedLink Consumer × Log) :=
  match Link.create (SimulatedMac.ofGeometry geometry) geometry config with
  | .ok link => link.start
  | .error _ => .error .refusedSetup

/-- Services the link until nothing is pending, at most `steps` times; counts the frames handled on
top of `handled`. -/
def runFor : Nat → Nat → Log → SimulatedLink Consumer →
    Except Fault (Nat × SimulatedLink Consumer × Log)
  | 0, handled, log, link => return (handled, link, log)
  | steps + 1, handled, log, link => do
      let (frameClass, link, servicing) ← link.service
      match frameClass with
      | none => return (handled, link, log ++ servicing)
      | some _ => runFor steps (handled + 1) (log ++ servicing) link

def runUntilIdle (link : SimulatedLink Consumer) :
    Except Fault (Nat × SimulatedLink Consumer × Log) :=
  runFor maximumServiceSteps 0 [] link

/-- Puts frames on the wire, lets the link handle them and collects what it sent. -/
def exchange (frames : List Bytes) (link : SimulatedLink Consumer) :
    Except Fault (List SentFrame × SimulatedLink Consumer × Log) := do
  let link ← injectAll link frames
  let (_, link, log) ← runUntilIdle link
  let (sent, link) := collect link
  return (sent, link, log)

end SimulatedLink

end InstrumentLink.Simulation
