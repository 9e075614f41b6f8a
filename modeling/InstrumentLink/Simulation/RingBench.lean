import InstrumentLink.SlotRing

/-!
A slot ring on a bench: the experiment polls, and holds the frame it polled last until it releases
it.
-/

set_option autoImplicit false

namespace InstrumentLink.Simulation

/-- A ring and the received frame that the experiment holds. -/
structure RingBench (Hardware : Type) where
  ring : SlotRing Hardware
  held : Option SlotRing.Received := none

namespace RingBench

variable {Hardware : Type} [Mac.Device Hardware]

def withDevice (device : Hardware) (bench : RingBench Hardware) : RingBench Hardware :=
  { bench with ring := { bench.ring with device } }

def poll (bench : RingBench Hardware) :
    Except Fault (Option SlotRing.Received × RingBench Hardware × Log) := do
  let (held, ring, log) ← bench.ring.pollReceive
  return (held, { ring, held }, log)

def heldOctets (bench : RingBench Hardware) : Except Fault (Option Bytes) :=
  bench.held.mapM bench.ring.receivedFrame

def sendHeld (bench : RingBench Hardware) :
    Except Fault (Option Bool × RingBench Hardware × Log) := do
  match ← bench.heldOctets with
  | none => return (none, bench, [])
  | some octets =>
      let (sent, ring, log) ← bench.ring.sendOctets octets
      return (some sent, { bench with ring }, log)

def release (bench : RingBench Hardware) :
    Except Fault (Option Bool × RingBench Hardware × Log) := do
  match bench.held with
  | none => return (none, bench, [])
  | some received => return (some true, { ring := ← bench.ring.release received }, [])

end RingBench

end InstrumentLink.Simulation
