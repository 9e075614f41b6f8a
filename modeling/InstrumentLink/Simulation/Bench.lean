import InstrumentLink.Ipv4.Dispatch
import InstrumentLink.Simulation.Sink

/-!
The protocols on a bench: address resolution, IPv4 and one consumer over a sink, without a link.

Frames are handed in by the experiment, and whatever is sent ends up in the sink.
-/

set_option autoImplicit false

namespace InstrumentLink.Simulation

structure Bench (Consumer : Type) where
  interface : Interface
  cache : Arp.PeerCache := {}
  registration : Option (Udp.Registration Consumer) := none
  sink : Sink := {}

namespace Bench

variable {Consumer : Type}

def binding (bench : Bench Consumer) : Udp.Binding := ⟨bench.interface, bench.cache⟩

def consumer (bench : Bench Consumer) : Option Consumer :=
  bench.registration.map fun registered => registered.consumer

def mapConsumer (change : Consumer → Consumer) (bench : Bench Consumer) : Bench Consumer :=
  { bench with registration := bench.registration.map fun registered =>
      { registered with consumer := change registered.consumer } }

def arpFrame (frame : Bytes) (bench : Bench Consumer) :
    Except Fault (Arp.Outcome × Bench Consumer × Log) := do
  let (outcome, cache, sink, log) ←
    Arp.handleFrame bench.interface bench.cache frame bench.sink
  return (outcome, { bench with cache, sink }, log)

def ipv4Frame [Udp.Handler Consumer] (frame : Bytes) (bench : Bench Consumer) :
    Except Fault (Ipv4.Dispatch × Bench Consumer × Log) := do
  let (dispatch, registration, sink, log) ←
    Ipv4.handleFrame bench.binding bench.registration frame bench.sink
  return (dispatch, { bench with registration, sink }, log)

def datagram [Udp.Handler Consumer] (datagram : Udp.Datagram) (bench : Bench Consumer) :
    Except Fault (Unit × Bench Consumer × Log) := do
  match bench.registration with
  | none => return ((), bench, [])
  | some registered =>
      let reaction := Udp.Handler.onDatagram datagram registered.consumer
      let (consumer, sink, log) ← reaction.run bench.binding bench.sink
      return ((), { bench with registration := some { registered with consumer }, sink }, log)

def sending (send : Sink → Except Fault (Bool × Sink × Log)) (bench : Bench Consumer) :
    Except Fault (Bool × Bench Consumer × Log) := do
  let (sent, sink, log) ← send bench.sink
  return (sent, { bench with sink }, log)

def payloadArea (bench : Bench Consumer) : Except Fault Bytes :=
  Udp.payloadArea bench.interface bench.sink

def storePayload (offset : Nat) (patch : Bytes) (bench : Bench Consumer) :
    Except Fault (Bench Consumer) := do
  return { bench with sink := ← Udp.storePayload bench.interface offset patch bench.sink }

def collect (bench : Bench Consumer) : List Bytes × Bench Consumer :=
  let (sent, sink) := bench.sink.collect
  (sent, { bench with sink })

end Bench

end InstrumentLink.Simulation
