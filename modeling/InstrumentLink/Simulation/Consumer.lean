import InstrumentLink.Etherbone.Endpoint
import InstrumentLink.Simulation.RecordingBus

/-!
Consumers of datagrams for experiments: one that ignores everything, listeners that note what they
see and may answer, and an endpoint over a recording bus.
-/

set_option autoImplicit false

namespace InstrumentLink.Simulation

inductive Manner where
  | note
  | echo
  | fixed (payload : Bytes) (sourcePort destinationPort : UInt16)
  deriving DecidableEq, Repr

inductive Sighting where
  | datagram (datagram : Udp.Datagram)
  /-- Whether its own datagram was sent. -/
  | sent (success : Bool)
  deriving DecidableEq, Repr

structure Listener where
  manner : Manner
  seen : List Sighting := []
  deriving DecidableEq, Repr

namespace Listener

def note (sighting : Sighting) (listener : Listener) : Listener :=
  { listener with seen := listener.seen ++ [sighting] }

/-- The reaction to a datagram. An echo stores as much of the payload as the payload area holds, and
still asks for all of it to be sent. -/
def onDatagram (datagram : Udp.Datagram) (listener : Listener) : Udp.Reaction Listener :=
  let noted := listener.note (.datagram datagram)
  let finish (sent : Bool) : Udp.Reaction Listener := .done (noted.note (.sent sent))
  match listener.manner with
  | .note => .done noted
  | .echo =>
      .look fun area =>
        .store 0 (datagram.payload.take area.length) <|
          .sendTo datagram.sourceIp datagram.destinationPort datagram.sourcePort
            datagram.payload.length finish
  | .fixed payload sourcePort destinationPort =>
      .store 0 payload <| .send sourcePort destinationPort payload.length finish

end Listener

inductive Consumer where
  | discard
  | listener (listener : Listener)
  | endpoint (endpoint : Etherbone.Endpoint RecordingBus)

namespace Consumer

def onDatagram (datagram : Udp.Datagram) : Consumer → Udp.Reaction Consumer
  | .discard => .done .discard
  | .listener state => Consumer.listener <$> state.onDatagram datagram
  | .endpoint state => Consumer.endpoint <$> state.onDatagram datagram

/-- Forgets what was carried between datagrams. Only an endpoint carries anything. -/
def reset : Consumer → Consumer
  | .endpoint state => .endpoint state.reset
  | other => other

instance : Udp.Handler Consumer where
  onDatagram := onDatagram
  reset := reset

def mapEndpoint
    (change : Etherbone.Endpoint RecordingBus → Etherbone.Endpoint RecordingBus) :
    Consumer → Consumer
  | .endpoint state => .endpoint (change state)
  | other => other

def endpoint? : Consumer → Option (Etherbone.Endpoint RecordingBus)
  | .endpoint state => some state
  | _ => none

end Consumer

end InstrumentLink.Simulation
