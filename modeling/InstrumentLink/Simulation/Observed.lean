import InstrumentLink.Simulation.Consumer

/-!
A consumer under observation: what it noted since the last look.

The observer only remembers how far it has read. The consumer reacts as if nobody looked.
-/

set_option autoImplicit false

namespace InstrumentLink.Simulation

inductive Report where
  | discard
  /-- What a listener noted since the last report. -/
  | listener (sightings : List Sighting)
  /-- The accesses since the last report, and the endpoint as it is now. -/
  | endpoint (accesses : List BusAccess) (endpoint : Etherbone.Endpoint RecordingBus)

/-- A consumer and how many of its notes were reported. -/
structure Observed where
  consumer : Consumer
  reported : Nat := 0

namespace Observed

instance : Udp.Handler Observed where
  onDatagram datagram observed :=
    (fun consumer => { observed with consumer }) <$>
      Udp.Handler.onDatagram datagram observed.consumer
  reset observed := { observed with consumer := Udp.Handler.reset observed.consumer }

def report (observed : Observed) : Report × Observed :=
  match observed.consumer with
  | .discard => (.discard, observed)
  | .listener listener =>
      (.listener (listener.seen.drop observed.reported),
        { observed with reported := listener.seen.length })
  | .endpoint endpoint =>
      (.endpoint (endpoint.bus.accesses.drop observed.reported) endpoint,
        { observed with reported := endpoint.bus.accesses.length })

def reportRegistered (registration : Option (Udp.Registration Observed)) :
    Option Report × Option (Udp.Registration Observed) :=
  match registration with
  | none => (none, none)
  | some registered =>
      let (report, consumer) := registered.consumer.report
      (some report, some { registered with consumer })

def registeredEndpoint (registration : Option (Udp.Registration Observed)) :
    Option (Etherbone.Endpoint RecordingBus) :=
  registration.bind fun registered => registered.consumer.consumer.endpoint?

def mapRegisteredEndpoint
    (change : Etherbone.Endpoint RecordingBus → Etherbone.Endpoint RecordingBus)
    (registration : Option (Udp.Registration Observed)) : Option (Udp.Registration Observed) :=
  registration.map fun registered =>
    { registered with consumer.consumer := registered.consumer.consumer.mapEndpoint change }

end Observed

end InstrumentLink.Simulation
