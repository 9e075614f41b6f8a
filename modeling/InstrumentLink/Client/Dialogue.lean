import InstrumentLink.Client.Error

/-!
What a session says to its device, as a finite program over a network.

A dialogue sends datagrams and waits for them. While it waits, every datagram that arrives is
examined until one settles the question or the time is up. `run` carries a dialogue out on a network
that is a pure value; a program that talks to a real socket carries the same dialogue out there.
-/

set_option autoImplicit false

namespace InstrumentLink.Client

def datagramCapacity : Nat := 2048

inductive Verdict (Answer : Type) where
  /-- It is none of its business. -/
  | ignored (event : Event)
  /-- It ends the wait. -/
  | settled (answer : Answer)
  deriving DecidableEq, Repr

/-- A program of a session. A wait gives nothing if the time was up. -/
inductive Dialogue (Result : Type) where
  | done (result : Result)
  | report (event : Event) (next : Dialogue Result)
  | send (datagram : Bytes) (next : Dialogue Result)
  | await (examine : Bytes → Verdict (Except Error (List UInt32)))
      (next : Option (Except Error (List UInt32)) → Dialogue Result)

class Network (Net : Type) where
  /-- Hands a datagram to the network. -/
  send : Bytes → Net → Net
  /-- The datagrams that arrive before a wait that starts now is over, in order. -/
  arriving : Net → List Bytes
  /-- The network after so many of them were received. -/
  received : Nat → Net → Net

namespace Dialogue

variable {First Second Net : Type}

def andThen (dialogue : Dialogue First) (continuation : First → Dialogue Second) :
    Dialogue Second :=
  match dialogue with
  | .done result => continuation result
  | .report event next => .report event (next.andThen continuation)
  | .send datagram next => .send datagram (next.andThen continuation)
  | .await examine next => .await examine fun answer => (next answer).andThen continuation

instance : Monad Dialogue where
  pure := .done
  bind := andThen

/-- Goes through arriving datagrams until one settles the question. Gives the answer, the number of
datagrams received, and the events on the way. -/
def settle {Answer : Type} (examine : Bytes → Verdict Answer) :
    List Bytes → Option Answer × Nat × List Event
  | [] => (none, 0, [])
  | datagram :: rest =>
      match examine (datagram.take datagramCapacity) with
      | .settled answer => (some answer, 1, [])
      | .ignored event =>
          let (answer, count, events) := settle examine rest
          (answer, count + 1, event :: events)

def run [Network Net] : Dialogue First → Net → First × Net × List Event
  | .done result, net => (result, net, [])
  | .report event next, net =>
      let (result, net, events) := next.run net
      (result, net, event :: events)
  | .send datagram next, net => next.run (Network.send datagram net)
  | .await examine next, net =>
      let (answer, count, before) := settle examine (Network.arriving net)
      let (result, net, after) := (next answer).run (Network.received count net)
      (result, net, before ++ after)

end Dialogue

/-- A network whose replies were all written down before: a queue of datagrams to receive, and the
datagrams sent. A wait that is not settled goes through the whole queue. -/
structure Script where
  queue : List Bytes := []
  sent : List Bytes := []
  deriving DecidableEq, Repr

instance : Network Script where
  send datagram script := { script with sent := script.sent ++ [datagram] }
  arriving script := script.queue
  received count script := { script with queue := script.queue.drop count }

end InstrumentLink.Client
