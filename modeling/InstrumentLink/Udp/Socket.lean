import InstrumentLink.Arp.Resolver
import InstrumentLink.Udp.Segment

/-!
The sending side of UDP, and what a consumer of datagrams may do with it.

A payload is put into the payload area of the current transmit slot and sent from there to the one
peer of the link. A consumer's reaction to a datagram is a `Reaction`: a finite program over the
socket that says what it stores and sends, in which order. So every consumer, whatever it computes,
touches the link through these operations only.
-/

set_option autoImplicit false

namespace InstrumentLink.Udp

def frameHeaders : Nat := Ethernet.headerLength + Ipv4.headerLength + headerLength

def payloadStart (interface : Interface) : Nat := interface.frameOffset + frameHeaders

structure Datagram where
  sourceIp : Ipv4Address
  sourcePort : UInt16
  destinationPort : UInt16
  payload : Bytes
  deriving DecidableEq, Repr

/-- A complete segment: header with its checksum, then the payload. The length field has sixteen
bits, and the checksum covers as many octets as it says. -/
def segment (source destination : Socket) (payload : Bytes) : Bytes :=
  let length := UInt16.ofNat (headerLength + payload.length)
  let covered := (headerWith 0 source.port destination.port length ++ payload).take length.toNat
  let checksum := Checksum.field covered (checksumSeed source.ip destination.ip length)
  headerWith checksum source.port destination.port length ++ payload

def frame (interface : Interface) (peer : Arp.Station) (sourcePort destinationPort : UInt16)
    (payload : Bytes) : Bytes :=
  Ethernet.header peer.mac interface.mac Ethernet.typeIpv4 ++
    Ipv4.header interface.ip peer.ip .udp
      (UInt16.ofNat (Ipv4.headerLength + headerLength + payload.length)) ++
    segment ⟨interface.ip, sourcePort⟩ ⟨peer.ip, destinationPort⟩ payload

/-- Builds a frame around a payload of so many octets that already stands in its place. -/
def buildFrame (interface : Interface) (peer : Arp.Station) (sourcePort destinationPort : UInt16)
    (payloadLength : Nat) (window : Bytes) : Except Fault Bytes := do
  let framed ← Ethernet.fillHeader window peer.mac interface.mac Ethernet.typeIpv4
  Bytes.changeFrom framed Ethernet.headerLength fun packet => do
    let carrying ← Bytes.changeFrom packet Ipv4.headerLength fun segment =>
      fillHeader segment ⟨interface.ip, sourcePort⟩ ⟨peer.ip, destinationPort⟩ payloadLength
    Ipv4.fillHeader carrying interface.ip peer.ip .udp
      (UInt16.ofNat (Ipv4.headerLength + headerLength + payloadLength))

/-- What a socket is bound to: the local end and the peer. -/
structure Binding where
  interface : Interface
  cache : Arp.PeerCache
  deriving DecidableEq, Repr

variable {Port : Type} [TransmitPort Port]

def payloadArea (interface : Interface) (port : Port) : Except Fault Bytes := do
  Bytes.slice (← TransmitPort.contents port) (payloadStart interface) interface.frameEnd

def storePayload (interface : Interface) (offset : Nat) (patch : Bytes) (port : Port) :
    Except Fault Port := do
  if offset + patch.length ≤ (← payloadArea interface port).length then
    TransmitPort.store (payloadStart interface + offset) patch port
  else .error .outsideBuffer

namespace Binding

/-- Sends the first octets of the payload area to the peer. Without a resolved peer, and for a
payload that does not fit a frame, nothing is touched and the answer is no. -/
def send (binding : Binding) (sourcePort destinationPort : UInt16) (length : Nat) (port : Port) :
    Except Fault (Bool × Port × Log) := do
  if binding.cache.isResolved then
    if payloadStart binding.interface + length ≤ binding.interface.frameEnd then
      binding.interface.emit (frameHeaders + length) (buildFrame binding.interface
        binding.cache.station sourcePort destinationPort length) port
    else return (false, port, [.udpTooLong length])
  else return (false, port, [.udpNoPeer length])

def sendTo (binding : Binding) (ip : Ipv4Address) (sourcePort destinationPort : UInt16)
    (length : Nat) (port : Port) : Except Fault (Bool × Port × Log) := do
  if binding.cache.resolves ip then binding.send sourcePort destinationPort length port
  else return (false, port, [.udpNotPeer ip])

end Binding

/-- What a consumer does with its socket before it is done. -/
inductive Reaction (Result : Type) where
  | done (result : Result)
  | fail (fault : Fault)
  | report (event : Diagnostic) (next : Reaction Result)
  | look (next : Bytes → Reaction Result)
  /-- Replaces octets of the payload area from an offset on. -/
  | store (offset : Nat) (patch : Bytes) (next : Reaction Result)
  | send (sourcePort destinationPort : UInt16) (length : Nat) (next : Bool → Reaction Result)
  | sendTo (ip : Ipv4Address) (sourcePort destinationPort : UInt16) (length : Nat)
      (next : Bool → Reaction Result)

namespace Reaction

variable {First Second : Type}

def andThen (reaction : Reaction First) (continuation : First → Reaction Second) :
    Reaction Second :=
  match reaction with
  | .done result => continuation result
  | .fail fault => .fail fault
  | .report event next => .report event (next.andThen continuation)
  | .look next => .look fun area => (next area).andThen continuation
  | .store offset patch next => .store offset patch (next.andThen continuation)
  | .send sourcePort destinationPort length next =>
      .send sourcePort destinationPort length fun sent => (next sent).andThen continuation
  | .sendTo ip sourcePort destinationPort length next =>
      .sendTo ip sourcePort destinationPort length fun sent => (next sent).andThen continuation

instance : Monad Reaction where
  pure := .done
  bind := andThen

/-- Stops the link if a computation does. -/
def ofExcept : Except Fault First → Reaction First
  | .ok result => .done result
  | .error fault => .fail fault

def reportAll : Log → Reaction Unit
  | [] => .done ()
  | event :: log => .report event (reportAll log)

def run (binding : Binding) : Reaction First → Port → Except Fault (First × Port × Log)
  | .done result, port => .ok (result, port, [])
  | .fail fault, _ => .error fault
  | .report event next, port => do
      let (result, port, log) ← next.run binding port
      return (result, port, event :: log)
  | .look next, port => do
      (next (← payloadArea binding.interface port)).run binding port
  | .store offset patch next, port => do
      next.run binding (← storePayload binding.interface offset patch port)
  | .send sourcePort destinationPort length next, port => do
      let (sent, port, before) ← binding.send sourcePort destinationPort length port
      let (result, port, after) ← (next sent).run binding port
      return (result, port, before ++ after)
  | .sendTo ip sourcePort destinationPort length next, port => do
      let (sent, port, before) ← binding.sendTo ip sourcePort destinationPort length port
      let (result, port, after) ← (next sent).run binding port
      return (result, port, before ++ after)

end Reaction

/-- A consumer of datagrams with states `Consumer`. -/
class Handler (Consumer : Type) where
  /-- The reaction to a datagram, which ends in the consumer's next state. -/
  onDatagram : Datagram → Consumer → Reaction Consumer
  /-- Forgets what was carried between datagrams, when the link restarts. -/
  reset : Consumer → Consumer

structure Registration (Consumer : Type) where
  port : UInt16
  consumer : Consumer

end InstrumentLink.Udp
