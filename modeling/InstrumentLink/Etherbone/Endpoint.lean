import InstrumentLink.Bus
import InstrumentLink.Etherbone.Reassembler
import InstrumentLink.LinkConfig
import InstrumentLink.Udp.Socket

/-!
The device side of remote register access: a consumer of datagrams that carries out the records it
receives on a bus.

A record writes first and reads afterwards. The values read go back to the sender of the datagram
that completed the packet, as one packet in one datagram.
-/

set_option autoImplicit false

namespace InstrumentLink.Etherbone

structure Request where
  byteEnable : UInt8
  writes : List (UInt32 × UInt32)
  reads : List UInt32
  /-- Where the reply is written to; meaningless without reads. -/
  returnBase : UInt32
  deriving DecidableEq, Repr

namespace Request

/-- Takes a packet apart. Writes go to consecutive words, modulo the address space. The word behind
the header is read whatever the counts are. -/
def ofPacket (packet : Bytes) : Except Fault Request := do
  let base ← writeBase packet
  let writeCount := (← writeCount packet).toNat
  let writes ← (List.range writeCount).mapM fun index => do
    return (base + UInt32.ofNat (4 * index), ← writeValue packet index)
  let readCount := (← readCount packet).toNat
  let reads ← (List.range readCount).mapM (readAddress packet)
  let returnBase ← if readCount = 0 then pure 0 else Etherbone.returnBase packet
  return { byteEnable := ← Etherbone.byteEnable packet, writes, reads, returnBase }

end Request

/-- What an endpoint has done so far, modulo the width of the counters. -/
structure Stats where
  executed : UInt32 := 0
  unsupported : UInt32 := 0
  replies : UInt32 := 0
  replyFailures : UInt32 := 0
  deriving DecidableEq, Repr

structure Endpoint (Space : Type) where
  bus : Space
  /-- The source port of replies. -/
  port : UInt16 := LinkConfig.etherbonePort
  reassembler : Reassembler := {}
  stats : Stats := {}

namespace Endpoint

variable {Space : Type} [Bus Space]

def countReply (recipient : Ipv4Address) (words : Nat) (sent : Bool) (endpoint : Endpoint Space) :
    Udp.Reaction (Endpoint Space) :=
  if sent then
    .done { endpoint with stats.replies := endpoint.stats.replies + 1 }
  else
    .report (.recordReplyLost recipient words)
      (.done { endpoint with stats.replyFailures := endpoint.stats.replyFailures + 1 })

def reply (datagram : Udp.Datagram) (request : Request) (values : List UInt32)
    (endpoint : Endpoint Space) (area : Bytes) : Udp.Reaction (Endpoint Space) := do
  let length := packetLength values.length 0
  let packet ← Udp.Reaction.ofExcept do
    buildReadReply request.byteEnable request.returnBase values (← Bytes.slice area 0 length)
  .store 0 packet <|
    .sendTo datagram.sourceIp endpoint.port datagram.sourcePort length fun sent =>
      endpoint.countReply datagram.sourceIp values.length sent

def perform (datagram : Udp.Datagram) (request : Request) (endpoint : Endpoint Space) :
    Udp.Reaction (Endpoint Space) := do
  let (bus, written) := Bus.writeAll request.writes endpoint.bus
  let (values, bus, read) := Bus.readAll request.reads bus
  let endpoint := { endpoint with bus, stats.executed := endpoint.stats.executed + 1 }
  Udp.Reaction.reportAll (written ++ read)
  if request.reads = [] then return endpoint
  else .look (endpoint.reply datagram request values)

/-- Carries out a packet for the sender of a datagram. A packet of other widths only counts. -/
def execute (datagram : Udp.Datagram) (packet : Bytes) (endpoint : Endpoint Space) :
    Udp.Reaction (Endpoint Space) := do
  if ← Udp.Reaction.ofExcept (isSupported packet) then
    let request ← Udp.Reaction.ofExcept (Request.ofPacket packet)
    endpoint.perform datagram request
  else
    let sizes ← Udp.Reaction.ofExcept do
      return (← addressSize packet, ← portSize packet)
    .report (.recordSizesRefused sizes.1 sizes.2)
      (.done { endpoint with stats.unsupported := endpoint.stats.unsupported + 1 })

def executeAll (datagram : Udp.Datagram) :
    List Found → Endpoint Space → Udp.Reaction (Endpoint Space)
  | [], endpoint => .done endpoint
  | .packet octets :: found, endpoint => do
      executeAll datagram found (← endpoint.execute datagram octets)
  | .oversized length :: found, endpoint =>
      .report (.streamPacketSkipped length) (executeAll datagram found endpoint)

def onDatagram (datagram : Udp.Datagram) (endpoint : Endpoint Space) :
    Udp.Reaction (Endpoint Space) := do
  let (found, reassembler, log) := endpoint.reassembler.push datagram.payload
  Udp.Reaction.reportAll log
  executeAll datagram found { endpoint with reassembler }

def reset (endpoint : Endpoint Space) : Endpoint Space :=
  { endpoint with reassembler := endpoint.reassembler.reset }

instance : Udp.Handler (Endpoint Space) where
  onDatagram := onDatagram
  reset := reset

end Endpoint

end InstrumentLink.Etherbone
