import InstrumentLink.Icmp.Answer
import InstrumentLink.Udp.Socket

/-!
What happens to a received IPv4 frame: ICMP requests are answered, datagrams for the registered port
go to their consumer, and everything else is left alone.
-/

set_option autoImplicit false

namespace InstrumentLink.Ipv4

inductive Dispatch where
  /-- Handed to the registered consumer. -/
  | delivered
  /-- An ICMP request that was answered. -/
  | echoReplied
  /-- ICMP that is not answered, consumed all the same. -/
  | icmpIgnored
  /-- Not for this link. -/
  | notMine
  deriving DecidableEq, Repr

def Dispatch.isProcessed (dispatch : Dispatch) : Bool := dispatch ≠ .notMine

/-- The datagram in a packet for the local address, if there is one and it is for the given
port. -/
def datagramFor (interface : Interface) (port : UInt16) (packet : Bytes) :
    Except Fault (Option Udp.Datagram) := do
  if (← totalLength packet).toNat < headerLength + Udp.headerLength then return none
  else if (← destination packet) ≠ interface.ip then return none
  else
    let segment ← payload packet
    match Udp.check segment with
    | .error _ => return none
    | .ok () =>
        let destinationPort ← Udp.destinationPort segment
        if destinationPort ≠ port then return none
        else
          return some {
            sourceIp := ← source packet
            sourcePort := ← Udp.sourcePort segment
            destinationPort
            payload := ← Udp.payload segment }

variable {Port Consumer : Type} [TransmitPort Port] [Udp.Handler Consumer]

def deliver (binding : Udp.Binding) (registration : Option (Udp.Registration Consumer))
    (packet : Bytes) (port : Port) :
    Except Fault (Dispatch × Option (Udp.Registration Consumer) × Port × Log) := do
  match registration with
  | none => return (.notMine, none, port, [])
  | some registered =>
      match ← datagramFor binding.interface registered.port packet with
      | none => return (.notMine, registration, port, [])
      | some datagram =>
          let reaction := Udp.Handler.onDatagram datagram registered.consumer
          let (consumer, port, log) ← reaction.run binding port
          return (.delivered, some { registered with consumer }, port, log)

def answerIcmp (interface : Interface) (frame packet : Bytes) (port : Port) :
    Except Fault (Dispatch × Port × Log) := do
  match ← Icmp.replyTo interface frame packet with
  | (none, log) => return (.icmpIgnored, port, log)
  | (some reply, log) =>
      let (_, port, sending) ← interface.emit (Icmp.frameHeaders + reply.payload.length)
        (reply.buildFrame interface) port
      return (.echoReplied, port, log ++ sending)

def handleFrame (binding : Udp.Binding) (registration : Option (Udp.Registration Consumer))
    (frame : Bytes) (port : Port) :
    Except Fault (Dispatch × Option (Udp.Registration Consumer) × Port × Log) := do
  if frame.length < Udp.frameHeaders then
    return (.notMine, registration, port, [.ipv4Runt frame.length])
  else
    let packet ← Ethernet.payload frame
    match check packet with
    | .error cause => return (.notMine, registration, port, [.ipv4Refused cause])
    | .ok () =>
        match ← protocol packet with
        | .icmp =>
            let (dispatch, port, log) ← answerIcmp binding.interface frame packet port
            return (dispatch, registration, port, log)
        | .udp => deliver binding registration packet port
        | .tcp | .unknown _ => return (.notMine, registration, port, [])

end InstrumentLink.Ipv4
