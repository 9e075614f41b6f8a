import InstrumentLink.Icmp.Message
import InstrumentLink.Interface
import InstrumentLink.Ipv4.Packet

/-!
Answers to ICMP requests: an echo or timestamp request gets an echo reply with its own payload,
straight back to the hardware address it came from.
-/

set_option autoImplicit false

namespace InstrumentLink.Icmp

def frameHeaders : Nat := Ethernet.headerLength + Ipv4.headerLength + headerLength

def replyFrame (interface : Interface) (destinationMac : MacAddress) (destinationIp : Ipv4Address)
    (identifier sequence : UInt16) (payload : Bytes) : Bytes :=
  Ethernet.header destinationMac interface.mac Ethernet.typeIpv4 ++
    Ipv4.header interface.ip destinationIp .icmp
      (UInt16.ofNat (Ipv4.headerLength + headerLength + payload.length)) ++
    echo echoReply identifier sequence payload

structure Reply where
  destinationMac : MacAddress
  destinationIp : Ipv4Address
  identifier : UInt16
  sequence : UInt16
  payload : Bytes
  deriving DecidableEq, Repr

namespace Reply

def frame (interface : Interface) (reply : Reply) : Bytes :=
  replyFrame interface reply.destinationMac reply.destinationIp reply.identifier reply.sequence
    reply.payload

def buildFrame (interface : Interface) (reply : Reply) (window : Bytes) : Except Fault Bytes := do
  let framed ←
    Ethernet.fillHeader window reply.destinationMac interface.mac Ethernet.typeIpv4
  Bytes.changeFrom framed Ethernet.headerLength fun packet => do
    let headed ← Ipv4.fillHeader packet interface.ip reply.destinationIp .icmp
      (UInt16.ofNat (Ipv4.headerLength + headerLength + reply.payload.length))
    Bytes.changeFrom headed Ipv4.headerLength fun message => do
      let carrying ← Bytes.overwrite message headerLength reply.payload
      fillEchoReply carrying reply.identifier reply.sequence reply.payload.length

end Reply

/-- The reply to a frame that carries an ICMP packet, if the frame calls for one. How long the
payload is comes from the total length of the packet, so padding of the frame is not echoed; a
payload that is not all there, or whose reply would not fit a frame, is not answered. -/
def replyTo (interface : Interface) (frame packet : Bytes) : Except Fault (Option Reply × Log) := do
  let message ← Ipv4.payload packet
  match check message with
  | .error _ => return (none, [])
  | .ok () =>
      let kind ← messageType message
      if kind ≠ echoRequest ∧ kind ≠ timestampRequest then return (none, [])
      else
        let total := (← Ipv4.totalLength packet).toNat
        let payloadLength := total - (Ipv4.headerLength + headerLength)
        let carried ← payload message
        if carried.length < payloadLength then return (none, [.icmpCutOff])
        else if interface.frameEnd < interface.frameOffset + frameHeaders + payloadLength then
          return (none, [])
        else
          let reply := ⟨← Ethernet.source frame, ← Ipv4.source packet, ← identifier message,
            ← sequence message, carried.take payloadLength⟩
          return (some reply, [])

end InstrumentLink.Icmp
