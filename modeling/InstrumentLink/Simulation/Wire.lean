import InstrumentLink.Arp.Resolver
import InstrumentLink.Icmp.Message
import InstrumentLink.LinkConfig
import InstrumentLink.Udp.Socket

/-!
Frames as the host on the other end of the wire sends them: from the Ethernet header on, padded to
the minimum, without preamble and frame check sequence unless `Ethernet.withFraming` adds them.
-/

set_option autoImplicit false

namespace InstrumentLink.Simulation.Wire

def hostMac : MacAddress := ⟨0x02, 0x00, 0x00, 0x00, 0x00, 0x03⟩

def hostIp : Ipv4Address := LinkConfig.defaultHostIp

def deviceMac : MacAddress := ({} : LinkConfig).mac

def deviceIp : Ipv4Address := ({} : LinkConfig).ip

def arp (operation : Arp.Operation) (destination : MacAddress) (sender target : Arp.Station) :
    Bytes :=
  Bytes.padTo Ethernet.minimumLength
    (Ethernet.header destination sender.mac Ethernet.typeArp ++ Arp.body operation sender target)

def arpRequest (sender : Arp.Station) (target : Ipv4Address) : Bytes :=
  arp .request .broadcast sender ⟨.zero, target⟩

def arpReply (sender target : Arp.Station) : Bytes := arp .reply target.mac sender target

def ipv4 (sourceMac : MacAddress) (source destination : Ipv4Address) (protocol : Ipv4.Protocol)
    (body : Bytes) : Bytes :=
  Bytes.padTo Ethernet.minimumLength
    (Ethernet.header deviceMac sourceMac Ethernet.typeIpv4 ++
      Ipv4.header source destination protocol (UInt16.ofNat (Ipv4.headerLength + body.length)) ++
      body)

def udp (source destination : Udp.Socket) (payload : Bytes) : Bytes :=
  ipv4 hostMac source.ip destination.ip .udp (Udp.segment source destination payload)

def icmpEcho (sourceMac : MacAddress) (source destination : Ipv4Address)
    (identifier sequence : UInt16) (payload : Bytes) : Bytes :=
  ipv4 sourceMac source destination .icmp
    (Icmp.echo Icmp.echoRequest identifier sequence payload)

/-- A payload from the register access port of the host to that of the device. -/
def etherbone (payload : Bytes) : Bytes :=
  udp ⟨hostIp, LinkConfig.etherbonePort⟩ ⟨deviceIp, LinkConfig.etherbonePort⟩ payload

/-- A packet of one block in a buffer of exactly its size. A count that no packet can have is a
fault of the experiment. -/
def exact (filled : Bytes → Except Etherbone.Refusal (Nat × Bytes)) (words : Nat) :
    Except Fault Bytes :=
  match filled (Bytes.zeros (16 + 4 * words)) with
  | .ok (length, buffer) => .ok (buffer.take length)
  | .error _ => .error .refusedSetup

def etherboneWrite (base : UInt32) (values : List UInt32) : Except Fault Bytes :=
  exact (fun buffer => Etherbone.fillWriteRequest buffer base values) values.length

def etherboneRead (returnBase : UInt32) (addresses : List UInt32) : Except Fault Bytes :=
  exact (fun buffer => Etherbone.fillReadRequest buffer returnBase addresses) addresses.length

end InstrumentLink.Simulation.Wire
