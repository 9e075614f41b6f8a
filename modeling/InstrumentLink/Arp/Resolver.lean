import InstrumentLink.Interface

/-!
Address resolution for a link that talks to one peer at a time.

The cache has one entry. Only a reply whose sender is the cached address teaches it a hardware
address, and pointing it at another address forgets the hardware address in the same step.
-/

set_option autoImplicit false

namespace InstrumentLink.Arp

/-- The one peer: its address and, once known, its hardware address. All zeros stand for unknown. -/
structure PeerCache where
  ip : Ipv4Address := .unspecified
  mac : MacAddress := .zero
  deriving DecidableEq, Repr

namespace PeerCache

def isResolved (cache : PeerCache) : Bool := !cache.mac.isZero

def resolves (cache : PeerCache) (ip : Ipv4Address) : Bool := cache.ip = ip ∧ cache.isResolved

theorem resolves_iff {cache : PeerCache} {ip : Ipv4Address} :
    cache.resolves ip = true ↔ cache.ip = ip ∧ cache.isResolved = true := by
  simp [resolves]

def target (ip : Ipv4Address) : PeerCache := { ip }

def station (cache : PeerCache) : Station := ⟨cache.mac, cache.ip⟩

end PeerCache

inductive Outcome where
  /-- It is no usable ARP frame. -/
  | malformed
  /-- It concerns neither the peer nor the local address. -/
  | ignored
  /-- The peer told its hardware address. -/
  | learned (mac : MacAddress)
  /-- Someone asked for the local address and was answered. -/
  | answered (ip : Ipv4Address)
  deriving DecidableEq, Repr

def frame (interface : Interface) (operation : Operation) (destination : MacAddress)
    (target : Station) : Bytes :=
  Ethernet.header destination interface.mac Ethernet.typeArp ++
    body operation ⟨interface.mac, interface.ip⟩ target

/-- Builds a frame of the Ethernet minimum over octets that are cleared first. -/
def buildFrame (interface : Interface) (operation : Operation) (destination : MacAddress)
    (target : Station) (window : Bytes) : Except Fault Bytes := do
  let cleared := Bytes.zeros window.length
  let framed ← Ethernet.fillHeader cleared destination interface.mac Ethernet.typeArp
  Bytes.changeFrom framed Ethernet.headerLength fun body =>
    fill body operation ⟨interface.mac, interface.ip⟩ target

def requestFrame (interface : Interface) (ip : Ipv4Address) : Bytes :=
  frame interface .request .broadcast ⟨.zero, ip⟩

def replyFrame (interface : Interface) (asker : Station) : Bytes :=
  frame interface .reply asker.mac asker

variable {Port : Type} [TransmitPort Port]

def emit (interface : Interface) (operation : Operation) (destination : MacAddress)
    (target : Station) (port : Port) : Except Fault (Bool × Port × Log) :=
  interface.emit Ethernet.minimumLength (buildFrame interface operation destination target) port

/-- Asks everyone for an address; says whether the question was sent. -/
def sendRequest (interface : Interface) (ip : Ipv4Address) (port : Port) :
    Except Fault (Bool × Port × Log) :=
  emit interface .request .broadcast ⟨.zero, ip⟩ port

def handleFrame (interface : Interface) (cache : PeerCache) (frame : Bytes) (port : Port) :
    Except Fault (Outcome × PeerCache × Port × Log) := do
  if frame.length < Ethernet.minimumLength then
    return (.malformed, cache, port, [.arpRunt frame.length])
  else
    let body ← Ethernet.payload frame
    match check body with
    | .error cause => return (.malformed, cache, port, [.arpRefused cause])
    | .ok () =>
        let code ← operationCode body
        let sender : Station := ⟨← senderMac body, ← senderIp body⟩
        let target ← targetIp body
        if code = Operation.reply.code then
          if sender.ip = cache.ip then
            return (.learned sender.mac, { cache with mac := sender.mac }, port,
              [.arpLearned sender.ip sender.mac])
          else return (.ignored, cache, port, [])
        else if code = Operation.request.code ∧ target = interface.ip then
          let (_, port, log) ← emit interface .reply sender.mac sender port
          return (.answered sender.ip, cache, port, log)
        else return (.ignored, cache, port, [])

end InstrumentLink.Arp
