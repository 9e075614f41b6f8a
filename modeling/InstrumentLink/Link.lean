import InstrumentLink.Ipv4.Dispatch
import InstrumentLink.LinkConfig
import InstrumentLink.SlotRing

/-!
The link: one MAC, one peer, one consumer of datagrams.

Nothing happens by itself. Each call of `service` handles at most one received frame, and `resolve`
calls it while it waits for the peer's answer.
-/

set_option autoImplicit false

namespace InstrumentLink

/-- What a link has done so far, modulo the width of the counters. Frames transmitted are counted by
the slot ring. -/
structure LinkStats where
  rxFrames : UInt32 := 0
  /-- Corrupt, malformed or unclaimed frames. -/
  dropped : UInt32 := 0
  arpAnswered : UInt32 := 0
  arpLearned : UInt32 := 0
  icmpEchoes : UInt32 := 0
  udpDelivered : UInt32 := 0
  deriving DecidableEq, Repr

/-- A link with its configuration, its end of the slot memory, its peer and its consumer. -/
structure Link (Hardware Consumer : Type) where
  config : LinkConfig
  ring : SlotRing Hardware
  cache : Arp.PeerCache := {}
  registration : Option (Udp.Registration Consumer) := none
  stats : LinkStats := {}

namespace Link

variable {Hardware Consumer : Type}

def create (device : Hardware) (geometry : Mac.SlotGeometry) (config : LinkConfig) :
    Except LinkConfig.Refusal (Link Hardware Consumer) := do
  config.validate
  return { config, ring := { device, geometry, softwareFrameCheck := !config.hardwareFraming } }

def interface (link : Link Hardware Consumer) : Interface := link.config.interface

def binding (link : Link Hardware Consumer) : Udp.Binding := ⟨link.interface, link.cache⟩

def txFrames (link : Link Hardware Consumer) : UInt32 := link.ring.transmitted

def register (port : UInt16) (consumer : Consumer) (link : Link Hardware Consumer) :
    Link Hardware Consumer × Log :=
  ({ link with registration := some ⟨port, consumer⟩ }, [.udpRegistered port])

def unregister (link : Link Hardware Consumer) : Option Consumer × Link Hardware Consumer :=
  (link.registration.map fun registered => registered.consumer, { link with registration := none })

def consumer (link : Link Hardware Consumer) : Option Consumer :=
  link.registration.map fun registered => registered.consumer

def mapConsumer (change : Consumer → Consumer) (link : Link Hardware Consumer) :
    Link Hardware Consumer :=
  { link with registration := link.registration.map fun registered =>
      { registered with consumer := change registered.consumer } }

variable [Mac.Device Hardware]

def payloadArea (link : Link Hardware Consumer) : Except Fault Bytes :=
  Udp.payloadArea link.interface link.ring

def storePayload (offset : Nat) (patch : Bytes) (link : Link Hardware Consumer) :
    Except Fault (Link Hardware Consumer) := do
  return { link with ring := ← Udp.storePayload link.interface offset patch link.ring }

def send (sourcePort destinationPort : UInt16) (length : Nat) (link : Link Hardware Consumer) :
    Except Fault (Bool × Link Hardware Consumer × Log) := do
  let (sent, ring, log) ← link.binding.send sourcePort destinationPort length link.ring
  return (sent, { link with ring }, log)

def sendTo (ip : Ipv4Address) (sourcePort destinationPort : UInt16) (length : Nat)
    (link : Link Hardware Consumer) : Except Fault (Bool × Link Hardware Consumer × Log) := do
  let (sent, ring, log) ← link.binding.sendTo ip sourcePort destinationPort length link.ring
  return (sent, { link with ring }, log)

variable [Udp.Handler Consumer]

/-- Brings the link up: clears events of the MAC, forgets the peer and whatever the consumer carried
between datagrams. -/
def start (link : Link Hardware Consumer) : Except Fault (Link Hardware Consumer × Log) := do
  let link := { link with ring := ← link.ring.start, cache := {} }
  return (link.mapConsumer Udp.Handler.reset, [.linkUp link.config.ip link.config.mac])

def unframe (interface : Interface) (slot : Bytes) :
    Except Fault (Except Ethernet.FramingError Bytes) := do
  if interface.softwareFraming then
    match Ethernet.checkFraming slot with
    | .error cause => return .error cause
    | .ok stop => return .ok (← Bytes.slice slot Ethernet.preambleLength stop)
  else return .ok slot

def countArp (stats : LinkStats) : Arp.Outcome → LinkStats × Log
  | .answered ip => ({ stats with arpAnswered := stats.arpAnswered + 1 }, [.arpAnswered ip])
  | .learned _ => ({ stats with arpLearned := stats.arpLearned + 1 }, [])
  | .ignored | .malformed => ({ stats with dropped := stats.dropped + 1 }, [])

def countIpv4 (stats : LinkStats) : Ipv4.Dispatch → LinkStats
  | .delivered => { stats with udpDelivered := stats.udpDelivered + 1 }
  | .echoReplied => { stats with icmpEchoes := stats.icmpEchoes + 1 }
  | .icmpIgnored => stats
  | .notMine => { stats with dropped := stats.dropped + 1 }

def countDropped (stats : LinkStats) : LinkStats := { stats with dropped := stats.dropped + 1 }

def dispatch (slot : Bytes) (link : Link Hardware Consumer) :
    Except Fault (Ethernet.FrameClass × Link Hardware Consumer × Log) := do
  match ← unframe link.interface slot with
  | .error cause =>
      return (.corrupt, { link with stats := countDropped link.stats },
        [.framingRefused slot.length cause])
  | .ok frame =>
      match Ethernet.classify frame with
      | .arp =>
          let (outcome, cache, ring, log) ←
            Arp.handleFrame link.interface link.cache frame link.ring
          let (stats, counted) := countArp link.stats outcome
          return (.arp, { link with cache, ring, stats }, log ++ counted)
      | .ipv4 =>
          let (dispatch, registration, ring, log) ←
            Ipv4.handleFrame link.binding link.registration frame link.ring
          let stats := countIpv4 link.stats dispatch
          return (.ipv4, { link with registration, ring, stats }, log)
      | .other => return (.other, { link with stats := countDropped link.stats }, [])
      | .corrupt => return (.corrupt, { link with stats := countDropped link.stats }, [])

/-- Handles at most one received frame; gives its class, or nothing if none was pending. -/
def service (link : Link Hardware Consumer) :
    Except Fault (Option Ethernet.FrameClass × Link Hardware Consumer × Log) := do
  let (received, ring, polling) ← link.ring.pollReceive
  let link := { link with ring }
  match received with
  | none => return (none, link, polling)
  | some received =>
      let slot ← link.ring.receivedFrame received
      let link := { link with stats.rxFrames := link.stats.rxFrames + 1 }
      let (frameClass, link, handling) ← link.dispatch slot
      let link := { link with ring := ← link.ring.release received }
      return (some frameClass, link, polling ++ handling)

/-- Services the link up to so many times, until the peer is known; `log` is what was reported so
far. -/
def awaitPeer : Nat → Log → Link Hardware Consumer →
    Except Fault (Bool × Link Hardware Consumer × Log)
  | 0, log, link => return (false, link, log)
  | polls + 1, log, link => do
      let (_, link, servicing) ← link.service
      if link.cache.isResolved then
        return (true, link, log ++ servicing ++ [.arpResolved link.cache.ip link.cache.mac])
      else awaitPeer polls (log ++ servicing) link

def ask (ip : Ipv4Address) (link : Link Hardware Consumer) :
    Except Fault (Link Hardware Consumer × Log) := do
  let (sent, ring, log) ← Arp.sendRequest link.interface ip link.ring
  return ({ link with ring }, log ++ if sent then [] else [.arpRequestNotSent ip])

/-- Asks and waits, `left` times more; `attempt` is the number of the next question. -/
def attempts (ip : Ipv4Address) (attempt : Nat) : Nat → Link Hardware Consumer →
    Except Fault (Bool × Link Hardware Consumer × Log)
  | 0, link => return (false, link, [.arpUnanswered ip link.config.resolveBudget.attempts])
  | left + 1, link => do
      let (link, asking) ← link.ask ip
      let (resolved, link, waiting) ← awaitPeer link.config.resolveBudget.pollsPerAttempt [] link
      let log := .arpAsking ip attempt :: asking ++ waiting
      if resolved then return (true, link, log)
      else
        let (resolved, link, rest) ← attempts ip (attempt + 1) left link
        return (resolved, link, log ++ rest)

/-- Makes an address the peer and learns its hardware address, unless both are known already. Gives
up once the configured budget is spent. -/
def resolve (ip : Ipv4Address) (link : Link Hardware Consumer) :
    Except Fault (Bool × Link Hardware Consumer × Log) :=
  if link.cache.resolves ip then return (true, link, [])
  else attempts ip 1 link.config.resolveBudget.attempts { link with cache := .target ip }

end Link

end InstrumentLink
