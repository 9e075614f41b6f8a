import InstrumentLink.Proofs.FrameHandling
import InstrumentLink.Proofs.TwinPorts

/-!
Two links side by side.

Their rings stand beside each other, they know the same peer, and their consumers go on in the same
way. Whatever is then asked of both, they return the same and stay so. What their devices and
consumers have to do for that is collected here; everything that a link does with them follows.
-/

set_option autoImplicit false

namespace InstrumentLink

namespace Link

inductive Command where
  | start
  | service
  | resolve (ip : Ipv4Address)
  | send (sourcePort destinationPort : UInt16) (payload : Bytes)
  | sendTo (ip : Ipv4Address) (sourcePort destinationPort : UInt16) (payload : Bytes)

inductive Value where
  | started
  | serviced (frameClass : Option Ethernet.FrameClass)
  | resolved (yes : Bool)
  | sent (yes : Bool)
  deriving DecidableEq

def Command.payload : Command → Bytes
  | .send _ _ payload | .sendTo _ _ _ payload => payload
  | _ => []

variable {Hardware Consumer : Type} [Mac.Device Hardware] [Udp.Handler Consumer]

def Command.perform (link : Link Hardware Consumer) :
    Command → Except Fault (Value × Link Hardware Consumer)
  | .start => do return (.started, (← link.start).1)
  | .service => do
      let (frameClass, link, _) ← link.service
      return (.serviced frameClass, link)
  | .resolve ip => do
      let (yes, link, _) ← link.resolve ip
      return (.resolved yes, link)
  | .send sourcePort destinationPort payload => do
      let (yes, link, _) ← link.sendPayload sourcePort destinationPort payload
      return (.sent yes, link)
  | .sendTo ip sourcePort destinationPort payload => do
      let (yes, link, _) ← link.sendPayloadTo ip sourcePort destinationPort payload
      return (.sent yes, link)

end Link

theorem TwinPorts.store_payload {Port Other : Type} [TransmitPort Port] [TransmitPort Other]
    {first second : Interface} {Beside : Port → Other → Prop}
    (twins : TwinPorts first second Beside) {port : Port} {other : Other}
    (beside : Beside port other) (patch : Bytes)
    (fits : patch.length ≤ Udp.payloadRoom first ↔ patch.length ≤ Udp.payloadRoom second) :
    Alike (fun stored otherStored => Beside stored otherStored ∧
        Udp.handedIn first patch.length stored = some patch ∧
        Udp.handedIn second patch.length otherStored = some patch)
      (Udp.storePayload first 0 patch port) (Udp.storePayload second 0 patch other) := by
  by_cases short : patch.length ≤ Udp.payloadRoom first
  · exact twins.stores patch port other beside short (fits.mp short)
  · have otherLong := mt fits.mpr short
    obtain ⟨⟨slot, contents, large⟩, otherSlot, otherContents, otherLarge⟩ :=
      twins.contents port other beside
    obtain ⟨area, looked, whole⟩ := Udp.payload_area_known twins.placed contents
      (Nat.le_trans first.frame_end_le large)
    obtain ⟨otherArea, otherLooked, otherWhole⟩ := Udp.payload_area_known twins.otherPlaced
      otherContents (Nat.le_trans second.frame_end_le otherLarge)
    have refused : Udp.storePayload first 0 patch port = .error .outsideBuffer :=
      bind_known looked (if_neg (by omega))
    have otherRefused : Udp.storePayload second 0 patch other = .error .outsideBuffer :=
      bind_known otherLooked (if_neg (by omega))
    rw [refused, otherRefused]
    exact rfl

/-- Octets in two slots that make the same frame, which is answered on both sides or on neither. -/
structure SameFrame (first second : Interface) (slot otherSlot : Bytes) : Prop where
  unframed : Link.unframe first slot = Link.unframe second otherSlot
  agree : ∀ frame, Link.unframe first slot = .ok (.ok frame) →
    Ethernet.classify frame = .ipv4 → ∀ total, Icmp.Requests frame total →
      (Icmp.ReplyFits first total ↔ Icmp.ReplyFits second total)

section Rings

variable {Near Far : Type} [Mac.Device Near] [Mac.Device Far]

inductive PolledAlike (first second : Interface)
    (Idle Holding : SlotRing Near → SlotRing Far → Prop) :
    Option SlotRing.Received × SlotRing Near × Log →
      Option SlotRing.Received × SlotRing Far × Log → Prop where
  | nothing {ring : SlotRing Near} {other : SlotRing Far} {log otherLog : Log}
      (idle : Idle ring other) :
      PolledAlike first second Idle Holding (none, ring, log) (none, other, otherLog)
  | frame {ring : SlotRing Near} {other : SlotRing Far} {log otherLog : Log}
      {received otherReceived : SlotRing.Received} {slot otherSlot : Bytes}
      (holding : Holding ring other) (held : ring.receivedFrame received = .ok slot)
      (otherHeld : other.receivedFrame otherReceived = .ok otherSlot)
      (same : SameFrame first second slot otherSlot) :
      PolledAlike first second Idle Holding (some received, ring, log)
        (some otherReceived, other, otherLog)

/-- Two rings that receive the same frames and send the same ones. -/
structure TwinRings (first second : Interface)
    (Idle Holding : SlotRing Near → SlotRing Far → Prop) : Prop where
  idle : TwinPorts first second Idle
  holding : TwinPorts first second Holding
  starts : ∀ ring other, Idle ring other → Alike Idle ring.start other.start
  polls : ∀ ring other, Idle ring other →
    Alike (PolledAlike first second Idle Holding) ring.pollReceive other.pollReceive
  releases : ∀ ring other, Holding ring other → Alike Idle ring.acknowledge other.acknowledge

end Rings

/-- What two links have to do with each other. -/
structure LinkPair (Near Far Consumer : Type) [Mac.Device Near] [Mac.Device Far]
    [Udp.Handler Consumer] where
  config : LinkConfig
  otherConfig : LinkConfig
  budget : config.resolveBudget = otherConfig.resolveBudget
  /-- Whether they counted the same. -/
  counters : Prop
  /-- Which consumers go on in the same way. -/
  Akin : Consumer → Consumer → Prop
  Idle : SlotRing Near → SlotRing Far → Prop
  Holding : SlotRing Near → SlotRing Far → Prop
  rings : TwinRings config.interface otherConfig.interface Idle Holding
  reacts : Udp.TwinReactions Akin config.interface otherConfig.interface Holding
  resets : ∀ one another, Akin one another →
    Akin (Udp.Handler.reset one) (Udp.Handler.reset another)

namespace LinkPair

variable {Near Far Consumer : Type} [Mac.Device Near] [Mac.Device Far] [Udp.Handler Consumer]

structure Links (pair : LinkPair Near Far Consumer) (Rings : SlotRing Near → SlotRing Far → Prop)
    (near : Link Near Consumer) (far : Link Far Consumer) : Prop where
  configured : near.config = pair.config
  otherConfigured : far.config = pair.otherConfig
  cache : near.cache = far.cache
  registration : Udp.AkinRegistrations pair.Akin near.registration far.registration
  stats : pair.counters → near.stats = far.stats
  rings : Rings near.ring far.ring

abbrev Up (pair : LinkPair Near Far Consumer) (near : Link Near Consumer)
    (far : Link Far Consumer) : Prop :=
  pair.Links pair.Idle near far

variable {pair : LinkPair Near Far Consumer} {near : Link Near Consumer} {far : Link Far Consumer}

theorem Links.dispatch_alike (links : pair.Links pair.Holding near far) {slot otherSlot : Bytes}
    (same : SameFrame pair.config.interface pair.otherConfig.interface slot otherSlot) :
    Alike (SameBeside (pair.Links pair.Holding)) (near.dispatch slot) (far.dispatch otherSlot) := by
  have twins := pair.rings.holding
  obtain ⟨config, ring, cache, registration, stats⟩ := near
  obtain ⟨otherConfig, other, otherCache, otherRegistration, otherStats⟩ := far
  obtain ⟨rfl, rfl, rfl, registered, counted, rings⟩ := links
  have unframed : Alike (fun one another => one = another ∧
        Link.unframe pair.config.interface slot = .ok one)
      (Link.unframe pair.config.interface slot)
      (Link.unframe pair.otherConfig.interface otherSlot) := by
    rw [← same.unframed]
    exact Alike.self _
  have dropped : pair.counters → Link.countDropped stats = Link.countDropped otherStats :=
    fun all => congrArg _ (counted all)
  unfold Link.dispatch
  apply unframed.bind
  rintro one _ ⟨rfl, taken⟩
  cases one with
  | error cause => exact Alike.ok ⟨rfl, rfl, rfl, rfl, registered, dropped, rings⟩
  | ok frame =>
      dsimp only
      cases kind : Ethernet.classify frame with
      | arp =>
          apply (twins.arp_handle_frame rings cache frame).bind
          rintro ⟨outcome, cache, ring, log⟩ ⟨_, _, other, otherLog⟩ ⟨rfl, rfl, rings⟩
          exact Alike.ok ⟨rfl, rfl, rfl, rfl, registered,
            fun all => congrArg (fun stats => (Link.countArp stats outcome).1) (counted all), rings⟩
      | ipv4 =>
          apply (twins.handle_frame pair.reacts rings cache registered frame
            (same.agree frame taken kind)).bind
          rintro ⟨dispatch, registration, ring, log⟩ ⟨_, otherRegistration, other, otherLog⟩
            ⟨rfl, registered, rings⟩
          exact Alike.ok ⟨rfl, rfl, rfl, rfl, registered,
            fun all => congrArg (Link.countIpv4 · dispatch) (counted all), rings⟩
      | other => exact Alike.ok ⟨rfl, rfl, rfl, rfl, registered, dropped, rings⟩
      | corrupt => exact Alike.ok ⟨rfl, rfl, rfl, rfl, registered, dropped, rings⟩

theorem Up.service_alike (up : pair.Up near far) :
    Alike (SameBeside pair.Up) near.service far.service := by
  obtain ⟨config, ring, cache, registration, stats⟩ := near
  obtain ⟨otherConfig, other, otherCache, otherRegistration, otherStats⟩ := far
  obtain ⟨rfl, rfl, rfl, registered, counted, rings⟩ := up
  unfold Link.service
  apply (pair.rings.polls ring other rings).bind
  rintro _ _ (idle | ⟨holding, held, otherHeld, same⟩)
  · exact Alike.ok ⟨rfl, rfl, rfl, rfl, registered, counted, idle⟩
  · next ring other log otherLog received otherReceived slot otherSlot =>
      have slots : Alike (fun one another => one = slot ∧ another = otherSlot)
          (ring.receivedFrame received) (other.receivedFrame otherReceived) := by
        rw [held, otherHeld]
        exact Alike.ok ⟨rfl, rfl⟩
      apply slots.bind
      rintro _ _ ⟨rfl, rfl⟩
      have taken : pair.Links pair.Holding
          ⟨pair.config, ring, cache, registration, { stats with rxFrames := stats.rxFrames + 1 }⟩
          ⟨pair.otherConfig, other, cache, otherRegistration,
            { otherStats with rxFrames := otherStats.rxFrames + 1 }⟩ :=
        ⟨rfl, rfl, rfl, registered, fun all => congrArg (fun stats : LinkStats =>
          { stats with rxFrames := stats.rxFrames + 1 }) (counted all), holding⟩
      apply (taken.dispatch_alike same).bind
      rintro ⟨frameClass, near, handling⟩ ⟨_, far, otherHandling⟩ ⟨rfl, links⟩
      apply (pair.rings.releases _ _ links.rings).bind
      intro ring other idle
      exact Alike.ok ⟨rfl, links.configured, links.otherConfigured, links.cache,
        links.registration, links.stats, idle⟩

theorem Up.start_alike (up : pair.Up near far) :
    Alike (fun answer otherAnswer => pair.Up answer.1 otherAnswer.1) near.start far.start := by
  obtain ⟨config, ring, cache, registration, stats⟩ := near
  obtain ⟨otherConfig, other, otherCache, otherRegistration, otherStats⟩ := far
  obtain ⟨rfl, rfl, rfl, registered, counted, rings⟩ := up
  unfold Link.start
  apply (pair.rings.starts ring other rings).bind
  intro ring other idle
  refine Alike.ok ⟨rfl, rfl, rfl, ?_, counted, idle⟩
  cases registered with
  | none => exact .none
  | some both => exact .some ⟨both.1, pair.resets _ _ both.2⟩

theorem Up.ask_alike (up : pair.Up near far) (ip : Ipv4Address) :
    Alike (fun answer otherAnswer => pair.Up answer.1 otherAnswer.1) (near.ask ip)
      (far.ask ip) := by
  obtain ⟨config, ring, cache, registration, stats⟩ := near
  obtain ⟨otherConfig, other, otherCache, otherRegistration, otherStats⟩ := far
  obtain ⟨rfl, rfl, rfl, registered, counted, rings⟩ := up
  unfold Link.ask
  apply (pair.rings.idle.arp_emit rings .request .broadcast ⟨.zero, ip⟩).bind
  rintro ⟨sent, ring, log⟩ ⟨otherSent, other, otherLog⟩ ⟨-, idle⟩
  exact Alike.ok ⟨rfl, rfl, rfl, registered, counted, idle⟩

theorem Up.await_peer_alike (polls : Nat) (log otherLog : Log) (up : pair.Up near far) :
    Alike (SameBeside pair.Up) (Link.awaitPeer polls log near)
      (Link.awaitPeer polls otherLog far) := by
  induction polls generalizing log otherLog near far with
  | zero => exact Alike.ok ⟨rfl, up⟩
  | succ polls induction =>
      unfold Link.awaitPeer
      apply up.service_alike.bind
      rintro ⟨frameClass, near, servicing⟩ ⟨otherClass, far, otherServicing⟩ ⟨-, up⟩
      dsimp only at up ⊢
      rw [up.cache]
      split
      · exact Alike.ok ⟨rfl, up⟩
      · exact induction _ _ up

theorem Up.budget_eq (up : pair.Up near far) :
    near.config.resolveBudget = far.config.resolveBudget := by
  rw [up.configured, up.otherConfigured, pair.budget]

theorem Up.attempts_alike (ip : Ipv4Address) (attempt left : Nat) (up : pair.Up near far) :
    Alike (SameBeside pair.Up) (Link.attempts ip attempt left near)
      (Link.attempts ip attempt left far) := by
  induction left generalizing attempt near far with
  | zero => exact Alike.ok ⟨rfl, up⟩
  | succ left induction =>
      unfold Link.attempts
      apply (up.ask_alike ip).bind
      rintro ⟨near, asking⟩ ⟨far, otherAsking⟩ up
      dsimp only at up ⊢
      rw [up.budget_eq]
      apply (up.await_peer_alike _ [] []).bind
      rintro ⟨resolved, near, waiting⟩ ⟨_, far, otherWaiting⟩ ⟨rfl, up⟩
      dsimp only
      split
      · exact Alike.ok ⟨rfl, up⟩
      · apply (induction (attempt + 1) up).bind
        rintro answer otherAnswer same
        exact Alike.ok same

theorem Up.resolve_alike (up : pair.Up near far) (ip : Ipv4Address) :
    Alike (SameBeside pair.Up) (near.resolve ip) (far.resolve ip) := by
  have aimed : pair.Up { near with cache := .target ip } { far with cache := .target ip } :=
    ⟨up.configured, up.otherConfigured, rfl, up.registration, up.stats, up.rings⟩
  unfold Link.resolve
  rw [up.cache, up.budget_eq]
  split
  · exact Alike.ok ⟨rfl, up⟩
  · exact aimed.attempts_alike ip 1 _

theorem Up.send_alike (up : pair.Up near far) (sourcePort destinationPort : UInt16) (length : Nat)
    (fits : length ≤ Udp.payloadRoom pair.config.interface ↔
      length ≤ Udp.payloadRoom pair.otherConfig.interface)
    (handed : length ≤ Udp.payloadRoom pair.config.interface →
      Udp.handedIn pair.config.interface length near.ring =
        Udp.handedIn pair.otherConfig.interface length far.ring) :
    Alike (SameBeside pair.Up) (near.send sourcePort destinationPort length)
      (far.send sourcePort destinationPort length) := by
  obtain ⟨config, ring, cache, registration, stats⟩ := near
  obtain ⟨otherConfig, other, otherCache, otherRegistration, otherStats⟩ := far
  obtain ⟨rfl, rfl, rfl, registered, counted, rings⟩ := up
  unfold Link.send
  apply (pair.rings.idle.send rings cache sourcePort destinationPort length fits handed).bind
  rintro ⟨sent, ring, log⟩ ⟨otherSent, other, otherLog⟩ ⟨same, idle⟩
  exact Alike.ok ⟨same, rfl, rfl, rfl, registered, counted, idle⟩

theorem Up.send_to_alike (up : pair.Up near far) (ip : Ipv4Address)
    (sourcePort destinationPort : UInt16) (length : Nat)
    (fits : length ≤ Udp.payloadRoom pair.config.interface ↔
      length ≤ Udp.payloadRoom pair.otherConfig.interface)
    (handed : length ≤ Udp.payloadRoom pair.config.interface →
      Udp.handedIn pair.config.interface length near.ring =
        Udp.handedIn pair.otherConfig.interface length far.ring) :
    Alike (SameBeside pair.Up) (near.sendTo ip sourcePort destinationPort length)
      (far.sendTo ip sourcePort destinationPort length) := by
  obtain ⟨config, ring, cache, registration, stats⟩ := near
  obtain ⟨otherConfig, other, otherCache, otherRegistration, otherStats⟩ := far
  obtain ⟨rfl, rfl, rfl, registered, counted, rings⟩ := up
  unfold Link.sendTo
  apply (pair.rings.idle.send_to rings cache ip sourcePort destinationPort length fits handed).bind
  rintro ⟨sent, ring, log⟩ ⟨otherSent, other, otherLog⟩ ⟨same, idle⟩
  exact Alike.ok ⟨same, rfl, rfl, rfl, registered, counted, idle⟩

section Payloads

variable {payload : Bytes}
  (fits : payload.length ≤ Udp.payloadRoom pair.config.interface ↔
    payload.length ≤ Udp.payloadRoom pair.otherConfig.interface)

include fits

theorem Up.store_alike (up : pair.Up near far) :
    Alike (fun loaded otherLoaded => pair.Up loaded otherLoaded ∧
        Udp.handedIn pair.config.interface payload.length loaded.ring = some payload ∧
        Udp.handedIn pair.otherConfig.interface payload.length otherLoaded.ring = some payload)
      (near.storePayload 0 payload) (far.storePayload 0 payload) := by
  obtain ⟨config, ring, cache, registration, stats⟩ := near
  obtain ⟨otherConfig, other, otherCache, otherRegistration, otherStats⟩ := far
  obtain ⟨rfl, rfl, rfl, registered, counted, rings⟩ := up
  unfold Link.storePayload
  apply (pair.rings.idle.store_payload rings payload fits).bind
  rintro ring other ⟨idle, handed⟩
  exact Alike.ok ⟨⟨rfl, rfl, rfl, registered, counted, idle⟩, handed⟩

theorem Up.send_payload_alike (up : pair.Up near far) (sourcePort destinationPort : UInt16) :
    Alike (SameBeside pair.Up) (near.sendPayload sourcePort destinationPort payload)
      (far.sendPayload sourcePort destinationPort payload) := by
  unfold Link.sendPayload
  apply (up.store_alike fits).bind
  rintro near far ⟨up, handed, otherHanded⟩
  exact up.send_alike sourcePort destinationPort _ fits fun _ => handed.trans otherHanded.symm

theorem Up.send_payload_to_alike (up : pair.Up near far) (ip : Ipv4Address)
    (sourcePort destinationPort : UInt16) :
    Alike (SameBeside pair.Up) (near.sendPayloadTo ip sourcePort destinationPort payload)
      (far.sendPayloadTo ip sourcePort destinationPort payload) := by
  unfold Link.sendPayloadTo
  apply (up.store_alike fits).bind
  rintro near far ⟨up, handed, otherHanded⟩
  exact up.send_to_alike ip sourcePort destinationPort _ fits
    fun _ => handed.trans otherHanded.symm

end Payloads

/-- Whatever is asked of both links, they return the same and stay as they are to each other. -/
theorem Up.perform_alike (up : pair.Up near far) (command : Link.Command)
    (fits : command.payload.length ≤ Udp.payloadRoom pair.config.interface ↔
      command.payload.length ≤ Udp.payloadRoom pair.otherConfig.interface) :
    Alike (fun answer otherAnswer => answer.1 = otherAnswer.1 ∧ pair.Up answer.2 otherAnswer.2)
      (command.perform near) (command.perform far) := by
  cases command with
  | start => exact up.start_alike.bind fun _ _ up => Alike.ok ⟨rfl, up⟩
  | service =>
      exact up.service_alike.bind fun _ _ same =>
        Alike.ok ⟨congrArg Link.Value.serviced same.1, same.2⟩
  | resolve ip =>
      exact (up.resolve_alike ip).bind fun _ _ same =>
        Alike.ok ⟨congrArg Link.Value.resolved same.1, same.2⟩
  | send sourcePort destinationPort payload =>
      exact (up.send_payload_alike fits sourcePort destinationPort).bind fun _ _ same =>
        Alike.ok ⟨congrArg Link.Value.sent same.1, same.2⟩
  | sendTo ip sourcePort destinationPort payload =>
      exact (up.send_payload_to_alike fits ip sourcePort destinationPort).bind fun _ _ same =>
        Alike.ok ⟨congrArg Link.Value.sent same.1, same.2⟩

end LinkPair

end InstrumentLink
