import InstrumentLink.Proofs.WellFormedFrames

/-!
The history of a run.

A run is told moment by moment: what happened to the link, which datagrams it was asked to send and
whether it did, which frames it sent, and what it knew of its peer afterwards. Every poll inside
`resolve` is a moment of its own, and a consumer's requests are noted with the frame that it reacts
to. Telling the history changes nothing: the link is the one of the untold run.
-/

set_option autoImplicit false

namespace InstrumentLink

theorem bind_seen {First Second Seen Answer : Type} {first : Except Fault First}
    {second : Except Fault Second} {look : First → Seen} {view : Second → Seen}
    {next : First → Except Fault Answer} {other : Second → Except Fault Answer}
    (same : look <$> first = view <$> second)
    (goes : ∀ answer seen, look answer = view seen → next answer = other seen) :
    first >>= next = second >>= other := by
  cases first with
  | error fault => cases second with
    | error other => cases same; rfl
    | ok seen => cases same
  | ok answer => cases second with
    | error fault => cases same
    | ok seen => exact goes answer seen (Except.ok.inj same)

namespace Udp

structure Offer where
  recipient : Option Ipv4Address
  sent : Bool
  deriving DecidableEq, Repr

namespace Reaction

variable {Result Port : Type}

/-- A reaction that also notes what it asked to be sent, behind what was noted before. -/
def noting : Reaction Result → List Offer → Reaction (Result × List Offer)
  | .done result, offers => .done (result, offers)
  | .fail fault, _ => .fail fault
  | .report event next, offers => .report event (next.noting offers)
  | .look next, offers => .look fun area => (next area).noting offers
  | .store offset patch next, offers => .store offset patch (next.noting offers)
  | .send sourcePort destinationPort length next, offers =>
      .send sourcePort destinationPort length fun sent =>
        (next sent).noting (offers ++ [⟨none, sent⟩])
  | .sendTo ip sourcePort destinationPort length next, offers =>
      .sendTo ip sourcePort destinationPort length fun sent =>
        (next sent).noting (offers ++ [⟨some ip, sent⟩])

end Reaction

/-- A consumer with what it asked to be sent so far. -/
structure Noted (Consumer : Type) where
  consumer : Consumer
  offers : List Offer := []

variable {Consumer : Type}

instance [Handler Consumer] : Handler (Noted Consumer) where
  onDatagram datagram noted :=
    (fun (consumer, offers) => { consumer, offers }) <$>
      (Handler.onDatagram datagram noted.consumer).noting noted.offers
  reset noted := { noted with consumer := Handler.reset noted.consumer }

theorem Noted.reacts {Port : Type} [TransmitPort Port] [Handler Consumer] {binding : Binding}
    {datagram : Datagram} {noted : Noted Consumer} {port : Port}
    {good : Noted Consumer × Port × Log → Prop}
    (notes : Yields (((Handler.onDatagram datagram noted.consumer).noting noted.offers).run binding
      port) fun answer => good (⟨answer.1.1, answer.1.2⟩, answer.2)) :
    Yields ((Handler.onDatagram datagram noted).run binding port) good := by
  change Yields (Reaction.run binding (Reaction.andThen _ _) port) _
  rw [Reaction.run_and_then]
  apply notes.bind
  rintro ⟨⟨consumer, offers⟩, after, log⟩ holds
  change good (⟨consumer, offers⟩, after, log ++ [])
  rwa [List.append_nil]

def offersOf (registration : Option (Registration (Noted Consumer))) : List Offer :=
  registration.elim [] fun registered => registered.consumer.offers

end Udp

namespace Link

inductive Event where
  | started
  /-- `resolve` looks for an address that was not known. -/
  | aimed (ip : Ipv4Address)
  /-- Octets were taken out of a receive slot. -/
  | received (slot : Bytes)
  | other
  deriving DecidableEq, Repr

structure Moment where
  event : Event
  offers : List Udp.Offer
  frames : List Bytes
  /-- The peer, once the moment is over. -/
  cache : Arp.PeerCache
  deriving DecidableEq, Repr

def arriving {Hardware Consumer : Type} [Mac.Device Hardware] (link : Link Hardware Consumer) :
    Option Bytes := do
  let (received, ring, _) ← link.ring.pollReceive.toOption
  (ring.receivedFrame (← received)).toOption

/-- What the next call of `service` is for a link. -/
def serviceEvent {Hardware Consumer : Type} [Mac.Device Hardware] (link : Link Hardware Consumer) :
    Event :=
  (arriving link).elim .other .received

section Polled

variable {Hardware Consumer : Type} [Mac.Device Hardware] {link : Link Hardware Consumer}
  {ring : SlotRing Hardware} {log : Log}

theorem service_event_of_nothing (polled : link.ring.pollReceive = .ok (none, ring, log)) :
    link.serviceEvent = .other := by
  simp [serviceEvent, arriving, polled, Except.toOption]

theorem service_event_of_frame {received : SlotRing.Received} {slot : Bytes}
    (polled : link.ring.pollReceive = .ok (some received, ring, log))
    (taken : ring.receivedFrame received = .ok slot) : link.serviceEvent = .received slot := by
  simp [serviceEvent, arriving, polled, taken, Except.toOption]

variable [Udp.Handler Consumer]

/-- A call of `service` finds nothing, or dispatches what is in a slot and releases the slot. -/
theorem service_cases {good : Option Ethernet.FrameClass × Link Hardware Consumer × Log → Prop}
    (idle : ∀ ring log, link.ring.pollReceive = .ok (none, ring, log) →
      link.serviceEvent = .other → good (none, { link with ring }, log))
    (frame : ∀ received ring log slot, link.ring.pollReceive = .ok (some received, ring, log) →
      link.serviceEvent = .received slot →
      Yields ({ link with ring, stats.rxFrames := link.stats.rxFrames + 1 }.dispatch slot)
        fun dispatched => ∀ released, dispatched.2.1.ring.acknowledge = .ok released →
          good (some dispatched.1, { dispatched.2.1 with ring := released },
            log ++ dispatched.2.2)) :
    Yields link.service good := by
  unfold service
  apply (Yields.self _).bind
  rintro ⟨received, ring, log⟩ polled
  cases received with
  | none => exact idle ring log polled (service_event_of_nothing polled)
  | some received =>
      apply (Yields.self _).bind
      intro slot taken
      apply (frame received ring log slot polled (service_event_of_frame polled taken)).bind
      intro dispatched holds
      exact (Yields.self _).bind fun released acknowledged => holds released acknowledged

end Polled

/-- A link that can be told about: its device has a tap, and its consumer is noted. -/
abbrev Told (geometry : Mac.SlotGeometry) (Hardware Consumer : Type) : Type :=
  Link (Mac.Watched (Mac.Tapped geometry Hardware)) (Udp.Noted Consumer)

variable {geometry : Mac.SlotGeometry} {Hardware Consumer : Type}

namespace Told

def frames (link : Told geometry Hardware Consumer) : List Bytes :=
  link.ring.device.device.tap.frames

def moment (event : Event) (offers : List Udp.Offer)
    (link after : Told geometry Hardware Consumer) : Moment :=
  ⟨event, offers, (frames after).drop (frames link).length, after.cache⟩

variable [Mac.Device Hardware] [Udp.Handler Consumer]

def service (link : Told geometry Hardware Consumer) :
    Except Fault (Moment × Told geometry Hardware Consumer) := do
  let (_, after, _) ← Link.service link
  let offers := (Udp.offersOf after.registration).drop (Udp.offersOf link.registration).length
  return (moment (serviceEvent link) offers link after, after)

def awaitPeer : Nat → Told geometry Hardware Consumer →
    Except Fault (List Moment × Bool × Told geometry Hardware Consumer)
  | 0, link => return ([], false, link)
  | polls + 1, link => do
      let (now, link) ← service link
      if link.cache.isResolved then return ([now], true, link)
      else
        let (later, resolved, link) ← awaitPeer polls link
        return (now :: later, resolved, link)

def attempts (ip : Ipv4Address) : Nat → Told geometry Hardware Consumer →
    Except Fault (List Moment × Told geometry Hardware Consumer)
  | 0, link => return ([], link)
  | left + 1, link => do
      let (asked, _) ← link.ask ip
      let asking := moment .other [] link asked
      let (waiting, resolved, link) ←
        awaitPeer asked.config.resolveBudget.pollsPerAttempt asked
      if resolved then return (asking :: waiting, link)
      else
        let (later, link) ← attempts ip left link
        return (asking :: (waiting ++ later), link)

def resolve (ip : Ipv4Address) (link : Told geometry Hardware Consumer) :
    Except Fault (List Moment × Told geometry Hardware Consumer) :=
  if link.cache.resolves ip then return ([], link)
  else do
    let aimed := { link with cache := .target ip }
    let (later, last) ← attempts ip link.config.resolveBudget.attempts aimed
    return (moment (.aimed ip) [] link aimed :: later, last)

def perform (link : Told geometry Hardware Consumer) :
    Action (Mac.Tapped geometry Hardware) (Udp.Noted Consumer) →
      Except Fault (List Moment × Told geometry Hardware Consumer)
  | .start => do
      let (after, _) ← link.start
      return ([moment .started [] link after], after)
  | .service => do
      let (now, after) ← service link
      return ([now], after)
  | .resolve ip => resolve ip link
  | .send sourcePort destinationPort length => do
      let (sent, after, _) ← link.send sourcePort destinationPort length
      return ([moment .other [⟨none, sent⟩] link after], after)
  | .sendTo ip sourcePort destinationPort length => do
      let (sent, after, _) ← link.sendTo ip sourcePort destinationPort length
      return ([moment .other [⟨some ip, sent⟩] link after], after)
  | action@(.fill ..) | action@(.register ..) | action@(.device ..) => do
      let after ← action.perform link
      return ([moment .other [] link after], after)

def performAll : List (Action (Mac.Tapped geometry Hardware) (Udp.Noted Consumer)) →
    Told geometry Hardware Consumer →
      Except Fault (List Moment × Told geometry Hardware Consumer)
  | [], link => return ([], link)
  | action :: actions, link => do
      let (now, link) ← perform link action
      let (later, link) ← performAll actions link
      return (now ++ later, link)

theorem service_told (link : Told geometry Hardware Consumer) :
    Prod.snd <$> service link = (fun answer => answer.2.1) <$> Link.service link := by
  simp [service]

theorem await_peer_told (polls : Nat) (log : Log) (link : Told geometry Hardware Consumer) :
    Prod.snd <$> awaitPeer polls link =
      (fun answer => (answer.1, answer.2.1)) <$> Link.awaitPeer polls log link := by
  induction polls generalizing log link with
  | zero => rfl
  | succ polls induction =>
      unfold awaitPeer Link.awaitPeer
      simp only [map_bind]
      apply bind_seen (service_told link)
      rintro ⟨now, link⟩ ⟨frameClass, after, servicing⟩ ⟨⟩
      dsimp only
      split
      · rfl
      · simp [← induction (log ++ servicing)]

theorem attempts_told (ip : Ipv4Address) (attempt left : Nat)
    (link : Told geometry Hardware Consumer) :
    Prod.snd <$> attempts ip left link =
      (fun answer => answer.2.1) <$> Link.attempts ip attempt left link := by
  induction left generalizing attempt link with
  | zero => rfl
  | succ left induction =>
      unfold attempts Link.attempts
      simp only [map_bind]
      congr 1
      funext asked
      apply bind_seen (await_peer_told _ [] asked.1)
      rintro ⟨waiting, resolved, after⟩ ⟨known, last, log⟩ ⟨⟩
      dsimp only
      split
      · rfl
      · simp [← induction (attempt + 1)]

theorem resolve_told (ip : Ipv4Address) (link : Told geometry Hardware Consumer) :
    Prod.snd <$> resolve ip link = (fun answer => answer.2.1) <$> Link.resolve ip link := by
  unfold resolve Link.resolve
  split
  · rfl
  · simp [← attempts_told ip 1]

theorem perform_told (link : Told geometry Hardware Consumer)
    (action : Action (Mac.Tapped geometry Hardware) (Udp.Noted Consumer)) :
    Prod.snd <$> perform link action = action.perform link := by
  cases action with
  | start => simp [perform, Action.perform]
  | service => simp [perform, Action.perform, service]
  | resolve ip => simpa [perform, Action.perform] using resolve_told ip link
  | send sourcePort destinationPort length => simp [perform, Action.perform]
  | sendTo ip sourcePort destinationPort length => simp [perform, Action.perform]
  | fill offset patch => simp [perform]
  | register port consumer => simp [perform]
  | device change => simp [perform]

theorem perform_all_told (actions : List (Action (Mac.Tapped geometry Hardware)
    (Udp.Noted Consumer))) (link : Told geometry Hardware Consumer) :
    Prod.snd <$> performAll actions link = Action.performAll actions link := by
  induction actions generalizing link with
  | nil => rfl
  | cons action actions induction =>
      unfold performAll Action.performAll
      rw [List.foldlM_cons, ← perform_told]
      simp only [map_bind, bind_map_left]
      congr 1
      funext answer
      have later := induction answer.2
      unfold Action.performAll at later
      simpa using later

end Told

end Link

end InstrumentLink
