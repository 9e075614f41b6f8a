import InstrumentLink.Proofs.SimulatedHistory
import InstrumentLink.Simulation.Harness

/-!
A restart forgets the past.

Two links lived through histories that have nothing in common. What these left in the slots, in the
registers, in the octets held between datagrams and in the order of the receive slots still differs
after both were started. None of it shows: from then on the two send the same frames from the same
slots, know the same peer and access their register spaces in the same way, whatever arrives and
whatever is asked of them, as long as no peer answers with more octets than a slot has.
-/

set_option autoImplicit false

namespace InstrumentLink.Link

open Etherbone (Endpoint)
open Bus (Watched)
open Simulation (BusAccess SentFrame SimulatedLink SimulatedMac)

inductive Input where
  | arrival (frame : Bytes)
  | start
  | service
  | resolve (ip : Ipv4Address)
  /-- A payload is put into the payload area, and so many octets are sent from there, to whoever the
  peer is or to one address only. -/
  | send (recipient : Option Ipv4Address) (sourcePort destinationPort : UInt16) (payload : Bytes)
      (length : Nat)

/-- What is sent was written before, or is more than can be. -/
def Input.Written (interface : Interface) : Input → Prop
  | .send _ _ _ payload length => length ≤ payload.length ∨ Udp.payloadRoom interface < length
  | .arrival _ | .start | .service | .resolve _ => True

structure Sight where
  value : Option Value
  cache : Arp.PeerCache
  sent : List SentFrame
  accesses : List BusAccess
  /-- How many octets the consumer holds, if there is one. -/
  buffered : Option Nat
  deriving DecidableEq

section Sights

variable {Space : Type} [Bus Space]

def offer {Consumer : Type} (recipient : Option Ipv4Address) (sourcePort destinationPort : UInt16)
    (length : Nat) (link : Link SimulatedMac Consumer) :
    Except Fault (Bool × Link SimulatedMac Consumer × Log) :=
  match recipient with
  | none => link.send sourcePort destinationPort length
  | some ip => link.sendTo ip sourcePort destinationPort length

def Input.perform {Consumer : Type} [Udp.Handler Consumer] (link : Link SimulatedMac Consumer) :
    Input → Except Fault (Option Value × Link SimulatedMac Consumer)
  | .arrival frame => do return (none, ← SimulatedLink.inject frame link)
  | .start => do return (some .started, (← link.start).1)
  | .service => do
      let (frameClass, link, _) ← link.service
      return (some (.serviced frameClass), link)
  | .resolve ip => do
      let (yes, link, _) ← link.resolve ip
      return (some (.resolved yes), link)
  | .send recipient sourcePort destinationPort payload length => do
      let link ← link.storePayload 0 payload
      let (yes, link, _) ← link.offer recipient sourcePort destinationPort length
      return (some (.sent yes), link)

/-- The accesses of a consumer since an earlier moment. -/
def accessesSince (before after : Option (Endpoint (Watched Space))) : List BusAccess :=
  match before, after with
  | some before, some after => after.bus.accesses.drop before.bus.accesses.length
  | _, _ => []

def sight (before : Link SimulatedMac (Endpoint (Watched Space))) (value : Option Value)
    (after : Link SimulatedMac (Endpoint (Watched Space))) : Sight where
  value
  cache := after.cache
  sent := after.ring.device.sent.drop before.ring.device.sent.length
  accesses := accessesSince before.consumer after.consumer
  buffered := after.consumer.map fun endpoint => endpoint.reassembler.buffered.length

/-- What shows while inputs are given one after the other, and the fault at which a link stops. -/
def watch : List Input → Link SimulatedMac (Endpoint (Watched Space)) →
    List Sight × Option Fault
  | [], _ => ([], none)
  | input :: inputs, link =>
      match input.perform link with
      | .error fault => ([], some fault)
      | .ok (value, after) =>
          let (sights, stopped) := watch inputs after
          (link.sight value after :: sights, stopped)

end Sights

/-- What two links on simulated MACs are compared by. -/
structure Restarts (Space : Type) [Bus Space] where
  config : LinkConfig
  geometry : Mac.SlotGeometry
  named : geometry.txSlots ≤ 4294967296
  numbered : geometry.rxSlots ≤ 4294967296
  narrow : geometry.slotSize < 4294967296
  Same : Space → Space → Prop
  indistinct : Bus.Indistinct Same
  /-- What was sent and accessed before the start. -/
  sent : List SentFrame
  otherSent : List SentFrame
  accesses : List BusAccess
  otherAccesses : List BusAccess

namespace Restarts

variable {Space : Type} [Bus Space] (restarts : Restarts Space)

abbrev Akin : Endpoint (Watched Space) → Endpoint (Watched Space) → Prop :=
  Endpoint.Akin (Watched.Alongside restarts.Same restarts.accesses restarts.otherAccesses) False

/-- The rings that show the same since the start. -/
abbrev Rings : UInt32 → SlotRing SimulatedMac → SlotRing SimulatedMac → Prop :=
  SimulatedMac.Rings restarts.geometry restarts.config.interface.softwareFraming restarts.sent
    restarts.otherSent

theorem twin_rings : TwinRings restarts.config.interface restarts.config.interface
    (restarts.Rings 0) (restarts.Rings 1) :=
  SimulatedMac.twin_rings restarts.named restarts.numbered restarts.narrow (placed_interface _) _ _

def pair : LinkPair SimulatedMac SimulatedMac (Endpoint (Watched Space)) where
  config := restarts.config
  otherConfig := restarts.config
  budget := rfl
  counters := False
  Akin := restarts.Akin
  Idle := restarts.Rings 0
  Holding := restarts.Rings 1
  rings := restarts.twin_rings
  reacts := restarts.twin_rings.holding.endpoint_reactions
    (Watched.indistinct restarts.indistinct _ _)
  resets := fun _ _ akin => ⟨akin.port, rfl, akin.bus, False.elim⟩

variable {restarts} {one another : Link SimulatedMac (Endpoint (Watched Space))}

theorem send_alike (up : restarts.pair.Up one another) (recipient : Option Ipv4Address)
    (sourcePort destinationPort : UInt16) {payload : Bytes} {length : Nat}
    (written : length ≤ payload.length ∨ Udp.payloadRoom restarts.config.interface < length) :
    Alike (fun answer otherAnswer => answer.1 = otherAnswer.1 ∧
        restarts.pair.Up answer.2 otherAnswer.2)
      (Input.perform one (.send recipient sourcePort destinationPort payload length))
      (Input.perform another (.send recipient sourcePort destinationPort payload length)) := by
  have fits : payload.length ≤ Udp.payloadRoom restarts.pair.config.interface ↔
    payload.length ≤ Udp.payloadRoom restarts.pair.otherConfig.interface := Iff.rfl
  apply (up.store_alike fits).bind
  rintro one another ⟨up, stored, otherStored⟩
  have handed : length ≤ Udp.payloadRoom restarts.config.interface →
      Udp.handedIn restarts.config.interface length one.ring =
        Udp.handedIn restarts.config.interface length another.ring := by
    intro short
    rcases written with inside | long
    · exact (Udp.handed_in_take stored inside).trans (Udp.handed_in_take otherStored inside).symm
    · omega
  have offered : Alike (SameBeside restarts.pair.Up)
      (one.offer recipient sourcePort destinationPort length)
      (another.offer recipient sourcePort destinationPort length) := by
    cases recipient with
    | none => exact up.send_alike sourcePort destinationPort length Iff.rfl handed
    | some ip => exact up.send_to_alike ip sourcePort destinationPort length Iff.rfl handed
  exact offered.bind fun _ _ same =>
    Alike.ok ⟨congrArg (fun value => some (Value.sent value)) same.1, same.2⟩

theorem input_alike (up : restarts.pair.Up one another) (input : Input)
    (written : input.Written restarts.config.interface) :
    Alike (fun answer otherAnswer => answer.1 = otherAnswer.1 ∧
        restarts.pair.Up answer.2 otherAnswer.2)
      (input.perform one) (input.perform another) := by
  cases input with
  | arrival frame =>
      have injected : Alike restarts.pair.Up (SimulatedLink.inject frame one)
          (SimulatedLink.inject frame another) :=
        (up.rings.inject_alike frame).bind fun device otherDevice rings => Alike.ok
          ⟨up.configured, up.otherConfigured, up.cache, up.registration, up.stats, rings⟩
      exact injected.bind fun _ _ up => Alike.ok ⟨rfl, up⟩
  | start => exact up.start_alike.bind fun _ _ up => Alike.ok ⟨rfl, up⟩
  | service =>
      exact up.service_alike.bind fun _ _ same =>
        Alike.ok ⟨congrArg (fun value => some (Value.serviced value)) same.1, same.2⟩
  | resolve ip =>
      exact (up.resolve_alike ip).bind fun _ _ same =>
        Alike.ok ⟨congrArg (fun value => some (Value.resolved value)) same.1, same.2⟩
  | send recipient sourcePort destinationPort payload length =>
      exact send_alike up recipient sourcePort destinationPort written

theorem akin_consumers (up : restarts.pair.Up one another) :
    Option.Rel restarts.Akin one.consumer another.consumer := by
  obtain ⟨config, ring, cache, registration, stats⟩ := one
  obtain ⟨otherConfig, other, otherCache, otherRegistration, otherStats⟩ := another
  have registered : Udp.AkinRegistrations restarts.Akin registration otherRegistration :=
    up.registration
  cases registered with
  | none => exact .none
  | some both => exact .some both.2

theorem accesses_alike (up : restarts.pair.Up one another)
    {after otherAfter : Link SimulatedMac (Endpoint (Watched Space))}
    (later : restarts.pair.Up after otherAfter) :
    accessesSince one.consumer after.consumer =
      accessesSince another.consumer otherAfter.consumer := by
  have akin := akin_consumers up
  have akinLater := akin_consumers later
  generalize one.consumer = held, another.consumer = otherHeld at akin
  generalize after.consumer = heldLater, otherAfter.consumer = otherHeldLater at akinLater
  cases akin with
  | none => cases akinLater <;> rfl
  | some first =>
      cases akinLater with
      | none => rfl
      | some last => exact first.bus.accesses.drop_length last.bus.accesses

theorem sight_alike (up : restarts.pair.Up one another)
    {after otherAfter : Link SimulatedMac (Endpoint (Watched Space))}
    (later : restarts.pair.Up after otherAfter) (value : Option Value) :
    one.sight value after = another.sight value otherAfter := by
  have sent : after.ring.device.sent.drop one.ring.device.sent.length =
      otherAfter.ring.device.sent.drop another.ring.device.sent.length :=
    up.rings.2.sent.drop_length later.rings.2.sent
  have akin := akin_consumers later
  have buffered : after.consumer.map (fun endpoint => endpoint.reassembler.buffered.length) =
      otherAfter.consumer.map fun endpoint => endpoint.reassembler.buffered.length := by
    generalize after.consumer = held, otherAfter.consumer = otherHeld at akin
    cases akin with
    | none => rfl
    | some both => exact congrArg (fun octets => some octets.length) both.buffered
  simp only [sight, later.cache, sent, accesses_alike up later, buffered]

theorem watch_alike (up : restarts.pair.Up one another) (inputs : List Input)
    (written : ∀ input ∈ inputs, input.Written restarts.config.interface) :
    one.watch inputs = another.watch inputs := by
  induction inputs generalizing one another with
  | nil => rfl
  | cons input inputs induction =>
      obtain ⟨first, rest⟩ := List.forall_mem_cons.mp written
      unfold watch
      rcases (input_alike up input first).outcomes with ⟨fault, performed, otherPerformed⟩ |
        ⟨⟨value, after⟩, ⟨_, otherAfter⟩, performed, otherPerformed, rfl, later⟩
      · rw [performed, otherPerformed]
      · rw [performed, otherPerformed]
        dsimp only
        rw [induction later rest, sight_alike up later value]

end Restarts

section Restart

variable {config : LinkConfig} {geometry : Mac.SlotGeometry}

/-- A start leaves nothing of a link but its configuration, its counters, and who is registered. -/
theorem Settled.starts {Consumer : Type} [Udp.Handler Consumer] {link : Link SimulatedMac Consumer}
    (settled : Settled config geometry link)
    (wire : ∀ frame ∈ link.ring.device.wire, frame.length ≤ geometry.slotSize)
    (peer : link.ring.device.peer.Fits geometry.slotSize) :
    Returns link.start fun answer => answer.1.config = config ∧ answer.1.cache = {} ∧
      answer.1.registration = link.registration.map (fun registered =>
        { registered with consumer := Udp.Handler.reset registered.consumer }) ∧
      SlotRing.Transmitting geometry (SimulatedMac.Waiting geometry 0)
        config.interface.softwareFraming answer.1.ring ∧
      SimulatedMac.turn answer.1.ring = { SimulatedMac.turn link.ring with slot := 0 } := by
  have up := settled.up
  have framing : link.ring.softwareFrameCheck = config.interface.softwareFraming := by
    rw [← settled.configured]
    exact up.framing
  apply (up.good.starts up.divided framing wire peer).bind
  intro ring started
  exact Returns.ok ⟨settled.configured, rfl, rfl, started⟩

variable {Space : Type}

def accessed (registration : Option (Udp.Registration (Endpoint (Watched Space)))) :
    List BusAccess :=
  (registration.map fun registered => registered.consumer.bus.accesses).getD []

variable [Bus Space]

theorem akin_after_reset {Same : Space → Space → Prop}
    {registration otherRegistration : Option (Udp.Registration (Endpoint (Watched Space)))}
    (registered : Udp.AkinRegistrations (fun one another => one.port = another.port ∧
      Same one.bus.space another.bus.space) registration otherRegistration) :
    Udp.AkinRegistrations (Endpoint.Akin (Watched.Alongside Same (accessed registration)
        (accessed otherRegistration)) False)
      (registration.map fun registered =>
        { registered with consumer := Udp.Handler.reset registered.consumer })
      (otherRegistration.map fun registered =>
        { registered with consumer := Udp.Handler.reset registered.consumer }) := by
  cases registered with
  | none => exact .none
  | some both =>
      obtain ⟨port, replyPort, space⟩ := both
      exact .some ⟨port, replyPort, rfl, ⟨space, SameSince.nothing _ _⟩, False.elim⟩

/-- Two histories with nothing in common do not show any more once both links were started. -/
theorem restart_forgets_history (config : LinkConfig) (geometry : Mac.SlotGeometry)
    (named : geometry.txSlots ≤ 4294967296) (numbered : geometry.rxSlots ≤ 4294967296)
    (narrow : geometry.slotSize < 4294967296) {Same : Space → Space → Prop}
    (indistinct : Bus.Indistinct Same) {past otherPast : List (Deed (Endpoint (Watched Space)))}
    {link other : Link SimulatedMac (Endpoint (Watched Space))}
    (lived : Lived config geometry past link) (otherLived : Lived config geometry otherPast other)
    (drained : link.ring.device.wire = []) (otherDrained : other.ring.device.wire = [])
    (peers : link.ring.device.peer = other.ring.device.peer)
    (answers : link.ring.device.peer.Fits geometry.slotSize)
    (registered : Udp.AkinRegistrations (fun one another => one.port = another.port ∧
      Same one.bus.space another.bus.space) link.registration other.registration) :
    Returns link.start fun started => Returns other.start fun otherStarted =>
      ∀ inputs : List Input, (∀ input ∈ inputs, input.Written config.interface) →
        started.1.watch inputs = otherStarted.1.watch inputs := by
  have settled := lived.settled named
  have otherSettled := otherLived.settled named
  have divided := settled.up.divided.trans otherSettled.up.divided.symm
  have starts := settled.starts (by simp [drained]) answers
  have otherStarts := otherSettled.starts (by simp [otherDrained]) (peers ▸ answers)
  apply starts.mono
  rintro ⟨started, log⟩ ⟨configured, cache, registration, ring, turn⟩
  apply otherStarts.mono
  rintro ⟨otherStarted, otherLog⟩ ⟨otherConfigured, otherCache, otherRegistration, otherRing,
    otherTurn⟩
  let restarts : Restarts Space := {
    config, geometry, named, numbered, narrow, Same, indistinct
    sent := link.ring.device.sent
    otherSent := other.ring.device.sent
    accesses := accessed link.registration
    otherAccesses := accessed other.registration }
  have rings : restarts.pair.Idle started.ring otherStarted.ring := by
    apply SimulatedMac.Rings.of_turns ring otherRing
    rw [turn, otherTurn]
    exact ⟨congrArg Mac.SlotGeometry.txSlots divided, rfl, SameSince.nothing _ _,
      drained.trans otherDrained.symm, peers⟩
  have registered : Udp.AkinRegistrations restarts.pair.Akin started.registration
      otherStarted.registration := by
    rw [registration, otherRegistration]
    exact akin_after_reset registered
  have up : restarts.pair.Up started otherStarted :=
    ⟨configured, otherConfigured, cache.trans otherCache.symm, registered, False.elim, rings⟩
  intro inputs written
  exact Restarts.watch_alike up inputs written

/-- One word, at every address. -/
structure Register where
  word : UInt32
  deriving DecidableEq, Repr

instance : Bus Register where
  read _ register := (register.word, register, [])
  write _ value _ := (⟨value⟩, [])

/-- One link resolved its peer, wrote a register, and waits for the rest of a packet; the other was
just made. -/
theorem restart_discards_partial_packet :
    let geometry : Mac.SlotGeometry := ⟨1532, 2, 1, by decide, by decide, by decide⟩
    let config : LinkConfig := { resolveBudget := ⟨1, 1⟩ }
    let host : Arp.Station := ⟨Simulation.Wire.hostMac, Simulation.Wire.hostIp⟩
    let reply := Simulation.Wire.arpReply host ⟨config.mac, config.ip⟩
    let peer : Simulation.Peer := .rule fun _ => some reply
    let packet := Etherbone.writeRequest 0x40 [9]
    let past : List (Deed (Endpoint (Watched Register))) :=
      [.register 1234 { bus := ⟨⟨5⟩, []⟩ }, .start, .outside (.arrival reply), .resolve host.ip,
        .outside (.arrival (Simulation.Wire.etherbone (packet ++ packet.take 10))), .service,
        .outside (.listener peer)]
    let otherPast : List (Deed (Endpoint (Watched Register))) :=
      [.register 1234 { bus := ⟨⟨9⟩, []⟩ }, .outside (.listener peer)]
    ∃ link other, Lived config geometry past link ∧ Lived config geometry otherPast other ∧
      link.consumer.map (fun endpoint => endpoint.reassembler.buffered) = some (packet.take 10) ∧
      other.consumer.map (fun endpoint => endpoint.reassembler.buffered) = some [] ∧
      Returns link.start fun started => Returns other.start fun otherStarted =>
        ∀ inputs : List Input, (∀ input ∈ inputs, input.Written config.interface) →
          started.1.watch inputs = otherStarted.1.watch inputs := by
  intro geometry config host reply peer packet past otherPast
  let created : Link SimulatedMac (Endpoint (Watched Register)) :=
    { config, ring := {
        device := .ofGeometry geometry, geometry, softwareFrameCheck := false } }
  have fresh : Link.create (.ofGeometry geometry) geometry config = .ok created := rfl
  have seen : ((past.take 6).foldlM Deed.perform created).toOption.map (fun link =>
      (link.ring.device.wire, link.registration.map (fun registered =>
        (registered.port, registered.consumer.port, registered.consumer.bus.space)),
        link.consumer.map fun endpoint => endpoint.reassembler.buffered)) =
      some ([], some (1234, 1234, ⟨9⟩), some (packet.take 10)) := by decide +kernel
  obtain ⟨before, performed, same⟩ := Returns.of_seen seen
  simp only [Prod.mk.injEq] at same
  obtain ⟨drained, registration, buffered⟩ := same
  let link := SimulatedLink.mapDevice (fun device => device.setPeer peer) before
  let other := SimulatedLink.mapDevice (fun device => device.setPeer peer)
    (created.register 1234 { bus := ⟨⟨9⟩, []⟩ }).1
  have early : Lived config geometry (past.take 6) before := ⟨created, fresh, performed⟩
  have lived : Lived config geometry past link := early.goes_on rfl
  have otherLived : Lived config geometry otherPast other := ⟨created, fresh, rfl⟩
  have answers : peer.Fits geometry.slotSize := by
    rintro sent frame ⟨⟩
    decide
  have registered : Udp.AkinRegistrations (fun one another => one.port = another.port ∧
      one.bus.space = another.bus.space) link.registration other.registration := by
    change Udp.AkinRegistrations _ before.registration _
    obtain ⟨held, same, shown⟩ := Option.map_eq_some_iff.mp registration
    simp only [Prod.mk.injEq] at shown
    rw [same]
    exact .some shown
  exact ⟨link, other, lived, otherLived, buffered, rfl, restart_forgets_history config geometry
    (by decide) (by decide) (by decide) Bus.indistinct_eq lived otherLived drained rfl rfl answers
    registered⟩

/-- An answer that runs on past its slot shows which slot was next: one link received a frame before
it was started and stops where it should have waited in vain, the other did not and waits. -/
theorem oversized_answer_shows_history :
    let geometry : Mac.SlotGeometry := ⟨1532, 2, 1, by decide, by decide, by decide⟩
    let config : LinkConfig := { resolveBudget := ⟨1, 1⟩ }
    let frame := Bytes.zeros Ethernet.minimumLength
    let peer : Simulation.Peer := .rule fun _ => some (Bytes.zeros 4000)
    let past : List (Deed (Endpoint (Watched Register))) :=
      [.start, .outside (.arrival frame), .service, .outside (.listener peer)]
    let otherPast : List (Deed (Endpoint (Watched Register))) := [.outside (.listener peer)]
    let resolve : Input := .resolve Simulation.Wire.hostIp
    ∃ link other, Lived config geometry past link ∧ Lived config geometry otherPast other ∧
      link.ring.device.wire = [] ∧ other.ring.device.wire = [] ∧
      link.ring.device.peer = other.ring.device.peer ∧
      link.registration = none ∧ other.registration = none ∧
      Returns link.start fun started => Returns other.start fun otherStarted =>
        (started.1.watch [resolve]).2 = some .outsideBuffer ∧
        (otherStarted.1.watch [resolve]).2 = none := by
  intro geometry config frame peer past otherPast resolve
  let created : Link SimulatedMac (Endpoint (Watched Register)) :=
    { config, ring := {
        device := .ofGeometry geometry, geometry, softwareFrameCheck := false } }
  have fresh : Link.create (.ofGeometry geometry) geometry config = .ok created := rfl
  let heard (link : Link SimulatedMac (Endpoint (Watched Register))) :=
    SimulatedLink.mapDevice (fun device => device.setPeer peer) link
  have seen : ((past.take 3).foldlM Deed.perform created).toOption.map (fun before =>
      (before.ring.device.wire, before.registration.isNone,
        (heard before).start.toOption.map fun started => (started.1.watch [resolve]).2)) =
      some ([], true, some (some .outsideBuffer)) := by decide +kernel
  have otherSeen : (heard created).start.toOption.map (fun started =>
      (started.1.watch [resolve]).2) = some none := by decide +kernel
  obtain ⟨before, performed, same⟩ := Returns.of_seen seen
  simp only [Prod.mk.injEq] at same
  obtain ⟨drained, nobody, stopped⟩ := same
  have early : Lived config geometry (past.take 3) before := ⟨created, fresh, performed⟩
  refine ⟨heard before, heard created, early.goes_on rfl, ⟨created, fresh, rfl⟩, drained, rfl, rfl,
    Option.isNone_iff_eq_none.mp nobody, rfl, ?_⟩
  apply (Returns.of_seen stopped).mono
  intro started stopped
  exact (Returns.of_seen otherSeen).mono fun otherStarted waited => ⟨stopped, waited⟩

end Restart

end InstrumentLink.Link
