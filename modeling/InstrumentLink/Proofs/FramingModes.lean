import InstrumentLink.Proofs.FrameCounts
import InstrumentLink.Proofs.ScriptedMedium
import InstrumentLink.Proofs.TwinEndpoints
import InstrumentLink.Proofs.TwinLinks
import InstrumentLink.Simulation.Wire

/-!
Who does the framing makes no difference.

Two links differ in nothing but this: the MAC of the one adds and checks preamble and check sequence
itself, the MAC of the other leaves that to its driver. They receive the same frames, the second one
inside their framing, at the same polls, and the same is asked of both. Then they answer the same
and count the same at every step, and what the second puts on the wire is what the first does,
framed.
-/

set_option autoImplicit false

namespace InstrumentLink

theorem TwinPorts.counted {Near Far : Type} [Mac.Device Near] [Mac.Device Far]
    {first second : Interface} {Beside : SlotRing Near → SlotRing Far → Prop}
    (twins : TwinPorts first second Beside) :
    TwinPorts first second fun ring other =>
      Beside ring other ∧ ring.transmitted = other.transmitted := by
  apply twins.along
  · intro frame ring other answer otherAnswer _ same sent otherSent yes _
    have counted := (SlotRing.paced_transmitted.send_frame first frame ring).of_ok sent
    have otherCounted := (SlotRing.paced_transmitted.send_frame second frame other).of_ok otherSent
    rw [yes, same] at counted
    exact counted.unique otherCounted
  · intro patch ring other stored otherStored same kept otherKept
    have counted := (SlotRing.paced_transmitted.store_payload first 0 patch ring).of_ok kept
    have otherCounted :=
      (SlotRing.paced_transmitted.store_payload second 0 patch other).of_ok otherKept
    rw [counted, otherCounted, same]

/-- A request to which a reply with the same payload fits a frame in one way of framing at most. -/
def Icmp.LongRequest (frame : Bytes) : Prop :=
  Ethernet.classify frame = .ipv4 ∧ ∃ total, Requests frame total ∧ 1506 < total.toNat

/-- A frame that a slot holds with its framing, and that is not answered in one way of framing
only. -/
structure Receivable (geometry : Mac.SlotGeometry) (frame : Bytes) : Prop where
  header : Ethernet.headerLength ≤ frame.length
  fits : frame.length + Ethernet.preambleLength + Ethernet.frameCheckLength ≤ geometry.slotSize
  short : ¬Icmp.LongRequest frame

/-- What polls find where the same frames arrive inside their framing. -/
def Mac.Script.framed (script : Script) : Script := script.map (Option.map Ethernet.withFraming)

theorem Mac.Script.next_framed (script : Script) :
    script.framed.next = script.next.map Ethernet.withFraming := by
  cases script with
  | nil => rfl
  | cons entry script => cases entry <;> rfl

theorem Mac.Script.tail_framed (script : Script) :
    script.framed.tail = Mac.Script.framed script.tail := by
  cases script <;> rfl

theorem Mac.Script.fits {geometry : SlotGeometry} {script : Script}
    (receivable : ∀ frame, some frame ∈ script → Receivable geometry frame) :
    ∀ frame, some frame ∈ script → frame.length ≤ geometry.slotSize := by
  intro frame member
  have fits := (receivable frame member).fits
  omega

theorem Mac.Script.fits_framed {geometry : SlotGeometry} {script : Script}
    (receivable : ∀ frame, some frame ∈ script → Receivable geometry frame) :
    ∀ frame, some frame ∈ script.framed → frame.length ≤ geometry.slotSize := by
  intro framed member
  obtain ⟨entry, stands, same⟩ := List.mem_map.mp member
  obtain ⟨frame, rfl, rfl⟩ := Option.map_eq_some_iff.mp same
  have fits := (receivable frame stands).fits
  rw [Ethernet.length_with_framing]
  omega

/-- Two devices that receive by scripts, under links that differ in who does the framing. -/
structure TwoModes (Near Far : Type) [Mac.Device Near] [Mac.Device Far] where
  config : LinkConfig
  geometry : Mac.SlotGeometry
  nearIdle : Mac.Script → Near → Prop
  nearHolding : Mac.Script → Near → Prop
  nearSide : Near → Mac.TransmitSide
  near : Mac.Scripted geometry nearIdle nearHolding nearSide
  farIdle : Mac.Script → Far → Prop
  farHolding : Mac.Script → Far → Prop
  farSide : Far → Mac.TransmitSide
  far : Mac.Scripted geometry farIdle farHolding farSide
  /-- What was sent before. -/
  nearStart : List Bytes
  farStart : List Bytes

namespace TwoModes

variable {Near Far : Type} [Mac.Device Near] [Mac.Device Far] (modes : TwoModes Near Far)

def nearConfig : LinkConfig := { modes.config with hardwareFraming := true }

def farConfig : LinkConfig := { modes.config with hardwareFraming := false }

def Sent (sent otherSent : List Bytes) : Prop :=
  ∃ frames, sent = modes.nearStart ++ frames ∧
    otherSent = modes.farStart ++ frames.map Ethernet.withFraming

/-- Two rings that sent the same frames, each in its mode. -/
def Rings (Good : Near → Prop) (OtherGood : Far → Prop) (ring : SlotRing Near)
    (other : SlotRing Far) : Prop :=
  (ring.Transmitting modes.geometry Good modes.nearConfig.interface.softwareFraming ∧
    other.Transmitting modes.geometry OtherGood modes.farConfig.interface.softwareFraming ∧
    modes.Sent (ring.view modes.nearSide).sent (other.view modes.farSide).sent) ∧
  ring.transmitted = other.transmitted

theorem twin_rings {Good : Near → Prop} {OtherGood : Far → Prop}
    (transmitter : Mac.Transmitter modes.geometry Good modes.nearSide)
    (otherTransmitter : Mac.Transmitter modes.geometry OtherGood modes.farSide) :
    TwinPorts modes.nearConfig.interface modes.farConfig.interface
      (modes.Rings Good OtherGood) := by
  have station : modes.nearConfig.interface.station = modes.farConfig.interface.station := rfl
  apply TwinPorts.counted
  apply TwinPorts.of_faithful station (Link.placed_interface _) (Link.placed_interface _)
    (SlotRing.faithful_port transmitter _) (SlotRing.faithful_port otherTransmitter _)
    (SlotRing.prompt_port transmitter _) (SlotRing.prompt_port otherTransmitter _)
  rintro sent otherSent frame ⟨frames, rfl, rfl⟩
  refine ⟨frames ++ [modes.nearConfig.interface.onWire frame], List.append_assoc .., ?_⟩
  rw [List.map_append, List.append_assoc]
  rfl

variable {modes}

theorem Rings.keep {Good LaterGood : Near → Prop} {OtherGood OtherLaterGood : Far → Prop}
    {ring : SlotRing Near} {other : SlotRing Far} (rings : modes.Rings Good OtherGood ring other)
    {Answer OtherAnswer : Type} {first : Except Fault Answer} {second : Except Fault OtherAnswer}
    {near : Answer → SlotRing Near} {far : OtherAnswer → SlotRing Far} {good : Answer → Prop}
    {otherGood : OtherAnswer → Prop}
    (returns : Returns first fun answer => (near answer).Transmitting modes.geometry LaterGood
      modes.nearConfig.interface.softwareFraming ∧
      ((near answer).view modes.nearSide).sent = (ring.view modes.nearSide).sent ∧ good answer)
    (otherReturns : Returns second fun answer => (far answer).Transmitting modes.geometry
      OtherLaterGood modes.farConfig.interface.softwareFraming ∧
      ((far answer).view modes.farSide).sent = (other.view modes.farSide).sent ∧ otherGood answer)
    (counts : Yields first fun answer => (near answer).transmitted = ring.transmitted)
    (otherCounts : Yields second fun answer => (far answer).transmitted = other.transmitted) :
    Alike (fun answer otherAnswer => modes.Rings LaterGood OtherLaterGood (near answer)
      (far otherAnswer) ∧ good answer ∧ otherGood otherAnswer) first second := by
  obtain ⟨⟨-, -, paired⟩, count⟩ := rings
  apply ((Alike.of_returns returns otherReturns fun _ _ one another => And.intro one
    another).with_yields counts otherCounts).mono
  rintro answer otherAnswer
    ⟨⟨⟨sound, same, holds⟩, otherSound, otherSame, otherHolds⟩, counted, otherCounted⟩
  refine ⟨⟨⟨sound, otherSound, ?_⟩, ?_⟩, holds, otherHolds⟩
  · rw [same, otherSame]
    exact paired
  · rw [counted, otherCounted, count]

section Polling

variable {Good : Near → Prop} {OtherGood : Far → Prop} {script : Mac.Script} {frame : Bytes}
  {ring : SlotRing Near} {other : SlotRing Far}

theorem Rings.poll_nothing
    (rings : modes.Rings (modes.nearIdle script) (modes.farIdle script.framed) ring other)
    (nothing : script.next = none) :
    Alike (fun answer otherAnswer => modes.Rings (modes.nearIdle script.tail)
        (modes.farIdle (Mac.Script.framed script.tail)) answer.2.1 otherAnswer.2.1 ∧
        answer.1 = none ∧ otherAnswer.1 = none) ring.pollReceive other.pollReceive := by
  have otherNothing : script.framed.next = none := by
    rw [script.next_framed, nothing]
    rfl
  rw [← script.tail_framed]
  exact rings.keep (rings.1.1.polls_nothing modes.near nothing)
    (rings.1.2.1.polls_nothing modes.far otherNothing) ring.poll_receive_counts
    other.poll_receive_counts

theorem Rings.poll_frame
    (rings : modes.Rings (modes.nearIdle (some frame :: script))
      (modes.farIdle (some (Ethernet.withFraming frame) :: script.framed)) ring other)
    (receivable : Receivable modes.geometry frame) :
    Alike (fun answer otherAnswer => modes.Rings (modes.nearHolding script)
        (modes.farHolding script.framed) answer.2.1 otherAnswer.2.1 ∧
        (∃ received, answer.1 = some received ∧
          answer.2.1.receivedFrame received = .ok frame) ∧
        ∃ received, otherAnswer.1 = some received ∧
          otherAnswer.2.1.receivedFrame received = .ok (Ethernet.withFraming frame))
      ring.pollReceive other.pollReceive := by
  have fits := receivable.fits
  have framed := Ethernet.length_with_framing frame
  exact rings.keep (rings.1.1.polls_frame modes.near (by omega))
    (rings.1.2.1.polls_frame modes.far (by omega)) ring.poll_receive_counts
    other.poll_receive_counts

theorem Rings.release
    (rings : modes.Rings (modes.nearHolding script) (modes.farHolding script.framed) ring other) :
    Alike (modes.Rings (modes.nearIdle script) (modes.farIdle script.framed)) ring.acknowledge
      other.acknowledge := by
  have released := (rings.1.1.releases (modes.near.releases script)).mono
    fun _ kept => And.intro kept.1 (And.intro kept.2 trivial)
  have otherReleased := (rings.1.2.1.releases (modes.far.releases script.framed)).mono
    fun _ kept => And.intro kept.1 (And.intro kept.2 trivial)
  exact (rings.keep released otherReleased ring.acknowledge_counts other.acknowledge_counts).mono
    fun _ _ kept => kept.1

theorem Rings.start
    (rings : modes.Rings (modes.nearIdle script) (modes.farIdle script.framed) ring other) :
    Alike (modes.Rings (modes.nearIdle script) (modes.farIdle script.framed)) ring.start
      other.start := by
  have started := (rings.1.1.starts (modes.near.idle script).toSender
    (modes.near.clears script)).mono
    fun _ kept => And.intro kept.1 (And.intro kept.2 trivial)
  have otherStarted := (rings.1.2.1.starts (modes.far.idle script.framed).toSender
    (modes.far.clears script.framed)).mono fun _ kept => And.intro kept.1 (And.intro kept.2 trivial)
  exact (rings.keep started otherStarted ring.start_counts other.start_counts).mono
    fun _ _ kept => kept.1

end Polling

variable (modes)

def Idle (ring : SlotRing Near) (other : SlotRing Far) : Prop :=
  ∃ script : Mac.Script, (∀ frame, some frame ∈ script → Receivable modes.geometry frame) ∧
    modes.Rings (modes.nearIdle script) (modes.farIdle script.framed) ring other

def Holding (ring : SlotRing Near) (other : SlotRing Far) : Prop :=
  ∃ script : Mac.Script, (∀ frame, some frame ∈ script → Receivable modes.geometry frame) ∧
    modes.Rings (modes.nearHolding script) (modes.farHolding script.framed) ring other

variable {modes}

theorem same_frame {frame : Bytes} (receivable : Receivable modes.geometry frame) :
    SameFrame modes.nearConfig.interface modes.farConfig.interface frame
      (Ethernet.withFraming frame) where
  unframed := by
    rw [Interface.unframe_with_framing rfl receivable.header]
    rfl
  agree := by
    rintro _ ⟨⟩ kind total requested
    have few : total.toNat ≤ 1506 :=
      Nat.le_of_not_lt fun long => receivable.short ⟨kind, total, requested, long⟩
    have nearEnd : modes.nearConfig.interface.frameEnd = 1532 := rfl
    have farEnd : modes.farConfig.interface.frameEnd = 1528 := rfl
    have nearOffset : modes.nearConfig.interface.frameOffset = 0 := rfl
    have farOffset : modes.farConfig.interface.frameOffset = 8 := rfl
    have headers : Icmp.frameHeaders = 42 := rfl
    have inside : Ipv4.headerLength + Icmp.headerLength = 28 := rfl
    unfold Icmp.ReplyFits
    omega

theorem Idle.poll_alike {ring : SlotRing Near} {other : SlotRing Far}
    (idle : modes.Idle ring other) :
    Alike (PolledAlike modes.nearConfig.interface modes.farConfig.interface modes.Idle
      modes.Holding) ring.pollReceive other.pollReceive := by
  obtain ⟨script, receivable, rings⟩ := idle
  have later : ∀ frame, some frame ∈ script.tail → Receivable modes.geometry frame :=
    fun frame member => receivable frame (List.mem_of_mem_tail member)
  match script with
  | [] | none :: _ =>
      apply (rings.poll_nothing rfl).mono
      rintro ⟨_, ring, log⟩ ⟨_, other, otherLog⟩ ⟨rings, rfl, rfl⟩
      exact .nothing ⟨_, later, rings⟩
  | some frame :: rest =>
      have taken := receivable frame (List.mem_cons_self ..)
      apply (rings.poll_frame taken).mono
      rintro ⟨_, ring, log⟩ ⟨_, other, otherLog⟩
        ⟨rings, ⟨received, rfl, held⟩, otherReceived, rfl, otherHeld⟩
      exact .frame ⟨rest, later, rings⟩ held otherHeld (same_frame taken)

theorem twin_modes : TwinRings modes.nearConfig.interface modes.farConfig.interface modes.Idle
    modes.Holding where
  idle := .some_of fun script => modes.twin_rings (modes.near.idle script)
    (modes.far.idle script.framed)
  holding := .some_of fun script => modes.twin_rings (modes.near.holding script)
    (modes.far.holding script.framed)
  starts := fun _ _ ⟨script, receivable, rings⟩ =>
    rings.start.mono fun _ _ started => ⟨script, receivable, started⟩
  polls := fun _ _ idle => idle.poll_alike
  releases := fun _ _ ⟨script, receivable, rings⟩ =>
    rings.release.mono fun _ _ released => ⟨script, receivable, released⟩

/-- Two links that agree in all but who does the framing. -/
def pair (modes : TwoModes Near Far) (Space : Type) [Bus Space] :
    LinkPair Near Far (Etherbone.Endpoint Space) where
  config := modes.nearConfig
  otherConfig := modes.farConfig
  budget := rfl
  counters := True
  Akin := Eq
  Idle := modes.Idle
  Holding := modes.Holding
  rings := twin_modes
  reacts := twin_modes.holding.endpoint_same
  resets := fun _ _ same => same ▸ rfl

end TwoModes

namespace Link

/-- Everything of a link that is not about the device, after a command. -/
structure Snapshot (Consumer : Type) where
  value : Value
  cache : Arp.PeerCache
  stats : LinkStats
  txFrames : UInt32
  registration : Option (Udp.Registration Consumer)
  sent : List Bytes

/-- What was seen of a run: a snapshot for each command that came to its end, and the fault of the
one that did not. -/
structure Trace (Consumer : Type) where
  steps : List (Snapshot Consumer)
  stopped : Option Fault

variable {Hardware Consumer : Type}

def Snapshot.framed (snapshot : Snapshot Consumer) : Snapshot Consumer :=
  { snapshot with sent := snapshot.sent.map Ethernet.withFraming }

def Trace.framed (trace : Trace Consumer) : Trace Consumer :=
  { trace with steps := trace.steps.map Snapshot.framed }

def snapshot (side : Hardware → Mac.TransmitSide) (before : Link Hardware Consumer) (value : Value)
    (after : Link Hardware Consumer) : Snapshot Consumer where
  value
  cache := after.cache
  stats := after.stats
  txFrames := after.txFrames
  registration := after.registration
  sent := (side after.ring.device).sent.drop (side before.ring.device).sent.length

variable [Mac.Device Hardware] [Udp.Handler Consumer]

def trace (side : Hardware → Mac.TransmitSide) :
    List Command → Link Hardware Consumer → Trace Consumer
  | [], _ => ⟨[], none⟩
  | command :: commands, link =>
      match command.perform link with
      | .error fault => ⟨[], some fault⟩
      | .ok (value, after) =>
          let rest := trace side commands after
          { rest with steps := link.snapshot side value after :: rest.steps }

end Link

namespace TwoModes

variable {Near Far : Type} [Mac.Device Near] [Mac.Device Far] {modes : TwoModes Near Far}
  {Space : Type} [Bus Space] {near : Link Near (Etherbone.Endpoint Space)}
  {far : Link Far (Etherbone.Endpoint Space)}

abbrev Up (modes : TwoModes Near Far) (near : Link Near (Etherbone.Endpoint Space))
    (far : Link Far (Etherbone.Endpoint Space)) : Prop :=
  (modes.pair Space).Up near far

/-- What is seen after a command is the same but for the framing. -/
theorem Up.snapshot_framed (up : modes.Up near far) {after : Link Near (Etherbone.Endpoint Space)}
    {otherAfter : Link Far (Etherbone.Endpoint Space)} (later : modes.Up after otherAfter)
    (value : Link.Value) :
    far.snapshot modes.farSide value otherAfter =
      (near.snapshot modes.nearSide value after).framed := by
  obtain ⟨script, -, ⟨-, -, frames, sent, otherSent⟩, -⟩ := up.rings
  obtain ⟨laterScript, -, ⟨-, -, laterFrames, laterSent, laterOtherSent⟩, count⟩ := later.rings
  simp only [SlotRing.view] at sent otherSent laterSent laterOtherSent
  have count : after.txFrames = otherAfter.txFrames := count
  have registered := Udp.akin_registrations_eq.mp later.registration
  have stats := later.stats trivial
  simp only [Link.snapshot, Link.Snapshot.framed, later.cache, stats, registered, count, sent,
    otherSent, laterSent, laterOtherSent, List.length_append, List.length_map,
    List.drop_length_add_append, List.map_drop]

theorem Up.trace_framed (up : modes.Up near far) (commands : List Link.Command)
    (short : ∀ command ∈ commands, command.payload.length ≤ 1478) :
    far.trace modes.farSide commands = (near.trace modes.nearSide commands).framed := by
  induction commands generalizing near far with
  | nil => rfl
  | cons command commands induction =>
      obtain ⟨shortFirst, shortLater⟩ := List.forall_mem_cons.mp short
      have room : Udp.payloadRoom (modes.pair Space).config.interface = 1490 := rfl
      have otherRoom : Udp.payloadRoom (modes.pair Space).otherConfig.interface = 1478 := rfl
      have alike := up.perform_alike command (iff_of_true (by omega) (by omega))
      unfold Link.trace
      rcases alike.outcomes with ⟨fault, performed, otherPerformed⟩ |
        ⟨⟨value, after⟩, ⟨_, otherAfter⟩, performed, otherPerformed, rfl, later⟩
      · rw [performed, otherPerformed]
        rfl
      · rw [performed, otherPerformed]
        dsimp only
        rw [induction later shortLater, up.snapshot_framed later value]
        rfl

end TwoModes

section Modes

variable {Near Far Space : Type} [Mac.Device Near] [Mac.Device Far] [Bus Space]
  {geometry : Mac.SlotGeometry} {nearIdle nearHolding : Mac.Script → Near → Prop}
  {nearSide : Near → Mac.TransmitSide} {farIdle farHolding : Mac.Script → Far → Prop}
  {farSide : Far → Mac.TransmitSide}

/-- For every accepted configuration: a link that leaves the framing to its MAC and one that does it
in software, which receive the same frames and are asked the same, return the same, count the same
and have the same peer and consumer after every command. What the second one sends is what the first
one sends, framed, and if one of them stops, so does the other, at the same command. -/
theorem software_framing_wraps_hardware_framing
    (near : Mac.Scripted geometry nearIdle nearHolding nearSide)
    (far : Mac.Scripted geometry farIdle farHolding farSide) (config : LinkConfig)
    (script : Mac.Script) (receivable : ∀ frame, some frame ∈ script → Receivable geometry frame)
    {nearMac : Near} (idle : nearIdle script nearMac) {farMac : Far}
    (otherIdle : farIdle script.framed farMac) {hardware : Link Near (Etherbone.Endpoint Space)}
    (created : Link.create nearMac geometry { config with hardwareFraming := true } = .ok hardware)
    {software : Link Far (Etherbone.Endpoint Space)}
    (otherCreated : Link.create farMac geometry { config with hardwareFraming := false } =
      .ok software)
    (registration : Option (Udp.Registration (Etherbone.Endpoint Space)))
    (commands : List Link.Command)
    (short : ∀ command ∈ commands, command.payload.length ≤ 1478) :
    { software with registration }.trace farSide commands =
      ({ hardware with registration }.trace nearSide commands).framed := by
  let modes : TwoModes Near Far :=
    { config, geometry, nearIdle, nearHolding, nearSide, near, farIdle, farHolding, farSide, far,
      nearStart := (nearSide nearMac).sent, farStart := (farSide farMac).sent }
  obtain ⟨-, rfl⟩ := Link.of_create created
  obtain ⟨-, rfl⟩ := Link.of_create otherCreated
  have nothing : modes.Sent (nearSide nearMac).sent (farSide farMac).sent :=
    ⟨[], (List.append_nil _).symm, (List.append_nil _).symm⟩
  have up : modes.Up
      { config := modes.nearConfig, registration,
        ring := { device := nearMac, geometry, softwareFrameCheck := false } }
      { config := modes.farConfig, registration,
        ring := { device := farMac, geometry, softwareFrameCheck := true } } :=
    ⟨rfl, rfl, rfl, Udp.akin_registrations_eq.mpr rfl, fun _ => rfl, script, receivable,
      ⟨⟨rfl, rfl, geometry.has_tx_slot, idle⟩, ⟨rfl, rfl, geometry.has_tx_slot, otherIdle⟩,
        nothing⟩, rfl⟩
  exact up.trace_framed commands short

end Modes

theorem Simulation.Wire.receivable_ipv4 (geometry : Mac.SlotGeometry) (mac : MacAddress)
    (source destination : Ipv4Address) (protocol : Ipv4.Protocol) {body : Bytes}
    (small : Ipv4.headerLength + body.length ≤ 1506) :
    Receivable geometry (ipv4 mac source destination protocol body) := by
  have parts : ∃ rest, ipv4 mac source destination protocol body =
      Ethernet.header deviceMac mac Ethernet.typeIpv4 ++ (Ipv4.header source destination protocol
        (UInt16.ofNat (Ipv4.headerLength + body.length)) ++ rest) := by
    simp only [ipv4, Bytes.padTo, List.append_assoc]
    exact ⟨_, rfl⟩
  have length : (ipv4 mac source destination protocol body).length =
      max (Ethernet.headerLength + Ipv4.headerLength + body.length) Ethernet.minimumLength := by
    simp only [ipv4, Bytes.length_pad_to, List.length_append, Ethernet.length_header,
      Ipv4.length_header]
  have slot := geometry.holds_frame
  simp only [Ipv4.headerLength, Ethernet.headerLength, Ethernet.minimumLength,
    Ethernet.maximumLength] at small length slot
  refine ⟨?_, ?_, ?_⟩
  · simp only [Ethernet.headerLength]
    omega
  · simp only [Ethernet.preambleLength, Ethernet.frameCheckLength]
    omega
  · rintro ⟨-, total, ⟨packet, message, kind, carried, -, -, stated, -⟩, long⟩
    obtain ⟨rest, same⟩ := parts
    rw [same, Ethernet.payload_header] at carried
    cases carried
    rw [Ipv4.total_length_header] at stated
    cases stated
    rw [Bytes.word16_of_nat (by simp only [Ipv4.headerLength]; omega)] at long
    simp only [Ipv4.headerLength] at long
    omega

/-- A peer that answers at the second poll, then a request to read a word and an echo request. -/
theorem greeting_sent_in_both_modes :
    let geometry : Mac.SlotGeometry := ⟨1532, 1, 1, by decide, by decide, by decide⟩
    let config : LinkConfig := { resolveBudget := ⟨1, 2⟩ }
    let answer := Simulation.Wire.arpReply ⟨Simulation.Wire.hostMac, Simulation.Wire.hostIp⟩
      ⟨config.mac, config.ip⟩
    let request := Simulation.Wire.etherbone (Etherbone.readRequest 0 [4])
    let echo := Simulation.Wire.icmpEcho Simulation.Wire.hostMac Simulation.Wire.hostIp config.ip
      7 1 [1, 2, 3]
    let script : Mac.Script := [none, some answer, some request, some echo]
    let near : Simulation.Scheduled := ⟨.ofGeometry geometry, script⟩
    let far : Simulation.Scheduled := ⟨.ofGeometry geometry, script.framed⟩
    let endpoint : Etherbone.Endpoint Simulation.RecordingBus := { bus := {} }
    let commands : List Link.Command := [.start, .resolve Simulation.Wire.hostIp,
      .send 7642 69 [72, 105, 33], .service, .service, .service]
    ∃ hardware software : Link Simulation.Scheduled (Etherbone.Endpoint Simulation.RecordingBus),
      Link.create near geometry { config with hardwareFraming := true } = .ok hardware ∧
      Link.create far geometry { config with hardwareFraming := false } = .ok software ∧
      let seen := { hardware with registration := some ⟨1234, endpoint⟩ }.trace
        Simulation.Scheduled.side commands
      { software with registration := some ⟨1234, endpoint⟩ }.trace Simulation.Scheduled.side
        commands = seen.framed ∧
      seen.steps.map (fun step => (step.value, step.sent.length)) = [(.started, 0),
        (.resolved true, 1), (.sent true, 1), (.serviced (some .ipv4), 1),
        (.serviced (some .ipv4), 1), (.serviced none, 0)] := by
  intro geometry config answer request echo script near far endpoint commands
  have scripted := Simulation.Scheduled.scripted geometry (by decide) (by decide) (by decide)
  have receivable : ∀ frame, some frame ∈ script → Receivable geometry frame := by
    intro frame member
    simp only [script, List.mem_cons, List.not_mem_nil, or_false, reduceCtorEq, false_or,
      Option.some.injEq] at member
    rcases member with rfl | rfl | rfl
    · exact ⟨by decide, by decide, fun long => absurd long.1 (by decide)⟩
    · exact Simulation.Wire.receivable_ipv4 geometry _ _ _ _ (by decide)
    · exact Simulation.Wire.receivable_ipv4 geometry _ _ _ _ (by decide)
  have calm : (Simulation.SimulatedMac.ofGeometry geometry).Calm geometry 0 :=
    ⟨rfl, Bytes.length_zeros _, rfl, rfl, by decide, rfl⟩
  refine ⟨_, _, rfl, rfl, ?_, by decide +kernel⟩
  exact software_framing_wraps_hardware_framing scripted scripted config script receivable
    ⟨calm, rfl, Mac.Script.fits receivable⟩ ⟨calm, rfl, Mac.Script.fits_framed receivable⟩ rfl rfl
    _ commands (by decide)

end InstrumentLink
