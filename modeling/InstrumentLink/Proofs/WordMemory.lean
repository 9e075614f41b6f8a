import InstrumentLink.Client.Session
import InstrumentLink.Proofs.EndpointService
import InstrumentLink.Proofs.FrameContents
import Mathlib.Data.List.ReduceOption

/-!
A session and its device are one memory of words.

The two are joined by a channel that loses nothing and keeps the order: a datagram of the session is
handed to the endpoint at once, and the payload of every frame the endpoint sends to the session
waits there to be received. Then all accesses succeed, however long they are and wherever they are
cut into records: writes reach the bus word by word in order, and a read gives what was written last
to each address.
-/

set_option autoImplicit false

namespace InstrumentLink

open Etherbone (Endpoint requestOf)
open Simulation (RecordingBus Sink)

/-- The value written last to an address, or the initial one. -/
def latest (initial : UInt32 → UInt32) (history : List (UInt32 × UInt32)) (address : UInt32) :
    UInt32 :=
  ((history.reverse.find? fun access => access.1 = address).map Prod.snd).getD (initial address)

theorem latest_append (initial : UInt32 → UInt32) (earlier later : List (UInt32 × UInt32)) :
    latest initial (earlier ++ later) = latest (latest initial earlier) later := by
  funext address
  simp only [latest, List.reverse_append, List.find?_append]
  cases later.reverse.find? fun access => access.1 = address <;> rfl

theorem latest_concat (initial : UInt32 → UInt32) (history : List (UInt32 × UInt32))
    (access : UInt32 × UInt32) (address : UInt32) :
    latest initial (history ++ [access]) address =
      if access.1 = address then access.2 else latest initial history address := by
  rw [latest_append]
  by_cases same : access.1 = address <;> simp [latest, same]

namespace Bus

theorem write_all_append {Space : Type} [Bus Space] (earlier later : List (UInt32 × UInt32))
    (space : Space) :
    (writeAll (earlier ++ later) space).1 = (writeAll later (writeAll earlier space).1).1 := by
  induction earlier generalizing space with
  | nil => rfl
  | cons access earlier induction => simp [writeAll, induction]

theorem read_all_append {Space : Type} [Bus Space] (earlier later : List UInt32) (space : Space) :
    (readAll (earlier ++ later) space).2.1 = (readAll later (readAll earlier space).2.1).2.1 := by
  induction earlier generalizing space with
  | nil => rfl
  | cons address earlier induction => simp [readAll, induction]

theorem burst_append (base : UInt32) (earlier later : List UInt32) :
    burst base (earlier ++ later) =
      burst base earlier ++ burst (base + UInt32.ofNat (4 * earlier.length)) later := by
  have moved (index : Nat) : base + UInt32.ofNat (4 * (index + earlier.length)) =
      base + UInt32.ofNat (4 * earlier.length) + UInt32.ofNat (4 * index) := by
    rw [Nat.add_comm, Nat.mul_add, UInt32.ofNat_add, UInt32.add_assoc]
  simp only [burst, List.mapIdx_append, moved]

end Bus

namespace Simulation.RecordingBus

@[simp] theorem word_write (address value : UInt32) (bus : RecordingBus) :
    (Bus.write address value bus).1.wordAt = latest bus.wordAt [(address, value)] := by
  funext other
  by_cases same : other = address
  · subst same
    simp [Bus.write, poke, latest]
  · have swapped : ¬address = other := fun equal => same equal.symm
    simp [Bus.write, poke, latest, same, swapped]

@[simp] theorem writes_write (address value : UInt32) (bus : RecordingBus) :
    (Bus.write address value bus).1.writes = bus.writes ++ [(address, value)] := by
  simp [Bus.write, RecordingBus.writes, poke]

@[simp] theorem writes_read (address : UInt32) (bus : RecordingBus) :
    (Bus.read address bus).2.1.writes = bus.writes := by
  simp [Bus.read, RecordingBus.writes]

theorem word_write_all (writes : List (UInt32 × UInt32)) (bus : RecordingBus) :
    (Bus.writeAll writes bus).1.wordAt = latest bus.wordAt writes := by
  induction writes generalizing bus with
  | nil => rfl
  | cons access writes induction =>
      rw [← List.singleton_append, latest_append]
      have rest := induction (Bus.write access.1 access.2 bus).1
      rw [word_write] at rest
      exact rest

theorem writes_write_all (writes : List (UInt32 × UInt32)) (bus : RecordingBus) :
    (Bus.writeAll writes bus).1.writes = bus.writes ++ writes := by
  induction writes generalizing bus with
  | nil => exact (List.append_nil _).symm
  | cons access writes induction =>
      have rest := induction (Bus.write access.1 access.2 bus).1
      rw [writes_write, List.append_assoc, List.singleton_append] at rest
      exact rest

theorem read_all_words (addresses : List UInt32) (bus : RecordingBus) :
    (Bus.readAll addresses bus).1 = addresses.map bus.wordAt ∧
      (Bus.readAll addresses bus).2.1.wordAt = bus.wordAt ∧
      (Bus.readAll addresses bus).2.1.writes = bus.writes := by
  induction addresses generalizing bus with
  | nil => exact ⟨rfl, rfl, rfl⟩
  | cons address addresses induction =>
      obtain ⟨values, words, writes⟩ := induction (Bus.read address bus).2.1
      refine ⟨congrArg (bus.wordAt address :: ·) values, words, ?_⟩
      exact writes.trans (writes_read address bus)

end Simulation.RecordingBus

namespace Etherbone

variable {Space Port : Type} [Bus Space] [TransmitPort Port]

namespace Endpoint

theorem execute_all_none (binding : Udp.Binding) (datagram : Udp.Datagram) (found : List Found)
    (nothing : packetsOf found = []) (endpoint : Endpoint Space) (port : Port) :
    Returns ((executeAll datagram found endpoint).observe binding port) fun seen =>
      seen.result = endpoint ∧ seen.port = port ∧ seen.attempts = [] := by
  induction found with
  | nil => exact Returns.ok ⟨rfl, rfl, rfl⟩
  | cons first found induction =>
      cases first with
      | packet octets => cases nothing
      | oversized length => exact (induction nothing).bind fun seen same => Returns.ok same

theorem execute_all_one {binding : Udp.Binding} {datagram : Udp.Datagram} {packet : Bytes}
    (found : List Found) (one : packetsOf found = [packet]) {endpoint : Endpoint Space}
    {port : Port} {first : Udp.Observation (Endpoint Space) Port}
    (observed : (endpoint.execute datagram packet).observe binding port = .ok first) :
    Returns ((executeAll datagram found endpoint).observe binding port) fun seen =>
      seen.result = first.result ∧ seen.port = first.port ∧ seen.attempts = first.attempts := by
  induction found with
  | nil => cases one
  | cons find found induction =>
      cases find with
      | oversized length => exact (induction one).bind fun seen same => Returns.ok same
      | packet octets =>
          obtain ⟨rfl, nothing⟩ := List.cons.inj one
          apply Udp.Reaction.observe_and_then_returns binding ⟨first, observed, Eq.refl first⟩
          rintro _ rfl
          refine (execute_all_none binding datagram found nothing first.result first.port).mono ?_
          rintro rest ⟨result, port, attempts⟩
          exact ⟨result, port, by simp [Udp.Observation.after, attempts]⟩

variable {Sound : Port → Prop} {view : Port → PortView} {finish : Bytes → Bytes}

/-- A datagram that is one packet is carried out, and a prompt port sends the answer. -/
theorem on_datagram_one (faithful : FaithfulPort Sound view finish) {binding : Udp.Binding}
    (prompt : PromptPort Sound binding.interface) (placed : binding.interface.Placed)
    (datagram : Udp.Datagram) (resolves : binding.cache.resolves datagram.sourceIp)
    (framed : Framed datagram.payload) (words : HasWords datagram.payload)
    (widths : HasBusWidths datagram.payload) (endpoint : Endpoint Space)
    (idle : endpoint.reassembler.buffered = []) (port : Port) (sound : Sound port) :
    Returns ((endpoint.onDatagram datagram).observe binding port) fun seen =>
      Sound seen.port ∧ seen.result.reassembler.buffered = [] ∧
        seen.result.bus = accessed (requestOf datagram.payload) endpoint.bus ∧
        seen.result.port = endpoint.port ∧
        seen.attempts = (requestOf datagram.payload).attempts datagram endpoint.port
          (valuesRead (requestOf datagram.payload) endpoint.bus) true := by
  -- Nothing is buffered and the packet is whole, so it is handed out at once and nothing is left.
  have empty : parse [] = ([], []) := by rw [parse]
  have read := parse_of_packet_before datagram.payload [] framed words
  rw [List.append_nil, empty] at read
  have fits := framed.fits
  obtain ⟨found, held⟩ := Reassembler.accept_of_fits datagram.payload endpoint.reassembler
    (by rw [idle]; simpa using fits)
  rw [idle, List.nil_append, read] at found held
  unfold onDatagram
  apply Udp.Reaction.observe_report_all
  · exact fun seen before holds => holds
  · obtain ⟨first, observed, sound, served⟩ := execute_observed faithful placed datagram framed
      words { endpoint with reassembler := _ } port sound
    rw [if_pos widths] at served
    obtain ⟨sent, result, tried, sends⟩ := served
    rw [sends prompt resolves] at result tried
    refine (execute_all_one _ found observed).mono ?_
    rintro seen ⟨same, port, attempts⟩
    rw [same, port, attempts, result, tried]
    exact ⟨sound, congrArg Reassembler.buffered held, rfl, rfl, rfl⟩

end Endpoint

end Etherbone

namespace Client

/-- An endpoint on a channel to one session that loses nothing and keeps the order. -/
structure Channel where
  /-- What the socket of the endpoint is bound to. -/
  binding : Udp.Binding
  session : Udp.Socket
  /-- The endpoint and its slot, unless they stopped. -/
  device : Except Fault (Endpoint RecordingBus × Sink)
  queue : List Bytes := []

namespace Channel

def arrival (channel : Channel) (frame : Bytes) : Except Fault (Option Bytes) := do
  let here : Interface := ⟨channel.binding.cache.mac, channel.session.ip, 0⟩
  let packet ← Ethernet.payload (frame.drop channel.binding.interface.frameOffset)
  let datagram ← Ipv4.datagramFor here channel.session.port packet
  return datagram.map Udp.Datagram.payload

def handle (datagram : Bytes) (channel : Channel) :
    Except Fault ((Endpoint RecordingBus × Sink) × List Bytes) := do
  let (endpoint, sink) ← channel.device
  let received : Udp.Datagram :=
    ⟨channel.session.ip, channel.session.port, endpoint.port, datagram⟩
  let (endpoint, sink, _) ← (Udp.Handler.onDatagram received endpoint).run channel.binding sink
  let (frames, sink) := sink.collect
  return ((endpoint, sink), (← frames.mapM channel.arrival).reduceOption)

/-- Nothing goes back once the endpoint has stopped. -/
def deliver (datagram : Bytes) (channel : Channel) : Channel :=
  match channel.handle datagram with
  | .ok (device, payloads) =>
      { channel with device := .ok device, queue := channel.queue ++ payloads }
  | .error fault => { channel with device := .error fault }

instance : Network Channel where
  send := deliver
  arriving := queue
  received count channel := { channel with queue := channel.queue.drop count }

/-- A channel on which nothing is under way, to an endpoint that knows where the session is. -/
structure Settled (bus : RecordingBus) (channel : Channel) : Prop where
  placed : channel.binding.interface.Placed
  resolves : channel.binding.cache.resolves channel.session.ip
  quiet : channel.queue = []
  device : ∃ endpoint sink, channel.device = .ok (endpoint, sink) ∧ endpoint.bus = bus ∧
    endpoint.reassembler.buffered = [] ∧ Ethernet.maximumLength ≤ sink.slot.length ∧ sink.sent = []

theorem Settled.arrival_of_frame {bus : RecordingBus} {channel : Channel}
    (settled : channel.Settled bus) (sourcePort : UInt16) {payload : Bytes}
    (fits : payload.length ≤ Udp.payloadRoom channel.binding.interface) :
    channel.arrival (channel.binding.interface.laid (Udp.frame channel.binding.interface
      channel.binding.cache.station sourcePort channel.session.port payload)) =
      .ok (some payload) := by
  have small : Ipv4.headerLength + Udp.headerLength + payload.length < 65536 := by
    have bound := channel.binding.interface.frame_end_le
    simp only [Udp.payloadRoom, Ethernet.maximumLength, Ipv4.headerLength, Udp.headerLength]
      at fits bound ⊢
    omega
  have here : channel.session.ip = channel.binding.cache.station.ip := by
    have resolves := settled.resolves
    simp only [Arp.PeerCache.resolves, decide_eq_true_eq] at resolves
    exact resolves.1.symm
  have datagram := Ipv4.datagram_for_packet channel.binding.interface
    ⟨channel.binding.cache.mac, channel.session.ip, 0⟩ channel.binding.cache.station sourcePort
    channel.session.port payload
  simp only [arrival, settled.placed.drop_laid, Bytes.padTo, Udp.frame_append,
    Ethernet.payload_header, datagram _ here small, bind, Except.bind, pure, Except.pure,
    Option.map_some]

theorem Settled.arrivals {bus : RecordingBus} {channel : Channel} (settled : channel.Settled bus)
    {packet : Bytes} (sourcePort : UInt16) {datagram : Udp.Datagram}
    (session : datagram.sourcePort = channel.session.port) {values : List UInt32}
    (few : values.length ≤ Etherbone.maximumWords) :
    let request := requestOf packet
    let reply := Etherbone.readReply request.byteEnable request.returnBase values
    ((request.attempts datagram sourcePort values true).flatMap
        (Udp.Attempt.frames channel.binding id)).mapM channel.arrival =
      .ok (if request.reads = [] then [] else [some reply]) := by
  intro request reply
  by_cases reads : request.reads = []
  · rw [Etherbone.Request.attempts, if_pos reads, if_pos reads]
    rfl
  · have arrival := settled.arrival_of_frame sourcePort
      (Endpoint.read_reply_fits settled.placed request.byteEnable request.returnBase few)
    rw [Etherbone.Request.attempts, if_neg reads, if_neg reads, session]
    change List.mapM channel.arrival [channel.binding.interface.laid _] = _
    rw [List.mapM_cons, arrival]
    rfl

theorem Settled.deliver_packet {bus : RecordingBus} {channel : Channel}
    (settled : channel.Settled bus) {packet : Bytes} (framed : Etherbone.Framed packet)
    (words : Etherbone.HasWords packet) (widths : Etherbone.HasBusWidths packet) :
    let request := requestOf packet
    let reply := Etherbone.readReply request.byteEnable request.returnBase
      (Endpoint.valuesRead request bus)
    ∃ after : Channel, after.Settled (Endpoint.accessed request bus) ∧
      deliver packet channel =
        { after with queue := if request.reads = [] then [] else [reply] } := by
  intro request reply
  obtain ⟨endpoint, sink, device, rfl, idle, large, unsent⟩ := settled.device
  let received : Udp.Datagram :=
    ⟨channel.session.ip, channel.session.port, endpoint.port, packet⟩
  obtain ⟨seen, observed, sound, held, busAfter, -, tried⟩ := Endpoint.on_datagram_one
    Sink.faithful_port (Sink.prompt_port _) settled.placed received settled.resolves framed words
    widths endpoint idle sink large
  have ran : (Udp.Handler.onDatagram received endpoint).run channel.binding sink =
      .ok (seen.result, seen.port, seen.log) := by
    rw [Udp.Reaction.run_of_observe]
    exact congrArg (· >>= fun seen => pure (seen.result, seen.port, seen.log)) observed
  have frames := ((Udp.Reaction.observe_frames Sink.faithful_port channel.binding settled.placed _
    sink large).of_ok observed).2
  dsimp only at frames
  rw [unsent, tried, List.nil_append] at frames
  have few : (Endpoint.valuesRead request endpoint.bus).length ≤ Etherbone.maximumWords := by
    rw [Endpoint.valuesRead, Endpoint.length_read_all]
    exact Etherbone.length_reads_le packet
  have arrived : seen.port.sent.mapM channel.arrival =
      .ok (if request.reads = [] then [] else [some reply]) := by
    rw [frames]
    exact settled.arrivals endpoint.port rfl few
  have handled : channel.handle packet = .ok ((seen.result, { seen.port with sent := [] }),
      if request.reads = [] then [] else [reply]) := by
    simp only [handle, device, bind, Except.bind, pure, Except.pure, ran, received, Sink.collect,
      arrived]
    by_cases reads : request.reads = [] <;> simp [reads]
  refine ⟨{ channel with device := .ok (seen.result, { seen.port with sent := [] }) }, ?_, ?_⟩
  · exact ⟨settled.placed, settled.resolves, settled.quiet, _, _, rfl, busAfter, held, sound, rfl⟩
  · simp [deliver, handled, settled.quiet]

end Channel

def Dialogue.Comes {First Net : Type} [Network Net] (dialogue : Dialogue First) (net : Net)
    (result : First) (after : Net) : Prop :=
  (dialogue.run net).1 = result ∧ (dialogue.run net).2.1 = after

theorem Dialogue.Comes.and_then {First Second Net : Type} [Network Net] {dialogue : Dialogue First}
    {continuation : First → Dialogue Second} {net between after : Net} {first : First}
    {second : Second} (earlier : dialogue.Comes net first between)
    (later : (continuation first).Comes between second after) :
    (dialogue >>= continuation).Comes net second after := by
  change (dialogue.andThen continuation).Comes net second after
  induction dialogue generalizing net with
  | done result =>
      obtain ⟨rfl, rfl⟩ := earlier
      exact later
  | report event next induction => exact induction earlier
  | send datagram next induction => exact induction earlier
  | await examine next induction => exact induction _ earlier

theorem Session.datagram_one_block {packet : Bytes} {count : Nat} (some : count ≠ 0)
    (few : count ≤ Etherbone.maximumWords)
    (length : packet.length = Etherbone.packetLength count 0) :
    datagram (fun buffer => Etherbone.place buffer count packet) = .ok packet := by
  have room : ¬(Bytes.zeros datagramCapacity).length < Etherbone.packetLength count 0 := by
    simp only [Bytes.length_zeros, datagramCapacity, Etherbone.packetLength, Etherbone.blockLength,
      Etherbone.headerLength, Etherbone.maximumWords, if_neg some, if_true] at few ⊢
    omega
  have sendable : ¬(count = 0 ∨ Etherbone.maximumWords < count) := by omega
  simp only [datagram, Etherbone.place, if_neg sendable, if_neg room]
  rw [← length, List.take_left]

theorem Session.datagram_write (base : UInt32) {values : List UInt32} (some : values.length ≠ 0)
    (few : values.length ≤ Etherbone.maximumWords) :
    datagram (fun buffer => Etherbone.fillWriteRequest buffer base values) =
      .ok (Etherbone.writeRequest base values) :=
  datagram_one_block some few
    (Etherbone.framed_one_block .request {} 0x0f _ _ base values some few (.inl ⟨rfl, rfl⟩)).2.2

theorem Session.datagram_read (tag : UInt32) {addresses : List UInt32}
    (some : addresses.length ≠ 0) (few : addresses.length ≤ Etherbone.maximumWords) :
    datagram (fun buffer => Etherbone.fillReadRequest buffer tag addresses) =
      .ok (Etherbone.readRequest tag addresses) :=
  datagram_one_block some few
    (Etherbone.framed_one_block .request {} 0x0f _ _ tag addresses some few (.inr ⟨rfl, rfl⟩)).2.2

theorem examine_reply (byteEnable : UInt8) (tag : UInt32) {values : List UInt32}
    (some : values ≠ []) (few : values.length ≤ Etherbone.maximumWords) :
    examine tag values.length (Etherbone.readReply byteEnable tag values) =
      .settled (.ok values) := by
  have counted : values.length ≠ 0 := fun none => some (List.length_eq_zero_iff.mp none)
  obtain ⟨framed, -, -⟩ : Etherbone.Framed (Etherbone.readReply byteEnable tag values) ∧ _ ∧ _ :=
    Etherbone.framed_one_block .reply {} byteEnable _ _ tag values counted few (.inl ⟨rfl, rfl⟩)
  simp [examine, framed.check, Reply.of_read_reply byteEnable tag some few]

theorem take_reply (byteEnable : UInt8) (tag : UInt32) {values : List UInt32}
    (some : values.length ≠ 0) (few : values.length ≤ Etherbone.maximumWords) :
    (Etherbone.readReply byteEnable tag values).take datagramCapacity =
      Etherbone.readReply byteEnable tag values := by
  have length : (Etherbone.readReply byteEnable tag values).length = _ :=
    (Etherbone.framed_one_block .reply {} byteEnable _ _ tag values some few
      (.inl ⟨rfl, rfl⟩)).2.2
  apply List.take_of_length_le
  rw [length]
  simp only [datagramCapacity, Etherbone.packetLength, Etherbone.blockLength,
    Etherbone.headerLength, Etherbone.maximumWords, if_neg some, if_true] at few ⊢
  omega

theorem record_some {Word : Type} {words : List Word} (some : words.length ≠ 0) :
    (words.take maximumWords).length ≠ 0 := by
  simp only [List.length_take, maximumWords]
  omega

theorem record_few {Word : Type} (words : List Word) :
    (words.take maximumWords).length ≤ Etherbone.maximumWords :=
  List.length_take_le _ _

namespace Session

variable {bus : RecordingBus} {channel : Channel}

theorem write_record_settled (settled : channel.Settled bus) (base : UInt32) {values : List UInt32}
    (some : values.length ≠ 0) (few : values.length ≤ Etherbone.maximumWords) :
    (Network.send (Etherbone.writeRequest base values) channel).Settled
      (Bus.writeAll (Bus.burst base values) bus).1 := by
  obtain ⟨framed, words, -⟩ : Etherbone.Framed (Etherbone.writeRequest base values) ∧
      Etherbone.HasWords (Etherbone.writeRequest base values) ∧ _ :=
    Etherbone.framed_one_block .request {} 0x0f _ _ base values some few (.inl ⟨rfl, rfl⟩)
  obtain ⟨after, settled, delivered⟩ := settled.deliver_packet framed words
    (Etherbone.one_block_has_bus_widths _ _ _ _ _ _)
  rw [Etherbone.request_of_write few] at settled delivered
  change (Channel.deliver _ channel).Settled _
  rw [delivered]
  exact ⟨settled.placed, settled.resolves, rfl, settled.device⟩

theorem burst_records (base : UInt32) (index : Nat) (values : List UInt32) :
    Bus.burst (base + UInt32.ofNat (index * maximumWords * 4)) values =
      Bus.burst (base + UInt32.ofNat (index * maximumWords * 4)) (values.take maximumWords) ++
        Bus.burst (base + UInt32.ofNat ((index + 1) * maximumWords * 4))
          (values.drop maximumWords) := by
  have whole := Bus.burst_append (base + UInt32.ofNat (index * maximumWords * 4))
    (values.take maximumWords) (values.drop maximumWords)
  rw [List.take_append_drop] at whole
  by_cases short : values.length ≤ maximumWords
  · rw [List.drop_eq_nil_of_le short] at whole ⊢
    exact whole
  · have next : (index + 1) * maximumWords * 4 = index * maximumWords * 4 + 4 * maximumWords := by
      rw [Nat.add_mul, Nat.one_mul, Nat.add_mul, Nat.mul_comm maximumWords 4]
    rw [List.length_take, Nat.min_eq_left (by omega), UInt32.add_assoc, ← UInt32.ofNat_add,
      ← next] at whole
    exact whole

theorem write_records_settled (settled : channel.Settled bus) (base : UInt32) (index : Nat)
    (values : List UInt32) :
    ∃ after, (writeRecords base index (records values)).Comes channel (.ok ()) after ∧
      after.Settled (Bus.writeAll (Bus.burst
        (base + UInt32.ofNat (index * maximumWords * 4)) values) bus).1 := by
  -- The induction cuts the burst as the session does; the base of the rest is counted in whole
  -- records, which is where the first record ended unless nothing is left.
  induction values using records.induct generalizing channel bus index with
  | case1 values none =>
      rw [records, if_pos none, List.length_eq_zero_iff.mp none]
      exact ⟨channel, ⟨rfl, rfl⟩, settled⟩
  | case2 values some induction =>
      have record := datagram_write (base + UInt32.ofNat (index * maximumWords * 4))
        (record_some some) (record_few values)
      have first := write_record_settled settled
        (base + UInt32.ofNat (index * maximumWords * 4)) (record_some some) (record_few values)
      obtain ⟨after, rest, settled⟩ := induction first (index + 1)
      rw [← Bus.write_all_append, ← burst_records] at settled
      rw [records, if_neg some]
      simp only [writeRecords, record]
      exact ⟨after, rest, settled⟩

theorem settle_reply (tag : UInt32) (values : List UInt32) (some : values.length ≠ 0)
    (few : values.length ≤ Etherbone.maximumWords) (after : List Bytes) :
    Dialogue.settle (examine tag values.length) (Etherbone.readReply 0x0f tag values :: after) =
      (.some (.ok values), 1, []) := by
  have whole := take_reply 0x0f tag some few
  have words : values ≠ [] := fun none => some (List.length_eq_zero_iff.mpr none)
  simp only [Dialogue.settle, whole, examine_reply 0x0f tag words few]

theorem read_record_settled (settled : channel.Settled bus) (session : Session)
    {addresses : List UInt32} (some : addresses.length ≠ 0)
    (few : addresses.length ≤ Etherbone.maximumWords) :
    ∃ after, (session.readRecord addresses).Comes channel
        (.ok (addresses.map bus.wordAt), { session with nextTag := session.nextTag + 4 }) after ∧
      after.Settled (Bus.readAll addresses bus).2.1 := by
  have words : addresses ≠ [] := fun none => some (List.length_eq_zero_iff.mpr none)
  obtain ⟨framed, hasWords, -⟩ :
      Etherbone.Framed (Etherbone.readRequest session.nextTag addresses) ∧
      Etherbone.HasWords (Etherbone.readRequest session.nextTag addresses) ∧ _ :=
    Etherbone.framed_one_block .request {} 0x0f _ _ session.nextTag addresses some few
      (.inr ⟨rfl, rfl⟩)
  obtain ⟨after, settled, delivered⟩ := settled.deliver_packet framed hasWords
    (Etherbone.one_block_has_bus_widths _ _ _ _ _ _)
  have values : Endpoint.valuesRead ⟨0x0f, [], addresses, session.nextTag⟩ bus =
      addresses.map bus.wordAt := (RecordingBus.read_all_words addresses bus).1
  rw [Etherbone.request_of_read words few] at settled delivered
  rw [values] at delivered
  simp only [if_neg words] at delivered
  have answer := settle_reply session.nextTag (addresses.map bus.wordAt) (by simpa using some)
    (by simpa using few) []
  rw [List.length_map] at answer
  have sent : Network.send (Etherbone.readRequest session.nextTag addresses) channel = _ :=
    delivered
  have waiting (net : Channel) : Network.arriving net = net.queue := rfl
  simp only [readRecord, datagram_read _ some few, Dialogue.Comes, Dialogue.run, sent, waiting,
    answer]
  exact ⟨_, ⟨trivial, rfl⟩, settled.placed, settled.resolves, rfl, settled.device⟩

theorem read_records_settled (settled : channel.Settled bus) (session : Session)
    (addresses : List UInt32) :
    ∃ last after, (session.readRecords (records addresses)).Comes channel
        (.ok (addresses.map bus.wordAt), last) after ∧
      after.Settled (Bus.readAll addresses bus).2.1 := by
  induction addresses using records.induct generalizing channel bus session with
  | case1 addresses none =>
      rw [records, if_pos none, List.length_eq_zero_iff.mp none]
      exact ⟨session, channel, ⟨rfl, rfl⟩, settled⟩
  | case2 addresses some induction =>
      obtain ⟨between, ran, settled⟩ := read_record_settled settled session
        (record_some some) (record_few addresses)
      obtain ⟨last, after, rest, settled⟩ := induction settled
        { session with nextTag := session.nextTag + 4 }
      -- Reading leaves the words alone, so the rest reads the same memory.
      obtain ⟨-, words, -⟩ := RecordingBus.read_all_words (addresses.take maximumWords) bus
      rw [words] at rest
      rw [← Bus.read_all_append, List.take_append_drop] at settled
      have joined : addresses.map bus.wordAt = (addresses.take maximumWords).map bus.wordAt ++
          (addresses.drop maximumWords).map bus.wordAt := by
        rw [← List.map_append, List.take_append_drop]
      rw [records, if_neg some, joined]
      refine ⟨last, after, ?_, settled⟩
      exact ran.and_then (rest.and_then ⟨rfl, rfl⟩)

end Session

inductive Access where
  | write (base : UInt32) (values : List UInt32)
  | read (addresses : List UInt32)
  deriving DecidableEq, Repr

inductive Answer where
  | written (outcome : Except Error Unit)
  | read (outcome : Except Error (List UInt32))

namespace Access

def perform (session : Session) (channel : Channel) : Access → Answer × Session × Channel
  | .write base values =>
      let (outcome, channel, _) := (Session.writeBurst base values).run channel
      (.written outcome, session, channel)
  | .read addresses =>
      let ((outcome, session), channel, _) := (session.readMany addresses).run channel
      (.read outcome, session, channel)

def performAll : List Access → Session → Channel → List Answer × Session × Channel
  | [], session, channel => ([], session, channel)
  | access :: accesses, session, channel =>
      let (answer, session, channel) := access.perform session channel
      let (answers, session, channel) := performAll accesses session channel
      (answer :: answers, session, channel)

def writes : Access → List (UInt32 × UInt32)
  | .write base values => Bus.burst base values
  | .read _ => []

/-- The answer of a memory of words, after a history of writes. -/
def answer (initial : UInt32 → UInt32) (history : List (UInt32 × UInt32)) : Access → Answer
  | .write _ _ => .written (.ok ())
  | .read addresses => .read (.ok (addresses.map (latest initial history)))

def answers (initial : UInt32 → UInt32) : List (UInt32 × UInt32) → List Access → List Answer
  | _, [] => []
  | history, access :: accesses =>
      access.answer initial history :: answers initial (history ++ access.writes) accesses

/-- An access comes to the answer of a memory, and the bus to the words it writes. -/
theorem perform_settled {bus : RecordingBus} {channel : Channel} (settled : channel.Settled bus)
    (session : Session) (access : Access) :
    ∃ last after busAfter, access.perform session channel =
        (access.answer bus.wordAt [], last, after) ∧ after.Settled busAfter ∧
      busAfter.writes = bus.writes ++ access.writes ∧
      busAfter.wordAt = latest bus.wordAt access.writes := by
  cases access with
  | write base values =>
      obtain ⟨after, ⟨outcome, left⟩, settledAfter⟩ :=
        Session.write_records_settled settled base 0 values
      have start : base + UInt32.ofNat (0 * maximumWords * 4) = base := by simp
      rw [start] at settledAfter
      refine ⟨session, after, _, ?_, settledAfter, RecordingBus.writes_write_all _ bus,
        RecordingBus.word_write_all _ bus⟩
      simp only [perform, Session.writeBurst, outcome, left, answer]
  | read addresses =>
      obtain ⟨last, after, ⟨outcome, left⟩, settledAfter⟩ :=
        Session.read_records_settled settled session addresses
      obtain ⟨-, words, unwritten⟩ := RecordingBus.read_all_words addresses bus
      refine ⟨last, after, _, ?_, settledAfter, ?_, words⟩
      · simp only [perform, Session.readMany, outcome, left, answer]
        rfl
      · rw [unwritten]
        exact (List.append_nil _).symm

theorem answer_of_history (initial : UInt32 → UInt32) (earlier later : List (UInt32 × UInt32))
    (access : Access) :
    access.answer (latest initial earlier) later = access.answer initial (earlier ++ later) := by
  cases access with
  | write base values => rfl
  | read addresses => simp only [answer, latest_append]

theorem answers_of_history (initial : UInt32 → UInt32) (earlier later : List (UInt32 × UInt32))
    (accesses : List Access) :
    answers (latest initial earlier) later accesses =
      answers initial (earlier ++ later) accesses := by
  induction accesses generalizing later with
  | nil => rfl
  | cons access accesses induction =>
      simp only [answers, answer_of_history, induction, List.append_assoc]

end Access

/-- A session and the endpoint of its device, over a lossless channel in order, behave like one
memory of words: all accesses of any length succeed, a burst is written to consecutive words in
order, and each address read gives what was written to it last, or its initial value. -/
theorem session_and_endpoint_are_one_memory {bus : RecordingBus} {channel : Channel}
    (settled : channel.Settled bus) (session : Session) (accesses : List Access) :
    ∃ (last : Session) (after : Channel) (busAfter : RecordingBus),
      Access.performAll accesses session channel =
        (Access.answers bus.wordAt [] accesses, last, after) ∧
      after.Settled busAfter ∧
      busAfter.writes = bus.writes ++ accesses.flatMap Access.writes ∧
      busAfter.wordAt = latest bus.wordAt (accesses.flatMap Access.writes) := by
  induction accesses generalizing bus channel session with
  | nil => exact ⟨session, channel, bus, rfl, settled, (List.append_nil _).symm, rfl⟩
  | cons access accesses induction =>
      obtain ⟨between, middle, busBetween, first, settled, written, words⟩ :=
        Access.perform_settled settled session access
      obtain ⟨last, after, busAfter, rest, settled, writtenRest, wordsRest⟩ :=
        induction settled between
      refine ⟨last, after, busAfter, ?_, settled, ?_, ?_⟩
      · rw [words, Access.answers_of_history] at rest
        simp only [Access.performAll, first, rest, Access.answers, List.append_nil,
          List.nil_append]
      · rw [writtenRest, written, List.append_assoc, List.flatMap_cons]
      · rw [wordsRest, words, ← latest_append, List.flatMap_cons]

/-- A burst over the end of the address space, read back with an address nobody wrote to. -/
theorem burst_over_the_end_read_back :
    let binding : Udp.Binding := ⟨LinkConfig.interface {}, ⟨⟨10, 0, 11, 3⟩, .broadcast⟩⟩
    let bus : RecordingBus := { wordAt := fun address => if address = 8 then 7 else 0 }
    let channel : Channel :=
      { binding, session := ⟨⟨10, 0, 11, 3⟩, 40000⟩, device := .ok ({ bus }, {}) }
    let accesses : List Access :=
      [.write 0xfffffffc [1, 2], .read [0, 8, 0xfffffffc], .write 0 [3], .read [0]]
    channel.Settled bus ∧ (Access.performAll accesses {} channel).1 =
      [.written (.ok ()), .read (.ok [2, 7, 1]), .written (.ok ()), .read (.ok [3])] := by
  intro binding bus channel accesses
  have settled : channel.Settled bus :=
    ⟨.inl rfl, by decide, rfl, _, _, rfl, rfl, rfl, Etherbone.sink_holds_frame, rfl⟩
  obtain ⟨last, after, busAfter, performed, -⟩ :=
    session_and_endpoint_are_one_memory settled {} accesses
  refine ⟨settled, ?_⟩
  rw [performed]
  rfl

end Client

end InstrumentLink
